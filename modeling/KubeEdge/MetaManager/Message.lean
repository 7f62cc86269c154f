import KubeEdge.Beehive.Message

set_option autoImplicit false

/-!
# The meta manager's messages

The content of a received message is a `[]byte`, or another value that the
handlers see through its `json.Marshal` and, when it is a string, the string.
The UUIDs `NewMessage` and `UpdateID` draw are left empty.
-/

namespace KubeEdge.MetaManager

def ResponseErrorOperation : String := "error"

/-- A message's content: a `[]byte`, or another value, seen through its
    `json.Marshal` and, when it is a string, the string. -/
inductive Content where
  | bytes (b : String)
  | value (marshalled : Except String String) (str : Option String)
  deriving DecidableEq, Repr

/-- The content as the handlers store it: the bytes, or the value's JSON. -/
def Content.marshal : Content → Except String String
  | .bytes b => .ok b
  | .value marshalled _ => marshalled

/-- `message.GetContent().(string)`, `""` when the content is no string. -/
def Content.string : Content → String
  | .bytes _ => ""
  | .value _ str => str.getD ""

structure Message where
  header : Beehive.MessageHeader
  router : Beehive.MessageRoute
  content : Content
  deriving DecidableEq, Repr

inductive Body where
  | content (c : Content)
  | text (s : String)
  | metas (values : List String)
  | statuses (values : List String)
  | nil
  deriving DecidableEq, Repr

structure OutMessage where
  header : Beehive.MessageHeader
  router : Beehive.MessageRoute
  body : Body
  deriving DecidableEq, Repr

def Message.out (m : Message) : OutMessage :=
  ⟨m.header, m.router, .content m.content⟩

def NewMessage (parentID : String) : Beehive.MessageHeader :=
  ⟨"", parentID, "", false⟩

def UpdateID (m : Message) : Message :=
  { m with header := { m.header with id := "" } }

def OutMessage.SetRoute (m : OutMessage) (source group : String) : OutMessage :=
  { m with router := { m.router with source := source, group := group } }

def NewRespByMessage (message : Message) (body : Body) : OutMessage :=
  ⟨NewMessage message.header.id,
    ⟨message.router.source, message.router.group, Beehive.ResponseOperation, message.router.resource⟩, body⟩

def NewErrorMessage (message : Message) (errContent : String) : OutMessage :=
  ⟨NewMessage message.header.parentID, ⟨"", "", ResponseErrorOperation, message.router.resource⟩, .text errContent⟩

end KubeEdge.MetaManager
