import Mathlib.Data.List.Basic

set_option autoImplicit false

/-!
# `beehive/pkg/core/model`: messages

The header and route of a message as the source declares them. The content is
an `interface{}`; the modules modelled here only read it through
`meta.Accessor`, so it is the object's UID and deletion timestamp, or `none`
when the content is not an object. The creation timestamp is read by none of
them and is left out.
-/

namespace KubeEdge.Beehive

structure MessageHeader where
  id : String
  parentID : String
  resourceVersion : String
  sync : Bool
  deriving DecidableEq, Repr

structure MessageRoute where
  source : String
  group : String
  operation : String
  resource : String
  deriving DecidableEq, Repr

structure ObjectMeta where
  uid : String
  deletionTimestamp : Option Int64
  deriving DecidableEq, Repr

structure Message where
  header : MessageHeader
  router : MessageRoute
  content : Option ObjectMeta
  deriving DecidableEq, Repr

def DeleteOperation : String := "delete"
def UpdateOperation : String := "update"
def QueryOperation : String := "query"
def ResponseOperation : String := "response"
def ResourceTypeNode : String := "node"

/-- `NewRespByMessage`: a response to `message`, under a new ID, whose parent
    is the message. -/
def NewRespByMessage (id : String) (message : Message) (content : Option ObjectMeta) : Message :=
  ⟨⟨id, message.header.id, "", false⟩,
    ⟨message.router.source, message.router.group, ResponseOperation, message.router.resource⟩, content⟩

end KubeEdge.Beehive
