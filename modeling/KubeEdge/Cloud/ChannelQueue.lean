import Mathlib.Data.List.AList
import KubeEdge.Go.Strconv
import KubeEdge.Cloud.Resource

set_option autoImplicit false

/-!
# The cloud hub's message queue for one node

`addMessageToQueue` keeps, per key `<type>/<namespace>/<name>`, the message to
send next and queues its key; `MessageWriteLoop` takes a key, writes the stored
message to the edge, resends it until the edge acknowledges it or it gives up,
and on an acknowledgement `saveSuccessPoint` records the message's resource
version in the object's `ObjectSync`, or, for a delete, drops the key from the
store and deletes the `ObjectSync`.

Each step is one `QueueAction`, and a schedule is any list of them: the
dispatcher and the write loop run concurrently, and the rate limiter may put a
failed key back at any time. The `ObjectSync` lister is read as the API state,
and the API calls on `ObjectSync` succeed.
-/

namespace KubeEdge.Cloud

open KubeEdge.Go KubeEdge.Beehive

/-- `CompareResourceVersion`: `1`, `0` or `-1`; `none` where it panics on a
    version that is not a decimal `uint64`. -/
def CompareResourceVersion (rva rvb : String) : Option Int := do
  let a ← ParseUint rva
  let b ← ParseUint rvb
  pure (if a > b then 1 else if a = b then 0 else -1)

def BuildObjectSyncName (nodeName uid : String) : String :=
  nodeName ++ "." ++ uid

def GetMessageUID (msg : Message) : Option String :=
  msg.content.map (·.uid)

def isDeleteMessage (msg : Message) : Bool :=
  msg.router.operation == DeleteOperation ||
    match msg.content with
    | some object => object.deletionTimestamp.isSome
    | none => false

def SrcManager : String := "edgemgr"

def cloudOnlyOperations : List (String × List String) :=
  [("membership", ["get"]), ("twin", ["delta", "document", "get"]), ("auth_info", ["get"]),
    ("node", ["deleted"])]

def IsToEdge (msg : Message) : Bool :=
  if msg.router.source ≠ SrcManager then true
  else
    let resource :=
      if HasPrefix msg.router.resource ResourceNode then
        let tokens := Split msg.router.resource '/'
        if tokens.length ≥ 3 then Join (tokens.drop 2) '/' else msg.router.resource
      else msg.router.resource
    !cloudOnlyOperations.any fun (res, ops) =>
      ops.any fun op => msg.router.operation == op && Contains resource res

abbrev ObjectSyncs := AList (fun _ : String × String => String)

/-- Where `MessageWriteLoop` is: waiting for the next key, or in `sendMsg` for
    the message of `key` after `retry` resends. -/
inductive Writer where
  | idle
  | waiting (key : String) (msg : Message) (retry : Nat)
  deriving DecidableEq, Repr

inductive Event where
  | write (key : String) (msg : Message)
  | ack (key : String) (msg : Message)
  deriving DecidableEq, Repr

structure NodeQueue where
  store : AList (fun _ : String => Message)
  queue : List String
  objectSyncs : ObjectSyncs
  writer : Writer
  log : List Event

def addKey (queue : List String) (key : String) : List String :=
  if key ∈ queue then queue else queue ++ [key]

/-- Whether `addMessageToQueue` stores the message, given the message stored
    under its key; `none` where a version comparison panics. -/
def admits (nodeID : String) (msg : Message) (item : Option Message) (objectSyncs : ObjectSyncs) :
    Option Bool :=
  if isDeleteMessage msg then some true
  else
    match item with
    | none =>
      match GetMessageUID msg with
      | none => some false
      | some uid =>
        match objectSyncs.lookup (valueOf (GetNamespace msg), BuildObjectSyncName nodeID uid) with
        | some rv =>
          if rv ≠ "" then (CompareResourceVersion msg.header.resourceVersion rv).map (· > 0)
          else some true
        | none => some true
    | some stored =>
      if isDeleteMessage stored then some false
      else (CompareResourceVersion msg.header.resourceVersion stored.header.resourceVersion).map (· > 0)

def addMessageToQueue (nodeID : String) (msg : Message) (s : NodeQueue) : Option NodeQueue :=
  if msg.header.resourceVersion = "" ∧ isDeleteMessage msg = false then some s
  else
    match channelq.getMsgKey msg with
    | .error _ => some s
    | .ok key =>
      (admits nodeID msg (s.store.lookup key) s.objectSyncs).map fun ok =>
        if ok then { s with store := s.store.insert key msg, queue := addKey s.queue key } else s

/-- The acknowledgement of a delete drops its key and its `ObjectSync`; any
    other acknowledged resource message records its version. -/
def saveSuccessPoint (nodeID : String) (msg : Message) (s : NodeQueue) : NodeQueue :=
  if msg.router.group = GroupResource then
    match GetMessageUID msg with
    | none => s
    | some uid =>
      let name := (valueOf (GetNamespace msg), BuildObjectSyncName nodeID uid)
      if msg.router.operation = DeleteOperation then
        match channelq.getMsgKey msg with
        | .ok key => { s with store := s.store.erase key, objectSyncs := s.objectSyncs.erase name }
        | .error _ => s
      else { s with objectSyncs := s.objectSyncs.insert name msg.header.resourceVersion }
  else s

/-- What `MessageWriteLoop` sends for the key it gets: the stored message, when
    it goes to the edge. -/
def toSend (store : AList (fun _ : String => Message)) (key : String) : Option Message :=
  (store.lookup key).filter IsToEdge

inductive Tick where
  | resend
  | giveUp
  | sendError
  deriving DecidableEq, Repr

/-- `sendMsg`'s timer after `retry` resends: it gives up after four, else it
    writes again, and returns on the write's error. -/
def onTick (retry : Nat) (writeOk : Bool) : Tick :=
  if retry = 4 then .giveUp else if writeOk then .resend else .sendError

inductive QueueAction where
  | dispatch (msg : Message)
  | get (key : String)
  | getNoConnection (key : String)
  | getSendError (key : String)
  | tick (writeOk : Bool)
  | ack
  deriving DecidableEq, Repr

def takeKey (s : NodeQueue) (key : String) : Option (Option Message) :=
  if s.writer = .idle ∧ key ∈ s.queue then some (toSend s.store key) else none

def queueStep (nodeID : String) (s : NodeQueue) : QueueAction → Option NodeQueue
  | .dispatch msg => addMessageToQueue nodeID msg s
  | .get key => (takeKey s key).map fun
      | some msg =>
        { s with queue := s.queue.erase key, writer := .waiting key msg 0
                 log := s.log ++ [.write key (trimMessage msg)] }
      | none => { s with queue := s.queue.erase key }
  | .getNoConnection key => (takeKey s key).map fun _ => { s with queue := s.queue.erase key }
  | .getSendError key => (takeKey s key).map fun
      | some _ => s
      | none => { s with queue := s.queue.erase key }
  | .tick writeOk =>
    match s.writer with
    | .waiting key msg retry =>
      match onTick retry writeOk with
      | .resend =>
        some { s with writer := .waiting key msg (retry + 1), log := s.log ++ [.write key (trimMessage msg)] }
      | .giveUp => some { s with writer := .idle }
      -- `AddRateLimited` puts the key back
      | .sendError => some { s with writer := .idle, queue := addKey s.queue key }
    | .idle => none
  | .ack =>
    match s.writer with
    | .waiting key msg _ =>
      some { saveSuccessPoint nodeID msg s with writer := .idle, log := s.log ++ [.ack key msg] }
    | .idle => none

def queueRun (nodeID : String) : List QueueAction → NodeQueue → Option NodeQueue
  | [], s => some s
  | a :: rest, s => (queueStep nodeID s a).bind (queueRun nodeID rest)

end KubeEdge.Cloud
