import KubeEdge.Lib.WorkQueue
import KubeEdge.Cloud.ChannelQueueSpec

set_option autoImplicit false

/-!
# The cloud hub's two write loops for one node

The dispatcher puts list messages (pod lists, memberships, twin updates) into
the node's list store under their message ID and queues the ID, and other
messages into the node store under their resource key, as `addMessageToQueue`
admits them. Both queues are client-go work queues. `ListMessageWriteLoop`
takes an ID, writes the stored message to the edge and deletes it; on a missing
entry, a message that stays in the cloud, or a node with no connection it
moves on at once. `MessageWriteLoop` takes a key, waits for a connection, and
in `sendMsg` registers an ack channel under the message's ID in `MessageAcks`,
writes the message and resends it on a timer until `HandleServer` closes the
channel on the edge's response, or it gives up.

Each step is one `WriteAction`, and a schedule is any list of them: the
dispatcher, the two loops, the connection's registration and `HandleServer`
all run concurrently. Where a step's outcome depends on the edge (a write
failing), the action carries it.

`MessageWriteLoop` marks every key done before it takes the next one
(`Consistent`, over every schedule); `ListMessageWriteLoop` does not, and a key
it leaves processing stays so for the rest of the session
(`writeRun_list_key_stays`). The queue model of `ChannelQueue` takes a key and
waits for a connection in one step, on a list of keys; here the node queue is
client-go's work queue, and both run `sendMsg`'s timer as `onTick`.
-/

namespace KubeEdge.Cloud.channelq

open KubeEdge.Lib KubeEdge.Beehive

def getListMsgKey (msg : Message) : String := msg.header.id

/-- One node's entries of the `ChannelMessageQueue` pools: its two queues and
    stores, and the `ObjectSync`s its lister reads. -/
structure ChannelMessageQueue where
  nodeQueue : WorkQueue String
  nodeStore : AList (fun _ : String => Message)
  nodeListQueue : WorkQueue String
  nodeListStore : AList (fun _ : String => Message)
  objectSyncs : ObjectSyncs

def ChannelMessageQueue.init : ChannelMessageQueue := ⟨.empty, ∅, .empty, ∅, ∅⟩

def ChannelMessageQueue.addListMessageToQueue (msg : Message) (q : ChannelMessageQueue) :
    ChannelMessageQueue :=
  let messageKey := getListMsgKey msg
  { q with nodeListStore := q.nodeListStore.insert messageKey msg,
           nodeListQueue := q.nodeListQueue.Add messageKey }

/-- `addMessageToQueue` on the work queue: what it admits is decided by
    `admits`, as in the queue model of `ChannelQueue`. -/
def ChannelMessageQueue.addMessageToQueue (nodeID : String) (msg : Message) (q : ChannelMessageQueue) :
    Option ChannelMessageQueue :=
  if msg.header.resourceVersion = "" ∧ isDeleteMessage msg = false then some q
  else
    match getMsgKey msg with
    | .error _ => some q
    | .ok messageKey =>
      (admits nodeID msg (q.nodeStore.lookup messageKey) q.objectSyncs).map fun ok =>
        if ok then
          { q with nodeStore := q.nodeStore.insert messageKey msg, nodeQueue := q.nodeQueue.Add messageKey }
        else q

/-- `saveSuccessPoint` of the queue model, on the store and the `ObjectSync`s,
    the only parts it touches. -/
def ChannelMessageQueue.saveSuccessPoint (nodeID : String) (msg : Message) (q : ChannelMessageQueue) :
    ChannelMessageQueue :=
  let saved := KubeEdge.Cloud.saveSuccessPoint nodeID msg ⟨q.nodeStore, [], q.objectSyncs, .idle, []⟩
  { q with nodeStore := saved.store, objectSyncs := saved.objectSyncs }

end KubeEdge.Cloud.channelq

namespace KubeEdge.Cloud.Handler

open KubeEdge.Lib KubeEdge.Go KubeEdge.Beehive KubeEdge.Cloud.channelq

def IsNodeStopped (msg : Message) : Bool :=
  valueOf (GetResourceType msg) == ResourceTypeNode && msg.router.operation == DeleteOperation

/-- Where `MessageWriteLoop` is: before `Get`; looking up the node's connection
    after `retry` misses; in `sendMsg`'s wait for the ack after `retry`
    resends, `acked` once `HandleServer` has closed the ack channel; or
    returned. -/
inductive WriteStage where
  | idle
  | connecting (key : String) (msg : Message) (retry : Nat)
  | waiting (key : String) (msg : Message) (retry : Nat) (acked : Bool)
  | exited
  deriving DecidableEq, Repr

def WriteStage.key? : WriteStage → Option String
  | .connecting key _ _ => some key
  | .waiting key _ _ _ => some key
  | .idle | .exited => none

structure WriteLoops where
  channel : ChannelMessageQueue
  connected : Bool
  messageAcks : List String
  listLoopRunning : Bool
  writer : WriteStage
  written : List Message

def WriteLoops.init : WriteLoops := ⟨.init, false, [], true, .idle, []⟩

namespace WriteLoops

def withNodeQueue (f : WorkQueue String → WorkQueue String) (s : WriteLoops) : WriteLoops :=
  { s with channel := { s.channel with nodeQueue := f s.channel.nodeQueue } }

/-- `nodeQueue.Forget(key)` and `nodeQueue.Done(key)` at the end of an
    iteration of `MessageWriteLoop`. -/
def doneKey (key : String) (s : WriteLoops) : WriteLoops :=
  { s.withNodeQueue (·.Done key) with writer := .idle }

/-- A failed write in `sendMsg`: the key is put back through the rate limiter,
    and the iteration ends. -/
def sendFailed (key : String) (s : WriteLoops) : WriteLoops :=
  (s.withNodeQueue (·.Add key)).doneKey key

end WriteLoops

open WriteLoops

/-- One iteration of `ListMessageWriteLoop`; `none` where `Get` blocks or the
    loop has returned. `writeOk` is the outcome of the write. -/
def listMessageWriteStep (writeOk : Bool) (s : WriteLoops) : Option WriteLoops :=
  if !s.listLoopRunning then none
  else
    match s.channel.nodeListQueue.Get with
    | none => none
    | some (none, _) => some { s with listLoopRunning := false }
    | some (some key, q) =>
      let c := { s.channel with nodeListQueue := q }
      match c.nodeListStore.lookup key with
      -- each path that continues here leaves the key processing
      | none => some { s with channel := c }
      | some msg =>
        if IsNodeStopped msg then
          some { s with channel := { c with nodeQueue := c.nodeQueue.ShutDown,
                                            nodeListQueue := c.nodeListQueue.ShutDown },
                        listLoopRunning := false }
        else if !IsToEdge msg then some { s with channel := c }
        else
          -- `trimMessage` trims the stored message in place
          let msg := trimMessage msg
          if !s.connected then some { s with channel := { c with nodeListStore := c.nodeListStore.insert key msg } }
          else
            some { s with channel := { c with nodeListStore := c.nodeListStore.erase (getListMsgKey msg),
                                              nodeListQueue := c.nodeListQueue.Done key },
                          written := if writeOk then s.written ++ [msg] else s.written }

/-- `MessageWriteLoop` takes the next key and the message stored under it. -/
def messageWriteGet (s : WriteLoops) : Option WriteLoops :=
  match s.writer with
  | .idle =>
    match s.channel.nodeQueue.Get with
    | none => none
    | some (none, _) => some { s with writer := .exited }
    | some (some key, q) =>
      let s := s.withNodeQueue fun _ => q
      -- a missing entry and a message that stays in the cloud are marked done at once
      match toSend s.channel.nodeStore key with
      | none => some (s.withNodeQueue (·.Done key))
      | some msg => some { s with writer := .connecting key msg 0 }
  | _ => none

/-- The start of `sendMsg`: the ack channel is stored under the copy's ID
    before the first write. -/
def sendMsg (key : String) (msg : Message) (writeOk : Bool) (s : WriteLoops) : WriteLoops :=
  let copyMsg := trimMessage msg
  let s := { s with messageAcks := s.messageAcks.insert copyMsg.header.id }
  if writeOk then { s with writer := .waiting key msg 0 false, written := s.written ++ [copyMsg] }
  else s.sendFailed key

/-- One pass of `MessageWriteLoop`'s loop over `mh.nodeConns`: it gives up
    after its second miss. -/
def messageWriteConnect (writeOk : Bool) (s : WriteLoops) : Option WriteLoops :=
  match s.writer with
  | .connecting key msg retry =>
    if s.connected then some (sendMsg key msg writeOk s)
    else if retry = 1 then some (s.doneKey key)
    else some { s with writer := .connecting key msg (retry + 1) }
  | _ => none

def sendMsgTick (writeOk : Bool) (s : WriteLoops) : Option WriteLoops :=
  match s.writer with
  | .waiting key msg retry acked =>
    match onTick retry writeOk with
    | .giveUp => some (s.doneKey key)
    | .resend =>
      some { s with writer := .waiting key msg (retry + 1) acked, written := s.written ++ [trimMessage msg] }
    | .sendError => some (s.sendFailed key)
  | _ => none

/-- `HandleServer` on a response: the ack channel stored under its parent ID
    is closed and deleted. Only `sendMsg` stores channels, so a stored channel
    under the ID `MessageWriteLoop` waits on is the one it waits on. -/
def handleAck (parentID : String) (s : WriteLoops) : WriteLoops :=
  if parentID ∈ s.messageAcks then
    let s := { s with messageAcks := s.messageAcks.erase parentID }
    match s.writer with
    | .waiting key msg retry _ =>
      if (trimMessage msg).header.id = parentID then { s with writer := .waiting key msg retry true } else s
    | _ => s
  else s

def sendMsgAcked (nodeID : String) (s : WriteLoops) : Option WriteLoops :=
  match s.writer with
  | .waiting key msg _ true =>
    some ({ s with channel := s.channel.saveSuccessPoint nodeID msg }.doneKey key)
  | _ => none

inductive WriteAction where
  | dispatchList (msg : Message)
  | dispatch (msg : Message)
  | connect
  | disconnect
  | listLoop (writeOk : Bool)
  | get
  | lookupConn (writeOk : Bool)
  | tick (writeOk : Bool)
  | ack (parentID : String)
  | receiveAck
  deriving DecidableEq, Repr

def writeStep (nodeID : String) (s : WriteLoops) : WriteAction → Option WriteLoops
  | .dispatchList msg => some { s with channel := s.channel.addListMessageToQueue msg }
  | .dispatch msg => (s.channel.addMessageToQueue nodeID msg).map fun c => { s with channel := c }
  | .connect => some { s with connected := true }
  | .disconnect => some { s with connected := false }
  | .listLoop writeOk => listMessageWriteStep writeOk s
  | .get => messageWriteGet s
  | .lookupConn writeOk => messageWriteConnect writeOk s
  | .tick writeOk => sendMsgTick writeOk s
  | .ack parentID => some (handleAck parentID s)
  | .receiveAck => sendMsgAcked nodeID s

def writeRun (nodeID : String) : List WriteAction → WriteLoops → Option WriteLoops
  | [], s => some s
  | a :: rest, s => (writeStep nodeID s a).bind (writeRun nodeID rest)

namespace WriteLoops

variable (key : String) (f : WorkQueue String → WorkQueue String) (s : WriteLoops)

@[simp] theorem withNodeQueue_nodeQueue : (s.withNodeQueue f).channel.nodeQueue = f s.channel.nodeQueue := rfl
@[simp] theorem withNodeQueue_nodeListQueue :
    (s.withNodeQueue f).channel.nodeListQueue = s.channel.nodeListQueue := rfl
@[simp] theorem withNodeQueue_writer : (s.withNodeQueue f).writer = s.writer := rfl
@[simp] theorem withNodeQueue_messageAcks : (s.withNodeQueue f).messageAcks = s.messageAcks := rfl

@[simp] theorem doneKey_nodeQueue : (s.doneKey key).channel.nodeQueue = s.channel.nodeQueue.Done key := rfl
@[simp] theorem doneKey_nodeListQueue : (s.doneKey key).channel.nodeListQueue = s.channel.nodeListQueue := rfl
@[simp] theorem doneKey_writer : (s.doneKey key).writer = .idle := rfl
@[simp] theorem doneKey_messageAcks : (s.doneKey key).messageAcks = s.messageAcks := rfl

@[simp] theorem sendFailed_nodeQueue :
    (s.sendFailed key).channel.nodeQueue = (s.channel.nodeQueue.Add key).Done key := rfl
@[simp] theorem sendFailed_nodeListQueue : (s.sendFailed key).channel.nodeListQueue = s.channel.nodeListQueue := rfl
@[simp] theorem sendFailed_writer : (s.sendFailed key).writer = .idle := rfl
@[simp] theorem sendFailed_messageAcks : (s.sendFailed key).messageAcks = s.messageAcks := rfl

end WriteLoops

theorem listMessageWriteStep_spec {w : Bool} {s s' : WriteLoops} (h : listMessageWriteStep w s = some s') :
    s'.writer = s.writer ∧ s'.messageAcks = s.messageAcks ∧
      (s'.channel.nodeQueue = s.channel.nodeQueue ∨ s'.channel.nodeQueue = s.channel.nodeQueue.ShutDown) ∧
      (s'.channel.nodeListQueue = s.channel.nodeListQueue ∨
        ∃ key q, s.channel.nodeListQueue.Get = some (some key, q) ∧
          (s'.channel.nodeListQueue = q ∨ s'.channel.nodeListQueue = q.Done key ∨
            s'.channel.nodeListQueue = q.ShutDown)) := by
  unfold listMessageWriteStep at h
  split at h
  · cases h
  · split at h
    · cases h
    · cases h
      exact ⟨rfl, rfl, .inl rfl, .inl rfl⟩
    · rename_i key q hget
      -- the paths after the `Get`: the store lookup, the node stop, the
      -- cloud-only message, the missing connection and the write
      dsimp only at h
      split at h
      · cases h
        exact ⟨rfl, rfl, .inl rfl, .inr ⟨key, q, hget, .inl rfl⟩⟩
      · split_ifs at h <;> cases h
        · exact ⟨rfl, rfl, .inr rfl, .inr ⟨key, q, hget, .inr (.inr rfl)⟩⟩
        · exact ⟨rfl, rfl, .inl rfl, .inr ⟨key, q, hget, .inl rfl⟩⟩
        · exact ⟨rfl, rfl, .inl rfl, .inr ⟨key, q, hget, .inl rfl⟩⟩
        -- the write marks the key done, whether it fails or not
        all_goals exact ⟨rfl, rfl, .inl rfl, .inr ⟨key, q, hget, .inr (.inl rfl)⟩⟩

theorem messageWriteGet_spec {s s' : WriteLoops} (h : messageWriteGet s = some s') :
    s.writer = .idle ∧ s'.messageAcks = s.messageAcks ∧ s'.channel.nodeListQueue = s.channel.nodeListQueue ∧
      ((s'.channel = s.channel ∧ s'.writer = .exited) ∨
        ∃ key q, s.channel.nodeQueue.Get = some (some key, q) ∧
          ((s'.channel.nodeQueue = q.Done key ∧ s'.writer = .idle) ∨
            (s'.channel.nodeQueue = q ∧ s'.writer.key? = some key))) := by
  unfold messageWriteGet at h
  split at h
  · rename_i hidle
    split at h
    · cases h
    · cases h
      exact ⟨hidle, rfl, rfl, .inl ⟨rfl, rfl⟩⟩
    · rename_i key q hget
      dsimp only at h
      split at h
      · cases h
        exact ⟨hidle, rfl, rfl, .inr ⟨key, q, hget, .inl ⟨rfl, hidle⟩⟩⟩
      · cases h
        exact ⟨hidle, rfl, rfl, .inr ⟨key, q, hget, .inr ⟨rfl, rfl⟩⟩⟩
  · cases h

theorem sendMsg_cases (key : String) (msg : Message) (w : Bool) (s : WriteLoops) :
    ((sendMsg key msg w s).channel = s.channel ∧ (sendMsg key msg w s).writer = .waiting key msg 0 false) ∨
      sendMsg key msg w s =
        WriteLoops.sendFailed key { s with messageAcks := s.messageAcks.insert (trimMessage msg).header.id } := by
  unfold sendMsg
  split
  · exact .inl ⟨rfl, rfl⟩
  · exact .inr rfl

@[simp] theorem sendMsg_nodeListQueue (key : String) (msg : Message) (w : Bool) (s : WriteLoops) :
    (sendMsg key msg w s).channel.nodeListQueue = s.channel.nodeListQueue := by
  rcases sendMsg_cases key msg w s with ⟨hc, -⟩ | hfail
  · rw [hc]
  · rw [hfail]
    rfl

theorem messageWriteConnect_spec {w : Bool} {s s' : WriteLoops} (h : messageWriteConnect w s = some s') :
    ∃ key msg retry, s.writer = .connecting key msg retry ∧
      (s' = sendMsg key msg w s ∨ s' = s.doneKey key ∨ s' = { s with writer := .connecting key msg (retry + 1) }) := by
  unfold messageWriteConnect at h
  split at h
  · rename_i key msg retry hw
    refine ⟨key, msg, retry, hw, ?_⟩
    split_ifs at h <;> cases h
    · exact .inl rfl
    · exact .inr (.inl rfl)
    · exact .inr (.inr rfl)
  · cases h

theorem sendMsgTick_spec {w : Bool} {s s' : WriteLoops} (h : sendMsgTick w s = some s') :
    ∃ key msg retry acked, s.writer = .waiting key msg retry acked ∧
      (s' = s.doneKey key ∨ s' = s.sendFailed key ∨
        (s'.channel = s.channel ∧ s'.messageAcks = s.messageAcks ∧ s'.writer = .waiting key msg (retry + 1) acked)) := by
  unfold sendMsgTick at h
  split at h
  · rename_i key msg retry acked hw
    refine ⟨key, msg, retry, acked, hw, ?_⟩
    split at h <;> cases h
    · exact .inl rfl
    · exact .inr (.inr ⟨rfl, rfl, rfl⟩)
    · exact .inr (.inl rfl)
  · cases h

theorem sendMsgAcked_spec {nodeID : String} {s s' : WriteLoops} (h : sendMsgAcked nodeID s = some s') :
    ∃ key msg retry, s.writer = .waiting key msg retry true ∧
      s' = { s with channel := s.channel.saveSuccessPoint nodeID msg }.doneKey key := by
  unfold sendMsgAcked at h
  split at h
  · rename_i key msg retry hw
    cases h
    exact ⟨key, msg, retry, hw, rfl⟩
  · cases h

@[simp] theorem handleAck_channel (parentID : String) (s : WriteLoops) : (handleAck parentID s).channel = s.channel := by
  unfold handleAck
  split
  · dsimp only
    split
    · split <;> rfl
    · rfl
  · rfl

@[simp] theorem handleAck_key (parentID : String) (s : WriteLoops) :
    (handleAck parentID s).writer.key? = s.writer.key? := by
  unfold handleAck
  split
  · dsimp only
    split
    · rename_i hw
      split <;> simp [hw, WriteStage.key?]
    · rfl
  · rfl

theorem addMessageToQueue_queues {nodeID : String} {msg : Message} {q q' : ChannelMessageQueue}
    (h : q.addMessageToQueue nodeID msg = some q') :
    q'.nodeListQueue = q.nodeListQueue ∧ (q'.nodeQueue = q.nodeQueue ∨ ∃ key, q'.nodeQueue = q.nodeQueue.Add key) := by
  unfold ChannelMessageQueue.addMessageToQueue at h
  split at h
  · cases h
    exact ⟨rfl, .inl rfl⟩
  · split at h
    · cases h
      exact ⟨rfl, .inl rfl⟩
    · rename_i key _
      obtain ⟨ok, -, h⟩ := Option.map_eq_some_iff.mp h
      cases ok
      · cases h
        exact ⟨rfl, .inl rfl⟩
      · cases h
        exact ⟨rfl, .inr ⟨key, rfl⟩⟩

/-- What every schedule keeps: both queues keep the work queue's invariant,
    and the node queue's processing set is the key `MessageWriteLoop` handles. -/
structure Consistent (s : WriteLoops) : Prop where
  nodeQueue_inv : s.channel.nodeQueue.Inv
  listQueue_inv : s.channel.nodeListQueue.Inv
  processing_writer : s.channel.nodeQueue.processing = s.writer.key?.toList

theorem Consistent.init : Consistent WriteLoops.init :=
  ⟨WorkQueue.Inv.empty, WorkQueue.Inv.empty, rfl⟩

theorem Consistent.of_processing {s s' : WriteLoops} (hs : Consistent s) (hn : s'.channel.nodeQueue.Inv)
    (hl : s'.channel.nodeListQueue.Inv) (hp : s'.channel.nodeQueue.processing = s.channel.nodeQueue.processing)
    (hw : s'.writer.key? = s.writer.key?) : Consistent s' :=
  ⟨hn, hl, by rw [hp, hw]; exact hs.processing_writer⟩

theorem Consistent.of_channel {s s' : WriteLoops} (hs : Consistent s) (hc : s'.channel = s.channel)
    (hw : s'.writer.key? = s.writer.key?) : Consistent s' :=
  hs.of_processing (by rw [hc]; exact hs.nodeQueue_inv) (by rw [hc]; exact hs.listQueue_inv) (by rw [hc]) hw

theorem Consistent.doneKey {s : WriteLoops} {key : String} (hs : Consistent s) (hk : s.writer.key? = some key) :
    Consistent (s.doneKey key) := by
  have hp : s.channel.nodeQueue.processing = [key] := by
    rw [hs.processing_writer, hk]
    rfl
  refine ⟨hs.nodeQueue_inv.Done (by simp [hp]), hs.listQueue_inv, ?_⟩
  simp [hp, WriteStage.key?]

theorem Consistent.sendFailed {s : WriteLoops} {key : String} (hs : Consistent s) (hk : s.writer.key? = some key) :
    Consistent (s.sendFailed key) := by
  have hadd : Consistent (s.withNodeQueue (·.Add key)) :=
    hs.of_processing (hs.nodeQueue_inv.Add key) hs.listQueue_inv (by simp) rfl
  exact hadd.doneKey hk

theorem Consistent.sendMsg {s : WriteLoops} {key : String} {msg : Message} {w : Bool} (hs : Consistent s)
    (hk : s.writer.key? = some key) : Consistent (sendMsg key msg w s) := by
  rcases sendMsg_cases key msg w s with ⟨hc, hw⟩ | hfail
  · exact hs.of_channel hc (by rw [hw, hk]; rfl)
  · have hs₁ : Consistent { s with messageAcks := s.messageAcks.insert (trimMessage msg).header.id } :=
      hs.of_channel rfl rfl
    rw [hfail]
    exact hs₁.sendFailed hk

theorem Consistent.listLoop {w : Bool} {s s' : WriteLoops} (hs : Consistent s)
    (h : listMessageWriteStep w s = some s') : Consistent s' := by
  obtain ⟨hw, -, hn, hl⟩ := listMessageWriteStep_spec h
  -- the list loop touches the node queue only to shut it down
  have hnode : s'.channel.nodeQueue.Inv ∧ s'.channel.nodeQueue.processing = s.channel.nodeQueue.processing := by
    rcases hn with hn | hn <;> rw [hn]
    · exact ⟨hs.nodeQueue_inv, rfl⟩
    · exact ⟨hs.nodeQueue_inv.ShutDown, rfl⟩
  have hlist : s'.channel.nodeListQueue.Inv := by
    rcases hl with hl | ⟨key, q, hget, hl | hl | hl⟩ <;> rw [hl]
    · exact hs.listQueue_inv
    · exact hs.listQueue_inv.Get hget
    · exact (hs.listQueue_inv.Get hget).Done (WorkQueue.Get_processing hget)
    · exact (hs.listQueue_inv.Get hget).ShutDown
  exact hs.of_processing hnode.1 hlist hnode.2 (by rw [hw])

theorem Consistent.get {s s' : WriteLoops} (hs : Consistent s) (h : messageWriteGet s = some s') :
    Consistent s' := by
  obtain ⟨hidle, -, hl, ⟨hc, hw⟩ | ⟨key, q, hget, hrest⟩⟩ := messageWriteGet_spec h
  · exact hs.of_channel hc (by rw [hw, hidle]; rfl)
  · -- nothing was processing before the `Get`, so its key is all there is
    have hq : q.processing = [key] := by
      rw [(WorkQueue.Get_eq_item hget).2.1, hs.processing_writer, hidle]
      simp [WriteStage.key?]
    rcases hrest with ⟨hn, hw⟩ | ⟨hn, hw⟩
    · refine ⟨?_, hl ▸ hs.listQueue_inv, ?_⟩
      · rw [hn]
        exact (hs.nodeQueue_inv.Get hget).Done (by simp [hq])
      · rw [hn, hw, WorkQueue.Done_processing, hq]
        simp [WriteStage.key?]
    · refine ⟨hn ▸ hs.nodeQueue_inv.Get hget, hl ▸ hs.listQueue_inv, ?_⟩
      rw [hn, hw, hq]
      rfl

theorem Consistent.lookupConn {w : Bool} {s s' : WriteLoops} (hs : Consistent s)
    (h : messageWriteConnect w s = some s') : Consistent s' := by
  obtain ⟨key, msg, retry, hw, rfl | rfl | rfl⟩ := messageWriteConnect_spec h
  · exact hs.sendMsg (by rw [hw]; rfl)
  · exact hs.doneKey (by rw [hw]; rfl)
  · exact hs.of_channel rfl (by rw [hw]; rfl)

theorem Consistent.tick {w : Bool} {s s' : WriteLoops} (hs : Consistent s) (h : sendMsgTick w s = some s') :
    Consistent s' := by
  obtain ⟨key, msg, retry, acked, hw, rfl | rfl | ⟨hc, -, hw'⟩⟩ := sendMsgTick_spec h
  · exact hs.doneKey (by rw [hw]; rfl)
  · exact hs.sendFailed (by rw [hw]; rfl)
  · exact hs.of_channel hc (by rw [hw, hw']; rfl)

theorem Consistent.receiveAck {nodeID : String} {s s' : WriteLoops} (hs : Consistent s)
    (h : sendMsgAcked nodeID s = some s') : Consistent s' := by
  obtain ⟨key, msg, retry, hw, rfl⟩ := sendMsgAcked_spec h
  -- `saveSuccessPoint` touches neither queue
  have hsaved : Consistent { s with channel := s.channel.saveSuccessPoint nodeID msg } :=
    hs.of_processing hs.nodeQueue_inv hs.listQueue_inv rfl rfl
  exact hsaved.doneKey (by rw [hw]; rfl)

theorem Consistent.step {nodeID : String} {s s' : WriteLoops} {a : WriteAction} (hs : Consistent s)
    (h : writeStep nodeID s a = some s') : Consistent s' := by
  cases a with
  | dispatchList msg =>
    cases h
    exact ⟨hs.nodeQueue_inv, hs.listQueue_inv.Add _, hs.processing_writer⟩
  | dispatch msg =>
    obtain ⟨c, hc, rfl⟩ := Option.map_eq_some_iff.mp h
    obtain ⟨hl, hn | ⟨key, hn⟩⟩ := addMessageToQueue_queues hc
    · exact hs.of_processing (hn ▸ hs.nodeQueue_inv) (hl ▸ hs.listQueue_inv) (by rw [hn]) rfl
    · exact hs.of_processing (hn ▸ hs.nodeQueue_inv.Add key) (hl ▸ hs.listQueue_inv) (by simp [hn]) rfl
  | connect =>
    cases h
    exact hs.of_channel rfl rfl
  | disconnect =>
    cases h
    exact hs.of_channel rfl rfl
  | listLoop w => exact hs.listLoop h
  | get => exact hs.get h
  | lookupConn w => exact hs.lookupConn h
  | tick w => exact hs.tick h
  | ack parentID =>
    cases h
    exact hs.of_channel (handleAck_channel parentID s) (handleAck_key parentID s)
  | receiveAck => exact hs.receiveAck h

theorem Consistent.run {nodeID : String} {acts : List WriteAction} {s s' : WriteLoops} (hs : Consistent s)
    (h : writeRun nodeID acts s = some s') : Consistent s' := by
  induction acts generalizing s with
  | nil =>
    cases h
    exact hs
  | cons a rest ih =>
    obtain ⟨s₁, h₁, h⟩ := Option.bind_eq_some_iff.mp h
    exact ih (hs.step h₁) h

theorem Consistent.listKey_step {nodeID : String} {s s' : WriteLoops} {a : WriteAction} {k : String}
    (hs : Consistent s) (hk : k ∈ s.channel.nodeListQueue.processing) (h : writeStep nodeID s a = some s') :
    k ∈ s'.channel.nodeListQueue.processing := by
  cases a with
  | dispatchList msg =>
    cases h
    simpa [ChannelMessageQueue.addListMessageToQueue] using hk
  | dispatch msg =>
    obtain ⟨c, hc, rfl⟩ := Option.map_eq_some_iff.mp h
    rw [(addMessageToQueue_queues hc).1]
    exact hk
  | connect | disconnect =>
    cases h
    exact hk
  | listLoop w =>
    obtain ⟨-, -, -, hl | ⟨key, q, hget, hl⟩⟩ := listMessageWriteStep_spec h
    · rw [hl]
      exact hk
    · have hne : key ≠ k := hs.listQueue_inv.Get_ne hget hk
      have hkq : k ∈ q.processing := by
        rw [(WorkQueue.Get_eq_item hget).2.1]
        exact List.mem_insert_of_mem hk
      rcases hl with hl | hl | hl <;> rw [hl]
      · exact hkq
      · exact WorkQueue.mem_processing_Done_of_ne hkq hne
      · exact hkq
  | get =>
    rw [(messageWriteGet_spec h).2.2.1]
    exact hk
  | lookupConn w =>
    obtain ⟨key, msg, retry, -, rfl | rfl | rfl⟩ := messageWriteConnect_spec h
    · rw [sendMsg_nodeListQueue]
      exact hk
    · exact hk
    · exact hk
  | tick w =>
    obtain ⟨key, msg, retry, acked, -, rfl | rfl | ⟨hc, -, -⟩⟩ := sendMsgTick_spec h
    · exact hk
    · exact hk
    · rw [hc]
      exact hk
  | ack parentID =>
    cases h
    rw [handleAck_channel]
    exact hk
  | receiveAck =>
    obtain ⟨key, msg, retry, -, rfl⟩ := sendMsgAcked_spec h
    exact hk

/-- Once `ListMessageWriteLoop` has moved on from a key without marking it
    done, the key is processing for the rest of the session, whatever is
    dispatched and whatever the edge does. -/
theorem writeRun_list_key_stays {nodeID : String} {acts : List WriteAction} {s s' : WriteLoops} {k : String}
    (hs : Consistent s) (hk : k ∈ s.channel.nodeListQueue.processing) (h : writeRun nodeID acts s = some s') :
    k ∈ s'.channel.nodeListQueue.processing := by
  induction acts generalizing s with
  | nil =>
    cases h
    exact hk
  | cons a rest ih =>
    obtain ⟨s₁, h₁, h⟩ := Option.bind_eq_some_iff.mp h
    exact ih (hs.step h₁) (hs.listKey_step hk h₁) h

/-- In every state a session reaches, the node queue's processing set is the
    key `MessageWriteLoop` is handling, and empty between keys: every key it
    takes is marked done before it takes the next. -/
theorem writeRun_nodeQueue_processing {nodeID : String} {acts : List WriteAction} {s : WriteLoops}
    (h : writeRun nodeID acts WriteLoops.init = some s) :
    s.channel.nodeQueue.processing = s.writer.key?.toList :=
  (Consistent.init.run h).processing_writer

/-- A list key that `ListMessageWriteLoop` has taken and left processing at
    some point of a session is processing at every later point. -/
theorem writeRun_list_key_never_done {nodeID : String} {pre post : List WriteAction} {s₁ s₂ : WriteLoops}
    {k : String} (h₁ : writeRun nodeID pre WriteLoops.init = some s₁)
    (hk : k ∈ s₁.channel.nodeListQueue.processing) (h₂ : writeRun nodeID post s₁ = some s₂) :
    k ∈ s₂.channel.nodeListQueue.processing :=
  writeRun_list_key_stays (Consistent.init.run h₁) hk h₂

def podListMsg : Message :=
  ⟨⟨"l1", "", "", false⟩, ⟨"edgecontroller", "resource", "update", "node/edge-1/default/podlist/pods"⟩, none⟩

def membershipGetMsg : Message :=
  ⟨⟨"l2", "", "", false⟩, ⟨"edgemgr", "membership", "get", "node/edge-1/membership"⟩, none⟩

def podUpdateMsg : Message :=
  ⟨⟨"m3", "", "5", false⟩, ⟨"edgecontroller", "resource", "update", "node/edge-1/default/pod/web"⟩,
    some ⟨"u1", none⟩⟩

def leakSchedule : List WriteAction :=
  [.dispatchList podListMsg, .listLoop true, .dispatchList membershipGetMsg, .listLoop true,
    .connect, .dispatch podUpdateMsg, .get, .lookupConn true,
    .tick true, .tick true, .tick true, .tick true, .tick true]

theorem writeRun_leaves_list_keys_and_acks :
    (writeRun "edge-1" leakSchedule WriteLoops.init).map
        (fun s => (s.channel.nodeListQueue.queue, s.channel.nodeListQueue.processing)) =
      some ([], ["l2", "l1"]) ∧
    (writeRun "edge-1" leakSchedule WriteLoops.init).map (fun s => s.channel.nodeListStore.keys) =
      some ["l2", "l1"] ∧
    (writeRun "edge-1" leakSchedule WriteLoops.init).map
        (fun s => (s.channel.nodeQueue.queue, s.channel.nodeQueue.processing)) =
      some ([], []) ∧
    (writeRun "edge-1" leakSchedule WriteLoops.init).map (fun s => (s.messageAcks, s.writer)) =
      some (["m3"], .idle) := by
  decide

theorem writeRun_nodeQueue_processing_sending :
    ((writeRun "edge-1" (leakSchedule.take 8) WriteLoops.init).getD WriteLoops.init).channel.nodeQueue.processing =
      ((writeRun "edge-1" (leakSchedule.take 8) WriteLoops.init).getD WriteLoops.init).writer.key?.toList :=
  @writeRun_nodeQueue_processing "edge-1" (leakSchedule.take 8) _ rfl

theorem writeRun_list_key_never_done_podList :
    "l1" ∈ ((writeRun "edge-1" (leakSchedule.drop 2)
      ((writeRun "edge-1" (leakSchedule.take 2) WriteLoops.init).getD WriteLoops.init)).getD
        WriteLoops.init).channel.nodeListQueue.processing :=
  @writeRun_list_key_never_done "edge-1" (leakSchedule.take 2) (leakSchedule.drop 2) _ _ "l1" rfl (by decide) rfl

end KubeEdge.Cloud.Handler
