import Mathlib.Data.List.AList
import Mathlib.Data.List.Perm.Basic

set_option autoImplicit false

/-!
# Node sessions of the cloud hub

`OnRegister` starts a `ServeConn` session for a node that is not registered
yet; `RegisterNode`, run by the session, marks the node registered and counts
it; a node-stop message ends the session through `UnregisterNode`, which closes
and forgets the node's keepalive channel. `HandleServer` passes a keepalive by
loading the node's channel and then sending on it.

Each of these runs on its own goroutine, so each step below is one atomic part
of one of them: the `sync.Map` operations are atomic one by one, not together.
Channels are numbered; `panicked` records a send on a closed channel.
-/

namespace KubeEdge.Cloud.Handler

inductive Stage where
  | registering
  | serving
  deriving DecidableEq, Repr

structure Session where
  nodeID : String
  stage : Stage
  deriving DecidableEq, Repr

structure MessageHandle where
  keepaliveChannel : AList (fun _ : String => Nat)
  closed : List Nat
  nextChannel : Nat
  nodeConns : AList (fun _ : String => Nat)
  nodeRegistered : List String
  nodeNumber : Int
  sessions : List Session
  /-- `HandleServer` calls that loaded a node's keepalive channel and are about to send on it. -/
  keepalives : List (String × Nat)
  panicked : Bool

def MessageHandle.init : MessageHandle := ⟨∅, [], 0, ∅, [], 0, [], [], false⟩

inductive HandleAction where
  | onRegister (nodeID : String) (conn : Nat)
  | registerNode (session : Nat)
  | keepaliveLoad (nodeID : String)
  | keepaliveSend (index : Nat)
  | stop (session : Nat)
  deriving DecidableEq, Repr

def OnRegister (nodeID : String) (conn : Nat) (h : MessageHandle) : MessageHandle :=
  let h := if (h.keepaliveChannel.lookup nodeID).isSome then h
    else { h with keepaliveChannel := h.keepaliveChannel.insert nodeID h.nextChannel,
                  nextChannel := h.nextChannel + 1 }
  if nodeID ∈ h.nodeRegistered then { h with nodeConns := h.nodeConns.insert nodeID conn }
  else { h with nodeConns := h.nodeConns.insert nodeID conn, sessions := h.sessions ++ [⟨nodeID, .registering⟩] }

/-- `RegisterNode`: without a connection the session ends; otherwise the node
    is registered and counted. -/
def RegisterNode (index : Nat) (session : Session) (h : MessageHandle) : MessageHandle :=
  if (h.nodeConns.lookup session.nodeID).isSome then
    { h with
      nodeRegistered := h.nodeRegistered ++ [session.nodeID]
      nodeNumber := h.nodeNumber + 1
      sessions := h.sessions.set index ⟨session.nodeID, .serving⟩ }
  else { h with sessions := h.sessions.eraseIdx index }

def UnregisterNode (index : Nat) (session : Session) (h : MessageHandle) : MessageHandle :=
  let h := { h with
    nodeConns := h.nodeConns.erase session.nodeID
    nodeRegistered := h.nodeRegistered.filter (· ≠ session.nodeID) }
  let h := match h.keepaliveChannel.lookup session.nodeID with
    | some ch => { h with closed := h.closed ++ [ch], keepaliveChannel := h.keepaliveChannel.erase session.nodeID }
    | none => h
  { h with nodeNumber := h.nodeNumber - 1, sessions := h.sessions.eraseIdx index }

def handleStep (h : MessageHandle) : HandleAction → Option MessageHandle
  | .onRegister nodeID conn => some (OnRegister nodeID conn h)
  | .registerNode i =>
    match h.sessions[i]? with
    | some s => if s.stage = .registering then some (RegisterNode i s h) else none
    | none => none
  | .keepaliveLoad nodeID =>
    match h.keepaliveChannel.lookup nodeID with
    | some ch => some { h with keepalives := h.keepalives ++ [(nodeID, ch)] }
    | none => some h
  | .keepaliveSend i =>
    match h.keepalives[i]? with
    | some (_, ch) =>
      if ch ∈ h.closed then some { h with panicked := true }
      else some { h with keepalives := h.keepalives.eraseIdx i }
    | none => none
  | .stop i =>
    match h.sessions[i]? with
    | some s => if s.stage = .serving then some (UnregisterNode i s h) else none
    | none => none

def handleRun : List HandleAction → MessageHandle → Option MessageHandle
  | [], h => some h
  | a :: rest, h => (handleStep h a).bind (handleRun rest)

def servingSessions (h : MessageHandle) : Nat :=
  h.sessions.countP (fun s => s.stage = .serving)

theorem countP_eraseIdx_add {α : Type} (p : α → Bool) {l : List α} {i : Nat} (hi : i < l.length) :
    (l.eraseIdx i).countP p + (if p l[i] then 1 else 0) = l.countP p := by
  rw [← (List.getElem_cons_eraseIdx_perm hi).countP_eq p, List.countP_cons]

theorem OnRegister_balance (nodeID : String) (conn : Nat) (h : MessageHandle) :
    (OnRegister nodeID conn h).nodeNumber - servingSessions (OnRegister nodeID conn h) =
      h.nodeNumber - servingSessions h := by
  unfold OnRegister
  dsimp only
  split_ifs <;> simp [servingSessions, List.countP_append]

theorem RegisterNode_balance {h : MessageHandle} {i : Nat} {s : Session}
    (hs : h.sessions[i]? = some s) (hstage : s.stage = .registering) :
    (RegisterNode i s h).nodeNumber - servingSessions (RegisterNode i s h) =
      h.nodeNumber - servingSessions h := by
  obtain ⟨hi, rfl⟩ := List.getElem?_eq_some_iff.mp hs
  have herase := countP_eraseIdx_add (fun s => decide (s.stage = .serving)) hi
  unfold RegisterNode servingSessions
  split_ifs
  · -- counted: the registering session turns serving, one more on each side
    have hold : decide (h.sessions[i].stage = .serving) = false := by simp [hstage]
    rw [List.countP_set hi]
    simp only [hold, decide_true, Bool.false_eq_true, if_false, if_true, Nat.sub_zero]
    omega
  · -- no connection: the session leaves, and it was not serving
    simp [hstage] at herase
    simp [herase]

theorem UnregisterNode_balance {h : MessageHandle} {i : Nat} {s : Session}
    (hs : h.sessions[i]? = some s) (hstage : s.stage = .serving) :
    (UnregisterNode i s h).nodeNumber - servingSessions (UnregisterNode i s h) =
      h.nodeNumber - servingSessions h := by
  obtain ⟨hi, rfl⟩ := List.getElem?_eq_some_iff.mp hs
  have herase := countP_eraseIdx_add (fun s => decide (s.stage = .serving)) hi
  simp only [hstage, decide_true, if_true] at herase
  have hnumber : (UnregisterNode i h.sessions[i] h).nodeNumber = h.nodeNumber - 1 := by
    dsimp only [UnregisterNode]
    split <;> rfl
  have hsessions : (UnregisterNode i h.sessions[i] h).sessions = h.sessions.eraseIdx i := by
    dsimp only [UnregisterNode]
    split <;> rfl
  rw [servingSessions, servingSessions, hnumber, hsessions, ← herase]
  omega

theorem handleStep_balance {h h' : MessageHandle} {a : HandleAction} (hstep : handleStep h a = some h') :
    h'.nodeNumber - servingSessions h' = h.nodeNumber - servingSessions h := by
  cases a with
  | onRegister nodeID conn =>
    cases hstep
    exact OnRegister_balance nodeID conn h
  | registerNode i =>
    simp only [handleStep] at hstep
    split at hstep
    · split_ifs at hstep with hstage
      cases hstep
      exact RegisterNode_balance ‹_› hstage
    · cases hstep
  | keepaliveLoad nodeID =>
    simp only [handleStep] at hstep
    split at hstep <;> cases hstep <;> rfl
  | keepaliveSend i =>
    simp only [handleStep] at hstep
    split at hstep
    · split_ifs at hstep <;> cases hstep <;> rfl
    · cases hstep
  | stop i =>
    simp only [handleStep] at hstep
    split at hstep
    · split_ifs at hstep with hstage
      cases hstep
      exact UnregisterNode_balance ‹_› hstage
    · cases hstep

theorem handleRun_balance {acts : List HandleAction} {h h' : MessageHandle} (hrun : handleRun acts h = some h') :
    h'.nodeNumber - servingSessions h' = h.nodeNumber - servingSessions h := by
  induction acts generalizing h with
  | nil =>
    cases hrun
    rfl
  | cons a rest ih =>
    obtain ⟨h₁, hstep, hrest⟩ := Option.bind_eq_some_iff.mp hrun
    rw [ih hrest, handleStep_balance hstep]

/-- Over every schedule `NodeNumber` is the number of serving sessions: it
    counts sessions, not node IDs. -/
theorem handleRun_nodeNumber {acts : List HandleAction} {h : MessageHandle}
    (hrun : handleRun acts MessageHandle.init = some h) : h.nodeNumber = servingSessions h := by
  have hbalance := handleRun_balance hrun
  simp only [MessageHandle.init, servingSessions, List.countP_nil] at hbalance
  rw [servingSessions]
  omega

def doubleRegisterSchedule : List HandleAction :=
  [.onRegister "n" 1, .onRegister "n" 2, .registerNode 0, .registerNode 1]

theorem handleRun_nodeNumber_doubleRegister :
    ((handleRun doubleRegisterSchedule MessageHandle.init).get (by decide)).nodeNumber =
      servingSessions ((handleRun doubleRegisterSchedule MessageHandle.init).get (by decide)) :=
  handleRun_nodeNumber (Option.some_get _).symm

def sessionsOf (h : MessageHandle) (nodeID : String) : Nat :=
  (h.sessions.filter (·.nodeID = nodeID)).length

/-- Two connections of one node registered before the first session marks it:
    two sessions serve the node and it is counted twice. A keepalive that loaded
    the channel before the node stopped sends on the closed channel. -/
theorem handleRun_double_session_and_closed_keepalive :
    (handleRun [.onRegister "n" 1, .onRegister "n" 2, .registerNode 0, .registerNode 1] MessageHandle.init).map
      (fun h => (sessionsOf h "n", h.nodeNumber, h.nodeRegistered.dedup.length)) = some (2, 2, 1) ∧
    (handleRun [.onRegister "n" 1, .registerNode 0, .keepaliveLoad "n", .stop 0, .keepaliveSend 0] MessageHandle.init).map
      (·.panicked) = some true := by
  decide

end KubeEdge.Cloud.Handler
