import Mathlib.Data.List.AList
import KubeEdge.Beehive.Message

set_option autoImplicit false

/-!
# Synchronous writes on a viaduct connection

`WriteMessageSync` writes the request, then `SyncKeeper.WaitResponse` stores an
unbuffered keeper channel under the request's ID and waits on it until the
write deadline. The connection's reader loop reads each incoming message, lets
`filterControlMessage` (WebSocket only) take control messages, and passes the
rest to `MatchAndNotify`: a message whose parent has a keeper channel is sent
on it without blocking, which reaches the caller only while it waits in its
select and is dropped otherwise; any other message goes to the message fifo,
or to the handler when the connection routes automatically.

One `WriteMessageSync` call runs against the reader loop; each step is one
`ConnAction`, and the peer may send any message at any time.
-/

namespace KubeEdge.Viaduct

open KubeEdge.Beehive

inductive Protocol where
  | ws
  | quic
  deriving DecidableEq, Repr

def ControlTypeConfig : String := "config"
def ControlTypePing : String := "ping"
def ControlTypePong : String := "pong"

def emptyMessage : Message := ⟨⟨"", "", "", false⟩, ⟨"", "", "", ""⟩, none⟩

/-- Where the `WriteMessageSync` call is: before its write, written, with its
    keeper channel stored but before its select, waiting in the select, or
    returned with its response pointer and error. -/
inductive WriterStage where
  | writing
  | written
  | registered (ch : Nat)
  | waiting (ch : Nat)
  | returned (resp : Option Message) (err : Option String)
  deriving DecidableEq, Repr

structure Conn where
  keeper : AList (fun _ : String => Nat)
  nextChan : Nat
  incoming : List Message
  fifo : List Message
  routed : List Message
  /-- Responses `sendToKeepChannel` dropped ("keeper channel is full"). -/
  dropped : List Message
  writer : WriterStage

def Conn.init : Conn := ⟨∅, 0, [], [], [], [], .writing⟩

/-- The operations `filterControlMessage` takes; the QUIC reader has no such filter. -/
def filterControlMessage (proto : Protocol) (msg : Message) : Bool :=
  proto == .ws &&
    (msg.router.operation == ControlTypeConfig || msg.router.operation == ControlTypePing ||
      msg.router.operation == ControlTypePong)

/-- `MatchAndNotify`: `none` when no keeper channel is stored under the
    message's parent, otherwise the outcome of the non-blocking send. -/
def MatchAndNotify (req msg : Message) (s : Conn) : Option Conn :=
  match s.keeper.lookup msg.header.parentID with
  | none => none
  | some ch =>
    some (if s.writer = .waiting ch then
        -- the select receives it and `WaitResponse` deletes the channel
        { s with keeper := s.keeper.erase req.header.id, writer := .returned (some msg) none }
      else { s with dropped := s.dropped ++ [msg] })

/-- One iteration of the reader loop (`handleMessage`) on a message it has read. -/
def handleMessage (proto : Protocol) (autoRoute : Bool) (req msg : Message) (s : Conn) : Conn :=
  if filterControlMessage proto msg then s
  else
    match MatchAndNotify req msg s with
    | some s' => s'
    | none => if autoRoute then { s with routed := s.routed ++ [msg] } else { s with fifo := s.fifo ++ [msg] }

/-- What the call returns when the deadline passes first: WebSocket returns the
    error of `WaitResponse`, QUIC discards it. -/
def timeoutResult (proto : Protocol) (req : Message) : Option String :=
  match proto with
  | .ws => some ("wait response timeout, message id:" ++ req.header.id)
  | .quic => none

inductive ConnAction where
  /-- `lane.WriteMessage(msg)` succeeds. -/
  | write
  /-- `lane.WriteMessage(msg)` fails with `err`. -/
  | writeError (err : String)
  /-- `addKeepChannel`. -/
  | register
  | select
  | arrive (msg : Message)
  | read
  | timeout
  deriving DecidableEq, Repr

def connStep (proto : Protocol) (autoRoute : Bool) (req : Message) (s : Conn) : ConnAction → Option Conn
  | .write =>
    match s.writer with
    | .writing => some { s with writer := .written }
    | _ => none
  | .writeError err =>
    match s.writer with
    | .writing => some { s with writer := .returned none (some err) }
    | _ => none
  | .register =>
    match s.writer with
    | .written =>
      some { s with keeper := s.keeper.insert req.header.id s.nextChan, nextChan := s.nextChan + 1
                    writer := .registered s.nextChan }
    | _ => none
  | .select =>
    match s.writer with
    | .registered ch => some { s with writer := .waiting ch }
    | _ => none
  | .arrive msg => some { s with incoming := s.incoming ++ [msg] }
  | .read =>
    match s.incoming with
    | msg :: rest => some (handleMessage proto autoRoute req msg { s with incoming := rest })
    | [] => none
  | .timeout =>
    match s.writer with
    | .waiting _ =>
      some { s with keeper := s.keeper.erase req.header.id
                    writer := .returned (some emptyMessage) (timeoutResult proto req) }
    | _ => none

def connRun (proto : Protocol) (autoRoute : Bool) (req : Message) : List ConnAction → Conn → Option Conn
  | [], s => some s
  | a :: rest, s => (connStep proto autoRoute req s a).bind (connRun proto autoRoute req rest)

/-- The keeper holds only the call's channel, and only while the call is
    registered or waiting; a WebSocket call that returns without error returns
    a response to its request. -/
structure ConnInv (proto : Protocol) (req : Message) (s : Conn) : Prop where
  keeper : ∀ n ch, s.keeper.lookup n = some ch →
    n = req.header.id ∧ (s.writer = .registered ch ∨ s.writer = .waiting ch)
  registered : ∀ ch, s.writer = .registered ch ∨ s.writer = .waiting ch → s.keeper.lookup req.header.id = some ch
  answered : ∀ m, s.writer = .returned (some m) none → proto = .ws → m.header.parentID = req.header.id

section Invariant

variable {proto : Protocol} {autoRoute : Bool} {req : Message} {s s' : Conn}

theorem ConnInv.init : ConnInv proto req Conn.init where
  keeper := by simp [Conn.init]
  registered := by simp [Conn.init]
  answered := by simp [Conn.init]

theorem ConnInv.keeper_empty (h : ConnInv proto req s) (hfree : ∀ ch, s.writer ≠ .registered ch ∧ s.writer ≠ .waiting ch) :
    ∀ n ch, s.keeper.lookup n ≠ some ch := by
  intro n ch hlookup
  rcases (h.keeper n ch hlookup).2 with hw | hw
  · exact (hfree ch).1 hw
  · exact (hfree ch).2 hw

theorem ConnInv.setWriter (h : ConnInv proto req s) {stage : WriterStage}
    (hfree : ∀ ch, s.writer ≠ .registered ch ∧ s.writer ≠ .waiting ch)
    (hwaits : ∀ ch, stage ≠ .registered ch ∧ stage ≠ .waiting ch)
    (hstage : ∀ m, stage ≠ .returned (some m) none) :
    ConnInv proto req { s with writer := stage } where
  keeper := fun n ch hlookup => absurd hlookup (h.keeper_empty hfree n ch)
  registered := by
    rintro ch (hw | hw)
    · exact absurd hw (hwaits ch).1
    · exact absurd hw (hwaits ch).2
  answered := fun m hm => absurd hm (hstage m)

theorem ConnInv.register (h : ConnInv proto req s) (hwritten : s.writer = .written) :
    ConnInv proto req { s with keeper := s.keeper.insert req.header.id s.nextChan, nextChan := s.nextChan + 1
                               writer := .registered s.nextChan } where
  keeper := by
    intro n ch hlookup
    by_cases hn : n = req.header.id
    · subst hn
      simp only [AList.lookup_insert, Option.some.injEq] at hlookup
      exact ⟨rfl, .inl (by rw [hlookup])⟩
    · rw [AList.lookup_insert_ne hn] at hlookup
      rcases (h.keeper n ch hlookup).2 with hw | hw <;> rw [hwritten] at hw <;> cases hw
  registered := by
    rintro ch (hw | hw) <;> cases hw
    simp
  answered := by simp

theorem ConnInv.of_same (h : ConnInv proto req s) {t : Conn} (hkeeper : t.keeper = s.keeper)
    (hwriter : t.writer = s.writer) : ConnInv proto req t where
  keeper := by
    rw [hkeeper, hwriter]
    exact h.keeper
  registered := by
    rw [hkeeper, hwriter]
    exact h.registered
  answered := by
    rw [hwriter]
    exact h.answered

theorem ConnInv.erase_lookup (h : ConnInv proto req s) (n : String) (ch : Nat) :
    (s.keeper.erase req.header.id).lookup n ≠ some ch := by
  intro hlookup
  by_cases hn : n = req.header.id
  · subst hn
    simp at hlookup
  · rw [AList.lookup_erase_ne hn] at hlookup
    exact hn (h.keeper n ch hlookup).1

theorem ConnInv.matchAndNotify (h : ConnInv proto req s) {msg : Message} {t : Conn}
    (hmatch : MatchAndNotify req msg s = some t) : ConnInv proto req t := by
  unfold MatchAndNotify at hmatch
  split at hmatch
  · cases hmatch
  · rename_i ch hlookup
    cases hmatch
    split_ifs
    · refine ⟨fun n ch' hl => absurd hl (h.erase_lookup n ch'), by simp, ?_⟩
      intro m hm _
      simp only [WriterStage.returned.injEq, Option.some.injEq, and_true] at hm
      subst hm
      -- the keeper holds only the request's ID, so the matched parent is the request
      exact (h.keeper _ ch hlookup).1
    · exact h.of_same rfl rfl

theorem ConnInv.handleMessage (h : ConnInv proto req s) (msg : Message) :
    ConnInv proto req (handleMessage proto autoRoute req msg s) := by
  unfold KubeEdge.Viaduct.handleMessage
  by_cases hcontrol : filterControlMessage proto msg
  · rw [if_pos hcontrol]
    exact h
  · rw [if_neg hcontrol]
    split
    · exact h.matchAndNotify ‹_›
    · split_ifs
      · exact h.of_same rfl rfl
      · exact h.of_same rfl rfl

theorem ConnInv.step (h : ConnInv proto req s) {a : ConnAction} (hstep : connStep proto autoRoute req s a = some s') :
    ConnInv proto req s' := by
  cases a with
  | write =>
    simp only [connStep] at hstep
    split at hstep
    · rename_i hw
      cases hstep
      exact h.setWriter (fun ch => by simp [hw]) (fun ch => by simp) (fun m => by simp)
    · cases hstep
  | writeError err =>
    simp only [connStep] at hstep
    split at hstep
    · rename_i hw
      cases hstep
      exact h.setWriter (fun ch => by simp [hw]) (fun ch => by simp) (fun m => by simp)
    · cases hstep
  | register =>
    simp only [connStep] at hstep
    split at hstep
    · rename_i hw
      cases hstep
      exact h.register hw
    · cases hstep
  | select =>
    simp only [connStep] at hstep
    split at hstep
    · rename_i ch hw
      cases hstep
      refine ⟨?_, ?_, by simp⟩
      · intro n ch' hlookup
        obtain ⟨hn, hw'⟩ := h.keeper n ch' hlookup
        rw [hw] at hw'
        refine ⟨hn, .inr ?_⟩
        rcases hw' with hw' | hw' <;> cases hw'
        rfl
      · rintro ch' (hw' | hw') <;> cases hw'
        exact h.registered ch (.inl hw)
    · cases hstep
  | arrive msg =>
    cases hstep
    exact h.of_same rfl rfl
  | read =>
    simp only [connStep] at hstep
    split at hstep
    · rename_i msg rest _
      cases hstep
      have hrest : ConnInv proto req { s with incoming := rest } := h.of_same rfl rfl
      exact hrest.handleMessage msg
    · cases hstep
  | timeout =>
    simp only [connStep] at hstep
    split at hstep
    · cases hstep
      refine ⟨fun n ch hl => absurd hl (h.erase_lookup n ch), by simp, ?_⟩
      intro m hm hws
      -- on WebSocket the timeout returns its error
      subst hws
      simp [timeoutResult] at hm
    · cases hstep

theorem ConnInv.run (h : ConnInv proto req s) {acts : List ConnAction}
    (hrun : connRun proto autoRoute req acts s = some s') : ConnInv proto req s' := by
  induction acts generalizing s with
  | nil =>
    cases hrun
    exact h
  | cons a rest ih =>
    obtain ⟨s₁, hstep, hrest⟩ := Option.bind_eq_some_iff.mp hrun
    exact ih (h.step hstep) hrest

end Invariant

def syncRequest : Message := ⟨⟨"q", "", "", true⟩, ⟨"edgehub", "resource", "query", "node/n/pod"⟩, none⟩

def keeperResponse : Message := NewRespByMessage "a" syncRequest none

def answeredSchedule : List ConnAction :=
  [.write, .register, .select, .arrive keeperResponse, .read]

/-- Over every schedule, a WebSocket `WriteMessageSync` that returns without
    error returns a response whose parent is its request. -/
theorem connRun_ws_answers_request {autoRoute : Bool} {req : Message} {acts : List ConnAction} {s : Conn}
    (hrun : connRun .ws autoRoute req acts Conn.init = some s) {m : Message}
    (hreturned : s.writer = .returned (some m) none) : m.header.parentID = req.header.id :=
  (ConnInv.init.run hrun).answered m hreturned rfl

theorem connRun_ws_answers_request_answered : keeperResponse.header.parentID = syncRequest.header.id :=
  @connRun_ws_answers_request false syncRequest answeredSchedule _ (Option.some_get (by decide)).symm
    keeperResponse (by decide)

/-- Over every schedule and on both protocols, once the call has returned the
    keeper holds no channel. -/
theorem connRun_keeper_released {proto : Protocol} {autoRoute : Bool} {req : Message} {acts : List ConnAction}
    {s : Conn} (hrun : connRun proto autoRoute req acts Conn.init = some s) {resp : Option Message}
    {err : Option String} (hreturned : s.writer = .returned resp err) (n : String) : s.keeper.lookup n = none := by
  cases hlookup : s.keeper.lookup n with
  | none => rfl
  | some ch =>
    obtain ⟨-, hw | hw⟩ := ((ConnInv.init).run hrun).keeper n ch hlookup <;> rw [hreturned] at hw <;> cases hw

theorem connRun_keeper_released_answered :
    ((connRun .ws false syncRequest answeredSchedule Conn.init).get (by decide)).keeper.lookup "q" = none :=
  @connRun_keeper_released .ws false syncRequest answeredSchedule _ (Option.some_get (by decide)).symm
    (some keeperResponse) none (by decide) "q"

def earlyResponseSchedule : List ConnAction :=
  [.write, .arrive keeperResponse, .read, .register, .select, .timeout]

def unreadyResponseSchedule : List ConnAction :=
  [.write, .register, .arrive keeperResponse, .read, .select, .timeout]

theorem connRun_loses_response :
    (connRun .ws false syncRequest earlyResponseSchedule Conn.init).map (fun s => (s.fifo, s.writer)) =
      some ([keeperResponse], .returned (some emptyMessage) (some "wait response timeout, message id:q")) ∧
    (connRun .ws false syncRequest unreadyResponseSchedule Conn.init).map (fun s => (s.dropped, s.writer)) =
      some ([keeperResponse], .returned (some emptyMessage) (some "wait response timeout, message id:q")) ∧
    (connRun .quic false syncRequest [.write, .register, .select, .timeout] Conn.init).map (·.writer) =
      some (.returned (some emptyMessage) none) := by
  decide

end KubeEdge.Viaduct
