import Mathlib.Data.List.AList
import KubeEdge.Beehive.Message

set_option autoImplicit false

/-!
# `ChannelContext`: synchronous sends between modules

`SendSync` puts its request on the module's channel, then registers an
unbuffered anonymous channel under the request's ID and waits on it until its
response timer fires; its deferred cleanup takes `anonChsLock` for writing and
deletes and closes the channel. The module that received the request answers
with `SendResp`, which holds the read lock while it sends on the channel
registered under the response's parent ID, and drops the response when there
is none.

Each step of a goroutine is one `ContextAction`. A writer holds `anonChsLock`
only inside one step; a reader holds it from its lookup until its send is
received. Timers may fire at any point of a wait.
-/

namespace KubeEdge.Beehive

def ChannelSizeDefault : Nat := 1024

def getAnonChannelName (msgID : String) : String := msgID

inductive SyncStage where
  | sending
  | registering
  | waiting (ch : Nat)
  | cleanup (ch : Nat) (resp : Option Message)
  | returned (resp : Option Message)
  deriving DecidableEq, Repr

def SyncStage.response : SyncStage → Option Message
  | .cleanup _ resp => resp
  | .returned resp => resp
  | _ => none

structure SyncCall where
  message : Message
  stage : SyncStage
  deriving DecidableEq, Repr

/-- Where a `SendResp` call is: before its lookup, or holding the read lock
    while it sends on `ch`. -/
inductive RespStage where
  | locking (resp : Message)
  | sending (ch : Nat) (resp : Message)
  | done
  deriving DecidableEq, Repr

def RespStage.holdsLock : RespStage → Bool
  | .sending _ _ => true
  | _ => false

structure ChannelContext where
  channel : List Message
  anonChannels : AList (fun _ : String => Nat)
  nextChan : Nat
  closed : List Nat
  readers : Nat
  calls : List SyncCall
  responders : List RespStage
  dropped : List Message

def ChannelContext.init (messages : List Message) : ChannelContext :=
  ⟨[], ∅, 0, [], 0, messages.map (⟨·, .sending⟩), [], []⟩

def syncMessage (message : Message) : Message :=
  { message with header := { message.header with sync := true } }

inductive ContextAction where
  /-- `reqChannel <- message` -/
  | send (call : Nat)
  /-- `sendTimer` fires first. -/
  | sendTimeout (call : Nat)
  /-- `anonChannels[anonName] = anonChan` under the write lock. -/
  | register (call : Nat)
  /-- `Receive` on the module's channel, answered by `SendResp(NewRespByMessage(..))`. -/
  | receive (respID : String) (content : Option ObjectMeta)
  /-- `SendResp` takes the read lock and looks the channel up. -/
  | lookup (responder : Nat)
  /-- `channel <- message` meets `resp = <-anonChan`. -/
  | deliver (responder call : Nat)
  /-- `respTimer` fires first. -/
  | respTimeout (call : Nat)
  /-- The deferred cleanup under the write lock. -/
  | cleanup (call : Nat)
  deriving DecidableEq, Repr

def contextStep (s : ChannelContext) : ContextAction → Option ChannelContext
  | .send i => s.calls[i]?.bind fun c =>
    if c.stage = .sending ∧ s.channel.length < ChannelSizeDefault then
      some { s with channel := s.channel ++ [syncMessage c.message]
                    calls := s.calls.set i { c with stage := .registering } }
    else none
  | .sendTimeout i => s.calls[i]?.bind fun c =>
    if c.stage = .sending then some { s with calls := s.calls.set i { c with stage := .returned none } }
    else none
  | .register i => s.calls[i]?.bind fun c =>
    if c.stage = .registering ∧ s.readers = 0 then
      some { s with anonChannels := s.anonChannels.insert (getAnonChannelName c.message.header.id) s.nextChan
                    nextChan := s.nextChan + 1
                    calls := s.calls.set i { c with stage := .waiting s.nextChan } }
    else none
  | .receive respID content =>
    match s.channel with
    | m :: rest =>
      some { s with channel := rest
                    responders := s.responders ++ [.locking (NewRespByMessage respID m content)] }
    | [] => none
  | .lookup j => s.responders[j]?.bind fun
    | .locking resp =>
      match s.anonChannels.lookup (getAnonChannelName resp.header.parentID) with
      | some ch => some { s with responders := s.responders.set j (.sending ch resp), readers := s.readers + 1 }
      -- "Get bad anonName ... do nothing"
      | none => some { s with responders := s.responders.set j .done, dropped := s.dropped ++ [resp] }
    | _ => none
  | .deliver j i => s.responders[j]?.bind fun
    | .sending ch resp => s.calls[i]?.bind fun c =>
      if c.stage = .waiting ch then
        some { s with responders := s.responders.set j .done, readers := s.readers - 1
                      calls := s.calls.set i { c with stage := .cleanup ch (some resp) } }
      else none
    | _ => none
  | .respTimeout i => s.calls[i]?.bind fun c =>
    match c.stage with
    | .waiting ch => some { s with calls := s.calls.set i { c with stage := .cleanup ch none } }
    | _ => none
  | .cleanup i => s.calls[i]?.bind fun c =>
    match c.stage with
    | .cleanup ch resp =>
      if s.readers = 0 then
        some { s with anonChannels := s.anonChannels.erase (getAnonChannelName c.message.header.id)
                      closed := s.closed ++ [ch]
                      calls := s.calls.set i { c with stage := .returned resp } }
      else none
    | _ => none

def contextRun : List ContextAction → ChannelContext → Option ChannelContext
  | [], s => some s
  | a :: rest, s => (contextStep s a).bind (contextRun rest)

inductive ContextStep (s : ChannelContext) : ChannelContext → Prop where
  | send {i : Nat} {c : SyncCall} (hc : s.calls[i]? = some c) (hstage : c.stage = .sending)
      (hroom : s.channel.length < ChannelSizeDefault) :
      ContextStep s { s with channel := s.channel ++ [syncMessage c.message]
                             calls := s.calls.set i { c with stage := .registering } }
  | sendTimeout {i : Nat} {c : SyncCall} (hc : s.calls[i]? = some c) (hstage : c.stage = .sending) :
      ContextStep s { s with calls := s.calls.set i { c with stage := .returned none } }
  | register {i : Nat} {c : SyncCall} (hc : s.calls[i]? = some c) (hstage : c.stage = .registering)
      (hfree : s.readers = 0) :
      ContextStep s { s with anonChannels := s.anonChannels.insert (getAnonChannelName c.message.header.id) s.nextChan
                             nextChan := s.nextChan + 1
                             calls := s.calls.set i { c with stage := .waiting s.nextChan } }
  | receive {m : Message} {rest : List Message} (respID : String) (content : Option ObjectMeta)
      (hchannel : s.channel = m :: rest) :
      ContextStep s { s with channel := rest
                             responders := s.responders ++ [.locking (NewRespByMessage respID m content)] }
  | lookupFound {j ch : Nat} {resp : Message} (hr : s.responders[j]? = some (.locking resp))
      (hch : s.anonChannels.lookup (getAnonChannelName resp.header.parentID) = some ch) :
      ContextStep s { s with responders := s.responders.set j (.sending ch resp), readers := s.readers + 1 }
  | lookupMissing {j : Nat} {resp : Message} (hr : s.responders[j]? = some (.locking resp))
      (hch : s.anonChannels.lookup (getAnonChannelName resp.header.parentID) = none) :
      ContextStep s { s with responders := s.responders.set j .done, dropped := s.dropped ++ [resp] }
  | deliver {j ch i : Nat} {resp : Message} {c : SyncCall} (hr : s.responders[j]? = some (.sending ch resp))
      (hc : s.calls[i]? = some c) (hstage : c.stage = .waiting ch) :
      ContextStep s { s with responders := s.responders.set j .done, readers := s.readers - 1
                             calls := s.calls.set i { c with stage := .cleanup ch (some resp) } }
  | respTimeout {i ch : Nat} {c : SyncCall} (hc : s.calls[i]? = some c) (hstage : c.stage = .waiting ch) :
      ContextStep s { s with calls := s.calls.set i { c with stage := .cleanup ch none } }
  | cleanup {i ch : Nat} {resp : Option Message} {c : SyncCall} (hc : s.calls[i]? = some c)
      (hstage : c.stage = .cleanup ch resp) (hfree : s.readers = 0) :
      ContextStep s { s with anonChannels := s.anonChannels.erase (getAnonChannelName c.message.header.id)
                             closed := s.closed ++ [ch]
                             calls := s.calls.set i { c with stage := .returned resp } }

section Steps

variable {s s' : ChannelContext}

theorem ContextStep.of_contextStep {a : ContextAction} (h : contextStep s a = some s') : ContextStep s s' := by
  cases a with
  | send i =>
    obtain ⟨c, hc, h⟩ := Option.bind_eq_some_iff.mp h
    split_ifs at h with hg
    cases h
    exact .send hc hg.1 hg.2
  | sendTimeout i =>
    obtain ⟨c, hc, h⟩ := Option.bind_eq_some_iff.mp h
    split_ifs at h with hg
    cases h
    exact .sendTimeout hc hg
  | register i =>
    obtain ⟨c, hc, h⟩ := Option.bind_eq_some_iff.mp h
    split_ifs at h with hg
    cases h
    exact .register hc hg.1 hg.2
  | receive respID content =>
    simp only [contextStep] at h
    split at h
    · cases h
      exact .receive respID content ‹_›
    · cases h
  | lookup j =>
    obtain ⟨r, hr, h⟩ := Option.bind_eq_some_iff.mp h
    split at h
    · split at h
      · cases h
        exact .lookupFound hr ‹_›
      · cases h
        exact .lookupMissing hr ‹_›
    · cases h
  | deliver j i =>
    obtain ⟨r, hr, h⟩ := Option.bind_eq_some_iff.mp h
    split at h
    · obtain ⟨c, hc, h⟩ := Option.bind_eq_some_iff.mp h
      split_ifs at h with hg
      cases h
      exact .deliver hr hc hg
    · cases h
  | respTimeout i =>
    obtain ⟨c, hc, h⟩ := Option.bind_eq_some_iff.mp h
    split at h
    · cases h
      exact .respTimeout hc ‹_›
    · cases h
  | cleanup i =>
    obtain ⟨c, hc, h⟩ := Option.bind_eq_some_iff.mp h
    split at h
    · split_ifs at h with hg
      cases h
      exact .cleanup hc ‹_› hg
    · cases h

theorem set_stage_messages {calls : List SyncCall} {i : Nat} {c : SyncCall} {stage : SyncStage}
    (hc : calls[i]? = some c) :
    (calls.set i { c with stage := stage }).map (·.message) = calls.map (·.message) := by
  obtain ⟨hi, rfl⟩ := List.getElem?_eq_some_iff.mp hc
  have hi' : i < (calls.map SyncCall.message).length := by simpa using hi
  have hget : (calls.map SyncCall.message)[i] = calls[i].message := List.getElem_map ..
  rw [List.map_set]
  show (calls.map SyncCall.message).set i calls[i].message = _
  rw [← hget, List.set_getElem_self]

theorem ContextStep.messages (h : ContextStep s s') :
    s'.calls.map (·.message) = s.calls.map (·.message) := by
  cases h with
  | receive => rfl
  | lookupFound => rfl
  | lookupMissing => rfl
  | send hc | sendTimeout hc | register hc | deliver _ hc | respTimeout hc | cleanup hc =>
    exact set_stage_messages hc

theorem ContextStep.messages_run (h : Relation.ReflTransGen ContextStep s s') :
    s'.calls.map (·.message) = s.calls.map (·.message) := by
  induction h with
  | refl => rfl
  | tail _ hstep ih => rw [hstep.messages, ih]

theorem contextRun_steps {acts : List ContextAction} (h : contextRun acts s = some s') :
    Relation.ReflTransGen ContextStep s s' := by
  induction acts generalizing s with
  | nil =>
    cases h
    exact .refl
  | cons a rest ih =>
    obtain ⟨s₁, hstep, hrest⟩ := Option.bind_eq_some_iff.mp h
    exact .head (.of_contextStep hstep) (ih hrest)

end Steps

/-! ### The invariant

The readers are the responders that hold the lock; every registered channel
and every channel a call waits on is older than `nextChan`; a call waiting on
a registered channel is the one registered under its name; a responder that
holds the lock sends on the channel registered under its parent ID; and a
call holds only a response to its own request. -/

structure ContextInv (s : ChannelContext) : Prop where
  readers : s.readers = s.responders.countP RespStage.holdsLock
  fresh : ∀ n ch, s.anonChannels.lookup n = some ch → ch < s.nextChan
  waiting_fresh : ∀ c ∈ s.calls, ∀ ch, c.stage = .waiting ch → ch < s.nextChan
  owner : ∀ n ch, s.anonChannels.lookup n = some ch →
    ∀ c ∈ s.calls, c.stage = .waiting ch → getAnonChannelName c.message.header.id = n
  registered : ∀ ch resp, RespStage.sending ch resp ∈ s.responders →
    s.anonChannels.lookup (getAnonChannelName resp.header.parentID) = some ch
  answered : ∀ c ∈ s.calls, ∀ resp, c.stage.response = some resp → resp.header.parentID = c.message.header.id

section Invariant

variable {s : ChannelContext}

theorem ContextInv.init (messages : List Message) : ContextInv (ChannelContext.init messages) where
  readers := rfl
  fresh := by simp [ChannelContext.init]
  waiting_fresh := by simp [ChannelContext.init]
  owner := by simp [ChannelContext.init]
  registered := by simp [ChannelContext.init]
  answered := by simp [ChannelContext.init, SyncStage.response]

theorem ContextInv.no_holder (hinv : ContextInv s) (hfree : s.readers = 0) :
    ∀ ch resp, RespStage.sending ch resp ∉ s.responders := by
  intro ch resp hmem
  have hreaders := hinv.readers
  have hpos : 0 < s.responders.countP RespStage.holdsLock :=
    List.countP_pos_iff.mpr ⟨_, hmem, rfl⟩
  omega

theorem mem_set_call {calls : List SyncCall} {i : Nat} {c c' : SyncCall} {stage : SyncStage}
    (h : c' ∈ calls.set i { c with stage := stage }) : c' ∈ calls ∨ c' = { c with stage := stage } :=
  List.mem_or_eq_of_mem_set h

theorem mem_of_set_waiting {calls : List SyncCall} {i ch : Nat} {c c' : SyncCall} {stage : SyncStage}
    (hnot : ∀ ch, stage ≠ .waiting ch) (h : c' ∈ calls.set i { c with stage := stage })
    (hwait : c'.stage = .waiting ch) : c' ∈ calls := by
  rcases mem_set_call h with h | rfl
  · exact h
  · exact absurd hwait (hnot ch)

theorem ContextInv.setStage (hinv : ContextInv s) (channel : List Message) {i : Nat} {c : SyncCall}
    {stage : SyncStage} (hwait : ∀ ch, stage ≠ .waiting ch) (hresp : stage.response = none) :
    ContextInv { s with channel := channel, calls := s.calls.set i { c with stage := stage } } where
  readers := hinv.readers
  fresh := hinv.fresh
  waiting_fresh c' hc' ch hstage := hinv.waiting_fresh c' (mem_of_set_waiting hwait hc' hstage) ch hstage
  owner n ch hlookup c' hc' hstage := hinv.owner n ch hlookup c' (mem_of_set_waiting hwait hc' hstage) hstage
  registered := hinv.registered
  answered := by
    intro c' hc' resp hr
    rcases mem_set_call hc' with hc' | rfl
    · exact hinv.answered c' hc' resp hr
    · simp [hresp] at hr

theorem ContextInv.register (hinv : ContextInv s) {i : Nat} {c : SyncCall} (hfree : s.readers = 0) :
    ContextInv { s with anonChannels := s.anonChannels.insert (getAnonChannelName c.message.header.id) s.nextChan
                        nextChan := s.nextChan + 1
                        calls := s.calls.set i { c with stage := .waiting s.nextChan } } where
  readers := hinv.readers
  fresh := by
    dsimp only
    intro n ch hlookup
    by_cases hn : n = getAnonChannelName c.message.header.id
    · subst hn
      simp only [AList.lookup_insert, Option.some.injEq] at hlookup
      omega
    · rw [AList.lookup_insert_ne hn] at hlookup
      have := hinv.fresh n ch hlookup
      omega
  waiting_fresh := by
    dsimp only
    intro c' hc' ch hstage
    rcases mem_set_call hc' with hc' | rfl
    · have := hinv.waiting_fresh c' hc' ch hstage
      omega
    · cases hstage
      omega
  owner := by
    dsimp only
    intro n ch hlookup c' hc' hstage
    -- the new channel is `nextChan`, on which no call waited before
    by_cases hn : n = getAnonChannelName c.message.header.id
    · subst hn
      simp only [AList.lookup_insert, Option.some.injEq] at hlookup
      subst hlookup
      rcases mem_set_call hc' with hc' | rfl
      · exact absurd (hinv.waiting_fresh c' hc' _ hstage) (Nat.lt_irrefl _)
      · rfl
    · rw [AList.lookup_insert_ne hn] at hlookup
      have hold := hinv.fresh n ch hlookup
      rcases mem_set_call hc' with hc' | rfl
      · exact hinv.owner n ch hlookup c' hc' hstage
      · cases hstage
        omega
  registered := fun ch resp hmem => absurd hmem (hinv.no_holder hfree ch resp)
  answered := by
    intro c' hc' resp hr
    rcases mem_set_call hc' with hc' | rfl
    · exact hinv.answered c' hc' resp hr
    · simp [SyncStage.response] at hr

theorem ContextInv.cleanup (hinv : ContextInv s) {i ch : Nat} {resp : Option Message} {c : SyncCall}
    (hc : s.calls[i]? = some c) (hstage : c.stage = .cleanup ch resp) (hfree : s.readers = 0) :
    ContextInv { s with anonChannels := s.anonChannels.erase (getAnonChannelName c.message.header.id)
                        closed := s.closed ++ [ch]
                        calls := s.calls.set i { c with stage := .returned resp } } where
  readers := hinv.readers
  fresh := by
    intro n ch' hlookup
    by_cases hn : n = getAnonChannelName c.message.header.id
    · subst hn
      simp at hlookup
    · rw [AList.lookup_erase_ne hn] at hlookup
      exact hinv.fresh n ch' hlookup
  waiting_fresh c' hc' ch' hwait :=
    hinv.waiting_fresh c' (mem_of_set_waiting (fun _ h => SyncStage.noConfusion h) hc' hwait) ch' hwait
  owner := by
    intro n ch' hlookup c' hc' hwait
    -- the erased name is looked up by nobody; every other entry was there before
    by_cases hn : n = getAnonChannelName c.message.header.id
    · subst hn
      simp at hlookup
    · rw [AList.lookup_erase_ne hn] at hlookup
      exact hinv.owner n ch' hlookup c' (mem_of_set_waiting (fun _ h => SyncStage.noConfusion h) hc' hwait) hwait
  registered := fun ch resp hmem => absurd hmem (hinv.no_holder hfree ch resp)
  answered := by
    intro c' hc' r hr
    rcases mem_set_call hc' with hc' | rfl
    · exact hinv.answered c' hc' r hr
    · have hmem : c ∈ s.calls := List.mem_of_getElem? hc
      exact hinv.answered c hmem r (by simpa [SyncStage.response, hstage] using hr)

theorem ContextInv.receive (hinv : ContextInv s) (rest : List Message) (r : RespStage)
    (hr : r.holdsLock = false) :
    ContextInv { s with channel := rest, responders := s.responders ++ [r] } where
  readers := by simp [hinv.readers, List.countP_append, hr]
  fresh := hinv.fresh
  waiting_fresh := hinv.waiting_fresh
  owner := hinv.owner
  registered := by
    intro ch resp hmem
    rcases List.mem_append.mp hmem with hmem | hmem
    · exact hinv.registered ch resp hmem
    · simp only [List.mem_singleton] at hmem
      subst hmem
      simp [RespStage.holdsLock] at hr
  answered := hinv.answered

theorem ContextInv.lookupFound (hinv : ContextInv s) {j ch : Nat} {resp : Message}
    (hr : s.responders[j]? = some (.locking resp))
    (hch : s.anonChannels.lookup (getAnonChannelName resp.header.parentID) = some ch) :
    ContextInv { s with responders := s.responders.set j (.sending ch resp), readers := s.readers + 1 } where
  readers := by
    obtain ⟨hj, hget⟩ := List.getElem?_eq_some_iff.mp hr
    simp [List.countP_set hj, hget, RespStage.holdsLock, hinv.readers]
  fresh := hinv.fresh
  waiting_fresh := hinv.waiting_fresh
  owner := hinv.owner
  registered := by
    intro ch' resp' hmem
    rcases List.mem_or_eq_of_mem_set hmem with hmem | heq
    · exact hinv.registered ch' resp' hmem
    · cases heq
      exact hch
  answered := hinv.answered

theorem ContextInv.lookupMissing (hinv : ContextInv s) {j : Nat} {resp : Message}
    (hr : s.responders[j]? = some (.locking resp)) :
    ContextInv { s with responders := s.responders.set j .done, dropped := s.dropped ++ [resp] } where
  readers := by
    obtain ⟨hj, hget⟩ := List.getElem?_eq_some_iff.mp hr
    simp [List.countP_set hj, hget, RespStage.holdsLock, hinv.readers]
  fresh := hinv.fresh
  waiting_fresh := hinv.waiting_fresh
  owner := hinv.owner
  registered := by
    intro ch' resp' hmem
    rcases List.mem_or_eq_of_mem_set hmem with hmem | heq
    · exact hinv.registered ch' resp' hmem
    · cases heq
  answered := hinv.answered

theorem ContextInv.deliver_answers (hinv : ContextInv s) {j ch i : Nat} {resp : Message} {c : SyncCall}
    (hr : s.responders[j]? = some (.sending ch resp)) (hc : s.calls[i]? = some c)
    (hstage : c.stage = .waiting ch) : resp.header.parentID = c.message.header.id := by
  have hlookup := hinv.registered ch resp (List.mem_of_getElem? hr)
  exact (hinv.owner _ ch hlookup c (List.mem_of_getElem? hc) hstage).symm

theorem ContextInv.deliver (hinv : ContextInv s) {j ch i : Nat} {resp : Message} {c : SyncCall}
    (hr : s.responders[j]? = some (.sending ch resp)) (hc : s.calls[i]? = some c)
    (hstage : c.stage = .waiting ch) :
    ContextInv { s with responders := s.responders.set j .done, readers := s.readers - 1
                        calls := s.calls.set i { c with stage := .cleanup ch (some resp) } } where
  readers := by
    obtain ⟨hj, hget⟩ := List.getElem?_eq_some_iff.mp hr
    have hle := List.boole_getElem_le_countP (p := RespStage.holdsLock) hj
    simp only [hget, RespStage.holdsLock, if_true] at hle
    simp [List.countP_set hj, hget, RespStage.holdsLock, hinv.readers]
  fresh := hinv.fresh
  waiting_fresh c' hc' ch' hwait :=
    hinv.waiting_fresh c' (mem_of_set_waiting (fun _ h => SyncStage.noConfusion h) hc' hwait) ch' hwait
  owner n ch' hlookup c' hc' hwait :=
    hinv.owner n ch' hlookup c' (mem_of_set_waiting (fun _ h => SyncStage.noConfusion h) hc' hwait) hwait
  registered := by
    intro ch' resp' hmem
    rcases List.mem_or_eq_of_mem_set hmem with hmem | heq
    · exact hinv.registered ch' resp' hmem
    · cases heq
  answered := by
    intro c' hc' r hresp
    rcases mem_set_call hc' with hc' | rfl
    · exact hinv.answered c' hc' r hresp
    · simp only [SyncStage.response, Option.some.injEq] at hresp
      subst hresp
      -- elaborated first: against the goal, `c` would unify with the updated call
      exact (hinv.deliver_answers hr hc hstage :)

theorem ContextInv.step {s' : ChannelContext} (hinv : ContextInv s) (h : ContextStep s s') : ContextInv s' := by
  cases h with
  | send _ _ _ => exact hinv.setStage _ (fun _ h => SyncStage.noConfusion h) rfl
  | sendTimeout _ _ => exact hinv.setStage _ (fun _ h => SyncStage.noConfusion h) rfl
  | register _ _ hfree => exact hinv.register hfree
  | receive _ _ _ => exact hinv.receive _ _ rfl
  | lookupFound hr hch => exact hinv.lookupFound hr hch
  | lookupMissing hr _ => exact hinv.lookupMissing hr
  | deliver hr hc hstage => exact hinv.deliver hr hc hstage
  | respTimeout _ _ => exact hinv.setStage _ (fun _ h => SyncStage.noConfusion h) rfl
  | cleanup hc hstage hfree => exact hinv.cleanup hc hstage hfree

theorem ContextInv.run {s' : ChannelContext} (hinv : ContextInv s) (h : Relation.ReflTransGen ContextStep s s') :
    ContextInv s' := by
  induction h with
  | refl => exact hinv
  | tail _ hstep ih => exact ih.step hstep

end Invariant

/-- Over every schedule, a `SendSync` call that returns a response returns
    one whose parent is its own request. -/
theorem contextRun_answers_own_request {messages : List Message} {acts : List ContextAction}
    {s : ChannelContext} (h : contextRun acts (ChannelContext.init messages) = some s)
    {i : Nat} {c : SyncCall} (hc : s.calls[i]? = some c) {resp : Message}
    (hreturned : c.stage = .returned (some resp)) :
    some resp.header.parentID = messages[i]?.map (·.header.id) := by
  have hsteps := contextRun_steps h
  have hinv := (ContextInv.init messages).run hsteps
  -- no step changes a request, so call `i` still carries `messages[i]`
  have hmessages : s.calls.map (·.message) = messages := by
    rw [ContextStep.messages_run hsteps]
    simp [ChannelContext.init, Function.comp_def]
  have hparent := hinv.answered c (List.mem_of_getElem? hc) resp (by simp [hreturned, SyncStage.response])
  rw [← hmessages, List.getElem?_map, hc, hparent]
  rfl

def syncRequest : Message := ⟨⟨"m", "", "", false⟩, ⟨"edged", "meta", "query", "pod"⟩, none⟩

def replySchedule : List ContextAction :=
  [.send 0, .register 0, .receive "r" none, .lookup 0, .deliver 0 0, .cleanup 0]

theorem contextRun_answers_own_request_reply :
    some (NewRespByMessage "r" syncRequest none).header.parentID = [syncRequest][0]?.map (·.header.id) :=
  @contextRun_answers_own_request [syncRequest] replySchedule _ (Option.some_get (by decide)).symm 0
    ⟨syncRequest, .returned (some (NewRespByMessage "r" syncRequest none))⟩ (by decide) _ rfl

/-- The stages in which a call owns its registered channel: it waits on it, or
    its deferred cleanup has yet to delete it. -/
def SyncStage.holdsChannel : SyncStage → Bool
  | .waiting _ => true
  | .cleanup _ _ => true
  | _ => false

def AnonOwned (s : ChannelContext) : Prop :=
  ∀ n ch, s.anonChannels.lookup n = some ch →
    ∃ c ∈ s.calls, getAnonChannelName c.message.header.id = n ∧ c.stage.holdsChannel = true

theorem mem_set_call_of_ne {calls : List SyncCall} {i : Nat} {c c' x : SyncCall} (hc : calls[i]? = some c)
    (hmem : c' ∈ calls) (hne : c' ≠ c) : c' ∈ calls.set i x := by
  obtain ⟨j, hj, rfl⟩ := List.getElem_of_mem hmem
  have hji : j ≠ i := by
    rintro rfl
    exact hne (Option.some.inj ((List.getElem?_eq_getElem hj).symm.trans hc))
  exact List.mem_iff_getElem?.mpr ⟨j, by rw [List.getElem?_set_ne (Ne.symm hji), List.getElem?_eq_getElem hj]⟩

section Owned

variable {s : ChannelContext}

theorem AnonOwned.setStage (h : AnonOwned s) {i : Nat} {c : SyncCall} (hc : s.calls[i]? = some c)
    {stage : SyncStage} {n : String} {ch : Nat} (hlookup : s.anonChannels.lookup n = some ch)
    (hkeep : c.stage.holdsChannel = true → getAnonChannelName c.message.header.id = n →
      stage.holdsChannel = true) :
    ∃ c' ∈ s.calls.set i { c with stage := stage },
      getAnonChannelName c'.message.header.id = n ∧ c'.stage.holdsChannel = true := by
  obtain ⟨c', hmem, hname, hholds⟩ := h n ch hlookup
  by_cases hcc : c' = c
  · -- the owner is the call that moves: it still owns the channel under its new stage
    subst hcc
    obtain ⟨hi, -⟩ := List.getElem?_eq_some_iff.mp hc
    exact ⟨_, List.mem_set hi _, hname, hkeep hholds hname⟩
  · exact ⟨c', mem_set_call_of_ne hc hmem hcc, hname, hholds⟩

theorem AnonOwned.init (messages : List Message) : AnonOwned (ChannelContext.init messages) := by
  intro n ch hlookup
  simp [ChannelContext.init] at hlookup

theorem AnonOwned.step {s' : ChannelContext} (h : AnonOwned s) (hstep : ContextStep s s') : AnonOwned s' := by
  cases hstep with
  | send hc hstage | sendTimeout hc hstage =>
    -- a call still sending owns nothing
    intro n ch hlookup
    exact h.setStage hc hlookup (fun hholds => by simp [hstage, SyncStage.holdsChannel] at hholds)
  | @register i c hc hstage hfree =>
    intro n ch hlookup
    by_cases hn : n = getAnonChannelName c.message.header.id
    · subst hn
      obtain ⟨hi, -⟩ := List.getElem?_eq_some_iff.mp hc
      exact ⟨_, List.mem_set hi _, rfl, rfl⟩
    · rw [AList.lookup_insert_ne hn] at hlookup
      exact h.setStage hc hlookup (fun _ hname => absurd hname.symm hn)
  | receive | lookupFound | lookupMissing => exact h
  | deliver _ hc _ | respTimeout hc _ =>
    intro n ch hlookup
    exact h.setStage hc hlookup (fun _ _ => rfl)
  | @cleanup i ch' resp c hc hstage hfree =>
    intro n ch hlookup
    -- the erased name is the cleaning call's own; the other names keep their owners
    by_cases hn : n = getAnonChannelName c.message.header.id
    · subst hn
      simp at hlookup
    · rw [AList.lookup_erase_ne hn] at hlookup
      exact h.setStage hc hlookup (fun _ hname => absurd hname.symm hn)

theorem AnonOwned.run {s' : ChannelContext} (h : AnonOwned s) (hrun : Relation.ReflTransGen ContextStep s s') :
    AnonOwned s' := by
  induction hrun with
  | refl => exact h
  | tail _ hstep ih => exact ih.step hstep

end Owned

def SyncStage.needsWriteLock : SyncStage → Bool
  | .registering => true
  | .cleanup _ _ => true
  | _ => false

/-- Responder `j` holds the read lock while it sends `resp` on `ch`, and no
    call waits on `ch`. -/
structure Stuck (ch : Nat) (resp : Message) (j : Nat) (s : ChannelContext) : Prop where
  inv : ContextInv s
  holds : s.responders[j]? = some (.sending ch resp)
  no_receiver : ∀ c ∈ s.calls, c.stage ≠ .waiting ch

section Stuck

variable {ch j : Nat} {resp : Message} {s s' : ChannelContext}

theorem Stuck.of_run {acts : List ContextAction} {messages : List Message}
    (hrun : contextRun acts (ChannelContext.init messages) = some s)
    (hholds : s.responders[j]? = some (.sending ch resp)) (hno : ∀ c ∈ s.calls, c.stage ≠ .waiting ch) :
    Stuck ch resp j s :=
  ⟨(ContextInv.init messages).run (contextRun_steps hrun), hholds, hno⟩

theorem Stuck.readers_pos (h : Stuck ch resp j s) : 0 < s.readers := by
  rw [h.inv.readers]
  exact List.countP_pos_iff.mpr ⟨_, List.mem_of_getElem? h.holds, rfl⟩

theorem Stuck.ne_of_locking (h : Stuck ch resp j s) {j' : Nat} {r : Message}
    (hr : s.responders[j']? = some (.locking r)) : j' ≠ j := by
  rintro rfl
  rw [h.holds] at hr
  cases hr

theorem no_receiver_set {calls : List SyncCall} {i : Nat} {c : SyncCall} {stage : SyncStage}
    (h : ∀ c ∈ calls, c.stage ≠ .waiting ch) (hstage : stage ≠ .waiting ch) :
    ∀ c' ∈ calls.set i { c with stage := stage }, c'.stage ≠ .waiting ch := by
  intro c' hc'
  rcases mem_set_call hc' with hc' | rfl
  · exact h c' hc'
  · exact hstage

theorem Stuck.step (h : Stuck ch resp j s) (hstep : ContextStep s s') : Stuck ch resp j s' := by
  have hpos := h.readers_pos
  have hinv := h.inv.step hstep
  cases hstep with
  | send _ _ _ => exact ⟨hinv, h.holds, no_receiver_set h.no_receiver (fun h => SyncStage.noConfusion h)⟩
  | sendTimeout _ _ => exact ⟨hinv, h.holds, no_receiver_set h.no_receiver (fun h => SyncStage.noConfusion h)⟩
  | register _ _ hfree => omega
  | receive _ _ _ =>
    have hj : j < s.responders.length := (List.getElem?_eq_some_iff.mp h.holds).1
    exact ⟨hinv, by rw [List.getElem?_append_left hj]; exact h.holds, h.no_receiver⟩
  | lookupFound hr _ =>
    exact ⟨hinv, by rw [List.getElem?_set_ne (h.ne_of_locking hr)]; exact h.holds, h.no_receiver⟩
  | lookupMissing hr _ =>
    exact ⟨hinv, by rw [List.getElem?_set_ne (h.ne_of_locking hr)]; exact h.holds, h.no_receiver⟩
  | @deliver j' ch' _ _ _ hr hc hstage =>
    -- the holder could only hand its response to a call waiting on `ch`, and there is none
    have hne : j' ≠ j := by
      rintro rfl
      rw [h.holds] at hr
      cases hr
      exact h.no_receiver _ (List.mem_of_getElem? hc) hstage
    exact ⟨hinv, by rw [List.getElem?_set_ne hne]; exact h.holds,
      no_receiver_set h.no_receiver (fun h => SyncStage.noConfusion h)⟩
  | respTimeout _ _ => exact ⟨hinv, h.holds, no_receiver_set h.no_receiver (fun h => SyncStage.noConfusion h)⟩
  | cleanup _ _ hfree => omega

theorem Stuck.run (h : Stuck ch resp j s) (hrun : Relation.ReflTransGen ContextStep s s') :
    Stuck ch resp j s' := by
  induction hrun with
  | refl => exact h
  | tail _ hstep ih => exact ih.step hstep

theorem keep_stage {calls : List SyncCall} {i i' : Nat} {c : SyncCall} {st stage : SyncStage}
    (hc : calls[i']? = some c) (hkeep : calls[i]?.map (·.stage) = some st) (hdiff : c.stage ≠ st) :
    (calls.set i' { c with stage := stage })[i]?.map (·.stage) = some st := by
  by_cases hi : i' = i
  · subst hi
    rw [hc] at hkeep
    exact absurd (Option.some.inj hkeep) hdiff
  · rw [List.getElem?_set_ne hi]
    exact hkeep

theorem ContextStep.keeps_locked_stage (hstep : ContextStep s s') (hpos : 0 < s.readers) {i : Nat}
    {st : SyncStage} (hst : st.needsWriteLock = true) (hkeep : s.calls[i]?.map (·.stage) = some st) :
    s'.calls[i]?.map (·.stage) = some st := by
  have hsending : SyncStage.sending ≠ st := by
    rintro rfl
    simp [SyncStage.needsWriteLock] at hst
  have hwaiting : ∀ ch, SyncStage.waiting ch ≠ st := by
    rintro ch rfl
    simp [SyncStage.needsWriteLock] at hst
  -- the reader blocks `register` and `cleanup`; every other step moves a call that does not write
  cases hstep with
  | send hc hstage _ => exact keep_stage hc hkeep (hstage ▸ hsending)
  | sendTimeout hc hstage => exact keep_stage hc hkeep (hstage ▸ hsending)
  | register _ _ hfree => omega
  | receive _ _ _ => exact hkeep
  | lookupFound _ _ => exact hkeep
  | lookupMissing _ _ => exact hkeep
  | deliver _ hc hstage => exact keep_stage hc hkeep (hstage ▸ hwaiting _)
  | respTimeout hc hstage => exact keep_stage hc hkeep (hstage ▸ hwaiting _)
  | cleanup _ _ hfree => omega

theorem Stuck.keeps_locked_stage (h : Stuck ch resp j s) (hrun : Relation.ReflTransGen ContextStep s s')
    {i : Nat} {st : SyncStage} (hst : st.needsWriteLock = true) (hkeep : s.calls[i]?.map (·.stage) = some st) :
    s'.calls[i]?.map (·.stage) = some st := by
  induction hrun with
  | refl => exact hkeep
  | tail hprefix hstep ih => exact hstep.keeps_locked_stage (h.run hprefix).readers_pos hst ih

end Stuck

def dropSchedule : List ContextAction :=
  [.send 0, .receive "r" none, .lookup 0, .register 0, .respTimeout 0, .cleanup 0]

def deadlockSchedule : List ContextAction :=
  [.send 0, .register 0, .receive "r" none, .lookup 0, .respTimeout 0]

/-- A response sent before its `SendSync` call has registered its channel is
    dropped, and the call times out. A response looked up before the call's
    timer fires leaves `SendResp` holding the read lock on a send nobody will
    receive, and the timed-out call's cleanup waits for the write lock: after
    any continuation both are still there. -/
theorem contextRun_drops_response_and_deadlocks :
    ((contextRun dropSchedule (ChannelContext.init [syncRequest])).map fun s =>
      (s.calls.map (·.stage), s.dropped.map (·.header.parentID))) = some ([.returned none], ["m"]) ∧
    ∃ s, contextRun deadlockSchedule (ChannelContext.init [syncRequest]) = some s ∧
      ∀ acts s', contextRun acts s = some s' →
        s'.responders[0]? = some (.sending 0 (NewRespByMessage "r" syncRequest none)) ∧ 0 < s'.readers ∧
        s'.calls[0]?.map (·.stage) = some (.cleanup 0 none) := by
  refine ⟨by decide, _, (Option.some_get (by decide)).symm, fun acts s' hrun => ?_⟩
  have hsteps := contextRun_steps hrun
  have hstuck : Stuck 0 (NewRespByMessage "r" syncRequest none) 0 _ :=
    Stuck.of_run
      (show contextRun deadlockSchedule (ChannelContext.init [syncRequest]) = some _ from
        (Option.some_get (by decide)).symm)
      (by decide) (by decide)
  have hstuck' := hstuck.run hsteps
  exact ⟨hstuck'.holds, hstuck'.readers_pos, hstuck.keeps_locked_stage hsteps rfl (by decide)⟩

end KubeEdge.Beehive
