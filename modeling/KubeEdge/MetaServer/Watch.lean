import Mathlib.Data.List.AList

set_option autoImplicit false

/-!
# Watches of the edge's metaserver

The imitator stores objects in `meta_v2` and keeps `revision`, the largest
resource version it has stored. `Inject` writes an event's object with
`InsertOrUpdateObj` or `DeleteObj` and then, as a separate step, calls
`Trigger`, which hands the event to every registered hook whose key matches
and whose resource version is strictly below the event's.

A watch started at revision 0 lists the key (`watchChan.sync`), takes the
listed revision `R` as its `initialRev`, and then registers a hook at `R + 1`
(`imitator.Watch`). The four steps run on their own goroutines with no lock
between them. Each object is its key and its resource version; the watch's
selection predicate is `Everything`, so `processEvent` passes every event on
and the model stops at the watcher's incoming channel.
-/

namespace KubeEdge.MetaServer

inductive EventType where
  | added
  | modified
  | deleted
  deriving DecidableEq, Repr

/-- The group-version-resource, namespace and name `metaserver.ParseKey` reads
    from a key, `"null"` already read as `""`. -/
structure ObjKey where
  gvr : String
  ns : String
  name : String
  deriving DecidableEq, Repr

structure WatchEvent where
  type : EventType
  key : ObjKey
  resourceVersion : Nat
  deriving DecidableEq, Repr

structure WatchHook where
  gvr : String
  ns : String
  name : String
  resourceVersion : Nat
  deriving DecidableEq, Repr

def NewWatchHook (key : ObjKey) (rev : Nat) : WatchHook :=
  ⟨key.gvr, key.ns, key.name, rev⟩

def hookMatches (hook : WatchHook) (e : WatchEvent) : Bool :=
  let compGVR := hook.gvr == "" || hook.gvr == e.key.gvr
  let compNS := hook.ns == "" || hook.ns == e.key.ns
  let compName := hook.name == "" || hook.name == e.key.name
  let compRev := hook.resourceVersion == 0 || decide (hook.resourceVersion < e.resourceVersion)
  compGVR && compNS && compName && compRev

def NullNamespace : String := "null"
def NullName : String := "null"

abbrev MetaV2 := AList (fun _ : ObjKey => Nat)

/-- The rows `RawMetaByGVRNN` selects: all of them for an empty
    group-version-resource, otherwise those of that resource, namespace and name. -/
def RawMetaByGVRNN (metaV2 : MetaV2) (gvr ns name : String) : List (Sigma fun _ : ObjKey => Nat) :=
  metaV2.entries.filter fun row =>
    gvr == "" ||
      (row.1.gvr == gvr && (ns == NullNamespace || ns == "" || row.1.ns == ns) &&
        (name == NullName || name == "" || row.1.name == name))

/-- Where the watch is: before its list, listed at `initialRev`, or with its hook
    registered. -/
inductive WatcherStage where
  | start
  | synced (initialRev : Nat)
  | watching (initialRev : Nat)
  deriving DecidableEq, Repr

structure Imitator where
  metaV2 : MetaV2
  revision : Nat
  hook : Option WatchHook
  pending : List WatchEvent
  watcher : WatcherStage
  listed : List WatchEvent
  hooked : List WatchEvent

def Imitator.init (metaV2 : MetaV2) (revision : Nat) : Imitator :=
  ⟨metaV2, revision, none, [], .start, [], []⟩

def InsertOrUpdateObj (key : ObjKey) (rv : Nat) (s : Imitator) : Imitator :=
  { s with metaV2 := s.metaV2.insert key rv
           revision := if rv > s.revision then rv else s.revision }

def DeleteObj (key : ObjKey) (s : Imitator) : Imitator :=
  { s with metaV2 := s.metaV2.erase key }

def injectStore (e : WatchEvent) (s : Imitator) : Imitator :=
  match e.type with
  | .added | .modified => InsertOrUpdateObj e.key e.resourceVersion s
  | .deleted => DeleteObj e.key s

@[simp] theorem injectStore_watcher (e : WatchEvent) (s : Imitator) : (injectStore e s).watcher = s.watcher := by
  unfold injectStore
  split <;> rfl

@[simp] theorem injectStore_hook (e : WatchEvent) (s : Imitator) : (injectStore e s).hook = s.hook := by
  unfold injectStore
  split <;> rfl

@[simp] theorem injectStore_listed (e : WatchEvent) (s : Imitator) : (injectStore e s).listed = s.listed := by
  unfold injectStore
  split <;> rfl

@[simp] theorem injectStore_hooked (e : WatchEvent) (s : Imitator) : (injectStore e s).hooked = s.hooked := by
  unfold injectStore
  split <;> rfl

def parseMeta (row : Sigma fun _ : ObjKey => Nat) : WatchEvent :=
  ⟨.added, row.1, row.2⟩

inductive WatchAction where
  | inject (e : WatchEvent)
  | trigger (index : Nat)
  | sync
  | watch
  deriving DecidableEq, Repr

def watchStep (key : ObjKey) (s : Imitator) : WatchAction → Option Imitator
  | .inject e => some { injectStore e s with pending := s.pending ++ [e] }
  | .trigger i =>
    match s.pending[i]? with
    | some e =>
      let delivered := match s.hook with
        | some hook => if hookMatches hook e then [e] else []
        | none => []
      some { s with pending := s.pending.eraseIdx i, hooked := s.hooked ++ delivered }
    | none => none
  | .sync =>
    match s.watcher with
    | .start =>
      some { s with listed := (RawMetaByGVRNN s.metaV2 key.gvr key.ns key.name).map parseMeta
                    watcher := .synced s.revision }
    | _ => none
  | .watch =>
    match s.watcher with
    | .synced initialRev =>
      some { s with hook := some (NewWatchHook key (initialRev + 1)), watcher := .watching initialRev }
    | _ => none

def watchRun (key : ObjKey) : List WatchAction → Imitator → Option Imitator
  | [], s => some s
  | a :: rest, s => (watchStep key s a).bind (watchRun key rest)

section Store

variable {s : Imitator}

def StoredLE (s : Imitator) : Prop :=
  ∀ k rv, s.metaV2.lookup k = some rv → rv ≤ s.revision

theorem StoredLE.insertOrUpdate (h : StoredLE s) (key : ObjKey) (rv : Nat) :
    StoredLE (InsertOrUpdateObj key rv s) ∧ s.revision ≤ (InsertOrUpdateObj key rv s).revision := by
  have hle : s.revision ≤ (InsertOrUpdateObj key rv s).revision := by
    simp only [InsertOrUpdateObj]
    split_ifs <;> omega
  refine ⟨?_, hle⟩
  intro k rv' hlookup
  by_cases hk : k = key
  · subst hk
    simp only [InsertOrUpdateObj, AList.lookup_insert, Option.some.injEq] at hlookup ⊢
    split_ifs <;> omega
  · rw [InsertOrUpdateObj, AList.lookup_insert_ne hk] at hlookup
    exact le_trans (h k rv' hlookup) hle

theorem StoredLE.delete (h : StoredLE s) (key : ObjKey) :
    StoredLE (DeleteObj key s) ∧ s.revision ≤ (DeleteObj key s).revision := by
  refine ⟨?_, le_rfl⟩
  intro k rv hlookup
  by_cases hk : k = key
  · subst hk
    simp [DeleteObj] at hlookup
  · exact h k rv (by simpa [DeleteObj, AList.lookup_erase_ne hk] using hlookup)

theorem StoredLE.inject (h : StoredLE s) (e : WatchEvent) :
    StoredLE (injectStore e s) ∧ s.revision ≤ (injectStore e s).revision := by
  unfold injectStore
  split
  · exact h.insertOrUpdate _ _
  · exact h.insertOrUpdate _ _
  · exact h.delete _

theorem RawMetaByGVRNN_le (h : StoredLE s) (gvr ns name : String) :
    ∀ e ∈ (RawMetaByGVRNN s.metaV2 gvr ns name).map parseMeta, e.resourceVersion ≤ s.revision := by
  intro e he
  obtain ⟨row, hrow, rfl⟩ := List.mem_map.mp he
  have hmem : row ∈ s.metaV2.entries := List.mem_of_mem_filter hrow
  exact h row.1 row.2 (AList.mem_lookup_iff.mpr hmem)

end Store

/-- The watch's received events against its stage: nothing before the list,
    listed versions at most `initialRev`, and, once the hook is registered at
    `initialRev + 1`, hooked versions above it. -/
def WatcherStage.Consistent (key : ObjKey) (s : Imitator) : WatcherStage → Prop
  | .start => s.hook = none ∧ s.hooked = []
  | .synced initialRev => s.hook = none ∧ s.hooked = [] ∧ ∀ e ∈ s.listed, e.resourceVersion ≤ initialRev
  | .watching initialRev =>
    s.hook = some (NewWatchHook key (initialRev + 1)) ∧ (∀ e ∈ s.listed, e.resourceVersion ≤ initialRev) ∧
      ∀ e ∈ s.hooked, initialRev + 1 < e.resourceVersion

structure WatchInv (key : ObjKey) (s : Imitator) : Prop where
  stored : StoredLE s
  stage : s.watcher.Consistent key s

section Invariant

variable {key : ObjKey} {s s' : Imitator}

theorem WatchInv.init {metaV2 : MetaV2} {revision : Nat} (h : StoredLE (Imitator.init metaV2 revision)) :
    WatchInv key (Imitator.init metaV2 revision) :=
  ⟨h, rfl, rfl⟩

theorem WatcherStage.Consistent.congr {st : WatcherStage} {t : Imitator} (hh : t.hook = s.hook)
    (hl : t.listed = s.listed) (hk : t.hooked = s.hooked) (h : st.Consistent key s) : st.Consistent key t := by
  cases st <;> simpa only [WatcherStage.Consistent, hh, hl, hk] using h

theorem hookMatches_rev {key : ObjKey} {initialRev : Nat} {e : WatchEvent}
    (h : hookMatches (NewWatchHook key (initialRev + 1)) e = true) : initialRev + 1 < e.resourceVersion := by
  simp only [hookMatches, NewWatchHook, Bool.and_eq_true, Bool.or_eq_true, beq_iff_eq] at h
  obtain ⟨-, hzero | hlt⟩ := h
  · omega
  · exact of_decide_eq_true hlt

theorem WatchInv.inject (h : WatchInv key s) (e : WatchEvent) :
    WatchInv key { injectStore e s with pending := s.pending ++ [e] } := by
  refine ⟨(h.stored.inject e).1, ?_⟩
  show (injectStore e s).watcher.Consistent key _
  rw [injectStore_watcher]
  exact h.stage.congr (injectStore_hook e s) (injectStore_listed e s) (injectStore_hooked e s)

theorem WatchInv.trigger (h : WatchInv key s) {i : Nat} {e : WatchEvent} (delivered : List WatchEvent)
    (hdelivered : delivered = match s.hook with
      | some hook => if hookMatches hook e then [e] else []
      | none => []) :
    WatchInv key { s with pending := s.pending.eraseIdx i, hooked := s.hooked ++ delivered } := by
  refine ⟨h.stored, ?_⟩
  have hstage := h.stage
  show s.watcher.Consistent key { s with pending := s.pending.eraseIdx i, hooked := s.hooked ++ delivered }
  -- before the hook is registered nothing is delivered; after, only what passes it
  cases hs : s.watcher with
  | start =>
    rw [hs] at hstage
    obtain ⟨hhook, hhooked⟩ := hstage
    rw [hhook] at hdelivered
    exact ⟨hhook, by simp [hhooked, hdelivered]⟩
  | synced R =>
    rw [hs] at hstage
    obtain ⟨hhook, hhooked, hlisted⟩ := hstage
    rw [hhook] at hdelivered
    exact ⟨hhook, by simp [hhooked, hdelivered], hlisted⟩
  | watching R =>
    rw [hs] at hstage
    obtain ⟨hhook, hlisted, hhooked⟩ := hstage
    rw [hhook] at hdelivered
    dsimp only at hdelivered
    refine ⟨hhook, hlisted, ?_⟩
    intro e' he'
    rcases List.mem_append.mp he' with he' | he'
    · exact hhooked e' he'
    · split_ifs at hdelivered with hmatch
      · subst hdelivered
        rw [List.mem_singleton.mp he']
        exact hookMatches_rev hmatch
      · subst hdelivered
        cases he'

theorem WatchInv.step (h : WatchInv key s) {a : WatchAction} (hstep : watchStep key s a = some s') :
    WatchInv key s' := by
  cases a with
  | inject e =>
    cases hstep
    exact h.inject e
  | trigger i =>
    simp only [watchStep] at hstep
    split at hstep
    · cases hstep
      exact h.trigger _ rfl
    · cases hstep
  | sync =>
    simp only [watchStep] at hstep
    split at hstep
    · rename_i hs
      cases hstep
      have hstage := h.stage
      rw [hs] at hstage
      exact ⟨h.stored, hstage.1, hstage.2, RawMetaByGVRNN_le h.stored _ _ _⟩
    · cases hstep
  | watch =>
    simp only [watchStep] at hstep
    split at hstep
    · rename_i R hs
      cases hstep
      have hstage := h.stage
      rw [hs] at hstage
      obtain ⟨-, hhooked, hlisted⟩ := hstage
      exact ⟨h.stored, rfl, hlisted, by simp [hhooked]⟩
    · cases hstep

theorem WatchInv.run (h : WatchInv key s) {acts : List WatchAction} (hrun : watchRun key acts s = some s') :
    WatchInv key s' := by
  induction acts generalizing s with
  | nil =>
    cases hrun
    exact h
  | cons a rest ih =>
    obtain ⟨s₁, hstep, hrest⟩ := Option.bind_eq_some_iff.mp hrun
    exact ih (h.step hstep) hrest

end Invariant

theorem watchRun_append (key : ObjKey) (acts acts' : List WatchAction) (s : Imitator) :
    watchRun key (acts ++ acts') s = (watchRun key acts s).bind (watchRun key acts') := by
  induction acts generalizing s with
  | nil => rfl
  | cons a rest ih =>
    simp only [List.cons_append, watchRun]
    cases watchStep key s a with
    | none => rfl
    | some s₁ => exact ih s₁

theorem watchStep_watching {key : ObjKey} {s s' : Imitator} {initialRev : Nat} {a : WatchAction}
    (hwatching : s.watcher = .watching initialRev) (hstep : watchStep key s a = some s') :
    s'.watcher = .watching initialRev := by
  cases a with
  | inject e =>
    cases hstep
    rw [← hwatching]
    exact injectStore_watcher e s
  | trigger i =>
    simp only [watchStep] at hstep
    split at hstep
    · cases hstep
      exact hwatching
    · cases hstep
  | sync => simp [watchStep, hwatching] at hstep
  | watch => simp [watchStep, hwatching] at hstep

theorem watchRun_watching {key : ObjKey} {s s' : Imitator} {initialRev : Nat} {acts : List WatchAction}
    (hwatching : s.watcher = .watching initialRev) (hrun : watchRun key acts s = some s') :
    s'.watcher = .watching initialRev := by
  induction acts generalizing s with
  | nil =>
    cases hrun
    exact hwatching
  | cons a rest ih =>
    obtain ⟨s₁, hstep, hrest⟩ := Option.bind_eq_some_iff.mp hrun
    exact ih (watchStep_watching hwatching hstep) hrest

/-- Over every schedule from a store whose revision bounds its versions, once
    the watch has listed at `initialRev` and registered its hook, what it
    listed is at most `initialRev` and what its hook passed is above
    `initialRev + 1`: nothing at or below the listed revision comes again, and
    no change at `initialRev + 1` ever comes. -/
theorem watchRun_received_versions {key : ObjKey} {metaV2 : MetaV2} {revision : Nat}
    (hstored : StoredLE (Imitator.init metaV2 revision)) {acts : List WatchAction} {s : Imitator}
    (hrun : watchRun key acts (Imitator.init metaV2 revision) = some s) {initialRev : Nat}
    (hwatching : s.watcher = .watching initialRev) :
    (∀ e ∈ s.listed, e.resourceVersion ≤ initialRev) ∧ ∀ e ∈ s.hooked, initialRev + 1 < e.resourceVersion := by
  have hstage := ((WatchInv.init hstored).run hrun).stage
  rw [hwatching] at hstage
  exact hstage.2

theorem watchStep_trigger_delivers {key : ObjKey} {s : Imitator} {initialRev i : Nat} {e : WatchEvent}
    (hinv : WatchInv key s) (hwatching : s.watcher = .watching initialRev) (hpending : s.pending[i]? = some e)
    (hkey : e.key = key) (hrev : initialRev + 1 < e.resourceVersion) :
    (watchStep key s (.trigger i)).map (·.hooked) = some (s.hooked ++ [e]) := by
  have hstage := hinv.stage
  rw [hwatching] at hstage
  have hmatch : hookMatches (NewWatchHook key (initialRev + 1)) e = true := by
    subst hkey
    simp [hookMatches, NewWatchHook, hrev]
  simp [watchStep, hpending, hstage.1, hmatch]

def podsKey : ObjKey := ⟨"/v1, Resource=pods", "default", ""⟩
def webKey : ObjKey := ⟨"/v1, Resource=pods", "default", "web"⟩

def webStore : Imitator := Imitator.init (AList.insert webKey 5 ∅) 5

def webChange (rv : Nat) : WatchEvent := ⟨.modified, webKey, rv⟩

def lateChangeSchedule : List WatchAction := [.sync, .watch, .inject (webChange 6), .trigger 0]

def racingChangeSchedule : List WatchAction := [.sync, .inject (webChange 7), .trigger 0, .watch]

theorem watchRun_misses_changes :
    (∃ s, watchRun podsKey lateChangeSchedule webStore = some s ∧ s.watcher = .watching 5 ∧
      ∀ acts s', watchRun podsKey acts s = some s' → webChange 6 ∉ s'.listed ∧ webChange 6 ∉ s'.hooked) ∧
    (watchRun podsKey racingChangeSchedule webStore).map (fun s => (s.watcher, s.listed, s.hooked)) =
      some (.watching 5, [⟨.added, webKey, 5⟩], []) := by
  have hstored : StoredLE webStore := by
    intro k rv hlookup
    by_cases hk : k = webKey
    · subst hk
      simp only [webStore, Imitator.init, AList.lookup_insert, Option.some.injEq] at hlookup ⊢
      omega
    · simp only [webStore, Imitator.init, AList.lookup_insert_ne hk, AList.lookup_empty] at hlookup
      cases hlookup
  obtain ⟨s, hs⟩ : ∃ s, watchRun podsKey lateChangeSchedule webStore = some s :=
    Option.isSome_iff_exists.mp (by decide)
  have hwatching : s.watcher = .watching 5 := by
    have hmap : (watchRun podsKey lateChangeSchedule webStore).map (·.watcher) = some (.watching 5) := by
      decide
    rw [hs] at hmap
    exact Option.some.inj hmap
  refine ⟨⟨s, hs, hwatching, fun acts s' hrun => ?_⟩, by decide⟩
  have hall : watchRun podsKey (lateChangeSchedule ++ acts) webStore = some s' := by
    rw [watchRun_append, hs]
    exact hrun
  obtain ⟨hlisted, hhooked⟩ := watchRun_received_versions hstored hall (watchRun_watching hwatching hrun)
  -- version 6 is neither at most the listed 5 nor above the hook's 6
  exact ⟨fun h => absurd (hlisted _ h) (by decide), fun h => absurd (hhooked _ h) (by decide)⟩

end KubeEdge.MetaServer
