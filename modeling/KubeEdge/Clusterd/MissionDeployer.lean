import KubeEdge.Lib.FoldM
import KubeEdge.Go.Strings
import Mathlib.Data.List.AList
import Mathlib.Data.List.Infix

set_option autoImplicit false

/-!
# The mission cache of clusterd

`MissionDeployer.MissionMatch` maps the name of each mission clusterd received
to whether it matches this cluster. The `syncCloud` goroutine writes it in
`ApplyMission` and `DeleteMission` (also through `AlignMissionList`), each
write under `cacheLock`; the `EdgeClusterStateReporter` goroutine ranges over
it in `getEdgeClusterStateRequest` to report the received and the active
missions, without the lock.

The two goroutines are a transition system. The writer's map write is two
steps, as the Go runtime marks a map being written (`hashWriting`) for the
length of the write; every step of a `range` over the map checks that mark and
throws `concurrent map iteration and map write` when it is set. A `range`
visits the keys in an order of its choice; an entry deleted before it is
reached is not produced, and one created during the range is not produced
(one of the behaviours Go allows). What the kubectl commands answer is a
parameter where it decides a cache write (the listing of the cluster's missions
and the get of one by name in `AlignMissionList`); the commands that only follow
a write, the mission's content and state, and the reporter's other fields are
left out. The reporter ranges when the local cluster is healthy, the case
modelled.
-/

namespace KubeEdge.Clusterd

open KubeEdge.Lib KubeEdge.Go

structure Placement where
  Clusters : List String
  MatchLabels : List (String × String)
  deriving DecidableEq, Repr

structure Mission where
  Name : String
  Placement : Placement
  deriving DecidableEq, Repr

/-- The part of `config.Config` the cache reads: the cluster's name and labels. -/
structure ClusterConfig where
  Name : String
  Labels : List (String × String)
  deriving DecidableEq, Repr

def isMatchingMission (config : ClusterConfig) (mission : Mission) : Bool :=
  -- an empty placement matches every edge cluster
  if mission.Placement.Clusters.length = 0 ∧ mission.Placement.MatchLabels.length = 0 then true
  else if mission.Placement.Clusters.any (· == config.Name) then true
  else if mission.Placement.MatchLabels.length = 0 then false
  else mission.Placement.MatchLabels.any fun (k, v) => config.Labels.lookup k == some v

abbrev MissionMatch := AList (fun _ : String => Bool)

def ApplyMission (config : ClusterConfig) (mission : Mission) (m : MissionMatch) : MissionMatch :=
  m.insert mission.Name (isMatchingMission config mission)

def DeleteMission (mission : Mission) (m : MissionMatch) : MissionMatch :=
  m.erase mission.Name

inductive CacheOp where
  | apply (mission : Mission)
  | delete (mission : Mission)
  deriving DecidableEq, Repr

def CacheOp.name : CacheOp → String
  | .apply mission => mission.Name
  | .delete mission => mission.Name

def CacheOp.write (config : ClusterConfig) (m : MissionMatch) : CacheOp → MissionMatch
  | .apply mission => ApplyMission config mission m
  | .delete mission => DeleteMission mission m

/-- `GetLocalClusterScopeResourceNames`, given what its kubectl command printed,
    or the command's error, whose text it returns as the one name. -/
def GetLocalClusterScopeResourceNames (output : Except String String) : List String :=
  match output with
  | .error err => [err]
  | .ok output => ((Split output '\n').map TrimSpace).filter fun name => name.length > 0

/-- The cache writes of `AlignMissionList`, given kubectl's listing of the
    cluster's missions and its answer to the get of a mission by name: every
    listed mission applied, then every local mission the list does not name
    deleted, when `DeleteMissionByName` gets it. -/
def AlignMissionList (listing : Except String String) (GetMissionByName : String → Except String Mission)
    (missionList : List Mission) : List CacheOp :=
  missionList.map .apply ++
    ((GetLocalClusterScopeResourceNames listing).filter fun mi => mi ∉ missionList.map (·.Name)).filterMap fun mi =>
      match GetMissionByName mi with
      | .ok mission => some (.delete mission)
      | .error _ => none

inductive WriterState where
  | idle
  /-- holds `cacheLock`, the write not begun -/
  | locked (op : CacheOp)
  /-- inside the map write: the runtime's `hashWriting` mark is set -/
  | writing (op : CacheOp)
  /-- the write done, `cacheLock` still held -/
  | written
  deriving DecidableEq, Repr

inductive ReporterState where
  | idle
  /-- in `for k, v := range MissionMatch`, with the keys still to visit -/
  | ranging (keys : List String) (receivedMissions matchedMissions : List String)
  deriving DecidableEq, Repr

structure System where
  MissionMatch : MissionMatch
  cacheLock : Bool
  pending : List CacheOp
  writer : WriterState
  reporter : ReporterState
  reports : List (List String × List String)
  /-- the runtime's fatal error, which stops every goroutine -/
  fatal : Option String

inductive Action where
  | lock
  | beginWrite
  | endWrite
  | unlock
  | startRange (keys : List String)
  | next
  | finish
  deriving DecidableEq, Repr

def concurrentIterationAndWrite : String := "concurrent map iteration and map write"

def WriterState.isWriting : WriterState → Bool
  | .writing _ => true
  | _ => false

/-- One step of a `range` over the map: the runtime throws when a write is under way. -/
def System.iterCheck (s : System) (reporter : ReporterState) : System :=
  if s.writer.isWriting then { s with fatal := some concurrentIterationAndWrite }
  else { s with reporter := reporter }

def System.lock (s : System) : Option System :=
  match s.writer, s.pending with
  | .idle, op :: ops =>
    if s.cacheLock then none else some { s with cacheLock := true, writer := .locked op, pending := ops }
  | _, _ => none

def System.beginWrite (s : System) : Option System :=
  match s.writer with
  | .locked op => some { s with writer := .writing op }
  | _ => none

def System.endWrite (config : ClusterConfig) (s : System) : Option System :=
  match s.writer with
  | .writing op => some { s with writer := .written, MissionMatch := op.write config s.MissionMatch }
  | _ => none

def System.unlock (s : System) : Option System :=
  match s.writer with
  | .written => some { s with writer := .idle, cacheLock := false }
  | _ => none

/-- The start of `for k, v := range MissionMatch`, in the key order `keys`. -/
def System.startRange (s : System) (keys : List String) : Option System :=
  match s.reporter with
  | .idle => if keys.Perm s.MissionMatch.keys then some (s.iterCheck (.ranging keys [] [])) else none
  | _ => none

/-- The range's next entry: an entry deleted since the range began is not produced. -/
def System.next (s : System) : Option System :=
  match s.reporter with
  | .ranging (k :: ks) received matched =>
    some <| s.iterCheck <|
      match s.MissionMatch.lookup k with
      | some v => .ranging ks (received ++ [k]) (if v then matched ++ [k] else matched)
      | none => .ranging ks received matched
  | _ => none

def System.finish (s : System) : Option System :=
  match s.reporter with
  | .ranging [] received matched => some { s with reporter := .idle, reports := s.reports ++ [(received, matched)] }
  | _ => none

/-- The step an action takes, or `none` when it cannot be taken; nothing runs
    after a fatal error. -/
def step (config : ClusterConfig) (s : System) (a : Action) : Option System :=
  if s.fatal.isSome then none
  else
    match a with
    | .lock => s.lock
    | .beginWrite => s.beginWrite
    | .endWrite => s.endWrite config
    | .unlock => s.unlock
    | .startRange keys => s.startRange keys
    | .next => s.next
    | .finish => s.finish

def run (config : ClusterConfig) (s : System) (actions : List Action) : Option System :=
  actions.foldlM (step config) s

def init (pending : List CacheOp) : System :=
  ⟨∅, false, pending, .idle, .idle, [], none⟩

theorem lookup_write_apply (config : ClusterConfig) (m : MissionMatch) (mission : Mission) (name : String) :
    ((CacheOp.apply mission).write config m).lookup name =
      if name = mission.Name then some (isMatchingMission config mission) else m.lookup name := by
  by_cases h : name = mission.Name
  · subst h
    simp [CacheOp.write, ApplyMission]
  · simp [CacheOp.write, ApplyMission, h, AList.lookup_insert_ne h]

theorem lookup_write_delete (config : ClusterConfig) (m : MissionMatch) (mission : Mission) (name : String) :
    ((CacheOp.delete mission).write config m).lookup name = if name = mission.Name then none else m.lookup name := by
  by_cases h : name = mission.Name
  · subst h
    simp [CacheOp.write, DeleteMission]
  · simp [CacheOp.write, DeleteMission, h, AList.lookup_erase_ne h]

theorem lookup_fold_delete (config : ClusterConfig) (l : List Mission) (m : MissionMatch) (k : String) :
    ((l.map CacheOp.delete).foldl (CacheOp.write config) m).lookup k = if k ∈ l.map (·.Name) then none else m.lookup k := by
  induction l generalizing m with
  | nil => rfl
  | cons mi l ih =>
    rw [List.map_cons, List.foldl_cons, ih, lookup_write_delete]
    by_cases hk : k = mi.Name <;> simp [hk]

theorem lookup_fold_apply_of_not_mem (config : ClusterConfig) (l : List Mission) (m : MissionMatch) {k : String}
    (hk : k ∉ l.map (·.Name)) : ((l.map CacheOp.apply).foldl (CacheOp.write config) m).lookup k = m.lookup k := by
  induction l generalizing m with
  | nil => rfl
  | cons mi l ih =>
    have hne : k ≠ mi.Name := fun e => hk (by simp [e])
    rw [List.map_cons, List.foldl_cons, ih _ fun h => hk (List.mem_cons_of_mem _ h), lookup_write_apply, if_neg hne]

theorem lookup_fold_apply (config : ClusterConfig) (l : List Mission) (hl : (l.map (·.Name)).Nodup)
    (m : MissionMatch) {mi : Mission} (hmi : mi ∈ l) :
    ((l.map CacheOp.apply).foldl (CacheOp.write config) m).lookup mi.Name = some (isMatchingMission config mi) := by
  induction l generalizing m with
  | nil => cases hmi
  | cons mi' l ih =>
    rw [List.map_cons, List.nodup_cons] at hl
    rw [List.map_cons, List.foldl_cons]
    rcases List.mem_cons.mp hmi with rfl | hmi
    · -- the mission's own write is the last that names it
      rw [lookup_fold_apply_of_not_mem config l _ hl.1, lookup_write_apply, if_pos rfl]
    · exact ih hl.2 _ hmi

section Align
variable (listing : Except String String) (GetMissionByName : String → Except String Mission)
  (missionList : List Mission)

/-- The missions `AlignMissionList` deletes: those the get returns for the
    listed names the cloud's list does not hold. -/
def deletedMissions : List Mission :=
  ((GetLocalClusterScopeResourceNames listing).filter fun mi => mi ∉ missionList.map (·.Name)).filterMap
    fun mi => (GetMissionByName mi).toOption

theorem AlignMissionList_eq :
    AlignMissionList listing GetMissionByName missionList =
      missionList.map .apply ++ (deletedMissions listing GetMissionByName missionList).map .delete := by
  rw [AlignMissionList, deletedMissions, List.map_filterMap]
  congr 2
  funext mi
  cases GetMissionByName mi <;> rfl

theorem mem_deletedMissions (hget : ∀ name mission, GetMissionByName name = .ok mission → mission.Name = name)
    (k : String) :
    k ∈ (deletedMissions listing GetMissionByName missionList).map (·.Name) ↔
      (k ∈ GetLocalClusterScopeResourceNames listing ∧ k ∉ missionList.map (·.Name)) ∧ (GetMissionByName k).isOk := by
  simp only [deletedMissions, List.mem_map, List.mem_filterMap, List.mem_filter, decide_eq_true_eq]
  constructor
  · rintro ⟨mission, ⟨name, hname, hget'⟩, rfl⟩
    -- the get returns the mission it names
    have hok : GetMissionByName name = .ok mission := by
      cases h : GetMissionByName name <;> simp_all [Except.toOption]
    rw [hget name mission hok, hok]
    exact ⟨hname, rfl⟩
  · rintro ⟨hname, hok⟩
    cases h : GetMissionByName k with
    | error err => simp [h, Except.isOk, Except.toBool] at hok
    | ok mission => exact ⟨mission, ⟨k, hname, by simp [h, Except.toOption]⟩, hget k mission h⟩

end Align

def staleGet (name : String) : Except String Mission :=
  if name = "a" then .ok ⟨"a", ⟨[], []⟩⟩ else .error "NotFound"

section Steps
variable {config : ClusterConfig} {s : System}

theorem step_lock {op : CacheOp} {ops : List CacheOp} (hf : s.fatal = none) (hw : s.writer = .idle)
    (hl : s.cacheLock = false) (hp : s.pending = op :: ops) :
    step config s .lock = some { s with cacheLock := true, writer := .locked op, pending := ops } := by
  simp [step, System.lock, hf, hw, hl, hp]

theorem step_beginWrite {op : CacheOp} (hf : s.fatal = none) (hw : s.writer = .locked op) :
    step config s .beginWrite = some { s with writer := .writing op } := by
  simp [step, System.beginWrite, hf, hw]

theorem step_next_writing {k : String} {ks received matched : List String} {op : CacheOp}
    (hf : s.fatal = none) (hr : s.reporter = .ranging (k :: ks) received matched) (hw : s.writer = .writing op) :
    step config s .next = some { s with fatal := some concurrentIterationAndWrite } := by
  simp [step, System.next, hf, hr, hw, System.iterCheck, WriterState.isWriting]

theorem step_startRange {keys : List String} (hf : s.fatal = none) (hr : s.reporter = .idle)
    (hw : s.writer.isWriting = false) (hperm : keys.Perm s.MissionMatch.keys) :
    step config s (.startRange keys) = some { s with reporter := .ranging keys [] [] } := by
  simp [step, System.startRange, System.iterCheck, hf, hr, hw, hperm]

theorem step_next {k : String} {ks received matched : List String} {v : Bool}
    (hf : s.fatal = none) (hr : s.reporter = .ranging (k :: ks) received matched)
    (hw : s.writer.isWriting = false) (hk : s.MissionMatch.lookup k = some v) :
    step config s .next =
      some { s with reporter := .ranging ks (received ++ [k]) (if v then matched ++ [k] else matched) } := by
  simp [step, System.next, System.iterCheck, hf, hr, hw, hk]

end Steps

def writeActions : List Action := [.lock, .beginWrite, .endWrite, .unlock]

theorem run_writes (config : ClusterConfig) (ops rest : List CacheOp) :
    ∀ s : System, s.fatal = none → s.writer = .idle → s.cacheLock = false → s.pending = ops ++ rest →
      run config s (ops.flatMap fun _ => writeActions) =
        some { s with MissionMatch := ops.foldl (CacheOp.write config) s.MissionMatch, pending := rest } := by
  induction ops with
  | nil =>
    intro s _ _ _ hp
    rw [List.nil_append] at hp
    simp [run, ← hp]
  | cons op ops ih =>
    intro s hf hw hl hp
    -- one write, then the others from the state it leaves
    have hone : run config s writeActions =
        some { s with MissionMatch := op.write config s.MissionMatch, pending := ops ++ rest } := by
      simp [run, writeActions, step, System.lock, System.beginWrite, System.endWrite, System.unlock, hf, hw, hl, hp]
    let s₁ : System := { s with MissionMatch := op.write config s.MissionMatch, pending := ops ++ rest }
    rw [List.flatMap_cons, run, List.foldlM_append, ← run, hone, option_some_bind, ← run, ih s₁ hf hw hl rfl]
    rfl

/-- From any state where the reporter is in its range over the cache with a key
    left and `syncCloud` has a write to make, `syncCloud` takes `cacheLock`, which
    the reporter does not hold, and begins the write before the range's next
    step: the runtime throws. -/
theorem range_races_write (config : ClusterConfig) (s : System) {k : String} {ks received matched : List String}
    {op : CacheOp} {ops : List CacheOp} (hf : s.fatal = none) (hr : s.reporter = .ranging (k :: ks) received matched)
    (hw : s.writer = .idle) (hl : s.cacheLock = false) (hp : s.pending = op :: ops) :
    ∃ s', run config s [.lock, .beginWrite, .next] = some s' ∧ s'.fatal = some concurrentIterationAndWrite := by
  let s₁ : System :=
    { s with
      cacheLock := true
      writer := .locked op
      pending := ops }
  have hrun : run config s [.lock, .beginWrite, .next] =
      some { s₁ with writer := .writing op, fatal := some concurrentIterationAndWrite } := by
    rw [run, List.foldlM_cons, step_lock hf hw hl hp, option_some_bind, List.foldlM_cons,
      step_beginWrite (s := s₁) hf rfl, option_some_bind, List.foldlM_cons,
      step_next_writing (s := { s₁ with writer := .writing op }) hf hr rfl]
    rfl
  exact ⟨_, hrun, rfl⟩

/-- Whatever the missions, once `syncCloud` has applied one, the reporter can
    start its range over the cache, and `syncCloud`'s next write can interleave
    with it: the runtime throws `concurrent map iteration and map write`. -/
theorem syncCloud_races_reporter (config : ClusterConfig) (mission : Mission) (op : CacheOp) (ops : List CacheOp) :
    ∃ s, run config (init (.apply mission :: op :: ops))
        [.lock, .beginWrite, .endWrite, .unlock, .startRange [mission.Name], .lock, .beginWrite, .next] = some s ∧
      s.fatal = some concurrentIterationAndWrite := by
  -- the first write, made and released, then the range begun over its one key
  let s₀ : System :=
    { init (.apply mission :: op :: ops) with
      MissionMatch := (CacheOp.apply mission).write config ∅
      pending := op :: ops }
  have hwrite : run config (init (.apply mission :: op :: ops)) writeActions = some s₀ :=
    run_writes config [.apply mission] (op :: ops) _ rfl rfl rfl rfl
  have hkeys : [mission.Name].Perm s₀.MissionMatch.keys := by
    simp [s₀, CacheOp.write, ApplyMission]
  let s₁ : System := { s₀ with reporter := .ranging [mission.Name] [] [] }
  obtain ⟨s, hs, hfatal⟩ := @range_races_write config s₁ mission.Name [] [] [] op ops rfl rfl rfl rfl rfl
  refine ⟨s, ?_, hfatal⟩
  rw [show [Action.lock, .beginWrite, .endWrite, .unlock, .startRange [mission.Name], .lock, .beginWrite, .next] =
    writeActions ++ .startRange [mission.Name] :: [.lock, .beginWrite, .next] from rfl,
    run, List.foldlM_append, ← run, hwrite, option_some_bind, List.foldlM_cons,
    step_startRange (s := s₀) rfl rfl rfl hkeys, option_some_bind, ← run]
  exact hs

/-- Two writes that end between two steps of a range go unseen by the runtime,
    and the range reports a pair the cache held at no instant: the mission it
    read first as active is deleted before the one it reads next becomes
    active. -/
theorem range_reports_torn (config : ClusterConfig) (a b₀ b₁ : Mission) (hab : a.Name ≠ b₀.Name)
    (hb : b₁.Name = b₀.Name) (ha : isMatchingMission config a = true) (hb₀ : isMatchingMission config b₀ = false)
    (hb₁ : isMatchingMission config b₁ = true) :
    (∃ s, run config (init [.apply a, .apply b₀, .delete a, .apply b₁])
        (writeActions ++ writeActions ++ .startRange [a.Name, b₀.Name] :: .next ::
          (writeActions ++ writeActions ++ [.next, .finish])) = some s ∧
      s.fatal = none ∧ s.reports = [([a.Name, b₀.Name], [a.Name, b₀.Name])]) ∧
    ∀ done, done <+: [.apply a, .apply b₀, .delete a, .apply b₁] →
      ¬ ((done.foldl (CacheOp.write config) ∅).lookup a.Name = some true ∧
        (done.foldl (CacheOp.write config) ∅).lookup b₀.Name = some true) := by
  have hba : b₀.Name ≠ a.Name := fun e => hab e.symm
  let m₂ : MissionMatch := [CacheOp.apply a, .apply b₀].foldl (CacheOp.write config) ∅
  let m₄ : MissionMatch := [CacheOp.delete a, .apply b₁].foldl (CacheOp.write config) m₂
  have hm₂a : m₂.lookup a.Name = some true := by
    simp [m₂, lookup_write_apply, hab, ha]
  have hm₂ : [a.Name, b₀.Name].Perm m₂.keys := by
    simp [m₂, CacheOp.write, ApplyMission, AList.keys_insert, hab]
    exact List.Perm.swap b₀.Name a.Name []
  have hm₄b : m₄.lookup b₀.Name = some true := by
    simp [m₄, lookup_write_apply, hb, hb₁]
  refine ⟨?_, ?_⟩
  · -- the writes run to the end between the range's steps, and each step reads the cache of its moment
    let s₂ : System := { init [.apply a, .apply b₀, .delete a, .apply b₁] with
      MissionMatch := m₂
      pending := [.delete a, .apply b₁] }
    let s₃ : System := { s₂ with reporter := .ranging [b₀.Name] [a.Name] [a.Name] }
    let s₄ : System := { s₃ with MissionMatch := m₄, pending := [] }
    have h₂ : run config (init [.apply a, .apply b₀, .delete a, .apply b₁]) (writeActions ++ writeActions) =
        some s₂ :=
      run_writes config [.apply a, .apply b₀] [.delete a, .apply b₁] _ rfl rfl rfl rfl
    have h₃ : run config s₂ [.startRange [a.Name, b₀.Name], .next] = some s₃ := by
      rw [run, List.foldlM_cons, step_startRange (s := s₂) rfl rfl rfl hm₂, option_some_bind, List.foldlM_cons,
        step_next (s := { s₂ with reporter := .ranging [a.Name, b₀.Name] [] [] }) rfl rfl rfl hm₂a]
      rfl
    have h₄ : run config s₃ (writeActions ++ writeActions) = some s₄ :=
      run_writes config [.delete a, .apply b₁] [] s₃ rfl rfl rfl rfl
    have h₅ : run config s₄ [.next, .finish] =
        some { s₄ with reporter := .idle, reports := [([a.Name, b₀.Name], [a.Name, b₀.Name])] } := by
      rw [run, List.foldlM_cons, step_next (s := s₄) rfl rfl rfl hm₄b]
      rfl
    refine ⟨{ s₄ with reporter := .idle, reports := [([a.Name, b₀.Name], [a.Name, b₀.Name])] }, ?_, rfl, rfl⟩
    rw [show writeActions ++ writeActions ++ .startRange [a.Name, b₀.Name] :: .next ::
        (writeActions ++ writeActions ++ [.next, .finish]) =
        writeActions ++ writeActions ++ [.startRange [a.Name, b₀.Name], .next] ++ (writeActions ++ writeActions) ++
          [.next, .finish] by simp,
      run, List.foldlM_append, List.foldlM_append, List.foldlM_append, ← run, h₂, option_some_bind, ← run, h₃,
      option_some_bind, ← run, h₄, option_some_bind, ← run, h₅]
  · -- the cache after each prefix of the writes
    intro done hdone
    rw [← List.mem_inits] at hdone
    simp at hdone
    rcases hdone with rfl | rfl | rfl | rfl | rfl <;>
      simp [lookup_write_apply, lookup_write_delete, hab, hba, hb, ha, hb₀]

theorem range_reports_torn_ab :
    (∃ s, run ⟨"c", []⟩
        (init [.apply ⟨"a", ⟨[], []⟩⟩, .apply ⟨"b", ⟨["d"], []⟩⟩, .delete ⟨"a", ⟨[], []⟩⟩, .apply ⟨"b", ⟨[], []⟩⟩])
        (writeActions ++ writeActions ++ .startRange ["a", "b"] :: .next ::
          (writeActions ++ writeActions ++ [.next, .finish])) = some s ∧
      s.fatal = none ∧ s.reports = [(["a", "b"], ["a", "b"])]) ∧
    ∀ done, done <+: [.apply ⟨"a", ⟨[], []⟩⟩, .apply ⟨"b", ⟨["d"], []⟩⟩, .delete ⟨"a", ⟨[], []⟩⟩,
        .apply ⟨"b", ⟨[], []⟩⟩] →
      ¬ ((done.foldl (CacheOp.write ⟨"c", []⟩) ∅).lookup "a" = some true ∧
        (done.foldl (CacheOp.write ⟨"c", []⟩) ∅).lookup "b" = some true) :=
  range_reports_torn ⟨"c", []⟩ ⟨"a", ⟨[], []⟩⟩ ⟨"b", ⟨["d"], []⟩⟩ ⟨"b", ⟨[], []⟩⟩ (by decide) rfl (by decide)
    (by decide) (by decide)

end KubeEdge.Clusterd
