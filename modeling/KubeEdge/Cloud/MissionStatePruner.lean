import KubeEdge.Cloud.MissionState

set_option autoImplicit false

/-!
# The mission state pruner

`checkAndPrune` runs once a sync interval. An edge cluster whose last
heartbeat is older than the timeout is marked disconnected with its lists
cleared, unless it is disconnected already; every cluster that is then not
healthy is dead. When the dead set holds a cluster that the last run's did not,
every mission's state is rewritten: the key of a dead cluster reads
`EdgeClusterOffline`, and the keys below it are deleted. The clusters and
missions are the lists the API server returns, its updates are taken to
succeed, and a result is what the API server stores after the run.
-/

namespace KubeEdge.Cloud

open KubeEdge.Go KubeEdge.Lib

def EdgeClusterOffline : String := "cluster unreacheable"
def HealthyStatus : String := "healthy"
def DisconnectedStatus : String := "disconnected"

/-- The fields of an `EdgeCluster` the pruner reads or writes; times in seconds. -/
structure EdgeCluster where
  Name : String
  HealthStatus : String
  LastHeartBeat : Int
  SubEdgeClusterStates : MissionState
  Nodes : List String
  EdgeNodes : List String
  ReceivedMissions : List String
  ActiveMissions : List String

structure Mission where
  Name : String
  State : MissionState

structure MissionStatePruner where
  edgeclusterTimeout : Int
  deadEdgeClustersCache : List String

def pruneCluster (now edgeclusterTimeout : Int) (ec : EdgeCluster) : EdgeCluster :=
  if now - ec.LastHeartBeat > edgeclusterTimeout ∧ ec.HealthStatus ≠ DisconnectedStatus then
    { ec with
      HealthStatus := DisconnectedStatus
      SubEdgeClusterStates := ∅
      Nodes := []
      EdgeNodes := []
      ReceivedMissions := []
      ActiveMissions := [] }
  else ec

/-- The rest of the first loop: the dead set and whether it gained a cluster. -/
def deadStep (deadEdgeClustersCache : List String) (acc : List String × Bool) (ec : EdgeCluster) :
    List String × Bool :=
  if ec.HealthStatus ≠ HealthyStatus then
    (acc.1 ++ [ec.Name], acc.2 || decide (ec.Name ∉ deadEdgeClustersCache))
  else acc

/-- One iteration of `for key, val := range mission.State`, by the number of
    `/`-parts of the key, with the `changed` flag. -/
def pruneKey (deadEdgeClusters : List String) (e : Σ _ : String, String) (acc : MissionState × Bool) :
    MissionState × Bool :=
  match Split e.1 '/' with
  | [] => acc
  | [_] =>
    if e.1 ∈ deadEdgeClusters ∧ e.2 ≠ EdgeClusterOffline then (acc.1.insert e.1 EdgeClusterOffline, true)
    else acc
  | part :: _ :: _ => if part ∈ deadEdgeClusters then (acc.1.erase e.1, true) else acc

def pruneMission (deadEdgeClusters : List String) (mission : Mission) : Mission :=
  let (state, changed) := mission.State.entries.foldl (fun acc e => pruneKey deadEdgeClusters e acc)
    (mission.State, false)
  if changed then { mission with State := state } else mission

def checkAndPrune (msp : MissionStatePruner) (now : Int) (allEdgeClusters : List EdgeCluster)
    (allMissions : List Mission) : MissionStatePruner × List EdgeCluster × List Mission :=
  let clusters := allEdgeClusters.map (pruneCluster now msp.edgeclusterTimeout)
  let (deadEdgeClusters, newDeadEdgeClusters) :=
    clusters.foldl (deadStep msp.deadEdgeClustersCache) ([], false)
  let msp := { msp with deadEdgeClustersCache := deadEdgeClusters }
  if !newDeadEdgeClusters then (msp, clusters, allMissions)
  else (msp, clusters, allMissions.map (pruneMission deadEdgeClusters))

def deadNames (clusters : List EdgeCluster) : List String :=
  (clusters.filter fun ec => decide (ec.HealthStatus ≠ HealthyStatus)).map (·.Name)

@[simp] theorem deadNames_nil : deadNames [] = [] := rfl

theorem deadNames_cons (ec : EdgeCluster) (clusters : List EdgeCluster) :
    deadNames (ec :: clusters) =
      if ec.HealthStatus ≠ HealthyStatus then ec.Name :: deadNames clusters else deadNames clusters := by
  unfold deadNames
  split_ifs with h <;> simp [h]

theorem foldl_deadStep (cache : List String) (clusters : List EdgeCluster) (acc : List String × Bool) :
    clusters.foldl (deadStep cache) acc =
      (acc.1 ++ deadNames clusters, acc.2 || decide (∃ C ∈ deadNames clusters, C ∉ cache)) := by
  induction clusters generalizing acc with
  | nil => simp
  | cons ec clusters ih =>
    rw [List.foldl_cons, ih, deadNames_cons]
    unfold deadStep
    split_ifs with h
    · simp [Bool.or_assoc]
    · rfl

theorem stepsLocal_pruneKey (deadEdgeClusters : List String) :
    StepsLocal Sigma.fst (pruneKey deadEdgeClusters) (fun k acc => acc.1.lookup k) where
  view_ne k e acc hk := by
    unfold pruneKey
    split
    · rfl
    · split <;> simp [AList.lookup_insert_ne hk]
    · split <;> simp [AList.lookup_erase_ne hk]
  view_congr e acc acc' h := by
    unfold pruneKey
    split
    · exact h
    · split <;> simp_all
    · split <;> simp_all

theorem pruneKey_unchanged {deadEdgeClusters : List String} {e : Σ _ : String, String}
    {acc : MissionState × Bool} (h : (pruneKey deadEdgeClusters e acc).2 = false) :
    pruneKey deadEdgeClusters e acc = acc := by
  revert h
  unfold pruneKey
  split
  · exact fun _ => rfl
  · split <;> simp_all
  · split <;> simp_all

theorem pruneKey_changed {deadEdgeClusters : List String} (e : Σ _ : String, String)
    {acc : MissionState × Bool} (h : acc.2 = true) : (pruneKey deadEdgeClusters e acc).2 = true := by
  unfold pruneKey
  split
  · exact h
  · split <;> simp_all
  · split <;> simp_all

theorem foldl_pruneKey_unchanged (deadEdgeClusters : List String) :
    ∀ (entries : List (Σ _ : String, String)) (acc : MissionState × Bool),
      (entries.foldl (fun acc e => pruneKey deadEdgeClusters e acc) acc).2 = false →
        entries.foldl (fun acc e => pruneKey deadEdgeClusters e acc) acc = acc
  | [], _, _ => rfl
  | e :: entries, acc, h => by
    rw [List.foldl_cons] at h ⊢
    -- once set, `changed` stays set
    have hkeep : ∀ (l : List (Σ _ : String, String)) (a : MissionState × Bool), a.2 = true →
        (l.foldl (fun acc e => pruneKey deadEdgeClusters e acc) a).2 = true := by
      intro l
      induction l with
      | nil => exact fun _ ha => ha
      | cons e' l ih => exact fun a ha => ih _ (pruneKey_changed e' ha)
    have he : (pruneKey deadEdgeClusters e acc).2 = false := by
      cases hc : (pruneKey deadEdgeClusters e acc).2
      · rfl
      · exact absurd (hkeep entries _ hc) (by simp [h])
    rw [foldl_pruneKey_unchanged deadEdgeClusters entries _ h, pruneKey_unchanged he]

theorem pruneMission_name (deadEdgeClusters : List String) (mission : Mission) :
    (pruneMission deadEdgeClusters mission).Name = mission.Name := by
  unfold pruneMission
  split
  split <;> rfl

theorem pruneMission_lookup (deadEdgeClusters : List String) (mission : Mission) (k : String) :
    (pruneMission deadEdgeClusters mission).State.lookup k =
      match Split k '/' with
      | [] => mission.State.lookup k
      | [_] =>
        if k ∈ deadEdgeClusters then (mission.State.lookup k).map fun _ => EdgeClusterOffline
        else mission.State.lookup k
      | part :: _ :: _ => if part ∈ deadEdgeClusters then none else mission.State.lookup k := by
  -- what is stored is what the loop leaves, changed or not
  have hstored : (pruneMission deadEdgeClusters mission).State.lookup k =
      (mission.State.entries.foldl (fun acc e => pruneKey deadEdgeClusters e acc)
        (mission.State, false)).1.lookup k := by
    unfold pruneMission
    dsimp only
    split
    · rfl
    · rename_i hc
      rw [foldl_pruneKey_unchanged deadEdgeClusters _ _ (by simpa using hc)]
  rw [hstored]
  by_cases hk : k ∈ mission.State
  · obtain ⟨v, hv⟩ := Option.isSome_iff_exists.mp (AList.lookup_isSome.mpr hk)
    have hmem : (⟨k, v⟩ : Σ _ : String, String) ∈ mission.State.entries := (AList.mem_lookup_iff).mp hv
    rw [(stepsLocal_pruneKey deadEdgeClusters).foldl_of_mem mission.State.entries _ mission.State.nodupKeys _ hmem]
    simp only [hv]
    rcases hs : Split k '/' with _ | ⟨part, _ | ⟨next, rest⟩⟩
    · simp [pruneKey, hs, hv]
    -- one part: a dead cluster's own key reads offline, whatever it held
    · by_cases hd : k ∈ deadEdgeClusters
      · by_cases hoff : v = EdgeClusterOffline <;> simp [pruneKey, hs, hd, hoff, hv]
      · simp [pruneKey, hs, hd, hv]
    · by_cases hd : part ∈ deadEdgeClusters <;> simp [pruneKey, hs, hd, hv]
  · have hnot : k ∉ mission.State.entries.map Sigma.fst := hk
    rw [(stepsLocal_pruneKey deadEdgeClusters).foldl_of_not_mem mission.State.entries _ hnot]
    have hnone : mission.State.lookup k = none := AList.lookup_eq_none.mpr hk
    simp only [hnone]
    split <;> simp


theorem checkAndPrune_eq (msp : MissionStatePruner) (now : Int) (allEdgeClusters : List EdgeCluster)
    (allMissions : List Mission) :
    checkAndPrune msp now allEdgeClusters allMissions =
      let clusters := allEdgeClusters.map (pruneCluster now msp.edgeclusterTimeout)
      ({ msp with deadEdgeClustersCache := deadNames clusters }, clusters,
        if ∃ C ∈ deadNames clusters, C ∉ msp.deadEdgeClustersCache then
          allMissions.map (pruneMission (deadNames clusters))
        else allMissions) := by
  unfold checkAndPrune
  dsimp only
  rw [foldl_deadStep]
  dsimp only
  by_cases h : ∃ C ∈ deadNames (allEdgeClusters.map (pruneCluster now msp.edgeclusterTimeout)),
      C ∉ msp.deadEdgeClustersCache
  · simp [h]
  · simp only [List.nil_append, Bool.false_or, h, decide_false, Bool.not_false, if_true, if_false]

structure ClusterPruned (now edgeclusterTimeout : Int) (ec ec' : EdgeCluster) : Prop where
  name : ec'.Name = ec.Name
  heartBeat : ec'.LastHeartBeat = ec.LastHeartBeat
  disconnected : edgeclusterTimeout < now - ec.LastHeartBeat → ec'.HealthStatus = DisconnectedStatus
  cleared : edgeclusterTimeout < now - ec.LastHeartBeat → ec.HealthStatus ≠ DisconnectedStatus →
    ec'.SubEdgeClusterStates = ∅ ∧ ec'.Nodes = [] ∧ ec'.EdgeNodes = [] ∧ ec'.ReceivedMissions = [] ∧
      ec'.ActiveMissions = []
  kept : ¬(edgeclusterTimeout < now - ec.LastHeartBeat ∧ ec.HealthStatus ≠ DisconnectedStatus) → ec' = ec

theorem pruneCluster_pruned (now edgeclusterTimeout : Int) (ec : EdgeCluster) :
    ClusterPruned now edgeclusterTimeout ec (pruneCluster now edgeclusterTimeout ec) := by
  unfold pruneCluster
  by_cases h : now - ec.LastHeartBeat > edgeclusterTimeout ∧ ec.HealthStatus ≠ DisconnectedStatus
  · rw [if_pos h]
    exact ⟨rfl, rfl, fun _ => rfl, fun _ _ => ⟨rfl, rfl, rfl, rfl, rfl⟩, fun h' => absurd h h'⟩
  · rw [if_neg h]
    refine ⟨rfl, rfl, fun ht => ?_, fun ht hs => absurd ⟨ht, hs⟩ h, fun _ => rfl⟩
    -- a timed-out cluster left as it was is disconnected already
    by_contra hs
    exact h ⟨ht, hs⟩

structure MissionPruned (deadEdgeClusters : List String) (m m' : Mission) : Prop where
  name : m'.Name = m.Name
  offline : ∀ C ∈ deadEdgeClusters, '/' ∉ C.toList →
    m'.State.lookup C = (m.State.lookup C).map fun _ => EdgeClusterOffline
  below : ∀ C ∈ deadEdgeClusters, '/' ∉ C.toList → ∀ rest, m'.State.lookup (C ++ "/" ++ rest) = none
  kept : ∀ k, (Split k '/').headD "" ∉ deadEdgeClusters → m'.State.lookup k = m.State.lookup k

theorem pruneMission_pruned (deadEdgeClusters : List String) (m : Mission) :
    MissionPruned deadEdgeClusters m (pruneMission deadEdgeClusters m) where
  name := pruneMission_name deadEdgeClusters m
  offline C hC hslash := by
    rw [pruneMission_lookup, Split_of_not_mem hslash]
    simp [hC]
  below C hC hslash rest := by
    obtain ⟨p, ps, hp⟩ := List.exists_cons_of_ne_nil (Split_ne_nil rest '/')
    rw [pruneMission_lookup, show C ++ "/" ++ rest = C ++ String.singleton '/' ++ rest from rfl,
      Split_append_sep, Split_of_not_mem hslash, hp]
    simp [hC]
  kept k hk := by
    rw [pruneMission_lookup]
    rcases hs : Split k '/' with _ | ⟨part, _ | ⟨next, rest⟩⟩
    · rfl
    · have hpart := eq_of_Split_eq_singleton hs
      subst hpart
      simp [hs] at hk
      simp [hk]
    · simp [hs] at hk
      simp [hk]

theorem checkAndPrune_prunes (msp : MissionStatePruner) (now : Int) (allEdgeClusters : List EdgeCluster)
    (allMissions : List Mission) :
    let r := checkAndPrune msp now allEdgeClusters allMissions
    List.Forall₂ (ClusterPruned now msp.edgeclusterTimeout) allEdgeClusters r.2.1 ∧
      r.1.deadEdgeClustersCache = deadNames r.2.1 ∧
      ((∃ C ∈ deadNames r.2.1, C ∉ msp.deadEdgeClustersCache) →
        List.Forall₂ (MissionPruned (deadNames r.2.1)) allMissions r.2.2) ∧
      ((∀ C ∈ deadNames r.2.1, C ∈ msp.deadEdgeClustersCache) → r.2.2 = allMissions) := by
  rw [checkAndPrune_eq]
  dsimp only
  refine ⟨?_, rfl, fun hnew => ?_, fun hold => ?_⟩
  · rw [List.forall₂_map_right_iff, List.forall₂_same]
    exact fun ec _ => pruneCluster_pruned now msp.edgeclusterTimeout ec
  · rw [if_pos hnew, List.forall₂_map_right_iff, List.forall₂_same]
    exact fun m _ => pruneMission_pruned _ m
  · rw [if_neg]
    rintro ⟨C, hC, hnot⟩
    exact hnot (hold C hC)


theorem checkAndPrune_keeps_disconnected_lists :
    let ec : EdgeCluster := ⟨"c1", DisconnectedStatus, 0, ∅, ["n1"], [], [], ["m1"]⟩
    let r := checkAndPrune ⟨60, []⟩ 1000 [ec] []
    60 < 1000 - ec.LastHeartBeat ∧ r.2.1.map (·.HealthStatus) = [DisconnectedStatus] ∧
      r.2.1.map (·.Nodes) = [["n1"]] ∧ r.2.1.map (·.ActiveMissions) = [["m1"]] := by
  decide


end KubeEdge.Cloud
