import KubeEdge.Go.Strings
import KubeEdge.Lib.LocalFold

set_option autoImplicit false

/-!
# Mission states reported by edge clusters

An edge cluster reports the states of a mission under its own name:
`ReportMissionState` renames its local entry `LocalEdgeCluster` to the
cluster's name `C` and puts every other key below `C + "/"`. The cloud's
`updateMissionState` merges a report into the mission with `aggregateState`,
which replaces everything the mission holds at `C` and below it by the report.
The mission store is the map of missions by name; the API calls around it are
left out.
-/

namespace KubeEdge.Cloud

open KubeEdge.Go KubeEdge.Lib

abbrev MissionState := AList (fun _ : String => String)

def LocalEdgeCluster : String := "LocalEdgeCluster"

/-- The test of `aggregateState`: the cluster's own key, or a key below it. -/
def matchesCluster (clusterName key : String) : Bool :=
  key == clusterName || HasPrefix key (clusterName ++ "/")

def aggregateKey (clusterName key : String) (maps : MissionState × MissionState) :
    MissionState × MissionState :=
  if matchesCluster clusterName key then
    match maps.2.lookup key with
    | some newVal => (maps.1.insert key newVal, maps.2.erase key)
    | none => (maps.1.erase key, maps.2)
  else maps

/-- `aggregateState`: the first loop ranges over the keys `state` had at its
    start, writing or deleting only the current one; the second copies what is
    left of `newState`. -/
def aggregateState (state newState : MissionState) (clusterName : String) : MissionState :=
  let maps := state.keys.foldl (fun maps key => aggregateKey clusterName key maps) (state, newState)
  maps.2.entries.foldl (fun m e => m.insert e.1 e.2) maps.1

structure MissionStateRequest where
  clusterName : String
  state : MissionState

def reportedKey (clusterName key : String) : String :=
  if key = LocalEdgeCluster then clusterName else clusterName ++ "/" ++ key

def ReportMissionState (clusterName : String) (missionState : MissionState) : MissionStateRequest :=
  ⟨clusterName, missionState.entries.foldl (fun m e => m.insert (reportedKey clusterName e.1) e.2) ∅⟩

/-- The update branch of `updateMissionState` on the missions by name: a report
    for a missing mission is dropped, and a nil state is the empty map. -/
def updateMissionState (missions : AList (fun _ : String => MissionState)) (name : String)
    (request : MissionStateRequest) : AList (fun _ : String => MissionState) :=
  match missions.lookup name with
  | none => missions
  | some existing => missions.insert name (aggregateState existing request.state request.clusterName)

theorem matchesCluster_iff {clusterName key : String} :
    matchesCluster clusterName key = true ↔
      key = clusterName ∨ clusterName.toList ++ ['/'] <+: key.toList := by
  simp [matchesCluster, HasPrefix, List.isPrefixOf_iff_prefix, String.toList_append]

theorem matchesCluster_overlap {C C' key : String} (h : matchesCluster C key = true)
    (h' : matchesCluster C' key = true) : matchesCluster C C' = true ∨ matchesCluster C' C = true := by
  rw [matchesCluster_iff] at h h' ⊢
  rw [matchesCluster_iff]
  rcases h with rfl | h <;> rcases h' with rfl | h'
  · exact .inl (.inl rfl)
  · exact .inr (.inr h')
  · exact .inl (.inr h)
  · -- both prefixes of the key: the shorter is a prefix of the longer, and
    -- `C ++ "/"` a prefix of `C' ++ "/"` is `C = C'` or a prefix of `C'`
    rcases List.prefix_or_prefix_of_prefix h h' with hp | hp
    · rcases List.prefix_concat_iff.mp hp with he | hp
      · exact .inl (.inl (String.toList_inj.mp (List.append_cancel_right he)).symm)
      · exact .inl (.inr hp)
    · rcases List.prefix_concat_iff.mp hp with he | hp
      · exact .inr (.inl (String.toList_inj.mp (List.append_cancel_right he)).symm)
      · exact .inr (.inr hp)

theorem matchesCluster_of_no_slash {C C' : String} (hC' : '/' ∉ C'.toList) (hne : C' ≠ C) :
    matchesCluster C C' = false := by
  rw [Bool.eq_false_iff, ne_eq, matchesCluster_iff]
  rintro (h | h)
  · exact hne h
  · exact hC' (h.subset (by simp))

theorem reportedKey_matches (clusterName key : String) :
    matchesCluster clusterName (reportedKey clusterName key) = true := by
  rw [matchesCluster_iff]
  unfold reportedKey
  split
  · exact .inl rfl
  · exact .inr ⟨key.toList, by simp [String.toList_append]⟩

theorem ReportMissionState_keys (clusterName : String) (missionState : MissionState) :
    ∀ k ∈ (ReportMissionState clusterName missionState).state, matchesCluster clusterName k = true := by
  -- the loop only inserts renamed keys, each owned by the cluster
  have hloop : ∀ (es : List (Σ _ : String, String)) (m : MissionState),
      (∀ k ∈ m, matchesCluster clusterName k = true) →
      ∀ k ∈ es.foldl (fun m e => m.insert (reportedKey clusterName e.1) e.2) m,
        matchesCluster clusterName k = true := by
    intro es
    induction es with
    | nil => exact fun _ hm => hm
    | cons e es ih =>
      intro m hm
      apply ih
      intro k hk
      rcases (AList.mem_insert _).mp hk with rfl | hk
      · exact reportedKey_matches clusterName e.1
      · exact hm k hk
  exact hloop _ ∅ (fun k hk => absurd hk (AList.notMem_empty k))

def keyView (key : String) (maps : MissionState × MissionState) : Option String × Option String :=
  (maps.1.lookup key, maps.2.lookup key)

theorem stepsLocal_aggregateKey (clusterName : String) :
    StepsLocal id (aggregateKey clusterName) keyView where
  view_ne k key maps hk := by
    change k ≠ key at hk
    unfold aggregateKey keyView
    split
    · split <;> simp [AList.lookup_insert_ne hk, AList.lookup_erase_ne hk]
    · rfl
  view_congr key maps maps' h := by
    simp only [keyView, id, Prod.mk.injEq] at h
    unfold aggregateKey keyView
    split
    · rw [h.2]
      split <;> simp [h.2]
    · simp [h.1, h.2]

theorem aggregateKeys_view (state newState : MissionState) (clusterName k : String) :
    keyView k (state.keys.foldl (fun maps key => aggregateKey clusterName key maps) (state, newState)) =
      if k ∈ state ∧ matchesCluster clusterName k = true then (newState.lookup k, none)
      else (state.lookup k, newState.lookup k) := by
  by_cases hk : k ∈ state
  · have hfold := (stepsLocal_aggregateKey clusterName).foldl_of_mem state.keys (state, newState)
      (by simpa using state.keys_nodup) k (AList.mem_keys.mpr hk)
    simp only [id] at hfold
    rw [hfold]
    unfold aggregateKey keyView
    by_cases hm : matchesCluster clusterName k = true
    · simp only [hm, hk, and_self, if_true]
      split <;> simp_all
    · simp [hm]
  · have hnot : k ∉ state.keys.map id := by simpa [AList.mem_keys] using hk
    rw [(stepsLocal_aggregateKey clusterName).foldl_of_not_mem state.keys (state, newState) hnot]
    simp [keyView, hk]

theorem aggregateState_lookup (state newState : MissionState) (clusterName k : String) :
    (aggregateState state newState clusterName).lookup k =
      if matchesCluster clusterName k then newState.lookup k
      else (newState.lookup k).or (state.lookup k) := by
  have hview := aggregateKeys_view state newState clusterName k
  unfold aggregateState
  rw [foldl_insert_lookup]
  simp only [keyView, Prod.ext_iff] at hview
  by_cases hk : k ∈ state <;> by_cases hm : matchesCluster clusterName k = true <;>
    simp_all [AList.lookup_eq_none.mpr]

theorem aggregateState_lookup_of_owned {C : String} {N : MissionState}
    (hN : ∀ k ∈ N, matchesCluster C k = true) (S : MissionState) (k : String) :
    (aggregateState S N C).lookup k = if matchesCluster C k then N.lookup k else S.lookup k := by
  rw [aggregateState_lookup]
  by_cases hm : matchesCluster C k = true
  · simp [hm]
  · have hk : k ∉ N := fun hk => hm (hN k hk)
    simp [hm, AList.lookup_eq_none.mpr hk]

theorem aggregateState_comm {C C' : String} {N N' : MissionState}
    (hN : ∀ k ∈ N, matchesCluster C k = true) (hN' : ∀ k ∈ N', matchesCluster C' k = true)
    (hCC' : matchesCluster C C' = false) (hC'C : matchesCluster C' C = false) (S : MissionState) (k : String) :
    (aggregateState (aggregateState S N C) N' C').lookup k =
      (aggregateState (aggregateState S N' C') N C).lookup k := by
  simp only [aggregateState_lookup_of_owned hN, aggregateState_lookup_of_owned hN']
  by_cases hm : matchesCluster C k = true <;> by_cases hm' : matchesCluster C' k = true
  · -- a common key would make one name a path prefix of the other
    rcases matchesCluster_overlap hm hm' with h | h <;> simp_all
  all_goals simp_all

theorem aggregateState_replaces_cluster {C : String} {N : MissionState}
    (hN : ∀ k ∈ N, matchesCluster C k = true) (S : MissionState) :
    (∀ k, (aggregateState S N C).lookup k = if matchesCluster C k then N.lookup k else S.lookup k) ∧
    ∀ (C' : String) (N' : MissionState), (∀ k ∈ N', matchesCluster C' k = true) →
      matchesCluster C C' = false → matchesCluster C' C = false →
      ∀ k, (aggregateState (aggregateState S N C) N' C').lookup k =
        (aggregateState (aggregateState S N' C') N C).lookup k :=
  ⟨aggregateState_lookup_of_owned hN S,
    fun _ _ hN' hCC' hC'C k => aggregateState_comm hN hN' hCC' hC'C S k⟩

def missionSample : MissionState :=
  (((∅ : MissionState).insert "a" "Pending").insert "a/b" "Failed").insert "c" "Running"

/-- Cluster `a` reports its local state only: `a/b` is gone, `c` is kept. -/
theorem aggregateState_replaces_cluster_report :
    (aggregateState missionSample
        (ReportMissionState "a" ((∅ : MissionState).insert LocalEdgeCluster "Running")).state "a").lookup "a/b" =
      none ∧
    (aggregateState missionSample
        (ReportMissionState "a" ((∅ : MissionState).insert LocalEdgeCluster "Running")).state "a").lookup "c" =
      some "Running" :=
  let h := aggregateState_replaces_cluster (ReportMissionState_keys "a" _) missionSample
  ⟨(h.1 "a/b").trans (by decide), (h.1 "c").trans (by decide)⟩

theorem updateMissionState_lookup (missions : AList (fun _ : String => MissionState)) (name : String)
    (request : MissionStateRequest) (n : String) :
    (updateMissionState missions name request).lookup n =
      if n = name then (missions.lookup n).map fun st => aggregateState st request.state request.clusterName
      else missions.lookup n := by
  unfold updateMissionState
  by_cases hn : n = name
  · subst hn
    cases h : missions.lookup n <;> simp [h]
  · cases missions.lookup name <;> simp [hn, AList.lookup_insert_ne hn]

/-- Two edge clusters with distinct names without `/` report in either order:
    every mission ends in the same state. -/
theorem updateMissionState_reports_commute {C C' : String} (hC : '/' ∉ C.toList) (hC' : '/' ∉ C'.toList)
    (hne : C ≠ C') (missions : AList (fun _ : String => MissionState)) (name name' : String)
    (S S' : MissionState) (n k : String) :
    ((updateMissionState (updateMissionState missions name (ReportMissionState C S)) name'
        (ReportMissionState C' S')).lookup n).map (·.lookup k) =
      ((updateMissionState (updateMissionState missions name' (ReportMissionState C' S')) name
        (ReportMissionState C S)).lookup n).map (·.lookup k) := by
  have hcomm := aggregateState_comm (ReportMissionState_keys C S) (ReportMissionState_keys C' S')
    (matchesCluster_of_no_slash hC' (Ne.symm hne)) (matchesCluster_of_no_slash hC hne)
  by_cases hn : n = name <;> by_cases hn' : n = name'
  · -- both reports reach the same mission
    subst hn hn'
    simp only [updateMissionState_lookup, if_true, Option.map_map]
    cases missions.lookup n with
    | none => rfl
    | some st => exact congrArg some (hcomm st k)
  · subst hn
    simp [updateMissionState_lookup, hn']
  · subst hn'
    simp [updateMissionState_lookup, hn]
  · simp [updateMissionState_lookup, hn, hn']

theorem updateMissionState_reports_commute_sample :
    ((updateMissionState (updateMissionState ((∅ : AList (fun _ : String => MissionState)).insert "m" missionSample)
        "m" (ReportMissionState "a" ((∅ : MissionState).insert LocalEdgeCluster "Running"))) "m"
        (ReportMissionState "c" ((∅ : MissionState).insert LocalEdgeCluster "Failed"))).lookup "m").map
        (·.lookup "c") =
      ((updateMissionState (updateMissionState ((∅ : AList (fun _ : String => MissionState)).insert "m" missionSample)
        "m" (ReportMissionState "c" ((∅ : MissionState).insert LocalEdgeCluster "Failed"))) "m"
        (ReportMissionState "a" ((∅ : MissionState).insert LocalEdgeCluster "Running"))).lookup "m").map
        (·.lookup "c") :=
  updateMissionState_reports_commute (by decide) (by decide) (by decide) _ "m" "m" _ _ "m" "c"

end KubeEdge.Cloud
