import KubeEdge.MetaManager.Process
import KubeEdge.Lib.FoldM
import Mathlib.Data.List.Induction

set_option autoImplicit false

/-!
# Syncing pod statuses

`syncPodStatus` walks the pod status rows, deletes those whose pod row is gone
and gathers the others' statuses by namespace, one update to the cloud for each
namespace, in the order its `range` over the namespaces picks. The pod row of
`<ns>/podstatus/<name>` is `<ns>/pod/<name>`; a key `<ns>/podstatus` has no
`/podstatus/` in it and is its own pod key. On a table whose rows carry their
keys' types `ParseResourceEdge` never panics, whatever the database answers, and
the sync deletes pod status rows only. When the database answers every call, no
pod key is another status row's key, so the rows the loop deletes change none of
its later lookups.
-/

namespace KubeEdge.MetaManager

open KubeEdge.Go

theorem typeOf_eq_podstatus {key : String} (h : typeOf key = ResourceTypePodStatus) :
    (∃ a, Split key '/' = [a, ResourceTypePodStatus]) ∨ ∃ a b, Split key '/' = [a, ResourceTypePodStatus, b] := by
  have hne : ResourceTypePodStatus ≠ "" := by decide
  rw [typeOf, Cloud.parseResource, show Cloud.ResourceSep = '/' from rfl] at h
  generalize Split key '/' = l at h ⊢
  rcases l with _ | ⟨a, _ | ⟨b, _ | ⟨c, _ | ⟨d, rest⟩⟩⟩⟩ <;> simp_all

theorem typeOf_of_three {key a t b : String} (h : Split key '/' = [a, t, b]) : typeOf key = t := by
  rw [typeOf, Cloud.parseResource]
  simp [show Split key Cloud.ResourceSep = [a, t, b] from h]

theorem podKeyOf_of_two {key a : String} (h : Split key '/' = [a, ResourceTypePodStatus]) : podKeyOf key = key := by
  have hkey : key.toList = a.toList ++ '/' :: ResourceTypePodStatus.toList := by
    rw [toList_eq_intercalate_Split key '/', h]
    simp
  have ha : '/' ∉ a.toList := not_mem_of_mem_Split (by rw [h]; simp)
  apply ReplaceOnce_of_not_occurs
  intro m hocc
  -- `/podstatus/` holds two separators, the key only one
  have hle := (hocc.sublist.trans (List.drop_sublist m _)).count_le '/'
  have hold : ((String.singleton Cloud.ResourceSep ++ ResourceTypePodStatus ++
      String.singleton Cloud.ResourceSep).toList.count '/') = 2 := by decide
  have htype : ResourceTypePodStatus.toList.count '/' = 0 := by decide
  rw [hold, hkey, List.count_append, List.count_eq_zero.mpr ha, List.count_cons_self, htype] at hle
  omega

theorem Split_podKeyOf_of_three {key a b : String} (h : Split key '/' = [a, ResourceTypePodStatus, b]) :
    Split (podKeyOf key) '/' = [a, ResourceTypePod, b] := by
  have hkey : key.toList = a.toList ++ ('/' :: ResourceTypePodStatus.toList ++ ['/']) ++ b.toList := by
    rw [toList_eq_intercalate_Split key '/', h]
    simp
  have ha : '/' ∉ a.toList := not_mem_of_mem_Split (by rw [h]; simp)
  have hb : '/' ∉ b.toList := not_mem_of_mem_Split (by rw [h]; simp)
  have hold : (String.singleton Cloud.ResourceSep ++ ResourceTypePodStatus ++ String.singleton Cloud.ResourceSep).toList =
      '/' :: ResourceTypePodStatus.toList ++ ['/'] := by decide
  -- the first `/podstatus/` starts right after the namespace
  have hocc : (String.singleton Cloud.ResourceSep ++ ResourceTypePodStatus ++ String.singleton Cloud.ResourceSep).toList
      <+: key.toList.drop a.toList.length := by
    rw [hold, hkey, List.append_assoc, List.drop_left]
    exact List.prefix_append _ _
  have hfirst : ∀ m < a.toList.length, ¬(String.singleton Cloud.ResourceSep ++ ResourceTypePodStatus ++
      String.singleton Cloud.ResourceSep).toList <+: key.toList.drop m := by
    rw [hkey, List.append_assoc]
    exact not_prefix_drop_of_not_mem ha (by rw [hold]; rfl)
  have hrepl : podKeyOf key = a ++ String.singleton '/' ++ ResourceTypePod ++ String.singleton '/' ++ b := by
    rw [podKeyOf, ReplaceOnce_of_first (by decide) hocc hfirst, hold, hkey, List.append_assoc a.toList,
      List.take_left, List.drop_append, List.drop_eq_nil_of_le (by omega), Nat.add_sub_cancel_left, List.drop_left,
      List.nil_append]
    apply String.ext
    simp [show Cloud.ResourceSep = '/' from rfl]
  rw [hrepl, Split_append_sep, Split_append_sep, Split_of_not_mem ha, Split_of_not_mem hb,
    Split_of_not_mem (by decide : '/' ∉ ResourceTypePod.toList)]
  rfl

example : podKeyOf "default/podstatus/p1" = "default/pod/p1" := by decide

theorem podKeyOf_cases {key : String} (h : typeOf key = ResourceTypePodStatus) :
    podKeyOf key = key ∨ typeOf (podKeyOf key) = ResourceTypePod := by
  rcases typeOf_eq_podstatus h with ⟨a, h2⟩ | ⟨a, b, h3⟩
  · exact .inl (podKeyOf_of_two h2)
  · exact .inr (typeOf_of_three (Split_podKeyOf_of_three h3))

theorem podKeyOf_ne {key key' : String} (hk : typeOf key = ResourceTypePodStatus)
    (hk' : typeOf key' = ResourceTypePodStatus) (hne : key ≠ key') : podKeyOf key ≠ key' := by
  rcases podKeyOf_cases hk with hself | hpod
  · rw [hself]
    exact hne
  · intro heq
    rw [heq, hk'] at hpod
    exact absurd hpod (by decide)

theorem ParseResourceEdge_podstatus {key : String} (h : typeOf key = ResourceTypePodStatus) :
    ∃ rest, Beehive.ParseResourceEdge key Beehive.QueryOperation = some (.ok ((Split key '/').headD "", rest)) := by
  unfold Beehive.ParseResourceEdge
  rcases typeOf_eq_podstatus h with ⟨a, h2⟩ | ⟨a, b, h3⟩
  · exact ⟨(ResourceTypePodStatus, ""), by simp [h2]⟩
  · exact ⟨(ResourceTypePodStatus, b), by simp [h3]⟩

section Loop
variable (isJSON : String → Bool) (table : MetaTable)

def hasPod (v : Meta) : Bool :=
  (table.lookup (podKeyOf v.Key)).isSome

/-- The statuses of `records` that `syncPodStatus` files under the namespace
    `ns`: those whose pod row is there and whose text is JSON, in order. -/
def statusesIn (records : List Meta) (ns : String) : List String :=
  (records.filter fun v => hasPod table v && isJSON v.Value && (Split v.Key '/').headD "" == ns).map (·.Value)

/-- What the loop has done once through the records `done`: their rows without
    a pod deleted, their statuses gathered by namespace. -/
def LoopDone (done : List Meta) (acc : MetaTable × PodStatusContents) : Prop :=
  (∀ k, acc.1.lookup k = if ∃ v ∈ done, v.Key = k ∧ hasPod table v = false then none else table.lookup k) ∧
  ∀ ns, acc.2.lookup ns = if statusesIn isJSON table done ns = [] then none else some (statusesIn isJSON table done ns)

/-- What one record does to the loop's table, as the first table says: its row
    goes when that table has no pod row for it. -/
def deleteOrphan (t : MetaTable) (v : Meta) : MetaTable :=
  if hasPod table v then t else DeleteMetaByKey v.Key t

/-- What one record adds to the statuses gathered, as the first table says. -/
def gatherStatus (contents : PodStatusContents) (v : Meta) : PodStatusContents :=
  if hasPod table v && isJSON v.Value then
    contents.insert ((Split v.Key '/').headD "") ((contents.lookup ((Split v.Key '/').headD "")).getD [] ++ [v.Value])
  else contents

theorem statusesIn_append_singleton (done : List Meta) (v : Meta) (ns : String) :
    statusesIn isJSON table (done ++ [v]) ns =
      statusesIn isJSON table done ns ++
        if hasPod table v && isJSON v.Value && (Split v.Key '/').headD "" == ns then [v.Value] else [] := by
  simp only [statusesIn, List.filter_append, List.map_append, List.filter_cons, List.filter_nil]
  split <;> rfl

theorem lookup_foldl_deleteOrphan (done : List Meta) (k : String) :
    (done.foldl (deleteOrphan table) table).lookup k =
      if ∃ v ∈ done, v.Key = k ∧ hasPod table v = false then none else table.lookup k := by
  induction done using List.reverseRecOn with
  | nil => simp
  | append_singleton done v ih =>
    rw [List.foldl_append, List.foldl_cons, List.foldl_nil, deleteOrphan]
    by_cases hpod : hasPod table v
    · -- a record with its pod deletes nothing
      rw [if_pos hpod, ih]
      simp [hpod]
    · rw [if_neg hpod, lookup_DeleteMetaByKey, ih]
      by_cases hk : k = v.Key
      · simp [hk, hpod]
      · have hvk : v.Key ≠ k := fun e => hk e.symm
        simp [hk, hvk]

theorem lookup_foldl_gatherStatus (done : List Meta) (ns : String) :
    (done.foldl (gatherStatus isJSON table) ∅).lookup ns =
      if statusesIn isJSON table done ns = [] then none else some (statusesIn isJSON table done ns) := by
  induction done using List.reverseRecOn with
  | nil => simp [statusesIn, AList.lookup_empty]
  | append_singleton done v ih =>
    rw [List.foldl_append, List.foldl_cons, List.foldl_nil, gatherStatus, statusesIn_append_singleton]
    by_cases hgather : (hasPod table v && isJSON v.Value) = true
    · rw [if_pos hgather, hgather]
      by_cases hns : ns = (Split v.Key '/').headD ""
      · -- the status joins its namespace's list
        subst hns
        rw [AList.lookup_insert, ih]
        split <;> simp_all
      · have hne : (Split v.Key '/').headD "" ≠ ns := fun e => hns e.symm
        rw [AList.lookup_insert_ne hns, ih, beq_eq_false_iff_ne.mpr hne]
        simp
    · rw [if_neg hgather, ih]
      rw [Bool.not_eq_true] at hgather
      rw [hgather, Bool.false_and]
      simp

theorem loopDone_foldl (done : List Meta) :
    LoopDone isJSON table done (done.foldl (deleteOrphan table) table, done.foldl (gatherStatus isJSON table) ∅) :=
  ⟨lookup_foldl_deleteOrphan table done, lookup_foldl_gatherStatus isJSON table done⟩

theorem QueryAllMeta_keys_nodup (col : Column) (condition : String) :
    ((QueryAllMeta col condition table).map (·.Key)).Nodup := by
  have h := table.nodupKeys.sublist (List.filter_sublist (p := col.select condition))
  simpa [QueryAllMeta, List.NodupKeys, List.keys, Function.comp_def] using h

theorem lookup_podKeyOf {done rest : List Meta} {v : Meta} {acc : MetaTable × PodStatusContents}
    (hinv : TypeInv table) (hrec : done ++ v :: rest = QueryAllMeta .type ResourceTypePodStatus table)
    (h : LoopDone isJSON table done acc) :
    acc.1.lookup (podKeyOf v.Key) = table.lookup (podKeyOf v.Key) := by
  have hstatus : ∀ w ∈ done ++ v :: rest, typeOf w.Key = ResourceTypePodStatus := by
    intro w hw
    rw [hrec, mem_QueryAllMeta_type] at hw
    exact (hinv _ _ _ hw.2).symm.trans hw.1
  have hnodup := QueryAllMeta_keys_nodup table .type ResourceTypePodStatus
  rw [← hrec, List.map_append, List.map_cons, List.nodup_append] at hnodup
  rw [h.1, if_neg]
  rintro ⟨w, hw, hkey, -⟩
  have hne : v.Key ≠ w.Key := fun e => hnodup.2.2 _ (List.mem_map_of_mem hw) _ List.mem_cons_self e.symm
  exact podKeyOf_ne (hstatus v (by simp)) (hstatus w (by simp [hw])) hne hkey.symm

structure Dao.AnswersSync (dao : Dao) : Prop where
  query : dao.query = none
  podQuery : ∀ k, dao.podQuery k = none
  podDelete : ∀ k, dao.podDelete k = none

theorem Dao.ok_answersSync : Dao.ok.AnswersSync := ⟨rfl, fun _ => rfl, fun _ => rfl⟩

theorem syncPodStatusStep_eq {dao : Dao} (hdao : dao.AnswersSync) {done rest : List Meta} {v : Meta}
    {acc : MetaTable × PodStatusContents} (hinv : TypeInv table)
    (hrec : done ++ v :: rest = QueryAllMeta .type ResourceTypePodStatus table) (h : LoopDone isJSON table done acc) :
    syncPodStatusStep isJSON dao (.ok acc) v = some (.ok (deleteOrphan table acc.1 v, gatherStatus isJSON table acc.2 v)) := by
  have hv : v ∈ QueryAllMeta .type ResourceTypePodStatus table := by
    rw [← hrec]
    simp
  have htype : typeOf v.Key = ResourceTypePodStatus :=
    (hinv _ _ _ ((mem_QueryAllMeta_type _ _ _).mp hv).2).symm.trans ((mem_QueryAllMeta_type _ _ _).mp hv).1
  obtain ⟨parsed, hr⟩ := ParseResourceEdge_podstatus htype
  have hpod : (QueryMeta .key (podKeyOf v.Key) acc.1).length ≤ 0 ↔ hasPod table v = false := by
    rw [QueryMeta_key, lookup_podKeyOf isJSON table hinv hrec h, hasPod]
    cases table.lookup (podKeyOf v.Key) <;> simp
  unfold syncPodStatusStep deleteOrphan gatherStatus
  dsimp only
  rw [hr, Option.map_some, hdao.podQuery, hdao.podDelete]
  dsimp only
  by_cases hgone : hasPod table v = false
  · -- the pod is gone: the status row is deleted and nothing is gathered
    rw [if_pos (hpod.mpr hgone)]
    simp [hgone]
  · have hhas : hasPod table v = true := by simpa using hgone
    rw [if_neg (fun hle => hgone (hpod.mp hle))]
    split_ifs <;> simp_all

theorem syncPodStatus_loop {dao : Dao} (hdao : dao.AnswersSync) (hinv : TypeInv table) :
    (QueryAllMeta .type ResourceTypePodStatus table).foldlM (syncPodStatusStep isJSON dao) (.ok (table, ∅)) =
      some (.ok ((QueryAllMeta .type ResourceTypePodStatus table).foldl (deleteOrphan table) table,
        (QueryAllMeta .type ResourceTypePodStatus table).foldl (gatherStatus isJSON table) ∅)) := by
  -- the invariant, over the records left: the loop holds the folds over those before them
  obtain ⟨acc, hfold, done, hdone, rfl⟩ := Lib.foldlM_pure_of_step (m := Option) (f := syncPodStatusStep isJSON dao)
    (fun rest acc => ∃ done, done ++ rest = QueryAllMeta .type ResourceTypePodStatus table ∧
      acc = Except.ok (done.foldl (deleteOrphan table) table, done.foldl (gatherStatus isJSON table) ∅))
    (fun v rest acc ⟨done, hrec, hacc⟩ => by
      subst hacc
      refine ⟨_, syncPodStatusStep_eq isJSON table hdao hinv hrec (loopDone_foldl isJSON table done), done ++ [v],
        by simpa using hrec, ?_⟩
      simp only [List.foldl_append, List.foldl_cons, List.foldl_nil])
    (QueryAllMeta .type ResourceTypePodStatus table) (.ok (table, ∅)) ⟨[], rfl, rfl⟩
  rw [List.append_nil] at hdone
  subst hdone
  exact hfold

theorem exists_orphan_iff (k : String) :
    (∃ v ∈ QueryAllMeta .type ResourceTypePodStatus table, v.Key = k ∧ hasPod table v = false) ↔
      (table.lookup k).map Prod.fst = some ResourceTypePodStatus ∧ table.lookup (podKeyOf k) = none := by
  simp only [mem_QueryAllMeta_type, hasPod, Option.isSome_eq_false_iff, Option.isNone_iff_eq_none,
    Option.map_eq_some_iff]
  constructor
  · rintro ⟨v, ⟨htype, hrow⟩, rfl, hpod⟩
    rw [htype] at hrow
    exact ⟨⟨_, hrow, rfl⟩, hpod⟩
  · rintro ⟨⟨⟨t, value⟩, hrow, rfl⟩, hpod⟩
    exact ⟨⟨k, ResourceTypePodStatus, value⟩, ⟨rfl, hrow⟩, rfl, hpod⟩

theorem QueryAllMeta_foldl_deleteOrphan (col : Column) (condition : String) :
    ∀ (done : List Meta) (t : MetaTable),
      QueryAllMeta col condition (done.foldl (deleteOrphan table) t) =
        (QueryAllMeta col condition t).filter fun w => done.all fun v => hasPod table v || v.Key != w.Key
  | [], t => by simp
  | v :: done, t => by
    rw [List.foldl_cons, QueryAllMeta_foldl_deleteOrphan col condition done, deleteOrphan]
    split_ifs with hpod
    · simp [hpod]
    · rw [QueryAllMeta_DeleteMetaByKey, List.filter_filter]
      apply List.filter_congr
      intro w _
      rw [List.all_cons, Bool.eq_false_iff.mpr hpod, Bool.false_or, Bool.and_comm, bne_comm]

theorem QueryAllMeta_synced :
    QueryAllMeta .type ResourceTypePodStatus
        ((QueryAllMeta .type ResourceTypePodStatus table).foldl (deleteOrphan table) table) =
      (QueryAllMeta .type ResourceTypePodStatus table).filter (hasPod table) := by
  rw [QueryAllMeta_foldl_deleteOrphan]
  apply List.filter_congr
  intro w hw
  have hinj := List.inj_on_of_nodup_map (QueryAllMeta_keys_nodup table .type ResourceTypePodStatus)
  cases hpod : hasPod table w
  · -- the row itself is an orphan
    rw [List.all_eq_false]
    exact ⟨w, hw, by simp [hpod]⟩
  · -- a record of the same key is the row itself
    rw [List.all_eq_true]
    intro v hv
    by_cases hkey : v.Key = w.Key
    · rw [hinj hv hw hkey, hpod, Bool.true_or]
    · simp [hkey]

theorem foldl_deleteOrphan_of_hasPod :
    ∀ (done : List Meta) (t : MetaTable), (∀ v ∈ done, hasPod table v = true) → done.foldl (deleteOrphan table) t = t
  | [], _, _ => rfl
  | v :: done, t, h => by
    rw [List.foldl_cons, deleteOrphan, if_pos (h v List.mem_cons_self)]
    exact foldl_deleteOrphan_of_hasPod done t fun w hw => h w (List.mem_cons_of_mem v hw)

theorem foldl_gatherStatus_filter (records : List Meta) :
    (records.filter (hasPod table)).foldl (gatherStatus isJSON table) ∅ = records.foldl (gatherStatus isJSON table) ∅ := by
  rw [List.foldl_filter]
  congr
  funext contents v
  unfold gatherStatus
  cases hasPod table v <;> simp

end Loop

theorem foldl_sendToCloud (f : (Σ _ : String, List String) → OutMessage) :
    ∀ (l : List (Σ _ : String, List String)) (s : metaManager),
      l.foldl (fun s e => sendToCloud (f e) s) s =
        { s with sent := s.sent ++ l.map fun e => ⟨.SendToGroup s.ContextSendGroup, f e⟩ }
  | [], s => by simp
  | e :: l, s => by
    rw [List.foldl_cons, foldl_sendToCloud f l]
    simp [sendToCloud, metaManager.send]

theorem not_orphan_podKeyOf {table : MetaTable} {key : String} (hinv : TypeInv table)
    (htype : typeOf key = ResourceTypePodStatus) (hpod : (table.lookup (podKeyOf key)).isSome) :
    ¬((table.lookup (podKeyOf key)).map Prod.fst = some ResourceTypePodStatus ∧
      table.lookup (podKeyOf (podKeyOf key)) = none) := by
  rintro ⟨hstatus, hnone⟩
  rcases podKeyOf_cases htype with hself | hpodtype
  · -- a key `<ns>/podstatus` is its own pod key, and it is in the table
    rw [hself] at hnone
    rw [hnone] at hpod
    simp at hpod
  · obtain ⟨⟨t, value⟩, hrow, rfl⟩ := Option.map_eq_some_iff.mp hstatus
    have hpodstatus := hinv _ _ _ hrow
    rw [hpodtype] at hpodstatus
    exact absurd hpodstatus (by decide)

def StatusRowsDeleted (table t : MetaTable) : Prop :=
  ∀ k, t.lookup k = table.lookup k ∨
    (t.lookup k = none ∧ (table.lookup k).map Prod.fst = some ResourceTypePodStatus)

def loopTable : Except MetaTable (MetaTable × PodStatusContents) → MetaTable
  | .error t => t
  | .ok acc => acc.1

section Faults
variable (isJSON : String → Bool) (dao : Dao) (rank : String → Nat) (s : metaManager)

theorem syncPodStatusStep_isSome {v : Meta} (htype : typeOf v.Key = ResourceTypePodStatus)
    (acc : Except MetaTable (MetaTable × PodStatusContents)) : (syncPodStatusStep isJSON dao acc v).isSome := by
  obtain ⟨parsed, hr⟩ := ParseResourceEdge_podstatus htype
  cases acc with
  | error t => rfl
  | ok acc => simp [syncPodStatusStep, hr]

theorem syncPodStatusStep_deletes {table : MetaTable} {acc acc' : Except MetaTable (MetaTable × PodStatusContents)}
    {v : Meta} (hv : (table.lookup v.Key).map Prod.fst = some ResourceTypePodStatus)
    (hacc : StatusRowsDeleted table (loopTable acc)) (h : syncPodStatusStep isJSON dao acc v = some acc') :
    StatusRowsDeleted table (loopTable acc') := by
  cases acc with
  | error t =>
    cases h
    exact hacc
  | ok acc =>
    obtain ⟨parsed, -, rfl⟩ := Option.map_eq_some_iff.mp h
    dsimp only
    split
    · exact hacc
    · split_ifs
      · -- the orphaned row `v` goes
        intro k
        dsimp only [loopTable]
        rw [lookup_DeleteMetaByKey]
        by_cases hk : k = v.Key
        · rw [if_pos hk, hk]
          exact .inr ⟨rfl, hv⟩
        · rw [if_neg hk]
          exact hacc k
      all_goals exact hacc

/-- On a typed table the sync never panics, whatever the database answers and
    whatever order its `range` takes. -/
theorem syncPodStatus_isSome (hinv : TypeInv s.table) : (syncPodStatus isJSON dao rank s).isSome := by
  unfold syncPodStatus
  split
  · rfl
  · dsimp only
    split_ifs
    · rfl
    · -- every record parses: its key is a pod status key
      obtain ⟨r, hr, -⟩ := Lib.foldlM_pure_of_step (m := Option) (f := syncPodStatusStep isJSON dao)
        (fun rest _ => ∀ v ∈ rest, typeOf v.Key = ResourceTypePodStatus)
        (fun v rest acc hrest => by
          obtain ⟨acc', hacc'⟩ := Option.isSome_iff_exists.mp
            (syncPodStatusStep_isSome isJSON dao (hrest v List.mem_cons_self) acc)
          exact ⟨acc', hacc', fun w hw => hrest w (List.mem_cons_of_mem v hw)⟩)
        _ _ fun v hv => typeOf_of_mem_QueryAllMeta hinv hv
      rw [hr]
      rfl

theorem syncPodStatus_deletes {s' : metaManager} (h : syncPodStatus isJSON dao rank s = some s') :
    StatusRowsDeleted s.table s'.table ∧ KeepsFlags s s' := by
  unfold syncPodStatus at h
  split at h
  · cases h
    exact ⟨fun k => .inl rfl, ⟨rfl, rfl⟩⟩
  · dsimp only at h
    split_ifs at h
    · cases h
      exact ⟨fun k => .inl rfl, ⟨rfl, rfl⟩⟩
    · obtain ⟨acc, hfold, rfl⟩ := Option.map_eq_some_iff.mp h
      have hloop := Lib.foldlM_some_inv_mem (fun acc => StatusRowsDeleted s.table (loopTable acc))
        (fun v : Meta => (s.table.lookup v.Key).map Prod.fst = some ResourceTypePodStatus)
        (fun _ _ _ hv hacc hstep => syncPodStatusStep_deletes isJSON dao hv hacc hstep) _ _ _
        (fun v hv => by
          obtain ⟨htype, hrow⟩ := (mem_QueryAllMeta_type _ _ _).mp hv
          rw [hrow, htype]
          rfl)
        (fun k => .inl rfl) hfold
      cases acc with
      | error t => exact ⟨hloop, ⟨rfl, rfl⟩⟩
      | ok acc =>
        dsimp only
        rw [foldl_sendToCloud]
        exact ⟨hloop, ⟨rfl, rfl⟩⟩

theorem syncPodStatus_typeInv {s' : metaManager} (hinv : TypeInv s.table) (h : syncPodStatus isJSON dao rank s = some s') :
    TypeInv s'.table := by
  intro k type value hk
  rcases (syncPodStatus_deletes isJSON dao rank s h).1 k with heq | ⟨hnone, -⟩
  · exact hinv k type value (heq ▸ hk)
  · rw [hnone] at hk
    cases hk

end Faults

theorem rangeOrder_perm (rank : String → Nat) (contents : PodStatusContents) :
    (rangeOrder rank contents).Perm contents.entries :=
  List.perm_insertionSort _ _

theorem rangeOrder_keys_perm (rank : String → Nat) (contents : PodStatusContents) :
    ((rangeOrder rank contents).map (·.1)).Perm contents.keys :=
  (rangeOrder_perm rank contents).map Sigma.fst

theorem lookup_of_mem_rangeOrder {rank : String → Nat} {contents : PodStatusContents}
    {e : Σ _ : String, List String} (he : e ∈ rangeOrder rank contents) : contents.lookup e.1 = some e.2 :=
  AList.mem_lookup_iff.mpr ((rangeOrder_perm rank contents).mem_iff.mp he)

section Answered
variable (isJSON : String → Bool) (s : metaManager) {dao : Dao} (rank : String → Nat)

theorem syncPodStatus_some (hdao : dao.AnswersSync) (hinv : TypeInv s.table) :
    syncPodStatus isJSON dao rank s = some { s with
      table := (QueryAllMeta .type ResourceTypePodStatus s.table).foldl (deleteOrphan s.table) s.table,
      sent := s.sent ++ (rangeOrder rank
        ((QueryAllMeta .type ResourceTypePodStatus s.table).foldl (gatherStatus isJSON s.table) ∅)).map
          fun e => ⟨.SendToGroup s.ContextSendGroup, podStatusMessage e.1 e.2⟩ } := by
  unfold syncPodStatus
  rw [hdao.query]
  dsimp only
  split_ifs with hempty
  · -- no status row: nothing to do
    rw [List.eq_nil_of_length_eq_zero (Nat.le_zero.mp hempty)]
    simp [rangeOrder]
  · rw [syncPodStatus_loop isJSON s.table hdao hinv, Option.map_some]
    dsimp only
    rw [foldl_sendToCloud]

theorem syncPodStatus_lookup {s' : metaManager} (hdao : dao.AnswersSync) (hinv : TypeInv s.table)
    (h : syncPodStatus isJSON dao rank s = some s') (k : String) :
    s'.table.lookup k =
      if (s.table.lookup k).map Prod.fst = some ResourceTypePodStatus ∧ s.table.lookup (podKeyOf k) = none
      then none else s.table.lookup k := by
  rw [syncPodStatus_some isJSON s rank hdao hinv, Option.some.injEq] at h
  subst h
  rw [lookup_foldl_deleteOrphan]
  simp only [exists_orphan_iff]

theorem syncPodStatus_correct (hinv : TypeInv s.table) :
    (∀ dao rank, (syncPodStatus isJSON dao rank s).isSome) ∧
    ∀ (dao : Dao) rank, dao.AnswersSync → ∃ s', syncPodStatus isJSON dao rank s = some s' ∧
      (∀ k, s'.table.lookup k =
        if (s.table.lookup k).map Prod.fst = some ResourceTypePodStatus ∧ s.table.lookup (podKeyOf k) = none
        then none else s.table.lookup k) ∧
      ∃ order : List String, order.Nodup ∧
        (∀ ns, ns ∈ order ↔ statusesIn isJSON s.table (QueryAllMeta .type ResourceTypePodStatus s.table) ns ≠ []) ∧
        s'.sent = s.sent ++ order.map fun ns => ⟨.SendToGroup s.ContextSendGroup,
          podStatusMessage ns (statusesIn isJSON s.table (QueryAllMeta .type ResourceTypePodStatus s.table) ns)⟩ := by
  refine ⟨fun dao rank => syncPodStatus_isSome isJSON dao rank s hinv, fun dao rank hdao => ?_⟩
  have hsync := syncPodStatus_some isJSON s rank hdao hinv
  have hcontents := lookup_foldl_gatherStatus isJSON s.table (QueryAllMeta .type ResourceTypePodStatus s.table)
  -- the namespaces, in the order the `range` takes them
  have hkeys := rangeOrder_keys_perm rank ((QueryAllMeta .type ResourceTypePodStatus s.table).foldl
    (gatherStatus isJSON s.table) ∅)
  refine ⟨_, hsync, syncPodStatus_lookup isJSON s rank hdao hinv hsync, _, hkeys.nodup_iff.mpr (AList.keys_nodup _),
    fun ns => ?_, ?_⟩
  · rw [hkeys.mem_iff, ← AList.mem_keys, ← AList.lookup_isSome, hcontents ns]
    split <;> simp_all
  · dsimp only
    rw [List.map_map]
    congr 1
    apply List.map_congr_left
    -- every entry holds its namespace's statuses
    intro e he
    have hlookup := lookup_of_mem_rangeOrder he
    rw [hcontents] at hlookup
    split at hlookup
    · cases hlookup
    · simp only [Function.comp_apply, Option.some.inj hlookup]

end Answered

def orphanStatus : Message :=
  ⟨⟨"m3", "", "", false⟩, ⟨EdgedModuleName, GroupResource, Beehive.UpdateOperation, "default/podstatus/p2"⟩,
    .bytes "[2]"⟩

def sampleStatuses : metaManager :=
  (processInsert (fun _ => none) Dao.ok (podInsert "[1]") sampleManager >>=
    processUpdate (fun _ => none) Dao.ok statusUpdate >>= processUpdate (fun _ => none) Dao.ok orphanStatus).get
    (by decide)

theorem syncPodStatus_correct_p1 :
    TypeInv sampleStatuses.table ∧
      (∀ dao rank, (syncPodStatus (fun _ => true) dao rank sampleStatuses).isSome) ∧
      ∀ (dao : Dao) rank, dao.AnswersSync → ∃ s', syncPodStatus (fun _ => true) dao rank sampleStatuses = some s' ∧
        (∀ k, s'.table.lookup k =
          if (sampleStatuses.table.lookup k).map Prod.fst = some ResourceTypePodStatus ∧
              sampleStatuses.table.lookup (podKeyOf k) = none
          then none else sampleStatuses.table.lookup k) ∧
        ∃ order : List String, order.Nodup ∧
          (∀ ns, ns ∈ order ↔
            statusesIn (fun _ => true) sampleStatuses.table
              (QueryAllMeta .type ResourceTypePodStatus sampleStatuses.table) ns ≠ []) ∧
          s'.sent = sampleStatuses.sent ++ order.map fun ns => ⟨.SendToGroup sampleStatuses.ContextSendGroup,
            podStatusMessage ns (statusesIn (fun _ => true) sampleStatuses.table
              (QueryAllMeta .type ResourceTypePodStatus sampleStatuses.table) ns)⟩ :=
  ⟨by decide, syncPodStatus_correct (fun _ => true) sampleStatuses (by decide)⟩

section Repeat
variable (isJSON : String → Bool) (table : MetaTable)

theorem hasPod_synced (hinv : TypeInv table) {v : Meta}
    (hv : v ∈ (QueryAllMeta .type ResourceTypePodStatus table).filter (hasPod table)) :
    hasPod ((QueryAllMeta .type ResourceTypePodStatus table).foldl (deleteOrphan table) table) v = true := by
  obtain ⟨hrec, hpod⟩ := List.mem_filter.mp hv
  rw [hasPod, lookup_foldl_deleteOrphan]
  simp only [exists_orphan_iff]
  rw [if_neg (not_orphan_podKeyOf hinv (typeOf_of_mem_QueryAllMeta hinv hrec) hpod)]
  exact hpod

theorem folds_synced (hinv : TypeInv table) :
    let synced := (QueryAllMeta .type ResourceTypePodStatus table).foldl (deleteOrphan table) table
    (QueryAllMeta .type ResourceTypePodStatus synced).foldl (deleteOrphan synced) synced = synced ∧
      (QueryAllMeta .type ResourceTypePodStatus synced).foldl (gatherStatus isJSON synced) ∅ =
        (QueryAllMeta .type ResourceTypePodStatus table).foldl (gatherStatus isJSON table) ∅ := by
  dsimp only
  have hpods := fun v (hv : v ∈ _) => hasPod_synced table hinv hv
  have hfirst : ∀ v ∈ (QueryAllMeta .type ResourceTypePodStatus table).filter (hasPod table),
      hasPod table v = true := fun v hv => (List.mem_filter.mp hv).2
  rw [QueryAllMeta_synced]
  refine ⟨foldl_deleteOrphan_of_hasPod _ _ _ hpods, ?_⟩
  rw [← foldl_gatherStatus_filter isJSON table]
  exact List.foldl_ext _ _ _ fun c v hv => by simp only [gatherStatus, hpods v hv, hfirst v hv]

end Repeat

/-- A second sync right after one on an answering database deletes nothing,
    and sends the cloud again the updates the first sent, in the order of its
    own `range`. -/
theorem syncPodStatus_repeat (isJSON : String → Bool) (s : metaManager) {dao₁ dao₂ : Dao}
    {rank₁ rank₂ : String → Nat} {s₁ : metaManager} (hinv : TypeInv s.table) (hdao₁ : dao₁.AnswersSync)
    (hdao₂ : dao₂.AnswersSync) (h : syncPodStatus isJSON dao₁ rank₁ s = some s₁) :
    ∃ msgs₁ msgs₂, s₁.sent = s.sent ++ msgs₁ ∧
      syncPodStatus isJSON dao₂ rank₂ s₁ = some { s₁ with sent := s₁.sent ++ msgs₂ } ∧ msgs₂.Perm msgs₁ := by
  have hinv₁ := syncPodStatus_typeInv isJSON dao₁ rank₁ s hinv h
  rw [syncPodStatus_some isJSON s rank₁ hdao₁ hinv, Option.some.injEq] at h
  subst h
  obtain ⟨hdel, hgather⟩ := folds_synced isJSON s.table hinv
  refine ⟨_, (rangeOrder rank₂ ((QueryAllMeta .type ResourceTypePodStatus s.table).foldl
    (gatherStatus isJSON s.table) ∅)).map fun e => ⟨.SendToGroup s.ContextSendGroup, podStatusMessage e.1 e.2⟩,
    rfl, ?_, ?_⟩
  · rw [syncPodStatus_some isJSON _ rank₂ hdao₂ hinv₁]
    dsimp only
    rw [hdel, hgather]
  · -- both orders are orders of the same namespaces
    exact ((rangeOrder_perm rank₂ _).trans (rangeOrder_perm rank₁ _).symm).map _

def sampleSynced : metaManager :=
  (syncPodStatus (fun _ => true) Dao.ok (fun _ => 0) sampleStatuses).get (by decide)

theorem syncPodStatus_repeat_p1 :
    TypeInv sampleStatuses.table ∧ Dao.ok.AnswersSync ∧
      syncPodStatus (fun _ => true) Dao.ok (fun _ => 0) sampleStatuses = some sampleSynced ∧
      ∃ msgs₁ msgs₂, sampleSynced.sent = sampleStatuses.sent ++ msgs₁ ∧
        syncPodStatus (fun _ => true) Dao.ok String.length sampleSynced =
          some { sampleSynced with sent := sampleSynced.sent ++ msgs₂ } ∧ msgs₂.Perm msgs₁ :=
  ⟨by decide, Dao.ok_answersSync, (Option.some_get _).symm,
    syncPodStatus_repeat (fun _ => true) sampleStatuses (by decide) Dao.ok_answersSync Dao.ok_answersSync
      (Option.some_get _).symm⟩

end KubeEdge.MetaManager
