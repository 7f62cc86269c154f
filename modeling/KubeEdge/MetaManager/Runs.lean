import KubeEdge.MetaManager.PodStatus

set_option autoImplicit false

/-!
# Runs of the meta manager

Every step keeps the rows of the table typed by their keys. From such a table a
step panics exactly where the imitator's `Inject` does, whatever else the
database answers. A value written at a key by an update, a response or the
answer of a remote query is what a later query of the key is answered with, as
long as no action in between touches the key.
-/

namespace KubeEdge.MetaManager

variable {Unmarshal : String → Option Go.JsonValue}

def Enabled (s : metaManager) : Action → Prop
  | .receive _ _ => True
  | .remoteAnswer query _ _ => query ∈ s.remoteQueries

def Action.panics (Unmarshal : String → Option Go.JsonValue) : Action → Prop
  | .receive message answers => InjectPanics Unmarshal answers.dao message
  | .remoteAnswer _ _ _ => False

@[simp] theorem processQuery_table (dao : Dao) (message : Message) (s : metaManager) :
    (processQuery dao message s).table = s.table := by
  unfold processQuery
  cases dao.query <;> dsimp only <;> split_ifs <;> simp [processRemoteQuery]

@[simp] theorem processNodeConnection_table (message : Message) (s : metaManager) :
    (processNodeConnection message s).table = s.table := by
  unfold processNodeConnection
  dsimp only
  split_ifs <;> rfl

theorem step_typeInv {s s' : metaManager} {a : Action} (hinv : TypeInv s.table) (h : step Unmarshal s a = some s') :
    TypeInv s'.table := by
  cases a with
  | receive message answers =>
    by_cases hsync : message.router.operation = OperationMetaSync
    · rw [step, process_of_sync Unmarshal message answers s hsync] at h
      exact syncPodStatus_typeInv _ answers.dao answers.rank s hinv h
    · rcases (process_of_ne_sync Unmarshal message answers s hsync).2 s' h with ⟨-, rfl⟩ | ⟨-, rfl⟩ | hh
      · rwa [processQuery_table]
      · rwa [processNodeConnection_table]
      · exact hh.writes.typeInv hinv
  | remoteAnswer query result write =>
    obtain ⟨-, rfl⟩ := step_remoteAnswer h
    exact (remoteQueryDone_handles result write).writes.typeInv hinv

theorem step_isSome_iff {s : metaManager} {a : Action} (hinv : TypeInv s.table) (ha : Enabled s a) :
    (step Unmarshal s a).isSome ↔ ¬a.panics Unmarshal := by
  cases a with
  | receive message answers =>
    rw [Option.isSome_iff_ne_none]
    by_cases hsync : message.router.operation = OperationMetaSync
    · -- the sync calls no `Inject`, and its own loop never panics
      have hpanics : ¬InjectPanics Unmarshal answers.dao message :=
        not_injectPanics (by rw [hsync]; decide) (by rw [hsync]; decide) (by rw [hsync]; decide)
      rw [step, process_of_sync Unmarshal message answers s hsync]
      exact iff_of_true (Option.isSome_iff_ne_none.mp (syncPodStatus_isSome _ _ _ s hinv)) hpanics
    · exact not_congr (process_of_ne_sync Unmarshal message answers s hsync).1
  | remoteAnswer query result write =>
    have hq : query ∈ s.remoteQueries := ha
    simp [step, hq, Action.panics]

theorem run_typeInv {s₀ s : metaManager} {actions : List Action} (hinv : TypeInv s₀.table)
    (h : run Unmarshal s₀ actions = some s) : TypeInv s.table :=
  Lib.foldlM_some_inv (fun s => TypeInv s.table) (fun _ _ _ hs hstep => step_typeInv hs hstep) actions s₀ s hinv h

theorem run_panics_iff_inject (s₀ s : metaManager) (actions : List Action) (hinv : TypeInv s₀.table)
    (h : run Unmarshal s₀ actions = some s) :
    TypeInv s.table ∧ ∀ a, Enabled s a → ((step Unmarshal s a).isSome ↔ ¬a.panics Unmarshal) :=
  ⟨run_typeInv hinv h, fun _ ha => step_isSome_iff (run_typeInv hinv h) ha⟩

def syncMessage : Message :=
  ⟨⟨"m4", "", "", false⟩, ⟨MetaManagerModuleName, GroupResource, OperationMetaSync, ResourceTypePodStatus⟩,
    .value (.ok "null") none⟩

def okAnswers : Answers := ⟨Dao.ok, .error "", fun _ => 0⟩

def missionsInsert : Message :=
  ⟨⟨"m6", "", "", false⟩,
    ⟨Cloud.EdgeControllerModuleName, GroupResource, Cloud.InsertOperation, "default/missionlist/missions"⟩,
    .bytes "missions"⟩

/-- `json.Unmarshal` on the samples' texts: the statuses, and the mission list,
    whose one item, as a typed list's items are, carries no `apiVersion` and no
    `kind`. -/
def sampleUnmarshal (text : String) : Option Go.JsonValue :=
  if text = "[1]" ∨ text = "[2]" then some (.array [.number text])
  else if text = "missions" then
    some (.object [("apiVersion", .string "apps.kubeedge.io/v1alpha1"), ("kind", .string "MissionList"),
      ("items", .array [.object [("metadata", .object [("name", .string "m1")])]])])
  else none

def sampleActions : List Action :=
  [.receive (podInsert "[1]") okAnswers, .receive statusUpdate okAnswers, .receive orphanStatus okAnswers,
    .receive syncMessage okAnswers]

def sampleRun : metaManager :=
  (run sampleUnmarshal sampleManager sampleActions).get (by decide)

theorem run_panics_iff_inject_p1 :
    TypeInv sampleManager.table ∧ run sampleUnmarshal sampleManager sampleActions = some sampleRun ∧
      (TypeInv sampleRun.table ∧
        ∀ a, Enabled sampleRun a → ((step sampleUnmarshal sampleRun a).isSome ↔ ¬a.panics sampleUnmarshal)) ∧
      (step sampleUnmarshal sampleRun (.receive missionsInsert okAnswers)).isSome = false :=
  ⟨typeInv_empty, (Option.some_get _).symm,
    run_panics_iff_inject sampleManager sampleRun sampleActions typeInv_empty (Option.some_get _).symm, by decide⟩

/-- The actions that may change the row at `key`: a message about it other than
    a query, a sync when `key` is a pod status key, the answer of a query of it. -/
def touches (key : String) : Action → Prop
  | .receive message _ =>
    (message.router.resource = key ∧ message.router.operation ≠ Beehive.QueryOperation) ∨
      (message.router.operation = OperationMetaSync ∧ typeOf key = ResourceTypePodStatus)
  | .remoteAnswer query _ _ => query.router.resource = key

/-- The actions that store `value` at `key`, the database taking the write. -/
def Action.writes (key value : String) : Action → Prop
  | .receive message answers =>
    (message.router.operation = Beehive.UpdateOperation ∨ message.router.operation = Beehive.ResponseOperation) ∧
      message.router.resource = key ∧ message.content.marshal = .ok value ∧ answers.dao.write = none
  | .remoteAnswer query result write =>
    query.router.resource = key ∧ (∃ resp, result = .ok resp ∧ resp.content.marshal = .ok value) ∧ write = none

theorem step_lookup_frame {s s' : metaManager} {a : Action} {key : String} (hinv : TypeInv s.table)
    (h : step Unmarshal s a = some s') (ha : ¬touches key a) : s'.table.lookup key = s.table.lookup key := by
  cases a with
  | receive message answers =>
    simp only [touches, not_or, not_and, not_not] at ha
    by_cases hsync : message.router.operation = OperationMetaSync
    · rw [step, process_of_sync Unmarshal message answers s hsync] at h
      rcases (syncPodStatus_deletes _ answers.dao answers.rank s h).1 key with heq | ⟨-, htype⟩
      · exact heq
      · -- the sync deletes pod status rows only, and the row at `key` has the key's type
        obtain ⟨⟨t, v⟩, hrow, rfl⟩ := Option.map_eq_some_iff.mp htype
        exact absurd (hinv _ _ _ hrow).symm (ha.2 hsync)
    · by_cases hkey : key = message.router.resource
      · -- a query of the key writes nothing
        rw [step, process_of_query Unmarshal message answers s (ha.1 hkey.symm), Option.some.injEq] at h
        rw [← h, processQuery_table]
      · rcases (process_of_ne_sync Unmarshal message answers s hsync).2 s' h with ⟨-, rfl⟩ | ⟨-, rfl⟩ | hh
        · rw [processQuery_table]
        · rw [processNodeConnection_table]
        · exact hh.writes.lookup_ne hkey
  | remoteAnswer query result write =>
    obtain ⟨-, rfl⟩ := step_remoteAnswer h
    exact (remoteQueryDone_handles result write).writes.lookup_ne (fun e => ha e.symm)

theorem run_lookup_frame {key : String} (actions : List Action) (s s' : metaManager) (hinv : TypeInv s.table)
    (h : run Unmarshal s actions = some s') (hnt : ∀ a ∈ actions, ¬touches key a) :
    s'.table.lookup key = s.table.lookup key :=
  (Lib.foldlM_some_rel (fun s => TypeInv s.table) (fun s s' => s'.table.lookup key = s.table.lookup key)
    (fun a => ¬touches key a) (fun _ => rfl) (fun _ _ _ h₁ h₂ => by rw [h₂, h₁])
    (fun _ _ _ ha hs hstep => ⟨step_typeInv hs hstep, step_lookup_frame hs hstep ha⟩) actions s s' hnt hinv h).2

theorem remoteQueryDone_lookup (query resp : Message) (s : metaManager) {value : String}
    (hc : resp.content.marshal = .ok value) :
    ((remoteQueryDone query (.ok resp) none s).table.lookup query.router.resource).map Prod.snd = some value := by
  unfold remoteQueryDone
  dsimp only
  rw [hc]
  dsimp only
  split_ifs <;> simp [lookup_InsertOrUpdate, parseResource_fst, UpdateID]

theorem step_writes_value {s s' : metaManager} {a : Action} {key value : String}
    (h : step Unmarshal s a = some s') (hw : a.writes key value) : (s'.table.lookup key).map Prod.snd = some value := by
  cases a with
  | receive message answers =>
    obtain ⟨hop, rfl, hc, hwrite⟩ := hw
    rcases hop with hop | hop
    · rw [step, process_of_update Unmarshal message answers s hop] at h
      exact processUpdate_lookup Unmarshal message s hc hwrite h
    · rw [step, process_of_response Unmarshal message answers s hop] at h
      cases h
      exact processResponse_lookup message s hc hwrite
  | remoteAnswer query result write =>
    obtain ⟨rfl, ⟨resp, rfl, hc⟩, rfl⟩ := hw
    obtain ⟨-, rfl⟩ := step_remoteAnswer h
    exact remoteQueryDone_lookup query resp _ hc

theorem run_split {s₀ s : metaManager} {pre post : List Action} {a : Action}
    (h : run Unmarshal s₀ (pre ++ a :: post) = some s) :
    ∃ s₁ s₂, run Unmarshal s₀ pre = some s₁ ∧ step Unmarshal s₁ a = some s₂ ∧ run Unmarshal s₂ post = some s := by
  rw [run, List.foldlM_append] at h
  obtain ⟨s₁, hpre, hrest⟩ := Option.bind_eq_some_iff.mp h
  rw [List.foldlM_cons] at hrest
  obtain ⟨s₂, hstep, hpost⟩ := Option.bind_eq_some_iff.mp hrest
  exact ⟨s₁, s₂, hpre, hstep, hpost⟩

theorem processQuery_local (query : Message) (s : metaManager) {dao : Dao} (hq : dao.query = none)
    (hstored : QueryMeta .key query.router.resource s.table ≠ [])
    (hid : (Cloud.parseResource query.router.resource).2.2 ≠ "")
    (hnode : typeOf query.router.resource ≠ Beehive.ResourceTypeNode)
    (hva : typeOf query.router.resource ≠ ResourceTypeVolumeAttachment) :
    processQuery dao query s = sendQueryResp query (QueryMeta .key query.router.resource s.table) s := by
  unfold processQuery
  simp only [parseResource_fst, hq]
  have hlen : (QueryMeta .key query.router.resource s.table).length ≠ 0 := fun h => hstored (List.eq_nil_of_length_eq_zero h)
  split_ifs with hremote hcloud
  · exfalso
    rcases hcloud with h | h | h | h
    · exact absurd h (by simp)
    · exact hlen h
    · exact hnode h
    · exact hva h
  · rfl
  · rfl

theorem query_reads_last_write (s₀ s : metaManager) (pre post : List Action) (w : Action) (key value : String)
    (hinv : TypeInv s₀.table) (hrun : run Unmarshal s₀ (pre ++ w :: post) = some s) (hw : w.writes key value)
    (hpost : ∀ a ∈ post, ¬touches key a) (query : Message) (answers : Answers)
    (hquery : query.router.operation = Beehive.QueryOperation) (hkey : query.router.resource = key)
    (hq : answers.dao.query = none) (hid : (Cloud.parseResource key).2.2 ≠ "")
    (hnode : typeOf key ≠ Beehive.ResourceTypeNode) (hva : typeOf key ≠ ResourceTypeVolumeAttachment) :
    step Unmarshal s (.receive query answers) = some (sendQueryResp query [value] s) := by
  obtain ⟨s₁, s₂, hpre, hw₂, hpost₂⟩ := run_split hrun
  have hinv₂ : TypeInv s₂.table := step_typeInv (run_typeInv hinv hpre) hw₂
  -- the row the write left is the row the query reads
  have hrow : (s.table.lookup key).map Prod.snd = some value := by
    rw [run_lookup_frame post s₂ s hinv₂ hpost₂ hpost]
    exact step_writes_value hw₂ hw
  have hmetas : QueryMeta .key key s.table = [value] := by
    rw [QueryMeta_key, hrow]
    rfl
  subst hkey
  rw [step, process_of_query Unmarshal query answers s hquery,
    processQuery_local query s hq (by rw [hmetas]; simp) hid hnode hva, hmetas]

def configUpdate : Message :=
  ⟨⟨"m5", "", "", false⟩,
    ⟨Cloud.EdgeControllerModuleName, GroupResource, Beehive.UpdateOperation, "default/configmap/cm1"⟩, .bytes "[3]"⟩

def configQuery : Message :=
  ⟨⟨"q1", "", "", true⟩, ⟨EdgedModuleName, GroupResource, Beehive.QueryOperation, "default/configmap/cm1"⟩,
    .bytes ""⟩

def configActions : List Action :=
  [.receive (podInsert "[1]") okAnswers] ++ .receive configUpdate okAnswers :: [.receive statusUpdate okAnswers]

def configRun : metaManager :=
  (run sampleUnmarshal sampleManager configActions).get (by decide)

theorem configMap_untouched : ∀ a ∈ [Action.receive statusUpdate okAnswers], ¬touches "default/configmap/cm1" a := by
  intro a ha
  rw [List.mem_singleton] at ha
  subst ha
  simp only [touches, not_or, not_and]
  constructor <;> intro h <;> exact absurd h (by decide)

theorem query_reads_last_write_cm1 :
    TypeInv sampleManager.table ∧ run sampleUnmarshal sampleManager configActions = some configRun ∧
      (Action.receive configUpdate okAnswers).writes "default/configmap/cm1" "[3]" ∧
      (∀ a ∈ [Action.receive statusUpdate okAnswers], ¬touches "default/configmap/cm1" a) ∧
      configQuery.router.operation = Beehive.QueryOperation ∧ configQuery.router.resource = "default/configmap/cm1" ∧
      okAnswers.dao.query = none ∧ (Cloud.parseResource "default/configmap/cm1").2.2 ≠ "" ∧
      typeOf "default/configmap/cm1" ≠ Beehive.ResourceTypeNode ∧
      typeOf "default/configmap/cm1" ≠ ResourceTypeVolumeAttachment ∧
      step sampleUnmarshal configRun (.receive configQuery okAnswers) =
        some (sendQueryResp configQuery ["[3]"] configRun) := by
  have hw : (Action.receive configUpdate okAnswers).writes "default/configmap/cm1" "[3]" := ⟨.inl rfl, rfl, rfl, rfl⟩
  exact ⟨typeInv_empty, (Option.some_get _).symm, hw, configMap_untouched, rfl, rfl, rfl, by decide, by decide,
    by decide,
    query_reads_last_write sampleManager configRun [.receive (podInsert "[1]") okAnswers]
      [.receive statusUpdate okAnswers] (.receive configUpdate okAnswers) "default/configmap/cm1" "[3]"
      typeInv_empty (Option.some_get _).symm hw configMap_untouched configQuery okAnswers rfl rfl rfl (by decide)
      (by decide) (by decide)⟩

def Action.connects : Action → Prop
  | .receive message _ => message.router.operation = OperationNodeConnection ∧ message.content.string = CloudConnected
  | .remoteAnswer _ _ _ => False

theorem step_offline {s s' : metaManager} {a : Action} (hoff : s.Connected = false) (ha : ¬a.connects)
    (h : step Unmarshal s a = some s') : s'.Connected = false ∧ s'.remoteQueries.Sublist s.remoteQueries := by
  have hkeeps : KeepsFlags s s' → s'.Connected = false ∧ s'.remoteQueries.Sublist s.remoteQueries :=
    fun hk => ⟨hk.Connected.trans hoff, hk.remoteQueries ▸ List.Sublist.refl _⟩
  cases a with
  | remoteAnswer query result write =>
    obtain ⟨-, rfl⟩ := step_remoteAnswer h
    have hk : KeepsFlags { s with remoteQueries := s.remoteQueries.erase query }
        (remoteQueryDone query result write { s with remoteQueries := s.remoteQueries.erase query }) :=
      (remoteQueryDone_handles result write).keeps
    rw [hk.Connected, hk.remoteQueries]
    exact ⟨hoff, List.erase_sublist⟩
  | receive message answers =>
    rw [step] at h
    by_cases hsync : message.router.operation = OperationMetaSync
    · rw [process_of_sync Unmarshal message answers s hsync] at h
      exact hkeeps (syncPodStatus_deletes _ answers.dao answers.rank s h).2
    rcases (process_of_ne_sync Unmarshal message answers s hsync).2 s' h with ⟨-, rfl⟩ | ⟨hconn, rfl⟩ | hh
    · -- offline, a query is answered from the table, or with the database's error
      rw [processQuery_offline message s answers.dao hoff]
      cases answers.dao.query <;> exact ⟨by simp [hoff], by simp⟩
    · -- a node connection message that announces no connection
      refine ⟨processNodeConnection_Connected message s (fun hc => ha ⟨hconn, hc⟩) hoff, ?_⟩
      rw [processNodeConnection_remoteQueries]
    · exact hkeeps hh.keeps

theorem run_offline_flags (actions : List Action) (s s' : metaManager) (hoff : s.Connected = false)
    (h : run Unmarshal s actions = some s') (hnc : ∀ a ∈ actions, ¬a.connects) :
    s'.Connected = false ∧ s'.remoteQueries.Sublist s.remoteQueries :=
  Lib.foldlM_some_rel (fun s => s.Connected = false) (fun s s' => s'.remoteQueries.Sublist s.remoteQueries)
    (fun a => ¬a.connects) (fun _ => List.Sublist.refl _) (fun _ _ _ h₁ h₂ => h₂.trans h₁)
    (fun _ _ _ ha hoff hstep => step_offline hoff ha hstep) actions s s' hnc hoff h

theorem run_offline_answers_locally (s₀ s : metaManager) (actions : List Action) (hoff : s₀.Connected = false)
    (h : run Unmarshal s₀ actions = some s) (hnc : ∀ a ∈ actions, ¬a.connects) :
    s.remoteQueries.Sublist s₀.remoteQueries ∧
      ∀ (query : Message) (answers : Answers), query.router.operation = Beehive.QueryOperation →
        step Unmarshal s (.receive query answers) = some
          (match answers.dao.query with
          | some err => feedbackError err "Error to query meta in DB" query s
          | none =>
            sendQueryResp query
              (if (Cloud.parseResource query.router.resource).2.2 = "" then
                QueryMeta .type (typeOf query.router.resource) s.table
              else QueryMeta .key query.router.resource s.table) s) := by
  obtain ⟨hoff', hsub⟩ := run_offline_flags actions s₀ s hoff h hnc
  refine ⟨hsub, fun query answers hquery => ?_⟩
  rw [step, process_of_query Unmarshal query answers s hquery]
  exact congrArg some (processQuery_offline query s answers.dao hoff')

def disconnectMessage : Message :=
  ⟨⟨"c1", "", "", false⟩, ⟨"edgehub", "meta", OperationNodeConnection, "node/connection"⟩,
    .value (.ok "\"cloud_disconnected\"") (some CloudDisconnected)⟩

def offlineStart : metaManager :=
  (run sampleUnmarshal sampleManager [.receive configQuery okAnswers, .receive disconnectMessage okAnswers]).get
    (by decide)

def offlineActions : List Action :=
  [.receive configUpdate okAnswers, .remoteAnswer configQuery (.ok configUpdate) none]

def offlineRun : metaManager :=
  (run sampleUnmarshal offlineStart offlineActions).get (by decide)

theorem run_offline_answers_locally_cm1 :
    offlineStart.Connected = false ∧ run sampleUnmarshal offlineStart offlineActions = some offlineRun ∧
      (∀ a ∈ offlineActions, ¬a.connects) ∧
      offlineRun.remoteQueries.Sublist offlineStart.remoteQueries ∧
      ∀ (query : Message) (answers : Answers), query.router.operation = Beehive.QueryOperation →
        step sampleUnmarshal offlineRun (.receive query answers) = some
          (match answers.dao.query with
          | some err => feedbackError err "Error to query meta in DB" query offlineRun
          | none =>
            sendQueryResp query
              (if (Cloud.parseResource query.router.resource).2.2 = "" then
                QueryMeta .type (typeOf query.router.resource) offlineRun.table
              else QueryMeta .key query.router.resource offlineRun.table) offlineRun) := by
  have hoff : offlineStart.Connected = false := by decide
  have hnc : ∀ a ∈ offlineActions, ¬a.connects := by
    intro a ha
    simp only [offlineActions, List.mem_cons, List.not_mem_nil, or_false] at ha
    rcases ha with rfl | rfl
    · exact fun h => absurd h.1 (by decide)
    · exact id
  exact ⟨hoff, (Option.some_get _).symm, hnc,
    run_offline_answers_locally offlineStart offlineRun offlineActions hoff (Option.some_get _).symm hnc⟩

end KubeEdge.MetaManager
