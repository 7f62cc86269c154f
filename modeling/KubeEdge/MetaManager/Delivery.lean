import KubeEdge.MetaManager.Runs

set_option autoImplicit false

/-!
# Messages from the cloud, acknowledged and resent

The cloud hub writes each message of a node's queue and waits for the edge's
acknowledgement, a response whose parent ID is the message's ID; while it does
not come, it writes the same message again. The meta manager acknowledges every
insert, update and delete of the edge controller or the dynamic controller,
each time it receives one, and a message received again, after actions that
leave its resource alone, finds the row it left and changes nothing.
-/

namespace KubeEdge.MetaManager

def toCloud (group : String) (sent : List Sent) : List OutMessage :=
  (sent.filter fun x => x.call = .SendToGroup group).map (·.message)

/-- A delivery of `m` that passes it on to an edge module, then acknowledges it
    to the cloud, and changes nothing else but the table. -/
def Acked (m : Message) (s s' : metaManager) : Prop :=
  ∃ sync module, s' = sendToCloud (NewRespByMessage m (.text OK))
    (sendToEdgeModules m.out sync module { s with table := s'.table })

theorem Acked.toCloud_eq {m : Message} {s s' : metaManager} (h : Acked m s s') :
    toCloud s.ContextSendGroup (s'.sent.drop s.sent.length) = [NewRespByMessage m (.text OK)] := by
  obtain ⟨sync, module, h⟩ := h
  rw [h]
  -- the message to the edge module goes by `Send` or `SendResp`, never to the group
  unfold sendToEdgeModules
  split <;> simp [toCloud, sendToCloud, metaManager.send]

theorem isClusterdResource_ne_podstatus {resType : String} (h : isClusterdResource resType = true) :
    resType ≠ ResourceTypePodStatus := by
  rintro rfl
  exact absurd h (by decide)

section Handlers
variable {Unmarshal : String → Option Go.JsonValue} (m : Message) (s : metaManager) {dao : Dao} {s' : metaManager}
  {content : String}

def FromController : Prop :=
  m.router.source = Cloud.EdgeControllerModuleName ∨ m.router.source = Cloud.DynamicControllerModuleName

theorem FromController.ne_edged {m : Message} (h : FromController m) : m.router.source ≠ EdgedModuleName := by
  rcases h with h | h <;> rw [h] <;> decide

theorem FromController.ne_clusterd {m : Message} (h : FromController m) : m.router.source ≠ ClusterdModuleName := by
  rcases h with h | h <;> rw [h] <;> decide

theorem resourceUnchanged_of_ne {resType : String} (query : Option String) (resKey content : String) (table : MetaTable)
    (h : resType ≠ ResourceTypePodStatus) : resourceUnchanged query resType resKey content table = false := by
  simp [resourceUnchanged, h]

theorem processUpdate_acked (hsrc : FromController m) (hc : m.content.marshal = .ok content)
    (htype : typeOf m.router.resource ≠ ResourceTypePodStatus) (hw : dao.write = none)
    (h : processUpdate Unmarshal dao m s = some s') : Acked m s s' := by
  have hchanged : resourceUnchanged dao.query (Cloud.parseResource m.router.resource).2.1
      (Cloud.parseResource m.router.resource).1 content s.table = false :=
    resourceUnchanged_of_ne dao.query _ _ s.table htype
  unfold processUpdate at h
  rw [hc, Lib.bind_pure_eq_some] at h
  obtain ⟨-, rfl⟩ := h
  dsimp only
  rw [if_neg (by simp [hchanged]), hw]
  dsimp only
  rw [if_neg hsrc.ne_edged, if_neg hsrc.ne_clusterd, if_pos (show _ ∨ _ from hsrc)]
  -- edge clusters get their resources from clusterd, every other one goes to edged
  by_cases hcl : isClusterdResource (Cloud.parseResource m.router.resource).2.1
  · exact ⟨m.header.sync, ClusterdModuleName, by simp [hcl, sendToClusterd]⟩
  · exact ⟨m.header.sync, EdgedModuleName, by simp [hcl, sendToEdged]⟩

theorem processInsert_acked (hsrc : FromController m) (hc : m.content.marshal = .ok content) (hw : dao.write = none)
    (h : processInsert Unmarshal dao m s = some s') : Acked m s s' := by
  unfold processInsert at h
  dsimp only at h
  by_cases hstored : isClusterdResource (Cloud.parseResource m.router.resource).2.1 = true ∧ dao.query = none ∧
      (QueryMeta .key (Cloud.parseResource m.router.resource).1 s.table).length > 0
  · -- a stored edge cluster resource is updated
    rw [if_pos hstored] at h
    exact processUpdate_acked m s hsrc hc (isClusterdResource_ne_podstatus hstored.1) hw h
  · rw [if_neg hstored, hc, Lib.bind_pure_eq_some] at h
    obtain ⟨-, rfl⟩ := h
    rw [hw]
    dsimp only
    by_cases hcl : isClusterdResource (Cloud.parseResource m.router.resource).2.1
    · exact ⟨false, ClusterdModuleName, by simp [hcl, sendToClusterd]⟩
    · exact ⟨false, EdgedModuleName, by simp [hcl, sendToEdged]⟩

theorem processDelete_acked (hsrc : FromController m) (hw : dao.write = none)
    (h : processDelete Unmarshal dao m s = some s') : Acked m s s' := by
  unfold processDelete at h
  rw [Lib.bind_pure_eq_some] at h
  obtain ⟨-, rfl⟩ := h
  rw [hw]
  dsimp only
  rw [if_neg fun h => hsrc.ne_edged h.2]
  by_cases hcl : isClusterdResource (Cloud.parseResource m.router.resource).2.1
  · exact ⟨m.header.sync, ClusterdModuleName, by simp [hcl, sendToClusterd]⟩
  · exact ⟨false, EdgedModuleName, by simp [hcl, sendToEdged]⟩

theorem processUpdate_lookup_self (hc : m.content.marshal = .ok content)
    (htype : typeOf m.router.resource ≠ ResourceTypePodStatus) (hw : dao.write = none)
    (h : processUpdate Unmarshal dao m s = some s') :
    s'.table.lookup m.router.resource = some (typeOf m.router.resource, content) := by
  have hchanged : resourceUnchanged dao.query (Cloud.parseResource m.router.resource).2.1
      (Cloud.parseResource m.router.resource).1 content s.table = false :=
    resourceUnchanged_of_ne dao.query _ _ s.table htype
  unfold processUpdate at h
  rw [hc, Lib.bind_pure_eq_some] at h
  obtain ⟨-, rfl⟩ := h
  dsimp only
  rw [if_neg (by simp [hchanged]), hw]
  dsimp only
  split_ifs <;> simp [lookup_InsertOrUpdate, parseResource_fst, typeOf]

theorem processInsert_lookup_self (hc : m.content.marshal = .ok content) (hw : dao.write = none)
    (h : processInsert Unmarshal dao m s = some s') :
    s'.table.lookup m.router.resource =
      if isClusterdResource (typeOf m.router.resource) ∧ dao.query = none then some (typeOf m.router.resource, content)
      else (s.table.lookup m.router.resource).or (some (typeOf m.router.resource, content)) := by
  unfold processInsert at h
  dsimp only at h
  rw [parseResource_fst] at h
  rw [show typeOf m.router.resource = (Cloud.parseResource m.router.resource).2.1 from rfl]
  by_cases hstored : isClusterdResource (Cloud.parseResource m.router.resource).2.1 = true ∧ dao.query = none ∧
      (QueryMeta .key m.router.resource s.table).length > 0
  · rw [if_pos hstored] at h
    rw [if_pos ⟨hstored.1, hstored.2.1⟩]
    exact processUpdate_lookup_self m s hc (isClusterdResource_ne_podstatus hstored.1) hw h
  · rw [if_neg hstored, hc, Lib.bind_pure_eq_some] at h
    obtain ⟨-, rfl⟩ := h
    rw [hw]
    dsimp only
    rw [sendToCloud_table, apply_ite metaManager.table, sendToClusterd_table, sendToEdged_table, ite_self,
      lookup_SaveMeta, if_pos rfl]
    by_cases hcl : isClusterdResource (Cloud.parseResource m.router.resource).2.1 = true ∧ dao.query = none
    · -- an edge cluster resource not stored yet
      have hfree : s.table.lookup m.router.resource = none := by
        rw [QueryMeta_key] at hstored
        cases hl : s.table.lookup m.router.resource <;> simp_all
      rw [if_pos hcl, hfree]
      rfl
    · rw [if_neg hcl]

theorem processDelete_lookup_self (hw : dao.write = none) (h : processDelete Unmarshal dao m s = some s') :
    s'.table.lookup m.router.resource = none := by
  unfold processDelete at h
  rw [Lib.bind_pure_eq_some] at h
  obtain ⟨-, rfl⟩ := h
  rw [hw]
  dsimp only
  split_ifs <;> simp [lookup_DeleteMetaByKey]

end Handlers

variable {Unmarshal : String → Option Go.JsonValue}

def IsWrite (m : Message) : Prop :=
  m.router.operation = Cloud.InsertOperation ∨ m.router.operation = Beehive.UpdateOperation ∨
    m.router.operation = Beehive.DeleteOperation

theorem IsWrite.ne_sync {m : Message} (h : IsWrite m) : m.router.operation ≠ OperationMetaSync := by
  rcases h with h | h | h <;> rw [h] <;> decide

theorem not_injectPanics_of_writes {m : Message} {dao dao' : Dao} (h : ¬InjectPanics Unmarshal dao m)
    (hw : ∀ i, dao'.injectWrite i = none) : ¬InjectPanics Unmarshal dao' m := by
  rintro ⟨hnone, hop⟩
  refine h ⟨?_, hop⟩
  by_contra hserved
  obtain ⟨events, hevents⟩ := Option.ne_none_iff_exists'.mp hserved
  rw [Imitator.Inject_of_writes hevents hw] at hnone
  cases hnone

theorem process_acked {m : Message} {content : String} (answers : Answers) (s : metaManager)
    (hsrc : FromController m) (hop : IsWrite m) (hc : m.content.marshal = .ok content)
    (htype : typeOf m.router.resource ≠ ResourceTypePodStatus) (hw : answers.dao.write = none)
    (hpanics : ¬InjectPanics Unmarshal answers.dao m) :
    ∃ s', process Unmarshal m answers s = some s' ∧ Acked m s s' := by
  obtain ⟨s', h⟩ := Option.ne_none_iff_exists'.mp
    fun hnone => hpanics (((process_of_ne_sync Unmarshal m answers s hop.ne_sync).1).mp hnone)
  refine ⟨s', h, ?_⟩
  rcases hop with hop | hop | hop
  · rw [process_of_insert Unmarshal m answers s hop] at h
    exact processInsert_acked m s hsrc hc hw h
  · rw [process_of_update Unmarshal m answers s hop] at h
    exact processUpdate_acked m s hsrc hc htype hw h
  · rw [process_of_delete Unmarshal m answers s hop] at h
    exact processDelete_acked m s hsrc hw h

theorem process_redeliver {m : Message} {answers₁ answers : Answers} {content : String}
    {s₁ s₂ s s' : metaManager} (hop : IsWrite m) (hc : m.content.marshal = .ok content)
    (htype : typeOf m.router.resource ≠ ResourceTypePodStatus) (hq₁ : answers₁.dao.query = none)
    (hw₁ : answers₁.dao.write = none) (hw : answers.dao.write = none)
    (h₁ : process Unmarshal m answers₁ s₁ = some s₂)
    (hrow : s.table.lookup m.router.resource = s₂.table.lookup m.router.resource)
    (h : process Unmarshal m answers s = some s') (k : String) :
    s'.table.lookup k = s.table.lookup k := by
  by_cases hk : k = m.router.resource
  · subst hk
    rw [hrow]
    rcases hop with hop | hop | hop
    · rw [process_of_insert Unmarshal m answers₁ s₁ hop] at h₁
      rw [process_of_insert Unmarshal m answers s hop] at h
      rw [processInsert_lookup_self m s hc hw h, hrow, processInsert_lookup_self m s₁ hc hw₁ h₁]
      -- the first insert left a row, which the second keeps
      by_cases hcl : isClusterdResource (typeOf m.router.resource) = true
      · have hcl₁ : isClusterdResource (typeOf m.router.resource) = true ∧ answers₁.dao.query = none := ⟨hcl, hq₁⟩
        rw [if_pos hcl₁]
        split_ifs <;> rfl
      · rw [if_neg fun h => hcl h.1, if_neg fun h => hcl h.1]
        cases s₁.table.lookup m.router.resource <;> rfl
    · rw [process_of_update Unmarshal m answers₁ s₁ hop] at h₁
      rw [process_of_update Unmarshal m answers s hop] at h
      rw [processUpdate_lookup_self m s hc htype hw h, processUpdate_lookup_self m s₁ hc htype hw₁ h₁]
    · rw [process_of_delete Unmarshal m answers₁ s₁ hop] at h₁
      rw [process_of_delete Unmarshal m answers s hop] at h
      rw [processDelete_lookup_self m s hw h, processDelete_lookup_self m s₁ hw₁ h₁]
  · rcases (process_of_ne_sync Unmarshal m answers s hop.ne_sync).2 s' h with ⟨hq, -⟩ | ⟨hconn, -⟩ | hh
    · rcases hop with hop | hop | hop <;> rw [hop] at hq <;> exact absurd hq (by decide)
    · rcases hop with hop | hop | hop <;> rw [hop] at hconn <;> exact absurd hconn (by decide)
    · exact hh.writes.lookup_ne hk

theorem controller_redelivery (s₀ s : metaManager) (pre mid : List Action) (m : Message)
    (answers answers' : Answers) (content : String) (hinv : TypeInv s₀.table)
    (hrun : run Unmarshal s₀ (pre ++ .receive m answers :: mid) = some s) (hsrc : FromController m) (hop : IsWrite m)
    (hc : m.content.marshal = .ok content) (htype : typeOf m.router.resource ≠ ResourceTypePodStatus)
    (hq : answers.dao.query = none) (hw : answers.dao.write = none) (hw' : answers'.dao.write = none)
    (hinject' : ∀ i, answers'.dao.injectWrite i = none) (hmid : ∀ a ∈ mid, ¬touches m.router.resource a) :
    ∃ s', step Unmarshal s (.receive m answers') = some s' ∧ (∀ k, s'.table.lookup k = s.table.lookup k) ∧
      toCloud s.ContextSendGroup (s'.sent.drop s.sent.length) = [NewRespByMessage m (.text OK)] := by
  obtain ⟨s₁, s₂, hpre, h₁, hmid₂⟩ := run_split hrun
  have hinv₂ : TypeInv s₂.table := step_typeInv (run_typeInv hinv hpre) h₁
  -- what the first delivery left at the resource is still there
  have hrow : s.table.lookup m.router.resource = s₂.table.lookup m.router.resource :=
    run_lookup_frame mid s₂ s hinv₂ hmid₂ hmid
  -- the first delivery's `Inject` returned, so the second's does
  have hpanics : ¬InjectPanics Unmarshal answers.dao m := fun hp =>
    Option.some_ne_none s₂ (h₁.symm.trans (((process_of_ne_sync Unmarshal m answers s₁ hop.ne_sync).1).mpr hp))
  obtain ⟨s', h, hacked⟩ :=
    process_acked answers' s hsrc hop hc htype hw' (not_injectPanics_of_writes hpanics hinject')
  exact ⟨s', h, process_redeliver hop hc htype hq hw hw' h₁ hrow h, hacked.toCloud_eq⟩

theorem controller_redelivery_cm1 :
    TypeInv sampleManager.table ∧ run sampleUnmarshal sampleManager configActions = some configRun ∧
      FromController configUpdate ∧ IsWrite configUpdate ∧ configUpdate.content.marshal = .ok "[3]" ∧
      typeOf configUpdate.router.resource ≠ ResourceTypePodStatus ∧ okAnswers.dao.query = none ∧
      okAnswers.dao.write = none ∧ (∀ i, okAnswers.dao.injectWrite i = none) ∧
      (∀ a ∈ [Action.receive statusUpdate okAnswers], ¬touches configUpdate.router.resource a) ∧
      ∃ s', step sampleUnmarshal configRun (.receive configUpdate okAnswers) = some s' ∧
        (∀ k, s'.table.lookup k = configRun.table.lookup k) ∧
        toCloud configRun.ContextSendGroup (s'.sent.drop configRun.sent.length) =
          [NewRespByMessage configUpdate (.text OK)] :=
  ⟨typeInv_empty, (Option.some_get _).symm, .inl rfl, .inr (.inl rfl), rfl, by decide, rfl, rfl, fun _ => rfl,
    configMap_untouched,
    controller_redelivery sampleManager configRun [.receive (podInsert "[1]") okAnswers]
      [.receive statusUpdate okAnswers] configUpdate okAnswers okAnswers "[3]" typeInv_empty
      (Option.some_get _).symm (.inl rfl) (.inr (.inl rfl)) rfl (by decide) rfl rfl rfl (fun _ => rfl)
      configMap_untouched⟩

end KubeEdge.MetaManager
