import KubeEdge.Twin.DealSpec

set_option autoImplicit false

/-!
# Twin versions across runs of `DealMsgTwin`

What one call may do to the version and the value of each half of a twin: keep
them, give a missing version the zero version, raise the edge version of an
edge update by one (`int64` addition), or take a cloud version at least as new
componentwise. A cloud sync changes a value only with such a version, or when it
deletes the twin and carries no version for the half.
-/

namespace KubeEdge.Twin

def IsDeletion (msg : Option MsgTwin) : Prop :=
  ∃ m, msg = some m ∧ m.metadata.map (·.type) = some "deleted"

inductive VersionStep (dealType : Nat) (req : Option TwinVersion) :
    Option TwinVersion → Option TwinVersion → Prop
  | keep (v : Option TwinVersion) : VersionStep dealType req v v
  | init : VersionStep dealType req none (some ⟨0, 0⟩)
  | edge (v : Option TwinVersion) :
      dealType = RestDealType → VersionStep dealType req v (some (v.getD ⟨0, 0⟩).UpdateEdgeVersion)
  | cloud (v : Option TwinVersion) (r : TwinVersion) :
      dealType ≠ RestDealType → req = some r → v.getD ⟨0, 0⟩ ≤ r → VersionStep dealType req v (some r)

def ValueRule (dealType : Nat) (msg : Option MsgTwin) (p : TwinPart) (v v' : Option TwinVersion) : Prop :=
  if dealType = RestDealType then v' = some (v.getD ⟨0, 0⟩).UpdateEdgeVersion
  else (∃ r, msg.bind p.version = some r ∧ v.getD ⟨0, 0⟩ ≤ r ∧ v' = some r) ∨
    (IsDeletion msg ∧ msg.bind p.version = none ∧ v' = some (v.getD ⟨0, 0⟩))

/-- One call moves the half `p` of a twin from version `v` and value `x` to
    `v'` and `x'`. -/
structure HalfStep (dealType : Nat) (msg : Option MsgTwin) (p : TwinPart)
    (v v' : Option TwinVersion) (x x' : Option TwinValue) : Prop where
  version : VersionStep dealType (msg.bind p.version) v v'
  value : x' ≠ x → ValueRule dealType msg p v v'

def TwinStep (dealType : Nat) (msg : Option MsgTwin) (t t' : MsgTwin) : Prop :=
  ∀ p : TwinPart, HalfStep dealType msg p (p.version t) (p.version t') (p.value t) (p.value t')

theorem HalfStep.refl (dealType : Nat) (msg : Option MsgTwin) (p : TwinPart) (v : Option TwinVersion)
    (x : Option TwinValue) : HalfStep dealType msg p v v x x :=
  ⟨.keep v, fun h => absurd rfl h⟩

theorem TwinStep.refl (dealType : Nat) (msg : Option MsgTwin) (t : MsgTwin) : TwinStep dealType msg t t :=
  fun p => HalfStep.refl dealType msg p _ _

/-- One block of a deal function: it steps the half `p` and leaves the other. -/
structure PartStep (dealType : Nat) (msg : Option MsgTwin) (p : TwinPart) (t t' : MsgTwin) : Prop where
  half : HalfStep dealType msg p (p.version t) (p.version t') (p.value t) (p.value t')
  other : ∀ q, q ≠ p → q.version t' = q.version t ∧ q.value t' = q.value t

theorem PartStep.refl (dealType : Nat) (msg : Option MsgTwin) (p : TwinPart) (t : MsgTwin) :
    PartStep dealType msg p t t :=
  ⟨HalfStep.refl dealType msg p _ _, fun _ _ => ⟨rfl, rfl⟩⟩

theorem PartStep.withMetadata {dealType : Nat} {msg : Option MsgTwin} {p : TwinPart} {t t' : MsgTwin}
    (h : PartStep dealType msg p t t') (m : Option TypeMetadata) :
    PartStep dealType msg p t { t' with metadata := m } := by
  refine ⟨?_, fun q hq => ?_⟩
  · simpa using h.half
  · simpa using h.other q hq

theorem partStep_setVersion {dealType : Nat} {msg : Option MsgTwin} {p : TwinPart} {t : MsgTwin}
    {v' : TwinVersion} (hv : VersionStep dealType (msg.bind p.version) (p.version t) (some v')) :
    PartStep dealType msg p t (p.setVersion t (some v')) := by
  refine ⟨⟨by simpa using hv, fun hx => absurd (by simp) hx⟩, fun q hq => ?_⟩
  exact ⟨TwinPart.version_setVersion_of_ne hq t _, by simp⟩

theorem partStep_setValue {dealType : Nat} {msg : Option MsgTwin} {p : TwinPart} {t : MsgTwin}
    {v' : TwinVersion} (hv : VersionStep dealType (msg.bind p.version) (p.version t) (some v'))
    (hr : ValueRule dealType msg p (p.version t) (some v')) (x : Option TwinValue) :
    PartStep dealType msg p t (p.setValue (p.setVersion t (some v')) x) := by
  refine ⟨⟨by simpa using hv, fun _ => by simpa using hr⟩, fun q hq => ?_⟩
  refine ⟨by simpa using TwinPart.version_setVersion_of_ne hq t _, ?_⟩
  rw [TwinPart.value_setValue_of_ne hq, TwinPart.value_setVersion]

theorem TwinStep.of_parts {dealType : Nat} {msg : Option MsgTwin} {t t₁ t₂ : MsgTwin}
    (h₁ : PartStep dealType msg .expected t t₁) (h₂ : PartStep dealType msg .actual t₁ t₂) :
    TwinStep dealType msg t t₂ := by
  intro p
  cases p with
  | expected =>
    obtain ⟨hv, hx⟩ := h₂.other .expected (by decide)
    rw [hv, hx]
    exact h₁.half
  | actual =>
    obtain ⟨hv, hx⟩ := h₁.other .actual (by decide)
    rw [← hv, ← hx]
    exact h₂.half

theorem dealVersion_versionStep {v : Option TwinVersion} {req : Option TwinVersion} {dealType : Nat}
    {v' : TwinVersion} {ok : Bool} {err : Option GoError}
    (h : dealVersion (v.getD ⟨0, 0⟩) req dealType = (v', ok, err)) :
    VersionStep dealType req v (some v') := by
  by_cases hr : dealType = RestDealType
  · rw [hr, dealVersion_rest] at h
    cases h
    exact .edge v hr
  · rcases dealVersion_sync hr h with ⟨-, rfl⟩ | ⟨-, r, hreq, hle, rfl⟩ | ⟨-, -, -, rfl⟩
    · cases v with
      | none => exact .init
      | some x => exact .keep _
    · exact .cloud v _ hr hreq hle
    · cases v with
      | none => exact .init
      | some x => exact .keep _

theorem dealVersion_accepted {v : TwinVersion} {req : Option TwinVersion} {dealType : Nat}
    {v' : TwinVersion} {err : Option GoError} (h : dealVersion v req dealType = (v', true, err)) :
    (dealType = RestDealType ∧ v' = v.UpdateEdgeVersion) ∨
    (dealType ≠ RestDealType ∧ ∃ r, req = some r ∧ v ≤ r ∧ v' = r) ∨
    (dealType = SyncTwinDeleteDealType ∧ req = none ∧ v' = v) := by
  by_cases hr : dealType = RestDealType
  · rw [hr, dealVersion_rest] at h
    cases h
    exact .inl ⟨hr, rfl⟩
  · rcases dealVersion_sync hr h with ⟨h', -⟩ | ⟨-, hsome⟩ | ⟨-, hnone, hdel, rfl⟩
    · cases h'
    · exact .inr (.inl ⟨hr, hsome⟩)
    · exact .inr (.inr ⟨hdel, hnone, rfl⟩)

theorem VersionStep.of_iff_rest {dt dealType : Nat} {req : Option TwinVersion} {v v' : Option TwinVersion}
    (h : VersionStep dt req v v') (hr : dt = RestDealType ↔ dealType = RestDealType) :
    VersionStep dealType req v v' := by
  cases h with
  | keep => exact .keep v
  | init => exact .init
  | edge _ hdt => exact .edge v (hr.mp hdt)
  | cloud _ r hdt hreq hle => exact .cloud v r (mt hr.mpr hdt) hreq hle

/-- How a deal function calls `dealVersion` for the half `p`: as an edge update
    for an edge update, or with the message's version for a sync, where a sync
    delete is sent only for a deleting message. -/
def VersionCall (dt : Nat) (req : Option TwinVersion) (dealType : Nat) (msg : Option MsgTwin)
    (p : TwinPart) : Prop :=
  (dt = RestDealType ∧ dealType = RestDealType) ∨
  (dt ≠ RestDealType ∧ dealType ≠ RestDealType ∧ req = msg.bind p.version ∧
    (dt = SyncTwinDeleteDealType → IsDeletion msg))

theorem dealVersion_halfStep {dt dealType : Nat} {req : Option TwinVersion} {msg : Option MsgTwin}
    {p : TwinPart} {v : Option TwinVersion} {v' : TwinVersion} {ok : Bool} {err : Option GoError}
    (hc : VersionCall dt req dealType msg p) (h : dealVersion (v.getD ⟨0, 0⟩) req dt = (v', ok, err)) :
    VersionStep dealType (msg.bind p.version) v (some v') ∧
    (ok = true → ValueRule dealType msg p v (some v')) := by
  rcases hc with ⟨hdt, hr⟩ | ⟨hdt, hr, rfl, hdel⟩
  · rw [hdt, dealVersion_rest] at h
    cases h
    refine ⟨.edge v hr, fun _ => ?_⟩
    rw [ValueRule, if_pos hr]
  · refine ⟨(dealVersion_versionStep h).of_iff_rest (iff_of_false hdt hr), fun hok => ?_⟩
    subst hok
    rw [ValueRule, if_neg hr]
    rcases dealVersion_accepted h with ⟨hrest, -⟩ | ⟨-, r, hreq, hle, rfl⟩ | ⟨hd3, hnone, rfl⟩
    · exact absurd hrest hdt
    · exact .inl ⟨_, hreq, hle, rfl⟩
    · exact .inr ⟨hdel hd3, hnone, rfl⟩

/-- The deletion calls of a half: an edge update deletes as an edge update, a
    sync deletes as `SyncTwinDeleteDealType` for a deleting message. -/
def DeleteCall (dt dealType : Nat) (msg : Option MsgTwin) : Prop :=
  (dt = RestDealType ∧ dealType = RestDealType) ∨
  (dt = SyncTwinDeleteDealType ∧ dealType ≠ RestDealType ∧ IsDeletion msg)

theorem deletePart_partStep {p : TwinPart} {msgTwin : Option MsgTwin} {dt dealType : Nat}
    {s : DealState} {fl : Flow DealState} (hc : DeleteCall dt dealType msgTwin)
    (h : deletePart p msgTwin dt s = some fl) :
    PartStep dealType msgTwin p s.twin fl.state.twin := by
  unfold deletePart at h
  split at h
  · -- a half without a version only gets the zero version
    rename_i hv
    cases h
    exact partStep_setVersion (hv ▸ .init)
  · rename_i version hv
    obtain ⟨msgVersion, hmv, h⟩ := Option.bind_eq_some_iff.mp h
    -- a sync asks with the message's version, which `deleteCondition` saw to be a deletion
    have hcall : VersionCall dt msgVersion dealType msgTwin p := by
      rcases hc with hrest | ⟨hd3, hr, m, rfl, hdel⟩
      · exact .inl hrest
      · have hdt : dt ≠ RestDealType := by rw [hd3]; decide
        rw [requestVersion, if_pos hdt] at hmv
        cases hmv
        exact .inr ⟨hdt, hr, rfl, fun _ => ⟨m, rfl, hdel⟩⟩
    generalize hdv : dealVersion version msgVersion dt = res at h
    obtain ⟨v', ok, err⟩ := res
    obtain ⟨hstep, hrule⟩ := dealVersion_halfStep hcall (v := p.version s.twin) (by simpa [hv] using hdv)
    dsimp only at h
    -- rejected: only the version is written, whether the call stops or goes on
    cases ok
    · simp only [Bool.not_false, if_true] at h
      split at h <;> cases h <;> exact partStep_setVersion hstep
    · cases h
      exact (partStep_setValue hstep (hrule rfl) _).withMetadata _

theorem comparePart_partStep {p : TwinPart} {now : Int64} {m : MsgTwin} {dealType : Nat}
    {s : DealState} {fl : Flow (DealState × Option GoError)} (hd : dealType ≠ SyncTwinDeleteDealType)
    (h : comparePart p now m dealType s = some fl) :
    PartStep dealType (some m) p s.twin fl.state.1.twin := by
  unfold comparePart at h
  obtain ⟨⟨ok, diffErr⟩, -, h⟩ := Option.bind_eq_some_iff.mp h
  dsimp only at h
  split at h
  · obtain ⟨msgValue, -, h⟩ := Option.bind_eq_some_iff.mp h
    have hcall : VersionCall dealType (if dealType ≠ RestDealType then p.version m else none)
        dealType (some m) p := by
      by_cases hr : dealType = RestDealType
      · exact .inl ⟨hr, hr⟩
      · exact .inr ⟨hr, hr, if_pos hr, fun h3 => absurd h3 hd⟩
    generalize hdv : dealVersion ((p.version s.twin).getD ⟨0, 0⟩)
      (if dealType ≠ RestDealType then p.version m else none) dealType = res at h
    obtain ⟨v', accepted, err⟩ := res
    obtain ⟨hstep, hrule⟩ := dealVersion_halfStep hcall hdv
    dsimp only at h
    -- rejected: the version is written and the value kept; accepted: the value
    -- is taken under the new version
    cases accepted
    · simp only [Bool.not_false, if_true] at h
      split at h
      · obtain ⟨_, -, h⟩ := Option.bind_eq_some_iff.mp h
        obtain ⟨_, -, h⟩ := Option.bind_eq_some_iff.mp h
        cases h
        exact partStep_setVersion hstep
      · cases h
        exact partStep_setVersion hstep
    · simp only [Bool.not_true, Bool.false_eq_true, if_false] at h
      have hset := partStep_setValue hstep (hrule rfl) (some ⟨msgValue.value, some ⟨now⟩⟩)
      split at h
      · obtain ⟨_, -, h⟩ := Option.bind_eq_some_iff.mp h
        cases h
        exact hset
      · cases h
        exact hset
  · -- same value, or the sync already stopped: the twin is untouched
    split at h <;> cases h <;> exact PartStep.refl _ _ _ _

def SameHalves (t t' : MsgTwin) : Prop :=
  ∀ p : TwinPart, p.version t' = p.version t ∧ p.value t' = p.value t

theorem TwinStep.of_sameHalves {dealType : Nat} {msg : Option MsgTwin} {t t₁ t₂ : MsgTwin}
    (h : TwinStep dealType msg t t₁) (h' : SameHalves t₁ t₂) : TwinStep dealType msg t t₂ := by
  intro p
  rw [(h' p).1, (h' p).2]
  exact h p

theorem compareOptional_sameHalves {m : MsgTwin} {s s' : DealState} (h : compareOptional m s = some s') :
    SameHalves s.twin s'.twin := by
  unfold compareOptional at h
  split at h
  · cases h
    exact fun _ => ⟨rfl, rfl⟩
  · obtain ⟨_, -, h⟩ := Option.bind_eq_some_iff.mp h
    split at h <;> cases h <;> simp [SameHalves]

theorem compareMetadata_sameHalves {m : MsgTwin} {s s' : DealState} (h : compareMetadata m s = some s') :
    SameHalves s.twin s'.twin := by
  unfold compareMetadata at h
  split at h
  · split at h
    · obtain ⟨_, -, h⟩ := Option.bind_eq_some_iff.mp h
      split at h <;> cases h <;> simp [SameHalves]
    · cases h
      exact fun _ => ⟨rfl, rfl⟩
  · obtain ⟨_, -, h⟩ := Option.bind_eq_some_iff.mp h
    split at h <;> cases h <;> simp [SameHalves]

theorem dealTwinCompare_twinStep {now : Int64} {r r' : DealTwinResult} {deviceID key : String}
    {twin twin' : MsgTwin} {msgTwin : Option MsgTwin} {dealType : Nat} {err : Option GoError}
    (hd : dealType ≠ SyncTwinDeleteDealType)
    (h : dealTwinCompare now r deviceID key twin msgTwin dealType = some (r', twin', err)) :
    TwinStep dealType msgTwin twin twin' := by
  unfold dealTwinCompare at h
  obtain ⟨_, -, h⟩ := Option.bind_eq_some_iff.mp h
  cases msgTwin with
  | none =>
    cases h
    exact TwinStep.refl _ _ _
  | some m =>
    obtain ⟨fl₁, h₁, h⟩ := Option.bind_eq_some_iff.mp h
    have hs₁ := comparePart_partStep hd h₁
    rcases fl₁ with ⟨s₁, e₁⟩ | ⟨s₁, e₁⟩
    · obtain ⟨fl₂, h₂, h⟩ := Option.bind_eq_some_iff.mp h
      have hs₂ := comparePart_partStep hd h₂
      rcases fl₂ with ⟨s₂, e₂⟩ | ⟨s₂, e₂⟩
      · have hstep : TwinStep dealType (some m) twin s₂.twin := TwinStep.of_parts hs₁ hs₂
        dsimp only at h
        split at h
        · obtain ⟨s₄, h₃, h⟩ := Option.bind_eq_some_iff.mp h
          obtain ⟨s₃, h₃, h₄⟩ := Option.bind_eq_some_iff.mp h₃
          cases h
          exact (hstep.of_sameHalves (compareOptional_sameHalves h₃)).of_sameHalves
            (compareMetadata_sameHalves h₄)
        · cases h
          exact hstep
      · cases h
        exact TwinStep.of_parts hs₁ hs₂
    · cases h
      exact TwinStep.of_parts hs₁ (PartStep.refl _ _ _ _)

theorem deleteCondition_deleteCall {twin : MsgTwin} {msgTwin : Option MsgTwin} {dealType : Nat}
    (h : deleteCondition twin msgTwin dealType = some true) :
    DeleteCall (if dealType ≠ RestDealType then SyncTwinDeleteDealType else dealType) dealType msgTwin := by
  by_cases hr : dealType = RestDealType
  · rw [if_neg (not_not.mpr hr)]
    exact .inl ⟨hr, hr⟩
  · rw [if_pos hr]
    refine .inr ⟨rfl, hr, ?_⟩
    have hge : dealType ≥ SyncDealType := by unfold RestDealType at hr; unfold SyncDealType; omega
    unfold deleteCondition at h
    simp only [hr, and_false, if_false, hge, if_true, pure_bind, Bool.false_eq_true] at h
    obtain ⟨m, hm, hbody⟩ := Option.bind_eq_some_iff.mp h
    obtain ⟨md, hmd, htype⟩ := Option.bind_eq_some_iff.mp hbody
    refine ⟨m, hm, ?_⟩
    rw [hmd]
    simpa using htype

theorem dealTwinDelete_twinStep {r r' : DealTwinResult} {deviceID key : String} {twin twin' : MsgTwin}
    {msgTwin : Option MsgTwin} {dealType : Nat} {err : Option GoError}
    (h : dealTwinDelete r deviceID key twin msgTwin dealType = some (r', twin', err)) :
    TwinStep dealType msgTwin twin twin' := by
  unfold dealTwinDelete at h
  obtain ⟨cond, hcond, h⟩ := Option.bind_eq_some_iff.mp h
  cases cond
  · cases h
    exact TwinStep.refl _ _ _
  · have hc := deleteCondition_deleteCall hcond
    simp only [Bool.not_true, Bool.false_eq_true, if_false] at h
    split at h
    · cases h
      exact TwinStep.refl _ _ _
    · obtain ⟨fl₁, h₁, h⟩ := Option.bind_eq_some_iff.mp h
      have hs₁ := deletePart_partStep hc h₁
      rcases fl₁ with s₁ | s₁
      · obtain ⟨fl₂, h₂, h⟩ := Option.bind_eq_some_iff.mp h
        have hs₂ := deletePart_partStep hc h₂
        rcases fl₂ with s₂ | s₂ <;> cases h <;> exact TwinStep.of_parts hs₁ hs₂
      · cases h
        exact TwinStep.of_parts hs₁ (PartStep.refl _ _ _ _)

theorem dealTwinEntry_twinStep {now : Int64} {deviceID : String} {dealType : Nat}
    {r r' : DealTwinResult} {twins twins' : GoMap MsgTwin} {key : String} {msgTwin : Option MsgTwin}
    {err : Option GoError} {t : MsgTwin} (hd : dealType ≠ SyncTwinDeleteDealType)
    (h : dealTwinEntry now deviceID dealType r twins key msgTwin = some (r', twins', err))
    (ht : twins.lookup key = some t) :
    ∃ t', twins'.lookup key = some t' ∧ TwinStep dealType msgTwin t t' := by
  unfold dealTwinEntry at h
  rw [ht] at h
  obtain ⟨del, -, h⟩ := Option.bind_eq_some_iff.mp h
  split at h
  · obtain ⟨⟨r₁, t₁, e₁⟩, h₁, h⟩ := Option.bind_eq_some_iff.mp h
    cases h
    exact ⟨t₁, AList.lookup_insert _, dealTwinDelete_twinStep h₁⟩
  · obtain ⟨⟨r₁, t₁, e₁⟩, h₁, h⟩ := Option.bind_eq_some_iff.mp h
    cases h
    exact ⟨t₁, AList.lookup_insert _, dealTwinCompare_twinStep hd h₁⟩

theorem dealTwinLoop_twinStep {now : Int64} {deviceID : String} {dealType : Nat}
    (hd : dealType ≠ SyncTwinDeleteDealType) (k : String) :
    ∀ (es : List (Σ _ : String, Option MsgTwin)) (r r' : DealTwinResult) (twins twins' : GoMap MsgTwin)
      (t : MsgTwin), es.NodupKeys → dealTwinLoop now deviceID dealType es r twins = some (r', twins') →
        twins.lookup k = some t →
          ∃ t', twins'.lookup k = some t' ∧ TwinStep dealType (List.dlookup k es).join t t'
  | [], r, r', twins, twins', t, _, h, ht => by
    cases h
    exact ⟨t, ht, TwinStep.refl _ _ _⟩
  | ⟨key, m⟩ :: rest, r, r', twins, twins', t, hnd, h, ht => by
    unfold dealTwinLoop at h
    obtain ⟨⟨r₁, twins₁, err⟩, h₁, hrest⟩ := Option.bind_eq_some_iff.mp h
    obtain ⟨hkey, hnd'⟩ := List.nodupKeys_cons.mp hnd
    dsimp only at hrest
    -- `NodupKeys` keeps the entry of `k` out of `rest`: the twin steps here or later, never twice
    by_cases hk : k = key
    · subst hk
      obtain ⟨t₁, ht₁, hstep⟩ := dealTwinEntry_twinStep hd h₁ ht
      rw [List.dlookup_cons_eq, Option.join_some]
      split at hrest
      · cases hrest
        exact ⟨t₁, ht₁, hstep⟩
      · refine ⟨t₁, ?_, hstep⟩
        rw [dealTwinLoop_lookup_of_not_mem k rest r₁ r' twins₁ twins' hkey hrest, ht₁]
    · have ht₁ : twins₁.lookup k = some t := by rw [dealTwinEntry_lookup_ne h₁ hk, ht]
      rw [List.dlookup_cons_ne _ _ hk]
      split at hrest
      · cases hrest
        exact ⟨t, ht₁, TwinStep.refl _ _ _⟩
      · exact dealTwinLoop_twinStep hd k rest r₁ r' twins₁ twins' t hnd' hrest ht₁

theorem DealMsgTwin_twinStep {now : Int64} {context context' : DTContext} {deviceID d k : String}
    {msgTwins : GoMap (Option MsgTwin)} {dealType : Nat} {r : DealTwinResult} {twins : GoMap MsgTwin}
    {t : MsgTwin} (hd : dealType ≠ SyncTwinDeleteDealType)
    (h : DealMsgTwin now context deviceID msgTwins dealType = some (r, context'))
    (hdev : context.deviceList.lookup d = some twins) (ht : twins.lookup k = some t) :
    ∃ twins' t', context'.deviceList.lookup d = some twins' ∧ twins'.lookup k = some t' ∧
      TwinStep dealType (msgTwins.lookup k).join t t' := by
  unfold DealMsgTwin at h
  split at h
  · -- an unknown device: the context is left as it is
    cases h
    exact ⟨twins, t, hdev, ht, TwinStep.refl _ _ _⟩
  · rename_i twins₀ hdev₀
    obtain ⟨⟨r₁, twins₁⟩, hloop, h⟩ := Option.bind_eq_some_iff.mp h
    cases h
    by_cases hdd : d = deviceID
    · subst hdd
      rw [hdev₀] at hdev
      cases hdev
      obtain ⟨t', ht', hstep⟩ := dealTwinLoop_twinStep hd k _ _ _ _ _ t msgTwins.nodupKeys hloop ht
      exact ⟨twins₁, t', AList.lookup_insert _, ht', hstep⟩
    · exact ⟨twins, t, by rw [AList.lookup_insert_ne hdd]; exact hdev, ht, TwinStep.refl _ _ _⟩

theorem int64_le_add_one_or_wrap (e : Int64) :
    e ≤ e + 1 ∨ (e = Int64.maxValue ∧ e + 1 = Int64.minValue) := by
  by_cases h : e = Int64.maxValue
  · subst h
    exact .inr ⟨rfl, by decide⟩
  · left
    grind

/-- The rules a call keeps for the half `p` of a twin, a missing version counting
    as zero: the cloud version never decreases, the edge version only wraps
    around after `Int64.maxValue`; a sync changes the value only with a request
    version at least the local one, or by deleting the twin without a version
    for the half; an edge update that changes the version or the value raises
    the edge version by one. -/
structure VersionRules (dealType : Nat) (msg : Option MsgTwin) (p : TwinPart)
    (v v' : Option TwinVersion) (x x' : Option TwinValue) : Prop where
  cloud_le : (v.getD ⟨0, 0⟩).cloudVersion ≤ (v'.getD ⟨0, 0⟩).cloudVersion
  edge_le : (v.getD ⟨0, 0⟩).edgeVersion ≤ (v'.getD ⟨0, 0⟩).edgeVersion ∨
    (dealType = RestDealType ∧ (v.getD ⟨0, 0⟩).edgeVersion = Int64.maxValue ∧
      (v'.getD ⟨0, 0⟩).edgeVersion = Int64.minValue)
  sync_value : dealType ≠ RestDealType → x' ≠ x →
    (∃ r, msg.bind p.version = some r ∧ v.getD ⟨0, 0⟩ ≤ r ∧ v' = some r) ∨
    (IsDeletion msg ∧ msg.bind p.version = none)
  rest_version : dealType = RestDealType → v' ≠ v →
    v' = some (v.getD ⟨0, 0⟩).UpdateEdgeVersion ∨ (v = none ∧ v' = some ⟨0, 0⟩)
  rest_value : dealType = RestDealType → x' ≠ x → v' = some (v.getD ⟨0, 0⟩).UpdateEdgeVersion

theorem VersionStep.cloud_le {dealType : Nat} {req v v' : Option TwinVersion}
    (h : VersionStep dealType req v v') :
    (v.getD ⟨0, 0⟩).cloudVersion ≤ (v'.getD ⟨0, 0⟩).cloudVersion := by
  cases h with
  | keep => exact Int64.le_refl _
  | init => exact Int64.le_refl _
  | edge => exact Int64.le_refl _
  | cloud _ _ _ _ hle => exact hle.1

theorem VersionStep.edge_le {dealType : Nat} {req v v' : Option TwinVersion}
    (h : VersionStep dealType req v v') :
    (v.getD ⟨0, 0⟩).edgeVersion ≤ (v'.getD ⟨0, 0⟩).edgeVersion ∨
    (dealType = RestDealType ∧ (v.getD ⟨0, 0⟩).edgeVersion = Int64.maxValue ∧
      (v'.getD ⟨0, 0⟩).edgeVersion = Int64.minValue) := by
  cases h with
  | keep => exact .inl (Int64.le_refl _)
  | init => exact .inl (Int64.le_refl _)
  | edge _ hr =>
    rcases int64_le_add_one_or_wrap (v.getD ⟨0, 0⟩).edgeVersion with hle | ⟨hmax, hmin⟩
    · exact .inl hle
    · exact .inr ⟨hr, hmax, hmin⟩
  | cloud _ _ _ _ hle => exact .inl hle.2

theorem HalfStep.versionRules {dealType : Nat} {msg : Option MsgTwin} {p : TwinPart}
    {v v' : Option TwinVersion} {x x' : Option TwinValue} (h : HalfStep dealType msg p v v' x x') :
    VersionRules dealType msg p v v' x x' := by
  refine ⟨h.version.cloud_le, h.version.edge_le, fun hr hx => ?_, fun hr hv => ?_, fun hr hx => ?_⟩
  · have hrule := h.value hx
    rw [ValueRule, if_neg hr] at hrule
    rcases hrule with hsync | ⟨hdel, hnone, -⟩
    · exact .inl hsync
    · exact .inr ⟨hdel, hnone⟩
  · cases h.version with
    | keep => exact absurd rfl hv
    | init => exact .inr ⟨rfl, rfl⟩
    | edge => exact .inl rfl
    | cloud _ _ hne => exact absurd hr hne
  · have hrule := h.value hx
    rwa [ValueRule, if_pos hr] at hrule

theorem ne_syncTwinDelete_of_le {dealType : Nat} (hd : dealType ≤ DetailDealType) :
    dealType ≠ SyncTwinDeleteDealType := by
  unfold DetailDealType at hd
  unfold SyncTwinDeleteDealType
  omega

theorem DealMsgTwin_callRules {now : Int64} {context context' : DTContext} {deviceID d k : String}
    {msgTwins : GoMap (Option MsgTwin)} {dealType : Nat} {r : DealTwinResult} {twins : GoMap MsgTwin}
    {t : MsgTwin} (hd : dealType ≤ DetailDealType)
    (h : DealMsgTwin now context deviceID msgTwins dealType = some (r, context'))
    (hdev : context.deviceList.lookup d = some twins) (ht : twins.lookup k = some t) :
    ∃ twins' t', context'.deviceList.lookup d = some twins' ∧ twins'.lookup k = some t' ∧
      ∀ p : TwinPart, VersionRules dealType (msgTwins.lookup k).join p
        (p.version t) (p.version t') (p.value t) (p.value t') := by
  obtain ⟨twins', t', hdev', ht', hstep⟩ := DealMsgTwin_twinStep (ne_syncTwinDelete_of_le hd) h hdev ht
  exact ⟨twins', t', hdev', ht', fun p => (hstep p).versionRules⟩

def versionSampleRow : DeviceTwin :=
  ⟨"d", "k", "1", "2", none, none, some ⟨1, 0⟩, some ⟨0, 3⟩, true, "string", none⟩

def versionSampleContext : DTContext :=
  ⟨(∅ : GoMap (GoMap MsgTwin)).insert "d" (DeviceTwinToMsgTwin [versionSampleRow])⟩

def edgeUpdateMsgs : GoMap (Option MsgTwin) :=
  (∅ : GoMap (Option MsgTwin)).insert "k" (some ⟨none, some ⟨some "5", none⟩, none, none, none, none⟩)

def syncDeleteMsgs : GoMap (Option MsgTwin) :=
  (∅ : GoMap (Option MsgTwin)).insert "k" (some ⟨none, none, none, some ⟨"deleted"⟩, some ⟨1, 0⟩, none⟩)

def valuelessExpectedMsgs : GoMap (Option MsgTwin) :=
  (∅ : GoMap (Option MsgTwin)).insert "k" (some ⟨some ⟨none, none⟩, none, none, none, none, none⟩)

/-- Two updates `UnmarshalDeviceTwinUpdate` accepts, for a twin loaded from its
    row: a sync of `edgeUpdateMsgs`, which carries no metadata, panics in the
    delete test of `DealMsgTwin`, and an edge update whose expected half has no
    value panics in `isTwinValueDiff`. -/
theorem DealMsgTwin_accepted_update_panics :
    UnmarshalDeviceTwinUpdate ⟨"e", some edgeUpdateMsgs⟩ = none ∧
    DealMsgTwin 0 versionSampleContext "d" edgeUpdateMsgs SyncDealType = none ∧
    UnmarshalDeviceTwinUpdate ⟨"e", some valuelessExpectedMsgs⟩ = none ∧
    DealMsgTwin 0 versionSampleContext "d" valuelessExpectedMsgs RestDealType = none := by
  have hdelete : isDeleteRequest (edgeUpdateMsgs.lookup "k").join SyncDealType = none :=
    (isDeleteRequest_eq_none_iff _ _).mpr ⟨by decide, rfl⟩
  refine ⟨by decide, DealMsgTwin_eq_none_of_head rfl rfl
    (dealTwinEntry_eq_none_of_isDeleteRequest rfl hdelete), by decide, ?_⟩
  exact Option.isNone_iff_eq_none.mp (by decide)

def TwinCallStep (context context' : DTContext) : Prop :=
  ∃ (now : Int64) (deviceID : String) (msgTwins : GoMap (Option MsgTwin)) (dealType : Nat)
    (r : DealTwinResult), dealType ≤ DetailDealType ∧
      DealMsgTwin now context deviceID msgTwins dealType = some (r, context')

def CloudVersionsLE (context context' : DTContext) : Prop :=
  ∀ d twins k t, context.deviceList.lookup d = some twins → twins.lookup k = some t →
    ∃ twins' t', context'.deviceList.lookup d = some twins' ∧ twins'.lookup k = some t' ∧
      ∀ p : TwinPart, ((p.version t).getD ⟨0, 0⟩).cloudVersion ≤ ((p.version t').getD ⟨0, 0⟩).cloudVersion

instance : Std.Refl CloudVersionsLE :=
  ⟨fun _ _ twins _ t hdev ht => ⟨twins, t, hdev, ht, fun _ => Int64.le_refl _⟩⟩

instance : IsTrans DTContext CloudVersionsLE :=
  ⟨fun _ _ _ h₁ h₂ d twins k t hdev ht => by
    obtain ⟨twins₁, t₁, hdev₁, ht₁, hle₁⟩ := h₁ d twins k t hdev ht
    obtain ⟨twins₂, t₂, hdev₂, ht₂, hle₂⟩ := h₂ d twins₁ k t₁ hdev₁ ht₁
    exact ⟨twins₂, t₂, hdev₂, ht₂, fun p => Int64.le_trans (hle₁ p) (hle₂ p)⟩⟩

theorem TwinCallStep.cloudVersionsLE {context context' : DTContext} (h : TwinCallStep context context') :
    CloudVersionsLE context context' := by
  obtain ⟨now, deviceID, msgTwins, dealType, r, hd, hcall⟩ := h
  intro d twins k t hdev ht
  obtain ⟨twins', t', hdev', ht', hstep⟩ := DealMsgTwin_twinStep (ne_syncTwinDelete_of_le hd) hcall hdev ht
  exact ⟨twins', t', hdev', ht', fun p => (hstep p).version.cloud_le⟩

/-- Over any run of calls, no cloud version of a twin decreases and no twin disappears. -/
theorem twinCalls_cloudVersionsLE {context context' : DTContext}
    (h : Relation.ReflTransGen TwinCallStep context context') : CloudVersionsLE context context' := by
  rw [← Relation.reflTransGen_eq_self (r := CloudVersionsLE)]
  exact Relation.ReflTransGen.mono (fun _ _ hs => hs.cloudVersionsLE) _ _ h

end KubeEdge.Twin
