import KubeEdge.Twin.Deal

set_option autoImplicit false

/-!
# Spec lemmas of the twin deal functions

The version rule of `dealVersion`, the field algebra of `TwinPart`, and the
frame of `DealMsgTwin`: a call touches only the twins its message names, and
never removes a twin or a device.
-/

namespace KubeEdge.Twin

instance : LE TwinVersion := ⟨fun v w => v.cloudVersion ≤ w.cloudVersion ∧ v.edgeVersion ≤ w.edgeVersion⟩

instance (v w : TwinVersion) : Decidable (v ≤ w) := inferInstanceAs (Decidable (_ ∧ _))

theorem dealVersion_rest (v : TwinVersion) (req : Option TwinVersion) :
    dealVersion v req RestDealType = (v.UpdateEdgeVersion, true, none) := rfl

theorem dealVersion_sync {v v' : TwinVersion} {req : Option TwinVersion} {dealType : Nat}
    {ok : Bool} {err : Option GoError} (hd : dealType ≠ RestDealType)
    (h : dealVersion v req dealType = (v', ok, err)) :
    (ok = false ∧ v' = v) ∨
    (ok = true ∧ ∃ r, req = some r ∧ v ≤ r ∧ v' = r) ∨
    (ok = true ∧ req = none ∧ dealType = SyncTwinDeleteDealType ∧ v' = v) := by
  have hs : dealType ≥ SyncDealType := by unfold RestDealType at hd; unfold SyncDealType; omega
  unfold dealVersion at h
  rw [if_neg hd, if_pos hs] at h
  cases req with
  | none =>
    dsimp only at h
    split at h
    · cases h
      exact .inr (.inr ⟨rfl, rfl, by assumption, rfl⟩)
    · cases h
      exact .inl ⟨rfl, rfl⟩
  | some r =>
    dsimp only at h
    split at h
    · cases h; exact .inl ⟨rfl, rfl⟩
    · split at h
      · cases h; exact .inl ⟨rfl, rfl⟩
      · cases h
        exact .inr (.inl ⟨rfl, r, rfl, ⟨Int64.not_lt.mp ‹_›, Int64.not_lt.mp ‹_›⟩, rfl⟩)

theorem dealVersion_sync_none {v : TwinVersion} {dealType : Nat} (hd : dealType ≠ RestDealType)
    (hs : dealType ≠ SyncTwinDeleteDealType) : (dealVersion v none dealType).2.1 = false := by
  have hge : dealType ≥ SyncDealType := by unfold RestDealType at hd; unfold SyncDealType; omega
  simp [dealVersion, hd, hge, hs]

namespace TwinPart

@[simp] theorem version_setVersion (p : TwinPart) (t : MsgTwin) (v : Option TwinVersion) :
    p.version (p.setVersion t v) = v := by cases p <;> rfl

@[simp] theorem value_setValue (p : TwinPart) (t : MsgTwin) (x : Option TwinValue) :
    p.value (p.setValue t x) = x := by cases p <;> rfl

@[simp] theorem value_setVersion (p q : TwinPart) (t : MsgTwin) (v : Option TwinVersion) :
    q.value (p.setVersion t v) = q.value t := by cases p <;> cases q <;> rfl

@[simp] theorem version_setValue (p q : TwinPart) (t : MsgTwin) (x : Option TwinValue) :
    q.version (p.setValue t x) = q.version t := by cases p <;> cases q <;> rfl

theorem version_setVersion_of_ne {p q : TwinPart} (h : q ≠ p) (t : MsgTwin) (v : Option TwinVersion) :
    q.version (p.setVersion t v) = q.version t := by cases p <;> cases q <;> first | rfl | exact absurd rfl h

theorem value_setValue_of_ne {p q : TwinPart} (h : q ≠ p) (t : MsgTwin) (x : Option TwinValue) :
    q.value (p.setValue t x) = q.value t := by cases p <;> cases q <;> first | rfl | exact absurd rfl h

@[simp] theorem version_withMetadata (p : TwinPart) (t : MsgTwin) (m : Option TypeMetadata) :
    p.version { t with metadata := m } = p.version t := by cases p <;> rfl

@[simp] theorem value_withMetadata (p : TwinPart) (t : MsgTwin) (m : Option TypeMetadata) :
    p.value { t with metadata := m } = p.value t := by cases p <;> rfl

@[simp] theorem version_withOptional (p : TwinPart) (t : MsgTwin) (o : Option Bool) :
    p.version { t with optional := o } = p.version t := by cases p <;> rfl

@[simp] theorem value_withOptional (p : TwinPart) (t : MsgTwin) (o : Option Bool) :
    p.value { t with optional := o } = p.value t := by cases p <;> rfl

@[simp] theorem setVersion_self (p : TwinPart) (t : MsgTwin) : p.setVersion t (p.version t) = t := by
  cases p <;> rfl

end TwinPart

def Flow.state {σ : Type} : Flow σ → σ
  | .next s => s
  | .done s => s

@[simp] theorem Flow.state_next {σ : Type} (s : σ) : (Flow.next s).state = s := rfl
@[simp] theorem Flow.state_done {σ : Type} (s : σ) : (Flow.done s).state = s := rfl

theorem dealTwinAdd_twins {now : Int64} {r r' : DealTwinResult} {deviceID key : String}
    {twins twins' : GoMap MsgTwin} {msgTwin : Option MsgTwin} {dealType : Nat} {err : Option GoError}
    (h : dealTwinAdd now r deviceID key twins msgTwin dealType = some (r', twins', err)) :
    twins' = twins ∨ ∃ t, twins' = twins.insert key t := by
  unfold dealTwinAdd at h
  cases msgTwin with
  | none => cases h; exact .inl rfl
  | some m =>
    obtain ⟨row, -, h⟩ := Option.bind_eq_some_iff.mp h
    obtain ⟨fl, -, h⟩ := Option.bind_eq_some_iff.mp h
    rcases fl with ⟨_, _, _⟩ | ⟨_, _, _⟩
    · obtain ⟨fl, -, h⟩ := Option.bind_eq_some_iff.mp h
      rcases fl with ⟨_, _, _⟩ | ⟨_, _, _⟩
      · cases h; exact .inr ⟨_, rfl⟩
      · cases h; exact .inl rfl
    · cases h; exact .inl rfl

theorem dealTwinEntry_lookup_ne {now : Int64} {deviceID : String} {dealType : Nat}
    {r r' : DealTwinResult} {twins twins' : GoMap MsgTwin} {key k : String} {msgTwin : Option MsgTwin}
    {err : Option GoError}
    (h : dealTwinEntry now deviceID dealType r twins key msgTwin = some (r', twins', err)) (hk : k ≠ key) :
    twins'.lookup k = twins.lookup k := by
  unfold dealTwinEntry at h
  split at h
  · obtain ⟨del, -, h⟩ := Option.bind_eq_some_iff.mp h
    split at h
    · obtain ⟨⟨_, t, _⟩, -, h⟩ := Option.bind_eq_some_iff.mp h
      cases h; exact AList.lookup_insert_ne hk
    · obtain ⟨⟨_, t, _⟩, -, h⟩ := Option.bind_eq_some_iff.mp h
      cases h; exact AList.lookup_insert_ne hk
  · rcases dealTwinAdd_twins h with rfl | ⟨t, rfl⟩
    · rfl
    · exact AList.lookup_insert_ne hk

theorem dealTwinEntry_lookup_isSome {now : Int64} {deviceID : String} {dealType : Nat}
    {r r' : DealTwinResult} {twins twins' : GoMap MsgTwin} {key k : String} {msgTwin : Option MsgTwin}
    {err : Option GoError}
    (h : dealTwinEntry now deviceID dealType r twins key msgTwin = some (r', twins', err))
    (hk : (twins.lookup k).isSome) : (twins'.lookup k).isSome := by
  by_cases hkey : k = key
  · subst hkey
    unfold dealTwinEntry at h
    obtain ⟨t, ht⟩ := Option.isSome_iff_exists.mp hk
    rw [ht] at h
    obtain ⟨del, -, h⟩ := Option.bind_eq_some_iff.mp h
    split at h
    · obtain ⟨⟨_, t, _⟩, -, h⟩ := Option.bind_eq_some_iff.mp h
      cases h; simp
    · obtain ⟨⟨_, t, _⟩, -, h⟩ := Option.bind_eq_some_iff.mp h
      cases h; simp
  · rwa [dealTwinEntry_lookup_ne h hkey]

theorem dealTwinLoop_lookup_of_not_mem {now : Int64} {deviceID : String} {dealType : Nat} (k : String) :
    ∀ (es : List (Σ _ : String, Option MsgTwin)) (r r' : DealTwinResult) (twins twins' : GoMap MsgTwin),
      k ∉ es.keys → dealTwinLoop now deviceID dealType es r twins = some (r', twins') →
        twins'.lookup k = twins.lookup k
  | [], r, r', twins, twins', _, h => by cases h; rfl
  | ⟨key, m⟩ :: rest, r, r', twins, twins', hk, h => by
    have hne : k ≠ key := fun e => hk (e ▸ List.mem_cons_self ..)
    have hrest : k ∉ rest.keys := fun e => hk (List.mem_cons_of_mem _ e)
    unfold dealTwinLoop at h
    obtain ⟨⟨r1, twins1, err⟩, h1, h⟩ := Option.bind_eq_some_iff.mp h
    have hstep := dealTwinEntry_lookup_ne h1 hne
    dsimp only at h
    split at h
    · cases h; exact hstep
    · rw [dealTwinLoop_lookup_of_not_mem k rest r1 r' twins1 twins' hrest h, hstep]

theorem dealTwinLoop_lookup_isSome {now : Int64} {deviceID : String} {dealType : Nat} (k : String) :
    ∀ (es : List (Σ _ : String, Option MsgTwin)) (r r' : DealTwinResult) (twins twins' : GoMap MsgTwin),
      dealTwinLoop now deviceID dealType es r twins = some (r', twins') →
        (twins.lookup k).isSome → (twins'.lookup k).isSome
  | [], r, r', twins, twins', h, hk => by cases h; exact hk
  | ⟨key, m⟩ :: rest, r, r', twins, twins', h, hk => by
    unfold dealTwinLoop at h
    obtain ⟨⟨r1, twins1, err⟩, h1, h⟩ := Option.bind_eq_some_iff.mp h
    have hstep := dealTwinEntry_lookup_isSome h1 hk
    dsimp only at h
    split at h
    · cases h; exact hstep
    · exact dealTwinLoop_lookup_isSome k rest r1 r' twins1 twins' h hstep

theorem DealMsgTwin_lookup {now : Int64} {context context' : DTContext} {deviceID d : String}
    {msgTwins : GoMap (Option MsgTwin)} {dealType : Nat} {r : DealTwinResult}
    (h : DealMsgTwin now context deviceID msgTwins dealType = some (r, context')) :
    (d ≠ deviceID → context'.deviceList.lookup d = context.deviceList.lookup d) ∧
    ((context.deviceList.lookup d).isSome → (context'.deviceList.lookup d).isSome) := by
  unfold DealMsgTwin at h
  split at h
  · cases h; exact ⟨fun _ => rfl, id⟩
  · obtain ⟨⟨r1, twins1⟩, -, h⟩ := Option.bind_eq_some_iff.mp h
    cases h
    refine ⟨fun hd => AList.lookup_insert_ne hd, fun _ => ?_⟩
    by_cases hd : d = deviceID
    · subst hd; simp
    · simp_all [AList.lookup_insert_ne hd]

/-- The delete test reads `msgTwin.Metadata.Type` for every sync, so a sync
    entry that is nil or has no metadata panics there. -/
theorem isDeleteRequest_eq_none_iff (msgTwin : Option MsgTwin) (dealType : Nat) :
    isDeleteRequest msgTwin dealType = none ↔ 1 ≤ dealType ∧ msgTwin.bind MsgTwin.metadata = none := by
  unfold isDeleteRequest
  cases msgTwin with
  | none =>
    by_cases h : dealType = 0
    · simp [h]
    · simp [h]
      omega
  | some m =>
    cases hm : m.metadata <;> by_cases h : 1 ≤ dealType <;> simp [hm, h]

theorem dealTwinEntry_eq_none_of_isDeleteRequest {now : Int64} {deviceID : String} {dealType : Nat}
    {r : DealTwinResult} {twins : GoMap MsgTwin} {key : String} {msgTwin : Option MsgTwin} {twin : MsgTwin}
    (ht : twins.lookup key = some twin) (hdel : isDeleteRequest msgTwin dealType = none) :
    dealTwinEntry now deviceID dealType r twins key msgTwin = none := by
  simp [dealTwinEntry, ht, hdel]

theorem DealMsgTwin_eq_none_of_head {now : Int64} {context : DTContext} {deviceID key : String}
    {msgTwins : GoMap (Option MsgTwin)} {dealType : Nat} {twins : GoMap MsgTwin}
    {msgTwin : Option MsgTwin} {rest : List (Σ _ : String, Option MsgTwin)}
    (hdev : context.deviceList.lookup deviceID = some twins)
    (hentries : msgTwins.entries = ⟨key, msgTwin⟩ :: rest)
    (hentry : dealTwinEntry now deviceID dealType DealTwinResult.empty twins key msgTwin = none) :
    DealMsgTwin now context deviceID msgTwins dealType = none := by
  simp [DealMsgTwin, hdev, hentries, dealTwinLoop, hentry]

end KubeEdge.Twin
