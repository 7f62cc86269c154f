import Mathlib.Data.List.Chain
import KubeEdge.Cloud.ChannelQueue

set_option autoImplicit false

/-!
# What the node queue keeps, over every schedule

A dispatched message replaces a stored one only if it is newer, never replaces
a delete, and enters an empty key only if newer than the object's `ObjectSync`.
So between two acknowledged deletes of a key, the messages without a deletion
mark written to the edge for it come in non-decreasing resource versions: the
invariant `QueueInv` carries the versions written since the key's last removal
against the message stored under it and the one being sent.
-/

namespace KubeEdge.Cloud

open KubeEdge.Go KubeEdge.Beehive

def rvLT (a b : String) : Prop :=
  ∃ x y, ParseUint a = some x ∧ ParseUint b = some y ∧ x < y

def rvLE (a b : String) : Prop :=
  a = b ∨ rvLT a b

theorem rvLT_trans {a b c : String} (hab : rvLT a b) (hbc : rvLT b c) : rvLT a c := by
  obtain ⟨x, y, hx, hy, hxy⟩ := hab
  obtain ⟨y', z, hy', hz, hyz⟩ := hbc
  rw [hy] at hy'
  cases hy'
  exact ⟨x, z, hx, hz, Nat.lt_trans hxy hyz⟩

theorem rvLE_trans_lt {a b c : String} (hab : rvLE a b) (hbc : rvLT b c) : rvLT a c := by
  rcases hab with rfl | hab
  · exact hbc
  · exact rvLT_trans hab hbc

theorem rvLE_trans {a b c : String} (hab : rvLE a b) (hbc : rvLE b c) : rvLE a c := by
  rcases hbc with rfl | hbc
  · exact hab
  · exact .inr (rvLE_trans_lt hab hbc)

instance : Trans rvLE rvLE rvLE := ⟨rvLE_trans⟩

theorem CompareResourceVersion_pos {a b : String} {c : Int} (h : CompareResourceVersion a b = some c)
    (hc : 0 < c) : rvLT b a := by
  unfold CompareResourceVersion at h
  obtain ⟨x, hx, h⟩ := Option.bind_eq_some_iff.mp h
  obtain ⟨y, hy, h⟩ := Option.bind_eq_some_iff.mp h
  refine ⟨y, x, hy, hx, ?_⟩
  simp only [Option.pure_def, Option.some.injEq] at h
  subst h
  split_ifs at hc with hgt heq <;> omega

theorem admits_of_nonDelete {nodeID : String} {msg : Message} {item : Option Message} {objectSyncs : ObjectSyncs}
    (h : admits nodeID msg item objectSyncs = some true) (hnd : isDeleteMessage msg = false) :
    (∀ stored, item = some stored →
      isDeleteMessage stored = false ∧ rvLT stored.header.resourceVersion msg.header.resourceVersion) ∧
    (item = none → ∃ uid, GetMessageUID msg = some uid ∧
      ∀ rv, objectSyncs.lookup (valueOf (GetNamespace msg), BuildObjectSyncName nodeID uid) = some rv →
        rv ≠ "" → rvLT rv msg.header.resourceVersion) := by
  unfold admits at h
  rw [if_neg (by simp [hnd])] at h
  cases item with
  | some stored =>
    refine ⟨fun stored' hs => ?_, fun hn => nomatch hn⟩
    cases hs
    dsimp only at h
    split at h
    · cases h
    · rename_i hstored
      obtain ⟨c, hc, hpos⟩ := Option.map_eq_some_iff.mp h
      exact ⟨by simpa using hstored, CompareResourceVersion_pos hc (by simpa using hpos)⟩
  | none =>
    refine ⟨fun _ hs => (nomatch hs), fun _ => ?_⟩
    dsimp only at h
    split at h
    · cases h
    · rename_i uid huid
      refine ⟨uid, huid, fun rv hrv hne => ?_⟩
      rw [hrv] at h
      dsimp only at h
      rw [if_pos hne] at h
      obtain ⟨c, hc, hpos⟩ := Option.map_eq_some_iff.mp h
      exact CompareResourceVersion_pos hc (by simpa using hpos)

theorem addMessageToQueue_cases {nodeID : String} {msg : Message} {s s' : NodeQueue}
    (h : addMessageToQueue nodeID msg s = some s') :
    s' = s ∨ ∃ key, channelq.getMsgKey msg = .ok key ∧
      admits nodeID msg (s.store.lookup key) s.objectSyncs = some true ∧
      s' = { s with store := s.store.insert key msg, queue := addKey s.queue key } := by
  unfold addMessageToQueue at h
  split at h
  · cases h
    exact .inl rfl
  · split at h
    · cases h
      exact .inl rfl
    · rename_i key hkey
      obtain ⟨ok, hok, h⟩ := Option.map_eq_some_iff.mp h
      cases ok
      · cases h
        exact .inl rfl
      · exact .inr ⟨key, hkey, hok, h.symm⟩

def removesKey (msg : Message) : Bool :=
  msg.router.group == GroupResource && (GetMessageUID msg).isSome && msg.router.operation == DeleteOperation

def logVersions (key : String) (acc : List String) : Event → List String
  | .write k m => if k = key ∧ isDeleteMessage m = false then acc ++ [m.header.resourceVersion] else acc
  | .ack k m => if k = key ∧ removesKey m = true then [] else acc

/-- The versions of the messages without a deletion mark written for `key`
    since the last acknowledgement that dropped it. -/
def residentVersions (key : String) (log : List Event) : List String :=
  log.foldl (logVersions key) []

theorem residentVersions_append (key : String) (log : List Event) (e : Event) :
    residentVersions key (log ++ [e]) = logVersions key (residentVersions key log) e := by
  rw [residentVersions, List.foldl_append]
  rfl

@[simp] theorem isDeleteMessage_trimMessage (msg : Message) : isDeleteMessage (trimMessage msg) = isDeleteMessage msg := by
  unfold trimMessage
  dsimp only
  split_ifs <;> rfl

@[simp] theorem trimMessage_header (msg : Message) : (trimMessage msg).header = msg.header := by
  unfold trimMessage
  dsimp only
  split_ifs <;> rfl

/-- What the write loop has sent since each key was last dropped, against what
    the store holds and what is being sent. -/
structure QueueInv (s : NodeQueue) : Prop where
  keyed : ∀ k m, s.store.lookup k = some m → channelq.getMsgKey m = .ok k
  sendingKeyed : ∀ k m i, s.writer = .waiting k m i → channelq.getMsgKey m = .ok k
  sorted : ∀ k, (residentVersions k s.log).IsChain rvLE
  stored : ∀ k v, (residentVersions k s.log).getLast? = some v →
    ∃ m, s.store.lookup k = some m ∧ (isDeleteMessage m = true ∨ rvLE v m.header.resourceVersion)
  sending : ∀ k m i, s.writer = .waiting k m i → isDeleteMessage m = false →
    (residentVersions k s.log).getLast? = some m.header.resourceVersion

theorem QueueInv.init (objectSyncs : ObjectSyncs) : QueueInv ⟨∅, [], objectSyncs, .idle, []⟩ where
  keyed _ _ h := nomatch h
  sendingKeyed _ _ _ h := nomatch h
  sorted _ := List.IsChain.nil
  stored _ _ h := nomatch h
  sending _ _ _ h := nomatch h

theorem QueueInv.of_frame {s s' : NodeQueue} (hs : QueueInv s) (hstore : s'.store = s.store)
    (hlog : s'.log = s.log) (hwriter : s'.writer = .idle ∨ s'.writer = s.writer) : QueueInv s' := by
  have hw : ∀ k m i, s'.writer = .waiting k m i → s.writer = .waiting k m i := by
    intro k m i h
    rcases hwriter with hi | he
    · rw [hi] at h
      cases h
    · rw [← he]
      exact h
  refine ⟨?_, ?_, ?_, ?_, ?_⟩
  · rw [hstore]
    exact hs.keyed
  · exact fun k m i h => hs.sendingKeyed k m i (hw k m i h)
  · rw [hlog]
    exact hs.sorted
  · rw [hstore, hlog]
    exact hs.stored
  · rw [hlog]
    exact fun k m i h => hs.sending k m i (hw k m i h)

theorem QueueInv.dispatch {nodeID : String} {msg : Message} {s s' : NodeQueue} (hs : QueueInv s)
    (h : addMessageToQueue nodeID msg s = some s') : QueueInv s' := by
  rcases addMessageToQueue_cases h with rfl | ⟨key, hkey, hadm, rfl⟩
  · exact hs
  refine ⟨fun k m hk => ?_, hs.sendingKeyed, hs.sorted, fun k v hv => ?_, hs.sending⟩
  · by_cases hkk : k = key
    · subst hkk
      rw [AList.lookup_insert] at hk
      cases hk
      exact hkey
    · rw [AList.lookup_insert_ne hkk] at hk
      exact hs.keyed k m hk
  · by_cases hkk : k = key
    · subst hkk
      obtain ⟨old, hold, hrel⟩ := hs.stored k v hv
      refine ⟨msg, AList.lookup_insert _, ?_⟩
      cases hdel : isDeleteMessage msg
      · obtain ⟨hold', hlt⟩ := (admits_of_nonDelete hadm hdel).1 old hold
        rcases hrel with hd | hle
        · rw [hd] at hold'
          cases hold'
        · exact .inr (.inr (rvLE_trans_lt hle hlt))
      · exact .inl rfl
    · rw [AList.lookup_insert_ne hkk]
      exact hs.stored k v hv

theorem IsChain_append_last {l : List String} {v : String} (hl : l.IsChain rvLE)
    (hlast : ∀ x ∈ l.getLast?, rvLE x v) : (l ++ [v]).IsChain rvLE :=
  hl.append (List.IsChain.singleton v) (fun x hx y hy => by
    rw [List.head?_cons, Option.mem_some_iff] at hy
    subst hy
    exact hlast x hx)

theorem QueueInv.log_write {s : NodeQueue} {key : String} {m : Message} (hs : QueueInv s)
    (hlast : isDeleteMessage m = false →
      ∀ x ∈ (residentVersions key s.log).getLast?, rvLE x m.header.resourceVersion)
    (hstored : isDeleteMessage m = false → ∃ m', s.store.lookup key = some m' ∧
      (isDeleteMessage m' = true ∨ rvLE m.header.resourceVersion m'.header.resourceVersion)) :
    let log := s.log ++ [.write key (trimMessage m)]
    (∀ k, (residentVersions k log).IsChain rvLE) ∧
    (∀ k v, (residentVersions k log).getLast? = some v →
      ∃ m', s.store.lookup k = some m' ∧ (isDeleteMessage m' = true ∨ rvLE v m'.header.resourceVersion)) ∧
    (isDeleteMessage m = false → (residentVersions key log).getLast? = some m.header.resourceVersion) := by
  -- the write adds a version to the log of `key` only, and only for a message without a deletion mark
  refine ⟨fun k => ?_, fun k v hv => ?_, fun hnd => ?_⟩
  · rw [residentVersions_append, logVersions]
    split_ifs with hk
    · obtain ⟨rfl, hnd⟩ := hk
      simpa using IsChain_append_last (hs.sorted key) (hlast (by simpa using hnd))
    · exact hs.sorted k
  · rw [residentVersions_append, logVersions] at hv
    split_ifs at hv with hk
    · obtain ⟨rfl, hnd⟩ := hk
      rw [List.getLast?_append_of_ne_nil _ (List.cons_ne_nil _ _)] at hv
      simp only [List.getLast?_singleton, Option.some.injEq, trimMessage_header] at hv
      subst hv
      exact hstored (by simpa using hnd)
    · exact hs.stored k v hv
  · rw [residentVersions_append, logVersions, if_pos ⟨rfl, by simpa using hnd⟩]
    simp

theorem QueueInv.write {s : NodeQueue} {key : String} {m : Message} {queue : List String} {retry : Nat}
    (hs : QueueInv s) (hlookup : s.store.lookup key = some m)
    (hlast : isDeleteMessage m = false → ∀ x ∈ (residentVersions key s.log).getLast?, rvLE x m.header.resourceVersion) :
    QueueInv { s with queue, writer := .waiting key m retry, log := s.log ++ [.write key (trimMessage m)] } := by
  obtain ⟨hsorted, hstored, hsending⟩ := hs.log_write hlast (fun _ => ⟨m, hlookup, .inr (.inl rfl)⟩)
  refine ⟨hs.keyed, fun k m' i h => ?_, hsorted, hstored, fun k m' i h hnd => ?_⟩
  · cases h
    exact hs.keyed key m hlookup
  · cases h
    exact hsending hnd

theorem QueueInv.resend {s : NodeQueue} {key : String} {m : Message} {i : Nat} (hs : QueueInv s)
    (hw : s.writer = .waiting key m i) :
    QueueInv { s with writer := .waiting key m (i + 1), log := s.log ++ [.write key (trimMessage m)] } := by
  -- the last version written for `key` is the one being sent again
  have hlast : isDeleteMessage m = false →
      ∀ x ∈ (residentVersions key s.log).getLast?, rvLE x m.header.resourceVersion := by
    intro hnd x hx
    rw [hs.sending key m i hw hnd, Option.mem_some_iff] at hx
    exact .inl hx.symm
  obtain ⟨hsorted, hstored, hsending⟩ :=
    hs.log_write hlast (fun hnd => hs.stored key _ (hs.sending key m i hw hnd))
  refine ⟨hs.keyed, fun k m' j h => ?_, hsorted, hstored, fun k m' j h hnd => ?_⟩
  · cases h
    exact hs.sendingKeyed key m i hw
  · cases h
    exact hsending hnd

theorem saveSuccessPoint_store {nodeID key : String} {m : Message} {s : NodeQueue}
    (hkey : channelq.getMsgKey m = .ok key) :
    (saveSuccessPoint nodeID m s).store = if removesKey m then s.store.erase key else s.store := by
  unfold saveSuccessPoint removesKey
  by_cases hg : m.router.group = GroupResource
  · rw [if_pos hg]
    cases huid : GetMessageUID m with
    | none => simp
    | some uid =>
      dsimp only
      by_cases hop : m.router.operation = DeleteOperation
      · rw [if_pos hop, hkey]
        simp [hg, hop]
      · rw [if_neg hop]
        simp [hop]
  · rw [if_neg hg]
    simp [hg]

theorem QueueInv.ack {nodeID : String} {s : NodeQueue} {key : String} {m : Message} {i : Nat}
    (hs : QueueInv s) (hw : s.writer = .waiting key m i) :
    QueueInv { saveSuccessPoint nodeID m s with writer := .idle, log := s.log ++ [.ack key m] } := by
  have hstore : (saveSuccessPoint nodeID m s).store = if removesKey m then s.store.erase key else s.store :=
    saveSuccessPoint_store (hs.sendingKeyed key m i hw)
  have hlookup : ∀ k, k ≠ key ∨ removesKey m = false →
      (saveSuccessPoint nodeID m s).store.lookup k = s.store.lookup k := by
    intro k hk
    rw [hstore]
    split_ifs with hr
    · rcases hk with hk | hk
      · exact AList.lookup_erase_ne hk
      · rw [hr] at hk
        cases hk
    · rfl
  refine ⟨fun k m' hk => ?_, fun k m' j h => (nomatch h), fun k => ?_, fun k v hv => ?_,
    fun k m' j h => (nomatch h)⟩
  · change (saveSuccessPoint nodeID m s).store.lookup k = some m' at hk
    by_cases hkr : k = key ∧ removesKey m = true
    · obtain ⟨rfl, hr⟩ := hkr
      rw [hstore, if_pos hr, AList.lookup_erase] at hk
      cases hk
    · rw [hlookup k (by by_cases hk : k = key <;> simp_all)] at hk
      exact hs.keyed k m' hk
  · -- an acknowledgement that drops the key starts its log afresh
    change (residentVersions k (s.log ++ [.ack key m])).IsChain rvLE
    rw [residentVersions_append, logVersions]
    split_ifs
    · exact List.IsChain.nil
    · exact hs.sorted k
  · change (residentVersions k (s.log ++ [.ack key m])).getLast? = some v at hv
    rw [residentVersions_append, logVersions] at hv
    split_ifs at hv with hkr
    · cases hv
    · change ∃ m', (saveSuccessPoint nodeID m s).store.lookup k = some m' ∧ _
      rw [hlookup k (by by_cases hk : k = key <;> simp_all)]
      exact hs.stored k v hv

theorem takeKey_lookup {s : NodeQueue} {key : String} {m : Message} (h : takeKey s key = some (some m)) :
    s.store.lookup key = some m := by
  unfold takeKey toSend at h
  split_ifs at h
  exact (Option.filter_eq_some_iff.mp (Option.some.inj h)).1

theorem QueueInv.step {nodeID : String} {s s' : NodeQueue} {a : QueueAction} (hs : QueueInv s)
    (h : queueStep nodeID s a = some s') : QueueInv s' := by
  cases a with
  | dispatch msg => exact hs.dispatch h
  | get key =>
    obtain ⟨x, hx, rfl⟩ := Option.map_eq_some_iff.mp h
    cases x with
    | some m =>
      -- the stored message is no older than the last version written for its key
      have hm := takeKey_lookup hx
      refine hs.write hm (fun hnd y hy => ?_)
      obtain ⟨m', hm', hrel⟩ := hs.stored key y (Option.mem_def.mp hy)
      rw [hm] at hm'
      cases hm'
      rcases hrel with hd | hle
      · rw [hnd] at hd
        cases hd
      · exact hle
    | none => exact hs.of_frame rfl rfl (.inr rfl)
  | getNoConnection key =>
    obtain ⟨x, -, rfl⟩ := Option.map_eq_some_iff.mp h
    exact hs.of_frame rfl rfl (.inr rfl)
  | getSendError key =>
    obtain ⟨x, -, rfl⟩ := Option.map_eq_some_iff.mp h
    cases x <;> exact hs.of_frame rfl rfl (.inr rfl)
  | tick writeOk =>
    cases hw : s.writer with
    | idle => simp [queueStep, hw] at h
    | waiting key m retry =>
      simp only [queueStep, hw] at h
      -- a resend writes the message again; giving up and a failed write only free the writer
      split at h
      · cases h
        exact hs.resend hw
      · cases h
        exact hs.of_frame rfl rfl (.inl rfl)
      · cases h
        exact hs.of_frame rfl rfl (.inl rfl)
  | ack =>
    cases hw : s.writer with
    | idle => simp [queueStep, hw] at h
    | waiting key m retry =>
      simp only [queueStep, hw, Option.some.injEq] at h
      subst h
      exact hs.ack hw

theorem QueueInv.run {nodeID : String} :
    ∀ (actions : List QueueAction) {s s' : NodeQueue}, QueueInv s → queueRun nodeID actions s = some s' → QueueInv s'
  | [], _, _, hs, h => by
    cases h
    exact hs
  | a :: rest, s, s', hs, h => by
    obtain ⟨s₁, h₁, h⟩ := Option.bind_eq_some_iff.mp h
    exact QueueInv.run rest (hs.step h₁) h

/-- What one dispatch may do to the store: change only the message's own key,
    to the message; replace a stored message by a non-delete only if the stored
    one is not a delete and is older; store a non-delete under an empty key
    only if it is newer than its object's recorded `ObjectSync` version. -/
structure DispatchRules (nodeID : String) (msg : Message) (s s' : NodeQueue) : Prop where
  changed : ∀ key, s'.store.lookup key ≠ s.store.lookup key →
    s'.store.lookup key = some msg ∧ channelq.getMsgKey msg = .ok key
  newer : ∀ key old, s.store.lookup key = some old → s'.store.lookup key ≠ some old →
    isDeleteMessage msg = false →
      isDeleteMessage old = false ∧ rvLT old.header.resourceVersion msg.header.resourceVersion
  admitted : ∀ key, s.store.lookup key = none → s'.store.lookup key = some msg → isDeleteMessage msg = false →
    ∃ uid, GetMessageUID msg = some uid ∧
      ∀ rv, s.objectSyncs.lookup (valueOf (GetNamespace msg), BuildObjectSyncName nodeID uid) = some rv →
        rv ≠ "" → rvLT rv msg.header.resourceVersion

theorem addMessageToQueue_rules {nodeID : String} {msg : Message} {s s' : NodeQueue}
    (h : addMessageToQueue nodeID msg s = some s') : DispatchRules nodeID msg s s' := by
  rcases addMessageToQueue_cases h with rfl | ⟨key, hkey, hadm, rfl⟩
  · refine ⟨fun _ hne => absurd rfl hne, fun _ _ hold hne => absurd hold hne, fun _ hn hk => ?_⟩
    rw [hn] at hk
    cases hk
  refine ⟨fun k hne => ?_, fun k old hold hne hnd => ?_, fun k hn hk hnd => ?_⟩
  · by_cases hkk : k = key
    · subst hkk
      exact ⟨AList.lookup_insert _, hkey⟩
    · exact absurd (AList.lookup_insert_ne hkk) hne
  · by_cases hkk : k = key
    · subst hkk
      exact (admits_of_nonDelete hadm hnd).1 old hold
    · exact absurd (by rw [← hold]; exact AList.lookup_insert_ne hkk) hne
  · by_cases hkk : k = key
    · subst hkk
      exact (admits_of_nonDelete hadm hnd).2 hn
    · change (s.store.insert key msg).lookup k = some msg at hk
      rw [AList.lookup_insert_ne hkk, hn] at hk
      cases hk

theorem queueRun_edge_versions {nodeID : String} {objectSyncs : ObjectSyncs} {actions : List QueueAction}
    {s : NodeQueue} (h : queueRun nodeID actions ⟨∅, [], objectSyncs, .idle, []⟩ = some s) :
    (∀ key m, s.store.lookup key = some m → channelq.getMsgKey m = .ok key) ∧
    (∀ msg s', addMessageToQueue nodeID msg s = some s' → DispatchRules nodeID msg s s') ∧
    ∀ key, (residentVersions key s.log).Pairwise rvLE := by
  have hinv := QueueInv.run actions (QueueInv.init objectSyncs) h
  exact ⟨hinv.keyed, fun _ _ h' => addMessageToQueue_rules h',
    fun key => List.isChain_iff_pairwise.mp (hinv.sorted key)⟩

def podUpdate (rv : String) (deletionTimestamp : Option Int64) : Message :=
  ⟨⟨"m" ++ rv, "", rv, false⟩, ⟨"edgecontroller", GroupResource, "update", "node/n1/default/pod/p1"⟩,
    some ⟨"u1", deletionTimestamp⟩⟩

def podSchedule : List QueueAction :=
  [.dispatch (podUpdate "5" none), .get "pod/default/p1", .ack]

theorem queueRun_edge_versions_pod :
    ∃ s, queueRun "n1" podSchedule ⟨∅, [], ∅, .idle, []⟩ = some s ∧
      (∀ key m, s.store.lookup key = some m → channelq.getMsgKey m = .ok key) ∧
      (∀ msg s', addMessageToQueue "n1" msg s = some s' → DispatchRules "n1" msg s s') ∧
      ∀ key, (residentVersions key s.log).Pairwise rvLE := by
  have hsome : (queueRun "n1" podSchedule ⟨∅, [], ∅, .idle, []⟩).isSome := by decide
  exact ⟨_, (Option.some_get hsome).symm, queueRun_edge_versions (Option.some_get hsome).symm⟩

/-- An acknowledged update carrying a deletion timestamp records an older
    version than the one recorded before. -/
theorem queueRun_objectSync_decreases :
    (queueRun "n1" podSchedule ⟨∅, [], ∅, .idle, []⟩).map (·.objectSyncs.lookup ("default", "n1.u1")) =
      some (some "5") ∧
    (queueRun "n1" (podSchedule ++ [.dispatch (podUpdate "3" (some 1)), .get "pod/default/p1", .ack])
      ⟨∅, [], ∅, .idle, []⟩).map (·.objectSyncs.lookup ("default", "n1.u1")) = some (some "3") := by
  decide

end KubeEdge.Cloud
