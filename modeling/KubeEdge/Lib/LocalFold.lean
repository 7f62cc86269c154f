import Mathlib.Data.List.AList

set_option autoImplicit false

/-!
# Folds whose steps are local to a key

A loop over a list of items, each with a key, where the step for an item only
changes what is seen at its own key, and what it leaves there depends only on
what was seen there before. Over a list of distinct keys, what the loop leaves
at a key is what the one step for that key leaves, and keys no item has are
untouched. Go's `for key := range m` loops that write or delete only the
current key are of this kind, as is copying one map into another.
-/

namespace KubeEdge.Lib

section
variable {ι κ σ γ : Type*} (key : ι → κ) (step : ι → σ → σ) (view : κ → σ → γ)

/-- The step for `i` changes nothing seen at another key, and what it leaves at
    its own key depends only on what was there. -/
structure StepsLocal : Prop where
  view_ne : ∀ k i s, k ≠ key i → view k (step i s) = view k s
  view_congr : ∀ i s s', view (key i) s = view (key i) s' → view (key i) (step i s) = view (key i) (step i s')

variable {key step view}

theorem StepsLocal.foldl_of_not_mem (h : StepsLocal key step view) {k : κ} :
    ∀ (items : List ι) (s : σ), k ∉ items.map key →
      view k (items.foldl (fun s i => step i s) s) = view k s
  | [], _, _ => rfl
  | i :: items, s, hk => by
    have hne : k ≠ key i := fun e => hk (by simp [e])
    rw [List.foldl_cons, h.foldl_of_not_mem items (step i s) (fun e => hk (by simp [e])),
      h.view_ne k i s hne]

theorem StepsLocal.foldl_of_mem (h : StepsLocal key step view) :
    ∀ (items : List ι) (s : σ), (items.map key).Nodup → ∀ i ∈ items,
      view (key i) (items.foldl (fun s i => step i s) s) = view (key i) (step i s)
  | [], _, _, _, hi => absurd hi List.not_mem_nil
  | j :: items, s, hnodup, i, hi => by
    rw [List.map_cons, List.nodup_cons] at hnodup
    rw [List.foldl_cons]
    rcases List.mem_cons.mp hi with rfl | hi
    · -- the step for `i` comes first; no later item has its key
      exact h.foldl_of_not_mem items (step i s) hnodup.1
    · -- an item of another key before `i` leaves its key as it was
      have hne : key i ≠ key j := fun e => hnodup.1 (e ▸ List.mem_map_of_mem hi)
      rw [h.foldl_of_mem items (step j s) hnodup.2 i hi]
      exact h.view_congr i _ _ (h.view_ne _ j s hne)

end

section
variable {α β : Type*} [DecidableEq α]

theorem stepsLocal_insert :
    StepsLocal Sigma.fst (fun (e : Σ _ : α, β) (m : AList (fun _ : α => β)) => m.insert e.1 e.2)
      (fun k m => m.lookup k) :=
  ⟨fun _ _ _ hk => AList.lookup_insert_ne hk, fun i _ _ _ => by simp⟩

theorem foldl_insert_lookup (src dst : AList (fun _ : α => β)) (k : α) :
    (src.entries.foldl (fun m e => m.insert e.1 e.2) dst).lookup k =
      (src.lookup k).or (dst.lookup k) := by
  by_cases hk : k ∈ src
  · obtain ⟨v, hv⟩ := Option.isSome_iff_exists.mp (AList.lookup_isSome.mpr hk)
    have hmem : (⟨k, v⟩ : Σ _ : α, β) ∈ src.entries := (AList.mem_lookup_iff).mp hv
    have hnodup : (src.entries.map Sigma.fst).Nodup := src.nodupKeys
    rw [stepsLocal_insert.foldl_of_mem src.entries dst hnodup _ hmem, hv]
    simp
  · have hnot : k ∉ src.entries.map Sigma.fst := hk
    rw [stepsLocal_insert.foldl_of_not_mem src.entries dst hnot, AList.lookup_eq_none.mpr hk]
    simp

end

end KubeEdge.Lib
