import KubeEdge.MetaServer.Key

set_option autoImplicit false

/-!
# Kinds from resources

The edge meta server guesses a kind from a resource name with
`UnsafeResourceToKind`, the inverse it means `UnsafeKindToResource` to have:
title case, then drop the plural ending (`ies` to `y`, then `es`, then `s`),
with a table for three resources. `store.List` names the kind of a list by the
resource of its key, with `List` after it.

The pluraliser writes `es` only after an `s`, and the singulariser drops `es`
after any letter: every kind of two or more letters ending in `e` comes back
without it, unless the table has it (`Node`, `Service`). The other failures are
`Endpoint`, which the table reads as `Endpoints`, and `Y`, whose plural `ies`
becomes `Ies` under title case.
-/

namespace KubeEdge.MetaServer

open KubeEdge.Go

def unusualResourceToKind : List (String × String) :=
  [("endpoints", "Endpoints"), ("nodes", "Node"), ("services", "Service")]

def UnsafeResourceToKind (r : String) : String :=
  if r = "" then r
  else match unusualResourceToKind.lookup r with
    | some v => v
    | none =>
      let k := Title r
      if HasSuffix k "ies" then TrimSuffix k "ies" ++ "y"
      else if HasSuffix k "es" then TrimSuffix k "es"
      else if HasSuffix k "s" then TrimSuffix k "s"
      else k

def storeListKind (key : String) : Option String :=
  (ParseKey key).map fun (gvr, _, _) => UnsafeResourceToKind gvr.resource ++ "List"

/-- A kind of one capitalised word: an upper-case letter, then lower-case ones. -/
def IsCapitalisedWord (k : String) : Bool :=
  match k.toList with
  | [] => false
  | c :: w => c.isUpper && w.all Char.isLower

theorem ToLower_toList (k : String) : (ToLower k).toList = k.toList.map Char.toLower := by
  simp [ToLower]

theorem map_toLower_word {c : Char} {w : List Char} (hw : ∀ d ∈ w, d.isLower = true) :
    (c :: w).map Char.toLower = c.toLower :: w := by
  rw [List.map_cons, List.map_congr_left (fun d hd => toLower_eq_self_of_isLower (hw d hd)), List.map_id']

theorem Title_lowered {c : Char} {w m : List Char} (hc : c.isUpper = true)
    (hw : ∀ d ∈ w, d.isLower = true) (hm : ∀ d ∈ m, d.isLower = true) :
    Title (String.ofList ((c :: w).map Char.toLower ++ m)) = String.ofList (c :: (w ++ m)) := by
  have hwm : ∀ d ∈ w ++ m, d.isLower = true := by
    intro d hd
    rcases List.mem_append.mp hd with h | h
    · exact hw d h
    · exact hm d h
  rw [map_toLower_word hw, List.cons_append, Title_word (isLower_toLower_of_isUpper hc) hwm,
    toUpper_toLower_of_isUpper hc]

theorem lookup_unusualResourceToKind_eq_none {r : String} (hE : r ≠ "endpoints") (hN : r ≠ "nodes")
    (hS : r ≠ "services") : unusualResourceToKind.lookup r = none := by
  simp [unusualResourceToKind, List.lookup_cons, List.lookup_nil, beq_eq_false_iff_ne.mpr hE, beq_eq_false_iff_ne.mpr hN,
    beq_eq_false_iff_ne.mpr hS]

theorem IsCapitalisedWord_iff {k : String} :
    IsCapitalisedWord k = true ↔ ∃ c w, k.toList = c :: w ∧ c.isUpper = true ∧ ∀ d ∈ w, d.isLower = true := by
  unfold IsCapitalisedWord
  split <;> simp_all

theorem Title_ToLower {k : String} (hk : IsCapitalisedWord k = true) {m : List Char}
    (hm : ∀ d ∈ m, d.isLower = true) :
    Title (String.ofList ((ToLower k).toList ++ m)) = String.ofList (k.toList ++ m) := by
  obtain ⟨c, w, hkw, hc, hw⟩ := IsCapitalisedWord_iff.mp hk
  rw [ToLower_toList, hkw, Title_lowered hc hw hm, List.cons_append]

theorem ToLower_injective {k k' : String} (hk : IsCapitalisedWord k = true) (hk' : IsCapitalisedWord k' = true)
    (h : ToLower k = ToLower k') : k = k' := by
  obtain ⟨c, w, hkw, hc, hw⟩ := IsCapitalisedWord_iff.mp hk
  obtain ⟨c', w', hkw', hc', hw'⟩ := IsCapitalisedWord_iff.mp hk'
  have hl := congrArg String.toList h
  rw [ToLower_toList, ToLower_toList, hkw, hkw', map_toLower_word hw, map_toLower_word hw',
    List.cons.injEq] at hl
  -- the upper case of the first letters agree
  have hcc : c = c' := by
    rw [← toUpper_toLower_of_isUpper hc, ← toUpper_toLower_of_isUpper hc', hl.1]
  apply String.ext
  rw [hkw, hkw', hcc, hl.2]

theorem UnsafeKindToResource_of_lower {k : String} {l : List Char} {z : Char} (hE : k ≠ "Endpoints")
    (hl : (ToLower k).toList = l ++ [z]) :
    UnsafeKindToResource k =
      if z = 's' then String.ofList (l ++ ['s', 'e', 's'])
      else if z = 'y' then String.ofList (l ++ ['i', 'e', 's'])
      else String.ofList (l ++ [z, 's']) := by
  have h0 : k ≠ "" := by
    rintro rfl
    simp [ToLower] at hl
  rw [UnsafeKindToResource, if_neg h0, if_neg hE]
  dsimp only
  rw [hl, List.getLast?_concat]
  split_ifs with hs hy
  · subst hs
    apply String.ext
    simp [hl]
  · subst hy
    apply String.ext
    simp
  · split
    · simp_all
    · simp_all
    · apply String.ext
      simp [hl]

theorem ne_empty_of_Title {r : String} {t : List Char} (ht : Title r = String.ofList t) (hne : t ≠ []) :
    r ≠ "" := by
  rintro rfl
  apply hne
  simpa [Title, Title.go] using ht.symm

theorem UnsafeResourceToKind_ies {r : String} {p : List Char} (hu : unusualResourceToKind.lookup r = none)
    (ht : Title r = String.ofList (p ++ ['i', 'e', 's'])) : UnsafeResourceToKind r = String.ofList (p ++ ['y']) := by
  have h0 := ne_empty_of_Title ht (by simp)
  have hies : HasSuffix (String.ofList (p ++ ['i', 'e', 's'])) "ies" = true := by
    simp [HasSuffix, List.isSuffixOf, List.isPrefixOf]
  have htrim : TrimSuffix (String.ofList (p ++ ['i', 'e', 's'])) "ies" = String.ofList p :=
    TrimSuffix_append p "ies"
  simp only [UnsafeResourceToKind, if_neg h0, hu, ht, if_pos hies, htrim]
  apply String.ext
  simp

theorem UnsafeResourceToKind_es {r : String} {p : List Char} {x : Char} (hx : x ≠ 'i')
    (hu : unusualResourceToKind.lookup r = none) (ht : Title r = String.ofList (p ++ [x, 'e', 's'])) :
    UnsafeResourceToKind r = String.ofList (p ++ [x]) := by
  have h0 := ne_empty_of_Title ht (by simp)
  have hies : HasSuffix (String.ofList (p ++ [x, 'e', 's'])) "ies" = false := by
    simp [HasSuffix, List.isSuffixOf, List.isPrefixOf, Ne.symm hx]
  have hes : HasSuffix (String.ofList (p ++ [x, 'e', 's'])) "es" = true := by
    simp [HasSuffix, List.isSuffixOf, List.isPrefixOf]
  have htrim : TrimSuffix (String.ofList ((p ++ [x]) ++ ['e', 's'])) "es" = String.ofList (p ++ [x]) :=
    TrimSuffix_append (p ++ [x]) "es"
  simp only [List.append_assoc, List.cons_append, List.nil_append] at htrim
  simp only [UnsafeResourceToKind, if_neg h0, hu, ht, hies, hes, htrim]
  simp

theorem UnsafeResourceToKind_s {r : String} {p : List Char} {x : Char} (hx : x ≠ 'e')
    (hu : unusualResourceToKind.lookup r = none) (ht : Title r = String.ofList (p ++ [x, 's'])) :
    UnsafeResourceToKind r = String.ofList (p ++ [x]) := by
  have h0 := ne_empty_of_Title ht (by simp)
  have hies : HasSuffix (String.ofList (p ++ [x, 's'])) "ies" = false := by
    simp [HasSuffix, List.isSuffixOf, List.isPrefixOf, Ne.symm hx]
  have hes : HasSuffix (String.ofList (p ++ [x, 's'])) "es" = false := by
    simp [HasSuffix, List.isSuffixOf, List.isPrefixOf, Ne.symm hx]
  have hs : HasSuffix (String.ofList (p ++ [x, 's'])) "s" = true := by
    simp [HasSuffix, List.isSuffixOf, List.isPrefixOf]
  have htrim : TrimSuffix (String.ofList ((p ++ [x]) ++ ['s'])) "s" = String.ofList (p ++ [x]) :=
    TrimSuffix_append (p ++ [x]) "s"
  simp only [List.append_assoc, List.cons_append, List.nil_append] at htrim
  simp only [UnsafeResourceToKind, if_neg h0, hu, ht, hies, hes, hs, htrim]
  simp

theorem lookup_eq_none_of_es {p : List Char} {a : Char} (ha : a = 's' ∨ a = 'i') :
    unusualResourceToKind.lookup (String.ofList (p ++ [a, 'e', 's'])) = none := by
  have hlast : ∀ v : String, v.toList.reverse.take 3 ≠ ['s', 'e', a] →
      String.ofList (p ++ [a, 'e', 's']) ≠ v := by
    intro v hv h
    apply hv
    rw [← h]
    simp
  apply lookup_unusualResourceToKind_eq_none <;> apply hlast <;> rcases ha with rfl | rfl <;> decide

theorem lookup_plural_eq_none {k : String} (hk : IsCapitalisedWord k = true) (hEt : k ≠ "Endpoint")
    (hN : k ≠ "Node") (hS : k ≠ "Service") :
    unusualResourceToKind.lookup (String.ofList ((ToLower k).toList ++ ['s'])) = none := by
  have hne : ∀ k' : String, IsCapitalisedWord k' = true → k ≠ k' →
      String.ofList ((ToLower k).toList ++ ['s']) ≠ String.ofList ((ToLower k').toList ++ ['s']) := by
    intro k' hk' h e
    apply h (ToLower_injective hk hk' (String.ext _))
    simpa using congrArg String.toList e
  apply lookup_unusualResourceToKind_eq_none
  · have h := hne "Endpoint" (by decide) hEt
    rwa [show String.ofList ((ToLower "Endpoint").toList ++ ['s']) = "endpoints" by decide] at h
  · have h := hne "Node" (by decide) hN
    rwa [show String.ofList ((ToLower "Node").toList ++ ['s']) = "nodes" by decide] at h
  · have h := hne "Service" (by decide) hS
    rwa [show String.ofList ((ToLower "Service").toList ++ ['s']) = "services" by decide] at h

section RoundTrip

variable {k : String} {init : List Char} {z : Char}

theorem ToLower_of_last (hkz : k.toList = init ++ [z]) :
    (ToLower k).toList = init.map Char.toLower ++ [z.toLower] := by
  rw [ToLower_toList, hkz, List.map_append, List.map_singleton]

theorem roundtrip_of_s (hk : IsCapitalisedWord k = true) (hE : k ≠ "Endpoints")
    (hkz : k.toList = init ++ [z]) (hz : z.toLower = 's') :
    UnsafeResourceToKind (UnsafeKindToResource k) = k := by
  have hl := ToLower_of_last hkz
  rw [hz] at hl
  rw [UnsafeKindToResource_of_lower hE hl, if_pos rfl]
  have ht : Title (String.ofList (init.map Char.toLower ++ ['s', 'e', 's'])) =
      String.ofList (init ++ [z, 'e', 's']) := by
    have := Title_ToLower hk (m := ['e', 's']) (List.all_eq_true.mp rfl)
    rw [hl, hkz] at this
    simpa using this
  have hzi : z ≠ 'i' := by
    rintro rfl
    exact absurd hz (by decide)
  rw [UnsafeResourceToKind_es hzi (lookup_eq_none_of_es (.inl rfl)) ht, ← hkz, String.ofList_toList]

theorem roundtrip_of_y (hk : IsCapitalisedWord k = true) (hE : k ≠ "Endpoints")
    (hkz : k.toList = init ++ ['y']) (hinit : init ≠ []) :
    UnsafeResourceToKind (UnsafeKindToResource k) = k := by
  obtain ⟨c, w, hkw, hc, hw⟩ := IsCapitalisedWord_iff.mp hk
  obtain ⟨c', L, rfl⟩ := List.exists_cons_of_ne_nil hinit
  -- the first letter and the rest of the word before the `y`
  have hcw : c' = c ∧ L ++ ['y'] = w := by simpa [hkw] using hkz.symm
  obtain ⟨rfl, rfl⟩ := hcw
  have hL : ∀ d ∈ L, d.isLower = true := fun d hd => hw d (List.mem_append_left _ hd)
  have hl := ToLower_of_last hkz
  rw [show Char.toLower 'y' = 'y' by decide] at hl
  rw [UnsafeKindToResource_of_lower hE hl, if_neg (by decide), if_pos rfl]
  have ht := Title_lowered hc hL (m := ['i', 'e', 's']) (List.all_eq_true.mp rfl)
  rw [← List.cons_append] at ht
  rw [UnsafeResourceToKind_ies (lookup_eq_none_of_es (.inr rfl)) ht, ← hkz, String.ofList_toList]

theorem roundtrip_of_other (hk : IsCapitalisedWord k = true) (hE : k ≠ "Endpoints")
    (hkz : k.toList = init ++ [z]) (hs : z.toLower ≠ 's') (hy : z.toLower ≠ 'y') (he : z ≠ 'e')
    (hu : unusualResourceToKind.lookup (String.ofList ((ToLower k).toList ++ ['s'])) = none) :
    UnsafeResourceToKind (UnsafeKindToResource k) = k := by
  have hl := ToLower_of_last hkz
  rw [hl] at hu
  simp only [List.append_assoc, List.cons_append, List.nil_append] at hu
  rw [UnsafeKindToResource_of_lower hE hl, if_neg hs, if_neg hy]
  have ht : Title (String.ofList (init.map Char.toLower ++ [z.toLower, 's'])) =
      String.ofList (init ++ [z, 's']) := by
    have := Title_ToLower hk (m := ['s']) (List.all_eq_true.mp rfl)
    rw [hl, hkz] at this
    simpa using this
  rw [UnsafeResourceToKind_s he hu ht, ← hkz, String.ofList_toList]

theorem roundtrip_of_e_ne (hk : IsCapitalisedWord k = true) (hE : k ≠ "Endpoints")
    (hkz : k.toList = init ++ ['e'])
    (hu : unusualResourceToKind.lookup (String.ofList ((ToLower k).toList ++ ['s'])) = none) :
    UnsafeResourceToKind (UnsafeKindToResource k) ≠ k := by
  have hl := ToLower_of_last hkz
  rw [show Char.toLower 'e' = 'e' by decide] at hl
  rw [hl] at hu
  simp only [List.append_assoc, List.cons_append, List.nil_append] at hu
  rw [UnsafeKindToResource_of_lower hE hl, if_neg (by decide), if_neg (by decide)]
  have ht : Title (String.ofList (init.map Char.toLower ++ ['e', 's'])) = String.ofList (init ++ ['e', 's']) := by
    have := Title_ToLower hk (m := ['s']) (List.all_eq_true.mp rfl)
    rw [hl, hkz] at this
    simpa using this
  -- the capitalised first letter is not the `e`, so a letter stands before it
  have hinit : init ≠ [] := by
    rintro rfl
    obtain ⟨c, w, hkw, hc, -⟩ := IsCapitalisedWord_iff.mp hk
    rw [hkw] at hkz
    simp only [List.nil_append, List.cons.injEq] at hkz
    rw [hkz.1] at hc
    exact absurd hc (by decide)
  obtain ⟨P, a, rfl⟩ := (List.eq_nil_or_concat' init).resolve_left hinit
  have hlen : ∀ t : List Char, t.length + 1 = k.toList.length → String.ofList t ≠ k := by
    intro t ht e
    rw [← e, String.toList_ofList] at ht
    omega
  by_cases ha : a = 'i'
  · subst ha
    rw [List.append_assoc] at ht
    rw [UnsafeResourceToKind_ies hu (by simpa using ht)]
    exact hlen _ (by simp [hkz])
  · rw [List.append_assoc] at ht
    rw [UnsafeResourceToKind_es ha hu (by simpa using ht)]
    exact hlen _ (by simp [hkz])

theorem isUpper_of_one_letter (hk : IsCapitalisedWord k = true) (hkz : k.toList = [] ++ [z]) :
    z.isUpper = true := by
  obtain ⟨c, w, hkw, hc, -⟩ := IsCapitalisedWord_iff.mp hk
  rw [hkw] at hkz
  simp only [List.nil_append, List.cons.injEq] at hkz
  rwa [← hkz.1]

theorem isLower_last (hk : IsCapitalisedWord k = true) (hkz : k.toList = init ++ [z]) (hinit : init ≠ []) :
    z.isLower = true := by
  obtain ⟨c, w, hkw, -, hw⟩ := IsCapitalisedWord_iff.mp hk
  obtain ⟨c', L, rfl⟩ := List.exists_cons_of_ne_nil hinit
  rw [hkw, List.cons_append, List.cons.injEq] at hkz
  exact hw z (hkz.2 ▸ List.mem_append_right L (List.mem_singleton_self z))

end RoundTrip

/-- The pluraliser and the singulariser invert each other on a capitalised word
    exactly when it is not `Endpoint` or `Y` and, if it ends in `e`, the table has
    its plural. -/
theorem UnsafeResourceToKind_UnsafeKindToResource_iff {k : String} (hk : IsCapitalisedWord k = true) :
    UnsafeResourceToKind (UnsafeKindToResource k) = k ↔
      k ≠ "Endpoint" ∧ k ≠ "Y" ∧ (k.toList.getLast? = some 'e' → k = "Node" ∨ k = "Service") := by
  -- the words the table or the one-letter plural `ies` decide
  by_cases hEs : k = "Endpoints"
  · subst hEs
    decide
  by_cases hEt : k = "Endpoint"
  · subst hEt
    decide
  by_cases hN : k = "Node"
  · subst hN
    decide
  by_cases hS : k = "Service"
  · subst hS
    decide
  by_cases hY : k = "Y"
  · subst hY
    decide
  have hu := lookup_plural_eq_none hk hEt hN hS
  have hne : k.toList ≠ [] := by
    intro h
    simp [IsCapitalisedWord, h] at hk
  obtain ⟨init, z, hkz⟩ : ∃ init z, k.toList = init ++ [z] :=
    ⟨_, _, (List.dropLast_append_getLast hne).symm⟩
  have hlast : k.toList.getLast? = some z := by rw [hkz, List.getLast?_concat]
  have hrhs : (k ≠ "Endpoint" ∧ k ≠ "Y" ∧ (k.toList.getLast? = some 'e' → k = "Node" ∨ k = "Service")) ↔
      z ≠ 'e' := by
    simp [hEt, hY, hN, hS, hlast]
  rw [hrhs]
  rcases eq_or_ne init [] with rfl | hinit
  -- one letter, in upper case: never `e`, and `Y` is decided
  · have hz := isUpper_of_one_letter hk hkz
    have hze : z ≠ 'e' := by
      rintro rfl
      exact absurd hz (by decide)
    refine iff_of_true ?_ hze
    by_cases hs : z.toLower = 's'
    · exact roundtrip_of_s hk hEs hkz hs
    · have hy : z.toLower ≠ 'y' := by
        intro hy
        apply hY
        apply String.ext
        rw [hkz, ← toUpper_toLower_of_isUpper hz, hy]
        decide
      exact roundtrip_of_other hk hEs hkz hs hy hze hu
  -- a later letter, in lower case
  · have hzz := toLower_eq_self_of_isLower (isLower_last hk hkz hinit)
    by_cases he : z = 'e'
    · subst he
      exact iff_of_false (roundtrip_of_e_ne hk hEs hkz hu) (fun h => h rfl)
    · refine iff_of_true ?_ he
      by_cases hs : z = 's'
      · exact roundtrip_of_s hk hEs hkz (hzz.trans hs)
      by_cases hy : z = 'y'
      · subst hy
        exact roundtrip_of_y hk hEs hkz hinit
      · exact roundtrip_of_other hk hEs hkz (by rwa [hzz]) (by rwa [hzz]) he hu

theorem UnsafeResourceToKind_UnsafeKindToResource_iff_device :
    IsCapitalisedWord "Device" = true ∧
      (UnsafeResourceToKind (UnsafeKindToResource "Device") = "Device" ↔
        "Device" ≠ "Endpoint" ∧ "Device" ≠ "Y" ∧
          ("Device".toList.getLast? = some 'e' → "Device" = "Node" ∨ "Device" = "Service")) :=
  ⟨by decide, UnsafeResourceToKind_UnsafeKindToResource_iff (by decide)⟩

theorem UnsafeResourceToKind_drops_final_e :
    UnsafeResourceToKind (UnsafeKindToResource "Device") = "Devic" ∧
    UnsafeResourceToKind (UnsafeKindToResource "Namespace") = "Namespac" ∧
    storeListKind "/devices.kubeedge.io/v1alpha2/devices/default/null" = some "DevicList" := by
  decide

end KubeEdge.MetaServer
