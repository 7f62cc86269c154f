import Mathlib.Data.List.Basic

set_option autoImplicit false

/-!
# Go's `strings` on one-character separators

`strings.Split` and `strings.Join` over the characters of a string, as
`List.splitOn` and `List.intercalate`: splitting what was joined gives the
pieces back when no piece holds the separator.
-/

namespace KubeEdge.Go

/-- `strings.Split(s, sep)`: `Split "" sep = [""]`, and a separator at either end
    gives an empty first or last piece. -/
def Split (s : String) (sep : Char) : List String :=
  (s.toList.splitOn sep).map String.ofList

def Join (elems : List String) (sep : Char) : String :=
  String.ofList ([sep].intercalate (elems.map String.toList))

def HasPrefix (s pre : String) : Bool :=
  pre.toList.isPrefixOf s.toList

/-- `strings.Contains(s, substr)`: `substr` starts at some position of `s`. -/
def Contains (s substr : String) : Bool :=
  go s.toList
where
  go : List Char → Bool
    | [] => substr.toList.isPrefixOf []
    | c :: cs => substr.toList.isPrefixOf (c :: cs) || go cs

/-- The element at `index`, or `""` past the end (`len(sli) <= index`). -/
def elementAt (elems : List String) (index : Nat) : String :=
  elems.getD index ""

def HasSuffix (s suffix : String) : Bool :=
  suffix.toList.isSuffixOf s.toList

def TrimSuffix (s suffix : String) : String :=
  if HasSuffix s suffix then String.ofList (s.toList.take (s.toList.length - suffix.toList.length)) else s

/-- `unicode.IsSpace` beyond ASCII: the Latin-1 spaces and Unicode's other
    `White_Space` code points. -/
def isNonASCIISpace (r : Char) : Bool :=
  r.val = 0x85 || r.val = 0xA0 || r.val = 0x1680 || (0x2000 ≤ r.val && r.val ≤ 0x200A) ||
    r.val = 0x2028 || r.val = 0x2029 || r.val = 0x202F || r.val = 0x205F || r.val = 0x3000

def IsSpace (r : Char) : Bool :=
  r.val = 0x09 || r.val = 0x0A || r.val = 0x0B || r.val = 0x0C || r.val = 0x0D || r.val = 0x20 || isNonASCIISpace r

def TrimSpace (s : String) : String :=
  String.ofList ((s.toList.dropWhile IsSpace).reverse.dropWhile IsSpace).reverse

/-- `isSeparator` of `strings.Title`: ASCII letters, digits and `_` are not
    separators and every other ASCII character is; beyond ASCII, letters and
    digits are not and spaces are. -/
def isSeparator (r : Char) : Bool :=
  if r.val ≤ 0x7F then !(r.isAlphanum || r == '_') else isNonASCIISpace r

/-- `strings.Title`: the first letter of every word in title case, through a
    `Map` whose closure remembers the previous rune. -/
def Title (s : String) : String :=
  String.ofList (go ' ' s.toList)
where
  go (prev : Char) : List Char → List Char
    | [] => []
    | r :: rs => (if isSeparator prev then r.toUpper else r) :: go r rs

def Bytes (s : String) : List UInt8 :=
  s.toList.flatMap String.utf8EncodeChar

/-- `strings.Index(s, substr)` on the bytes of `s`: where `substr` first
    starts, or `-1`. -/
def Index {α : Type} [DecidableEq α] (s substr : List α) : Int :=
  go s 0
where
  go : List α → Nat → Int
    | [], i => if substr.isPrefixOf [] then i else -1
    | c :: cs, i => if substr.isPrefixOf (c :: cs) then i else go cs (i + 1)

/-- `strings.Replace(s, old, new, 1)`: the first occurrence of `old` replaced by
    `new`, or `s` when there is none. -/
def ReplaceOnce (s old new : String) : String :=
  let i := Index s.toList old.toList
  if old = new ∨ i < 0 then s
  else String.ofList (s.toList.take i.toNat ++ new.toList ++ s.toList.drop (i.toNat + old.toList.length))

theorem Split_Join {elems : List String} {sep : Char} (hsep : ∀ e ∈ elems, sep ∉ e.toList)
    (hne : elems ≠ []) : Split (Join elems sep) sep = elems := by
  have hparts : ∀ l ∈ elems.map String.toList, sep ∉ l := by
    intro l hl
    obtain ⟨e, he, rfl⟩ := List.mem_map.mp hl
    exact hsep e he
  have hmap : elems.map String.toList ≠ [] := by simpa using hne
  rw [Split, Join, String.toList_ofList, List.splitOn_intercalate sep hparts hmap, List.map_map]
  simp

theorem Join_Split (s : String) (sep : Char) : Join (Split s sep) sep = s := by
  rw [Join, Split, List.map_map]
  simp [Function.comp_def, List.intercalate_splitOn]

theorem HasPrefix_Join_cons (e : String) (rest : List String) (sep : Char) :
    HasPrefix (Join (e :: rest) sep) e = true := by
  rw [HasPrefix, Join, String.toList_ofList, List.isPrefixOf_iff_prefix]
  cases rest with
  | nil => simp
  | cons e' rest => simp [List.intercalate_cons_cons]

theorem HasPrefix_append {s pre : String} (h : HasPrefix s pre = true) (rest : String) :
    HasPrefix (s ++ rest) pre = true := by
  rw [HasPrefix, List.isPrefixOf_iff_prefix] at h ⊢
  rw [String.toList_append]
  exact h.trans (List.prefix_append s.toList rest.toList)

theorem Split_ne_nil (s : String) (sep : Char) : Split s sep ≠ [] := by
  simp [Split, List.splitOn_ne_nil]

theorem toList_eq_intercalate_Split (s : String) (sep : Char) :
    s.toList = [sep].intercalate ((Split s sep).map String.toList) := by
  conv_lhs => rw [← Join_Split s sep]
  simp [Join]

theorem forall_mem_splitOnP {α : Type} (p : α → Bool) :
    ∀ (l : List α), ∀ e ∈ l.splitOnP p, ∀ x ∈ e, p x = false
  | [] => by simp [List.splitOnP_nil]
  | y :: ys => by
    intro e he x hx
    have ih := forall_mem_splitOnP p ys
    rw [List.splitOnP_cons_eq_if_modifyHead] at he
    split at he
    · -- `y` separates: a new empty piece starts
      rcases List.mem_cons.mp he with rfl | he
      · cases hx
      · exact ih e he x hx
    · rename_i hy
      obtain ⟨h, t, hht⟩ := List.exists_cons_of_ne_nil (List.splitOnP_ne_nil p ys)
      rw [hht, List.modifyHead_cons] at he
      rcases List.mem_cons.mp he with rfl | he
      · rcases List.mem_cons.mp hx with rfl | hx
        · simpa using hy
        · exact ih h (by rw [hht]; exact List.mem_cons_self) x hx
      · exact ih e (by rw [hht]; exact List.mem_cons_of_mem h he) x hx

theorem not_mem_of_mem_Split {s e : String} {sep : Char} (he : e ∈ Split s sep) : sep ∉ e.toList := by
  intro hsep
  obtain ⟨piece, hpiece, rfl⟩ := List.mem_map.mp he
  have h := forall_mem_splitOnP (· == sep) s.toList piece hpiece sep (by simpa using hsep)
  simp at h

theorem eq_of_Split_eq_singleton {k c : String} {sep : Char} (h : Split k sep = [c]) : c = k := by
  have := Join_Split k sep
  rw [h] at this
  simpa [Join] using this

theorem Split_of_not_mem {s : String} {sep : Char} (h : sep ∉ s.toList) : Split s sep = [s] := by
  have hp : ∀ c ∈ s.toList, (c == sep) = false := by
    intro c hc
    rw [beq_eq_false_iff_ne]
    rintro rfl
    exact h hc
  simp [Split, List.splitOn, List.splitOnP_eq_singleton hp]

theorem Split_append_sep (a b : String) (sep : Char) :
    Split (a ++ String.singleton sep ++ b) sep = Split a sep ++ Split b sep := by
  simp only [Split, String.toList_append, String.toList_singleton, List.append_assoc,
    List.singleton_append, List.splitOn]
  rw [List.splitOnP_append_cons (p := fun x => x == sep) _ _ (beq_self_eq_true sep), List.map_append]

theorem HasSuffix_iff (s suffix : String) : HasSuffix s suffix = true ↔ suffix.toList <:+ s.toList := by
  rw [HasSuffix, List.isSuffixOf_iff_suffix]

theorem TrimSuffix_append (l : List Char) (suffix : String) :
    TrimSuffix (String.ofList (l ++ suffix.toList)) suffix = String.ofList l := by
  have h : HasSuffix (String.ofList (l ++ suffix.toList)) suffix = true := by
    rw [HasSuffix_iff, String.toList_ofList]
    exact List.suffix_append l _
  rw [TrimSuffix, if_pos h, String.toList_ofList, List.length_append, Nat.add_sub_cancel,
    List.take_left]

theorem isUpper_def (c : Char) : c.isUpper = decide (c.val ≥ 'A'.val ∧ c.val ≤ 'Z'.val) := rfl

theorem isLower_def (c : Char) : c.isLower = (decide (c.val ≥ 'a'.val) && decide (c.val ≤ 'z'.val)) := rfl

theorem isAlpha_def (c : Char) : c.isAlpha = (c.isUpper || c.isLower) := rfl

theorem toLower_eq_self_of_isLower {c : Char} (h : c.isLower = true) : c.toLower = c := by
  unfold Char.toLower
  rw [dif_neg]
  simp only [isLower_def, Bool.and_eq_true, decide_eq_true_eq] at h
  simp only [not_and, UInt32.le_iff_toNat_le] at h ⊢
  intro _
  have : 'a'.val.toNat ≤ c.val.toNat := (UInt32.le_iff_toNat_le).mp h.1
  simp at this ⊢
  omega

theorem toUpper_toLower_of_isUpper {c : Char} (h : c.isUpper = true) : c.toLower.toUpper = c := by
  simp only [isUpper_def, decide_eq_true_eq, UInt32.le_iff_toNat_le] at h
  unfold Char.toLower
  rw [dif_pos (by simpa [UInt32.le_iff_toNat_le] using h)]
  unfold Char.toUpper
  rw [dif_pos]
  · apply Char.ext
    -- the two shifts cancel modulo 2^32
    simp only
    rw [UInt32.add_assoc]
    exact UInt32.add_zero _
  · simp [UInt32.le_iff_toNat_le, UInt32.toNat_add] at h ⊢
    omega

theorem isLower_toLower_of_isUpper {c : Char} (h : c.isUpper = true) : c.toLower.isLower = true := by
  simp only [isUpper_def, decide_eq_true_eq, UInt32.le_iff_toNat_le] at h
  unfold Char.toLower
  rw [dif_pos (by simpa [UInt32.le_iff_toNat_le] using h)]
  simp [isLower_def, UInt32.le_iff_toNat_le, UInt32.toNat_add] at h ⊢
  omega

theorem isSeparator_of_isLower {c : Char} (h : c.isLower = true) : isSeparator c = false := by
  have hle : c.val ≤ 0x7F := by
    simp only [isLower_def, Bool.and_eq_true, decide_eq_true_eq, UInt32.le_iff_toNat_le] at h
    rw [UInt32.le_iff_toNat_le]
    simp at h ⊢
    omega
  simp [isSeparator, hle, Char.isAlphanum, isAlpha_def, h]

theorem Title.go_of_isLower {prev : Char} (hp : isSeparator prev = false) (l : List Char)
    (hl : ∀ c ∈ l, c.isLower = true) : Title.go prev l = l := by
  induction l generalizing prev with
  | nil => rfl
  | cons r rs ih =>
    have hr : r.isLower = true := hl r List.mem_cons_self
    rw [Title.go, if_neg (by simp [hp]), ih (isSeparator_of_isLower hr) fun c hc => hl c (List.mem_cons_of_mem r hc)]

theorem Title_word {c : Char} {l : List Char} (hc : c.isLower = true) (hl : ∀ d ∈ l, d.isLower = true) :
    Title (String.ofList (c :: l)) = String.ofList (c.toUpper :: l) := by
  have hsep : isSeparator ' ' = true := by decide
  rw [Title, String.toList_ofList, Title.go, if_pos hsep,
    Title.go_of_isLower (isSeparator_of_isLower hc) l hl]

section
variable {α : Type} [DecidableEq α]

theorem Index.go_spec (substr : List α) :
    ∀ (l : List α) (i k : Nat), substr <+: l.drop k →
      ∃ j ≤ k, Index.go substr l i = ((i + j : Nat) : Int) ∧ substr <+: l.drop j ∧
        ∀ m < j, ¬substr <+: l.drop m := by
  intro l
  induction l with
  | nil =>
    intro i k hk
    have hnil : substr = [] := List.prefix_nil.mp (by simpa using hk)
    subst hnil
    exact ⟨0, Nat.zero_le k, by simp [Index.go], List.nil_prefix, fun m hm => absurd hm (Nat.not_lt_zero m)⟩
  | cons c cs ih =>
    intro i k hk
    by_cases hhere : substr <+: c :: cs
    · -- the search stops at the first position
      refine ⟨0, Nat.zero_le k, ?_, hhere, fun m hm => absurd hm (Nat.not_lt_zero m)⟩
      rw [Index.go, if_pos ( List.isPrefixOf_iff_prefix.mpr hhere)]
      rfl
    · -- not here, so the occurrence is further on, in `cs`
      obtain _ | k := k
      · exact absurd hk hhere
      obtain ⟨j, hj, hgo, hocc, hfirst⟩ := ih (i + 1) k (by simpa using hk)
      refine ⟨j + 1, by omega, ?_, by simpa using hocc, fun m hm => ?_⟩
      · rw [Index.go, if_neg (by rw [ List.isPrefixOf_iff_prefix]; exact hhere), hgo,
          show i + 1 + j = i + (j + 1) by omega]
      · obtain _ | m := m
        · exact hhere
        · simpa using hfirst m (by omega)

theorem Index_spec {s substr : List α} {k : Nat} (hk : substr <+: s.drop k) :
    ∃ j ≤ k, Index s substr = (j : Int) ∧ substr <+: s.drop j ∧ ∀ m < j, ¬substr <+: s.drop m := by
  obtain ⟨j, hj, hgo, hocc, hfirst⟩ := Index.go_spec substr s 0 k hk
  exact ⟨j, hj, by rw [Index, hgo, Nat.zero_add], hocc, hfirst⟩

omit [DecidableEq α] in
theorem add_length_le_of_first {s substr : List α} {j : Nat} (hocc : substr <+: s.drop j)
    (hfirst : ∀ m < j, ¬substr <+: s.drop m) : j + substr.length ≤ s.length := by
  rcases substr with _ | ⟨c, cs⟩
  · -- the empty string occurs at once
    have hj : j = 0 := by
      by_contra hj
      exact hfirst 0 (by omega) List.nil_prefix
    simp [hj]
  · have hlen := hocc.length_le
    have hj : j < s.length := by
      by_contra hj
      rw [List.drop_eq_nil_of_le (by omega)] at hlen
      simp at hlen
    rw [List.length_drop] at hlen
    omega

theorem Index.go_of_not_occurs (substr : List α) :
    ∀ (l : List α) (i : Nat), (∀ m, ¬substr <+: l.drop m) → Index.go substr l i = -1
  | [], i, h => by
    have h0 : substr.isPrefixOf [] = false := by
      rw [Bool.eq_false_iff, ne_eq, List.isPrefixOf_iff_prefix]
      exact h 0
    rw [Index.go, h0, if_neg Bool.false_ne_true]
  | c :: cs, i, h => by
    have h0 : substr.isPrefixOf (c :: cs) = false := by
      rw [Bool.eq_false_iff, ne_eq, List.isPrefixOf_iff_prefix]
      exact h 0
    rw [Index.go, h0, if_neg Bool.false_ne_true]
    exact Index.go_of_not_occurs substr cs (i + 1) fun m => by simpa using h (m + 1)

omit [DecidableEq α] in
theorem not_prefix_drop_of_not_mem {a rest substr : List α} {c : α} (ha : c ∉ a) (hs : substr.head? = some c) :
    ∀ m < a.length, ¬substr <+: (a ++ rest).drop m := by
  intro m hm hpre
  rw [List.drop_append_of_le_length (Nat.le_of_lt hm), List.drop_eq_getElem_cons hm] at hpre
  obtain ⟨t, ht⟩ := hpre
  cases substr with
  | nil => simp at hs
  | cons d ds =>
    obtain rfl : d = c := by simpa using hs
    simp only [List.cons_append] at ht
    exact ha ((List.cons.inj ht).1 ▸ List.getElem_mem hm)

theorem Index_of_not_occurs {s substr : List α} (h : ∀ m, ¬substr <+: s.drop m) : Index s substr = -1 :=
  Index.go_of_not_occurs substr s 0 h

end

theorem ReplaceOnce_of_not_occurs {s old : String} (new : String) (h : ∀ m, ¬old.toList <+: s.toList.drop m) :
    ReplaceOnce s old new = s := by
  have hi : Index s.toList old.toList < 0 := by
    rw [Index_of_not_occurs h]
    decide
  simp [ReplaceOnce, hi]

theorem ReplaceOnce_of_first {s old new : String} {j : Nat} (hne : old ≠ new)
    (hocc : old.toList <+: s.toList.drop j) (hfirst : ∀ m < j, ¬old.toList <+: s.toList.drop m) :
    ReplaceOnce s old new =
      String.ofList (s.toList.take j ++ new.toList ++ s.toList.drop (j + old.toList.length)) := by
  obtain ⟨j', hj', hidx, hocc', hfirst'⟩ := Index_spec hocc
  -- the first occurrence `Index` finds is the one at `j`
  have hjj : j' = j := by
    rcases Nat.lt_trichotomy j' j with hlt | heq | hgt
    · exact absurd hocc' (hfirst j' hlt)
    · exact heq
    · exact absurd hocc (hfirst' j hgt)
  subst hjj
  simp only [ReplaceOnce, hidx, hne, false_or, Int.toNat_natCast]
  rw [if_neg (by omega)]

end KubeEdge.Go
