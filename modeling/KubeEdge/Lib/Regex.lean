import Mathlib.Data.List.Infix

set_option autoImplicit false

/-!
# Patterns of literals, optional characters and repeated classes

A regular expression made of a sequence of literal characters, optional
characters `c?` and classes of ranges repeated `[…]+` is a list of items.
`compile` reads Go's (RE2) syntax for such a pattern and is `none` on every
other pattern. `matchPrefix` decides whether some prefix of a text matches and
`search` whether some part of it does, which is what `regexp.MatchString`
answers; `Matches` is the language of the items, and the deciders are proved to
agree with it.
-/

namespace KubeEdge.Lib.Regex

inductive Item where
  | lit (c : Char)
  | opt (c : Char)
  | plus (cls : List (Char × Char))
  deriving DecidableEq, Repr

def inClass (cls : List (Char × Char)) (c : Char) : Bool :=
  cls.any fun r => r.1 ≤ c && c ≤ r.2

def litThen (c : Char) (k : List Char → Bool) : List Char → Bool
  | [] => false
  | x :: xs => x == c && k xs

/-- One or more characters of the class, then `k` on the rest, for every length of the run. -/
def plusThen (cls : List (Char × Char)) (k : List Char → Bool) : List Char → Bool
  | [] => false
  | x :: xs => inClass cls x && (k xs || plusThen cls k xs)

def matchPrefix : List Item → List Char → Bool
  | [], _ => true
  | .lit c :: rest, s => litThen c (matchPrefix rest) s
  | .opt c :: rest, s => litThen c (matchPrefix rest) s || matchPrefix rest s
  | .plus cls :: rest, s => plusThen cls (matchPrefix rest) s

def search (items : List Item) (s : List Char) : Bool :=
  s.tails.any (matchPrefix items)

inductive Matches : List Item → List Char → Prop
  | nil : Matches [] []
  | lit {c : Char} {rest : List Item} {w : List Char} : Matches rest w → Matches (.lit c :: rest) (c :: w)
  | optSome {c : Char} {rest : List Item} {w : List Char} : Matches rest w → Matches (.opt c :: rest) (c :: w)
  | optNone {c : Char} {rest : List Item} {w : List Char} : Matches rest w → Matches (.opt c :: rest) w
  | plus {cls : List (Char × Char)} {rest : List Item} {u w : List Char} : u ≠ [] →
      (∀ x ∈ u, inClass cls x = true) → Matches rest w → Matches (.plus cls :: rest) (u ++ w)

theorem litThen_iff (c : Char) (k : List Char → Bool) (s : List Char) :
    litThen c k s = true ↔ ∃ t, s = c :: t ∧ k t = true := by
  cases s with
  | nil => simp [litThen]
  | cons x xs => simp [litThen]

theorem plusThen_iff (cls : List (Char × Char)) (k : List Char → Bool) (s : List Char) :
    plusThen cls k s = true ↔
      ∃ u t, u ≠ [] ∧ (∀ x ∈ u, inClass cls x = true) ∧ s = u ++ t ∧ k t = true := by
  induction s with
  | nil => simp [plusThen]
  | cons x xs ih =>
    simp only [plusThen, Bool.and_eq_true, Bool.or_eq_true, ih]
    constructor
    · -- the run ends after `x`, or goes on into `xs`
      rintro ⟨hx, hk | ⟨u, t, hu, hcls, rfl, hk⟩⟩
      · exact ⟨[x], xs, List.cons_ne_nil x [], by simpa using hx, rfl, hk⟩
      · refine ⟨x :: u, t, List.cons_ne_nil x u, ?_, rfl, hk⟩
        simpa [hx] using hcls
    · rintro ⟨_ | ⟨y, u⟩, t, hu, hcls, hs, hk⟩
      · exact absurd rfl hu
      · obtain ⟨rfl, rfl⟩ := List.cons_eq_cons.mp hs
        refine ⟨hcls _ List.mem_cons_self, ?_⟩
        rcases u with _ | ⟨z, u⟩
        · exact .inl hk
        · exact .inr ⟨z :: u, t, List.cons_ne_nil z u, fun x hx => hcls x (List.mem_cons_of_mem _ hx), rfl, hk⟩

theorem matchPrefix_iff (items : List Item) (s : List Char) :
    matchPrefix items s = true ↔ ∃ p t, s = p ++ t ∧ Matches items p := by
  induction items generalizing s with
  | nil =>
    constructor
    · exact fun _ => ⟨[], s, rfl, .nil⟩
    · exact fun _ => rfl
  | cons item rest ih =>
    cases item with
    | lit c =>
      simp only [matchPrefix, litThen_iff, ih]
      constructor
      · rintro ⟨_, rfl, p, t, rfl, hp⟩
        exact ⟨c :: p, t, rfl, .lit hp⟩
      · rintro ⟨_, t, rfl, ⟨⟩⟩
        rename_i w hw
        exact ⟨w ++ t, rfl, w, t, rfl, hw⟩
    | opt c =>
      simp only [matchPrefix, Bool.or_eq_true, litThen_iff, ih]
      constructor
      · rintro (⟨_, rfl, p, t, rfl, hp⟩ | ⟨p, t, rfl, hp⟩)
        · exact ⟨c :: p, t, rfl, .optSome hp⟩
        · exact ⟨p, t, rfl, .optNone hp⟩
      · rintro ⟨_, t, rfl, hm⟩
        cases hm with
        | optSome hw => exact .inl ⟨_, rfl, _, t, rfl, hw⟩
        | optNone hw => exact .inr ⟨_, t, rfl, hw⟩
    | plus cls =>
      simp only [matchPrefix, plusThen_iff, ih]
      constructor
      · rintro ⟨u, _, hu, hcls, rfl, p, t, rfl, hp⟩
        exact ⟨u ++ p, t, (List.append_assoc u p t).symm, .plus hu hcls hp⟩
      · rintro ⟨_, t, rfl, hm⟩
        cases hm with
        | plus hu hcls hw => exact ⟨_, _ ++ t, hu, hcls, List.append_assoc _ _ t, _, t, rfl, hw⟩

theorem search_iff (items : List Item) (s : List Char) :
    search items s = true ↔ ∃ a p b, s = a ++ p ++ b ∧ Matches items p := by
  simp only [search, List.any_eq_true, List.mem_tails, matchPrefix_iff]
  constructor
  · rintro ⟨_, ⟨a, rfl⟩, p, b, rfl, hp⟩
    exact ⟨a, p, b, (List.append_assoc a p b).symm, hp⟩
  · rintro ⟨a, p, b, rfl, hp⟩
    exact ⟨p ++ b, ⟨a, (List.append_assoc a p b).symm⟩, p, b, rfl, hp⟩

theorem matches_lits_append_iff (l : List Char) (rest : List Item) (w : List Char) :
    Matches (l.map Item.lit ++ rest) w ↔ ∃ q, w = l ++ q ∧ Matches rest q := by
  induction l generalizing w with
  | nil => simp
  | cons c l ih =>
    constructor
    · rintro ⟨⟩
      rename_i w' hw'
      obtain ⟨q, rfl, hq⟩ := (ih w').mp hw'
      exact ⟨q, rfl, hq⟩
    · rintro ⟨q, rfl, hq⟩
      exact .lit ((ih (l ++ q)).mpr ⟨q, rfl, hq⟩)

theorem matches_opt_iff (c : Char) (w : List Char) : Matches [.opt c] w ↔ w = [c] ∨ w = [] := by
  constructor
  · intro h
    cases h with
    | optSome hw =>
      cases hw
      exact .inl rfl
    | optNone hw =>
      cases hw
      exact .inr rfl
  · rintro (rfl | rfl)
    · exact .optSome .nil
    · exact .optNone .nil

theorem search_lits_opt_iff (l : List Char) (c : Char) (s : List Char) :
    search (l.map Item.lit ++ [.opt c]) s = true ↔ l <:+: s := by
  rw [search_iff]
  constructor
  · rintro ⟨a, p, b, rfl, hp⟩
    obtain ⟨q, rfl, -⟩ := (matches_lits_append_iff l [.opt c] p).mp hp
    exact ⟨a, q ++ b, by simp⟩
  · rintro ⟨a, b, rfl⟩
    exact ⟨a, l, b, rfl, (matches_lits_append_iff l _ l).mpr ⟨[], by simp, (matches_opt_iff c []).mpr (.inr rfl)⟩⟩

/-- The characters with a meaning in Go's syntax outside a class. Go reads some
    of them (`]`, `{`, `}` that opens no repetition) as literals; here a pattern
    holding them is one `compile` does not read. -/
def isMeta (c : Char) : Bool :=
  c ∈ ['\\', '.', '+', '*', '?', '(', ')', '|', '[', ']', '{', '}', '^', '$']

def isClassMeta (c : Char) : Bool :=
  c == '\\' || c == '[' || c == ']'

/-- Reads a pattern: outside a class with `none`, inside one with its ranges so
    far, last first. -/
def compileAux : Option (List (Char × Char)) → List Char → Option (List Item)
  | none, [] => some []
  | none, '[' :: s => compileAux (some []) s
  | none, c :: '?' :: s => if isMeta c then none else (Item.opt c :: ·) <$> compileAux none s
  | none, c :: s => if isMeta c then none else (Item.lit c :: ·) <$> compileAux none s
  | some [], '^' :: _ => none
  | some cls, ']' :: '+' :: s => if cls = [] then none else (Item.plus cls.reverse :: ·) <$> compileAux none s
  -- a `-` before the closing `]` is a literal
  | some cls, a :: '-' :: ']' :: '+' :: s =>
    if isClassMeta a then none else (Item.plus (('-', '-') :: (a, a) :: cls).reverse :: ·) <$> compileAux none s
  | some _, _ :: '-' :: ']' :: _ => none
  | some cls, a :: '-' :: b :: s =>
    if isClassMeta a || isClassMeta b || b < a then none else compileAux (some ((a, b) :: cls)) s
  | some cls, a :: s => if isClassMeta a then none else compileAux (some ((a, a) :: cls)) s
  | some _, [] => none

def compile (p : List Char) : Option (List Item) :=
  compileAux none p

theorem compileAux_lit {c : Char} {s : List Char} (hc : isMeta c = false) (hs : s.head? ≠ some '?') :
    compileAux none (c :: s) = (Item.lit c :: ·) <$> compileAux none s := by
  have hb : c ≠ '[' := by
    rintro rfl
    exact absurd hc (by decide)
  rcases s with _ | ⟨d, s⟩
  · simp [compileAux, hc]
  · have hd : d ≠ '?' := fun e => hs (by rw [e]; rfl)
    rw [compileAux.eq_def]
    simp [hd, hc]

theorem compileAux_lits (l rest : List Char) (hl : ∀ c ∈ l, isMeta c = false) (hr : rest.head? ≠ some '?') :
    compileAux none (l ++ rest) = (l.map Item.lit ++ ·) <$> compileAux none rest := by
  induction l with
  | nil => simp
  | cons c l ih =>
    have hhead : (l ++ rest).head? ≠ some '?' := by
      rcases l with _ | ⟨d, l⟩
      · exact hr
      · intro e
        have hd : d = '?' := by simpa using e
        exact absurd (hl d (by simp)) (by rw [hd]; decide)
    rw [List.cons_append, compileAux_lit (hl c List.mem_cons_self) hhead,
      ih fun d hd => hl d (List.mem_cons_of_mem c hd)]
    cases compileAux none rest <;> rfl

end KubeEdge.Lib.Regex
