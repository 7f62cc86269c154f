import Mathlib.Data.List.Basic

set_option autoImplicit false

/-!
# Loops in a monad

A Go loop whose body may stop the goroutine is a `List.foldlM` in `Except`, and
one whose body may leave what a model covers a `List.foldlM` in `Option`. The
run rule, for any lawful monad: an invariant over the items still to come that
every step keeps, returning, carries through to the end, and the loop returns.
-/

namespace KubeEdge.Lib

@[simp] theorem except_pure {ε α : Type} (a : α) : (pure a : Except ε α) = .ok a := rfl

@[simp] theorem except_error_bind {ε α β : Type} (e : ε) (f : α → Except ε β) :
    (Except.error e >>= f) = .error e := rfl

@[simp] theorem except_ok_bind {ε α β : Type} (a : α) (f : α → Except ε β) : (Except.ok a >>= f) = f a := rfl

@[simp] theorem except_map_error {ε α β : Type} (e : ε) (f : α → β) :
    (f <$> (Except.error e : Except ε α)) = .error e := rfl

@[simp] theorem except_map_ok {ε α β : Type} (a : α) (f : α → β) :
    (f <$> (Except.ok a : Except ε α)) = .ok (f a) := rfl

section
variable {m : Type → Type} [Monad m] [LawfulMonad m] {α β : Type} {f : β → α → m β}

/-- The run rule: if every step from a state of `I` for the items left returns
    a state of `I` for the rest, the loop returns a state of `I` for no item
    left. -/
theorem foldlM_pure_of_step (I : List α → β → Prop)
    (step : ∀ a l b, I (a :: l) b → ∃ b', f b a = pure b' ∧ I l b') :
    ∀ (l : List α) (b : β), I l b → ∃ r, l.foldlM f b = pure r ∧ I [] r
  | [], b, hb => ⟨b, rfl, hb⟩
  | a :: l, b, hb => by
    obtain ⟨b', hstep, hb'⟩ := step a l b hb
    rw [List.foldlM_cons, hstep, pure_bind]
    exact foldlM_pure_of_step I step l b' hb'

end

@[simp] theorem option_some_bind {α β : Type} (a : α) (f : α → Option β) : (some a >>= f) = f a := rfl

theorem bind_pure_eq_some {α β : Type} (o : Option α) (x y : β) :
    (o >>= fun _ => pure x) = some y ↔ o.isSome ∧ x = y := by
  cases o <;> simp

section
variable {α β : Type} {f : β → α → Option β}

theorem foldlM_some_inv_mem (P : β → Prop) (Q : α → Prop) (step : ∀ b a b', Q a → P b → f b a = some b' → P b') :
    ∀ (l : List α) (b r : β), (∀ a ∈ l, Q a) → P b → l.foldlM f b = some r → P r
  | [], b, r, _, hb, h => by
    cases h
    exact hb
  | a :: l, b, r, hl, hb, h => by
    rw [List.foldlM_cons] at h
    obtain ⟨b', hstep, hrest⟩ := Option.bind_eq_some_iff.mp h
    exact foldlM_some_inv_mem P Q step l b' r (fun x hx => hl x (List.mem_cons_of_mem a hx))
      (step b a b' (hl a List.mem_cons_self) hb hstep) hrest

theorem foldlM_some_inv (P : β → Prop) (step : ∀ b a b', P b → f b a = some b' → P b') (l : List α) (b r : β)
    (hb : P b) (h : l.foldlM f b = some r) : P r :=
  foldlM_some_inv_mem P (fun _ => True) (fun b a b' _ => step b a b') l b r (fun _ _ => trivial) hb h

/-- The run rule of a loop in `Option` whose items all satisfy `Q`: a property
    `P` of the state and a reflexive, transitive relation `R` that every such
    step keeps and makes hold from the start to the result. -/
theorem foldlM_some_rel (P : β → Prop) (R : β → β → Prop) (Q : α → Prop) (refl : ∀ b, R b b)
    (trans : ∀ b₁ b₂ b₃, R b₁ b₂ → R b₂ b₃ → R b₁ b₃)
    (step : ∀ b a b', Q a → P b → f b a = some b' → P b' ∧ R b b') :
    ∀ (l : List α) (b r : β), (∀ a ∈ l, Q a) → P b → l.foldlM f b = some r → P r ∧ R b r
  | [], b, r, _, hb, h => by
    cases h
    exact ⟨hb, refl b⟩
  | a :: l, b, r, hl, hb, h => by
    rw [List.foldlM_cons] at h
    obtain ⟨b', hstep, hrest⟩ := Option.bind_eq_some_iff.mp h
    obtain ⟨hb', hR⟩ := step b a b' (hl a List.mem_cons_self) hb hstep
    obtain ⟨hr, hR'⟩ :=
      foldlM_some_rel P R Q refl trans step l b' r (fun x hx => hl x (List.mem_cons_of_mem a hx)) hb' hrest
    exact ⟨hr, trans b b' r hR hR'⟩

end

section
variable {α β ε : Type} {f : β → α → Except ε β}

theorem foldlM_cons_error {a : α} {b : β} {e : ε} (h : f b a = .error e) (l : List α) :
    (a :: l).foldlM f b = .error e := by
  rw [List.foldlM_cons, h, except_error_bind]

end

end KubeEdge.Lib
