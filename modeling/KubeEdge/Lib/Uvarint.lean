import Mathlib.Data.Nat.Bitwise

set_option autoImplicit false

/-!
# Unsigned varints

The LEB128 form of a natural number: seven bits a byte, lowest first, the high
bit set on every byte but the last. A number below `2 ^ (7 * (k + 1))` takes at
most `k + 1` bytes, so one below `2 ^ 64` at most ten and one below `2 ^ 7`
exactly one.
-/

namespace Uvarint

def encode (x : Nat) : List UInt8 :=
  if x < 0x80 then [x.toUInt8] else (x % 0x80 + 0x80).toUInt8 :: encode (x / 0x80)
termination_by x
decreasing_by omega

theorem or_continuation_bit {n : Nat} (h : n < 256) : n ||| 128 = n % 128 + 128 := by
  have hmod : (n ||| 128) % 2 ^ 7 = n % 128 := by
    rw [Nat.or_mod_two_pow]
    simp
  have hdiv : (n ||| 128) / 2 ^ 7 = 1 := by
    rw [Nat.or_div_two_pow]
    rcases (show n / 2 ^ 7 = 0 ∨ n / 2 ^ 7 = 1 by omega) with h0 | h1
    · rw [h0]; rfl
    · rw [h1]; rfl
  have hsplit := Nat.div_add_mod (n ||| 128) (2 ^ 7)
  rw [hdiv, hmod] at hsplit
  omega

theorem encode_of_lt {x : Nat} (h : x < 0x80) : encode x = [x.toUInt8] := by
  rw [encode, if_pos h]

theorem encode_of_ge {x : Nat} (h : 0x80 ≤ x) :
    encode x = (x % 0x80 + 0x80).toUInt8 :: encode (x / 0x80) := by
  rw [encode, if_neg (by omega)]

theorem encode_ne_nil (x : Nat) : encode x ≠ [] := by
  rw [encode]
  split <;> simp

theorem encode_length_le {k x : Nat} (h : x < 2 ^ (7 * (k + 1))) : (encode x).length ≤ k + 1 := by
  induction k generalizing x with
  | zero => simp [encode_of_lt (by simpa using h)]
  | succ k ih =>
    by_cases hx : x < 0x80
    · simp [encode_of_lt hx]
    · rw [encode_of_ge (by omega), List.length_cons]
      -- the rest is `x / 2 ^ 7`, which has one group of seven bits fewer
      have hpow : 2 ^ (7 * (k + 1 + 1)) = 2 ^ (7 * (k + 1)) * 0x80 := by
        rw [show 7 * (k + 1 + 1) = 7 * (k + 1) + 7 by omega, Nat.pow_add]
      have hdiv : x / 0x80 < 2 ^ (7 * (k + 1)) := by
        rw [Nat.div_lt_iff_lt_mul (by decide), ← hpow]
        exact h
      have := ih hdiv
      omega

theorem encode_length_le_ten {x : Nat} (h : x < 2 ^ 64) : (encode x).length ≤ 10 :=
  encode_length_le (k := 9) (lt_of_lt_of_le h (Nat.pow_le_pow_right (by omega) (by omega)))

end Uvarint
