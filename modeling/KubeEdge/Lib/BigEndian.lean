import Mathlib.Data.Nat.Bitwise

set_option autoImplicit false

/-!
# Big-endian bytes of a 32-bit word

A word cut into four bytes, most significant first, by shifting and
truncating, and put together again by widening, shifting and or-ing: the two
are inverse. The argument is bit by bit on the natural numbers underneath.
-/

namespace BigEndian

def toBytes (x : UInt32) : List UInt8 :=
  [(x >>> 24).toUInt8, (x >>> 16).toUInt8, (x >>> 8).toUInt8, x.toUInt8]

def ofBytes (b0 b1 b2 b3 : UInt8) : UInt32 :=
  b0.toUInt32 <<< 24 ||| b1.toUInt32 <<< 16 ||| b2.toUInt32 <<< 8 ||| b3.toUInt32

theorem bytes_or_eq {x : Nat} (hx : x < 2 ^ 32) :
    (x / 2 ^ 24 % 2 ^ 8) <<< 24 ||| (x / 2 ^ 16 % 2 ^ 8) <<< 16 ||| (x / 2 ^ 8 % 2 ^ 8) <<< 8 ||| x % 2 ^ 8 = x := by
  apply Nat.eq_of_testBit_eq
  intro j
  simp only [Nat.testBit_or, Nat.testBit_shiftLeft, Nat.testBit_mod_two_pow, Nat.testBit_div_two_pow]
  -- each bit comes from the one byte whose range holds it, and there is none past bit 31
  rcases (show j < 8 ∨ (8 ≤ j ∧ j < 16) ∨ (16 ≤ j ∧ j < 24) ∨ (24 ≤ j ∧ j < 32) ∨ 32 ≤ j by omega)
    with h | ⟨h1, h2⟩ | ⟨h1, h2⟩ | ⟨h1, h2⟩ | h
  · grind
  · grind
  · grind
  · grind
  · have hbit : x.testBit j = false :=
      Nat.testBit_lt_two_pow (lt_of_lt_of_le hx (Nat.pow_le_pow_right (by omega) h))
    grind

theorem toNat_toUInt8_shiftRight (x k : UInt32) (hk : k.toNat < 32) :
    ((x >>> k).toUInt8).toNat = x.toNat / 2 ^ k.toNat % 2 ^ 8 := by
  rw [UInt32.toNat_toUInt8, UInt32.toNat_shiftRight, Nat.mod_eq_of_lt hk, Nat.shiftRight_eq_div_pow]

theorem toNat_shiftLeft_byte (b : UInt8) (k : UInt32) (hk : k.toNat ≤ 24) :
    (b.toUInt32 <<< k).toNat = b.toNat <<< k.toNat := by
  have hb : b.toNat < 2 ^ 8 := b.toNat_lt
  have hlt : b.toNat <<< k.toNat < 2 ^ 32 := by
    rw [Nat.shiftLeft_eq]
    calc b.toNat * 2 ^ k.toNat < 2 ^ 8 * 2 ^ k.toNat := Nat.mul_lt_mul_of_pos_right hb (Nat.two_pow_pos _)
      _ = 2 ^ (8 + k.toNat) := (Nat.pow_add 2 8 k.toNat).symm
      _ ≤ 2 ^ 32 := Nat.pow_le_pow_right (by omega) (by omega)
  have hk32 : k.toNat % 32 = k.toNat := Nat.mod_eq_of_lt (by omega)
  rw [UInt32.toNat_shiftLeft, UInt8.toNat_toUInt32, hk32, Nat.mod_eq_of_lt hlt]

theorem ofBytes_toBytes (x : UInt32) :
    ofBytes (x >>> 24).toUInt8 (x >>> 16).toUInt8 (x >>> 8).toUInt8 x.toUInt8 = x := by
  apply UInt32.toNat_inj.mp
  rw [ofBytes, UInt32.toNat_or, UInt32.toNat_or, UInt32.toNat_or,
    toNat_shiftLeft_byte _ 24 (by decide), toNat_shiftLeft_byte _ 16 (by decide),
    toNat_shiftLeft_byte _ 8 (by decide), UInt8.toNat_toUInt32,
    toNat_toUInt8_shiftRight x 24 (by decide), toNat_toUInt8_shiftRight x 16 (by decide),
    toNat_toUInt8_shiftRight x 8 (by decide), UInt32.toNat_toUInt8]
  exact bytes_or_eq x.toNat_lt

end BigEndian
