import KubeEdge.Lib.Uvarint

set_option autoImplicit false

/-!
# Go's `encoding/binary` varints

`PutUvarint` writes the varint of a `uint64` into a byte slice and panics on an
index past its end; `ReadUvarint` (as of Go 1.14) reads one from a byte reader,
failing with the reader's error at its end and with `overflow` past ten bytes
or on a tenth byte above 1. The slice is the list of its bytes and the reader
the bytes it has left. Both compute `Uvarint.encode`: `PutUvarint` writes it
when the slice has room, and `ReadUvarint` reads every `uint64` back from it.
-/

namespace KubeEdge.Go

/-- `binary.PutUvarint(buf, x)`: the slice after the write and the number of
    bytes written. -/
def PutUvarint : List UInt8 → UInt64 → Option (List UInt8 × Nat)
  | [], _ => none
  | _ :: rest, x =>
    if x ≥ 0x80 then
      (PutUvarint rest (x >>> 7)).map fun (rest', n) => ((x.toUInt8 ||| 0x80) :: rest', n + 1)
    else some (x.toUInt8 :: rest, 1)

def EOF : String := "EOF"

def overflow : String := "binary: varint overflows a 64-bit integer"

/-- `uint64(b) << s`: Go shifts a 64-bit value out entirely from 64 on. -/
def shiftLeft64 (v : UInt64) (s : Nat) : UInt64 :=
  if s < 64 then v <<< s.toUInt64 else 0

/-- `binary.ReadUvarint(r)`: the value and the bytes the reader has left. -/
def ReadUvarint (r : List UInt8) : Except String (UInt64 × List UInt8) :=
  go 0 0 0 r
where
  go (i : Nat) (x : UInt64) (s : Nat) : List UInt8 → Except String (UInt64 × List UInt8)
    | [] => .error EOF
    | b :: rest =>
      if b < 0x80 then
        if i > 9 ∨ i = 9 ∧ b > 1 then .error overflow
        else .ok (x ||| shiftLeft64 b.toUInt64 s, rest)
      else go (i + 1) (x ||| shiftLeft64 (b &&& 0x7f).toUInt64 s) (s + 7) rest

theorem toUInt8_or_continuation (x : UInt64) : (x.toUInt8 ||| 0x80) = (x.toNat % 0x80 + 0x80).toUInt8 := by
  apply UInt8.toNat_inj.mp
  simp only [UInt8.toNat_or, UInt64.toNat_toUInt8, Nat.toUInt8_eq]
  rw [UInt8.toNat_ofNat', show UInt8.toNat 128 = 128 from rfl,
    Uvarint.or_continuation_bit (Nat.mod_lt _ (by decide))]
  omega

theorem toNat_and_payload (b : UInt8) : (b &&& 0x7f).toNat = b.toNat % 0x80 := by
  rw [UInt8.toNat_and, show (0x7f : UInt8).toNat = 2 ^ 7 - 1 from rfl, Nat.and_two_pow_sub_one_eq_mod]

theorem PutUvarint_eq (buf : List UInt8) (x : UInt64) :
    PutUvarint buf x =
      if (Uvarint.encode x.toNat).length ≤ buf.length then
        some (Uvarint.encode x.toNat ++ buf.drop (Uvarint.encode x.toNat).length,
          (Uvarint.encode x.toNat).length)
      else none := by
  induction buf generalizing x with
  | nil => simp [PutUvarint, Uvarint.encode_ne_nil]
  | cons c rest ih =>
    by_cases hx : x ≥ 0x80
    -- one continuation byte, then the varint of `x >>> 7` in the rest of the slice
    · have hge : 0x80 ≤ x.toNat := by
        simpa using UInt64.le_iff_toNat_le.mp hx
      have hshift : (x >>> 7).toNat = x.toNat / 0x80 := by
        simp [UInt64.toNat_shiftRight, Nat.shiftRight_eq_div_pow]
      rw [PutUvarint, if_pos hx, ih, hshift, Uvarint.encode_of_ge hge, toUInt8_or_continuation]
      by_cases hlen : (Uvarint.encode (x.toNat / 0x80)).length ≤ rest.length
      · simp [hlen]
      · simp [hlen]
    · have hlt : x.toNat < 0x80 := by
        simpa using mt UInt64.le_iff_toNat_le.mpr hx
      rw [PutUvarint, if_neg hx, Uvarint.encode_of_lt hlt]
      simp


theorem toNat_or_shiftLeft64 {x c : UInt64} {s : Nat} (hs : s < 64) (hx : x.toNat < 2 ^ s)
    (hfit : x.toNat + c.toNat * 2 ^ s < 2 ^ 64) :
    (x ||| shiftLeft64 c s).toNat = x.toNat + c.toNat * 2 ^ s := by
  have hshift : (shiftLeft64 c s).toNat = c.toNat * 2 ^ s := by
    have hs' : (s.toUInt64).toNat = s := by simp; omega
    rw [shiftLeft64, if_pos hs, UInt64.toNat_shiftLeft, hs', Nat.mod_eq_of_lt hs, Nat.shiftLeft_eq,
      Nat.mod_eq_of_lt (by omega)]
  rw [UInt64.toNat_or, hshift, Nat.lor_comm, Nat.mul_comm, ← Nat.two_pow_add_eq_or_of_lt hx]
  omega

theorem ReadUvarint.go_encode (v : Nat) : ∀ (i : Nat) (x : UInt64) (rest : List UInt8),
    x.toNat < 2 ^ (7 * i) → x.toNat + v * 2 ^ (7 * i) < 2 ^ 64 → i ≤ 9 →
    ReadUvarint.go i x (7 * i) (Uvarint.encode v ++ rest) =
      .ok (UInt64.ofNat (x.toNat + v * 2 ^ (7 * i)), rest) := by
  induction v using Nat.strong_induction_on with
  | _ v ih =>
  intro i x rest hx hfit hi
  by_cases hv : v < 0x80
  -- the last byte: no overflow, since the value fits in 64 bits
  · rw [Uvarint.encode_of_lt hv, List.singleton_append, ReadUvarint.go]
    have hb : (v.toUInt8).toNat = v := by simp; omega
    have hlt : v.toUInt8 < 0x80 := by
      rw [UInt8.lt_iff_toNat_lt, hb]; exact hv
    have hnover : ¬(i > 9 ∨ i = 9 ∧ v.toUInt8 > 1) := by
      rintro (h | ⟨rfl, h⟩)
      · omega
      · rw [GT.gt, UInt8.lt_iff_toNat_lt, hb] at h
        have : 2 * 2 ^ 63 ≤ v * 2 ^ 63 := Nat.mul_le_mul_right _ (Nat.succ_le_of_lt h)
        omega
    rw [if_pos hlt, if_neg hnover]
    congr
    apply UInt64.toNat_inj.mp
    rw [toNat_or_shiftLeft64 (by omega) hx (by simpa [hb] using hfit)]
    simp [hb]
    omega
  -- a continuation byte: its seven bits go in at `7 * i`, the rest at `7 * (i + 1)`
  · have hge : 0x80 ≤ v := by omega
    rw [Uvarint.encode_of_ge hge, List.cons_append, ReadUvarint.go]
    have hb : ((v % 0x80 + 0x80).toUInt8).toNat = v % 0x80 + 0x80 := by simp; omega
    have hnlt : ¬(v % 0x80 + 0x80).toUInt8 < 0x80 := by
      rw [UInt8.lt_iff_toNat_lt, hb]; simp
    have hpay : (((v % 0x80 + 0x80).toUInt8 &&& 0x7f).toUInt64).toNat = v % 0x80 := by
      rw [UInt8.toNat_toUInt64, toNat_and_payload, hb]; omega
    rw [if_neg hnlt]
    generalize hP : 2 ^ (7 * i) = P at hx hfit ⊢
    have hpow : 2 ^ (7 * (i + 1)) = 128 * P := by
      rw [← hP, show 7 * (i + 1) = 7 * i + 7 by omega, Nat.pow_add, Nat.mul_comm]
    have hsplit : v * P = v / 0x80 * (128 * P) + v % 0x80 * P := by
      conv_lhs => rw [← Nat.div_add_mod v 0x80]
      rw [Nat.add_mul, Nat.mul_comm 0x80 (v / 0x80), Nat.mul_assoc]
    have hlow : v % 0x80 * P ≤ 127 * P := Nat.mul_le_mul_right _ (by omega)
    have hhigh : 128 * P ≤ v / 0x80 * (128 * P) := Nat.le_mul_of_pos_left _ (by omega)
    -- a continuation byte below the tenth: `2 ^ (7 * i + 7)` still fits in 64 bits
    have hi8 : i ≤ 8 := by
      have h1 : 2 ^ (7 * (i + 1)) < 2 ^ 64 := by omega
      have h2 := (Nat.pow_lt_pow_iff_right (by omega)).mp h1
      omega
    have hx' : (x ||| shiftLeft64 ((v % 0x80 + 0x80).toUInt8 &&& 0x7f).toUInt64 (7 * i)).toNat =
        x.toNat + v % 0x80 * P := by
      rw [toNat_or_shiftLeft64 (by omega) (by omega) (by rw [hpay, hP]; omega), hpay, hP]
    rw [show 7 * i + 7 = 7 * (i + 1) by omega,
      ih (v / 0x80) (by omega) (i + 1) _ rest (by rw [hx', hpow]; omega) (by rw [hx', hpow]; omega)
        (by omega), hx', hpow]
    congr 3
    omega

theorem ReadUvarint_encode (x : UInt64) (rest : List UInt8) :
    ReadUvarint (Uvarint.encode x.toNat ++ rest) = .ok (x, rest) := by
  have h := ReadUvarint.go_encode x.toNat 0 0 rest (by simp) (by simpa using x.toNat_lt) (by omega)
  rw [ReadUvarint, h]
  simp

end KubeEdge.Go
