import Mathlib.Data.List.Basic

set_option autoImplicit false

/-!
# Base64 with the URL-safe alphabet

Three bytes are four digits of six bits, from the alphabet of RFC 4648 §5
(`-` and `_` for 62 and 63); a last group of one or two bytes is two or three
digits padded with `=` to four. Decoding skips line breaks, rejects a digit
outside the alphabet, a misplaced `=` and a short last group, and ignores the
bits a padded group leaves over, as Go's `base64.URLEncoding` does. Every byte
list decodes back from its encoding.
-/

namespace Base64

def encodeDigit (v : Nat) : Char :=
  if v < 26 then Char.ofNat (65 + v)
  else if v < 52 then Char.ofNat (97 + (v - 26))
  else if v < 62 then Char.ofNat (48 + (v - 52))
  else if v = 62 then '-' else '_'

def decodeDigit (c : Char) : Option Nat :=
  if 'A' ≤ c ∧ c ≤ 'Z' then some (c.toNat - 65)
  else if 'a' ≤ c ∧ c ≤ 'z' then some (c.toNat - 97 + 26)
  else if '0' ≤ c ∧ c ≤ '9' then some (c.toNat - 48 + 52)
  else if c = '-' then some 62
  else if c = '_' then some 63
  else none

def encode : List UInt8 → List Char
  | [] => []
  | [x] => [encodeDigit (x.toNat / 4), encodeDigit (x.toNat % 4 * 16), '=', '=']
  | [x, y] =>
    [encodeDigit (x.toNat / 4), encodeDigit (x.toNat % 4 * 16 + y.toNat / 16), encodeDigit (y.toNat % 16 * 4), '=']
  | x :: y :: z :: rest =>
    [encodeDigit (x.toNat / 4), encodeDigit (x.toNat % 4 * 16 + y.toNat / 16),
      encodeDigit (y.toNat % 16 * 4 + z.toNat / 64), encodeDigit (z.toNat % 64)] ++ encode rest

/-- Groups of four digits, the last one possibly padded, with no line break left. -/
def decodeQuanta : List Char → Option (List UInt8)
  | [] => some []
  | [a, b, '=', '='] => do
    let a ← decodeDigit a
    let b ← decodeDigit b
    return [(a * 4 + b / 16).toUInt8]
  | [a, b, c, '='] => do
    let a ← decodeDigit a
    let b ← decodeDigit b
    let c ← decodeDigit c
    return [(a * 4 + b / 16).toUInt8, (b % 16 * 16 + c / 4).toUInt8]
  | a :: b :: c :: d :: rest => do
    let a ← decodeDigit a
    let b ← decodeDigit b
    let c ← decodeDigit c
    let d ← decodeDigit d
    let r ← decodeQuanta rest
    return (a * 4 + b / 16).toUInt8 :: (b % 16 * 16 + c / 4).toUInt8 :: (c % 4 * 64 + d).toUInt8 :: r
  | _ => none

def decode (s : List Char) : Option (List UInt8) :=
  decodeQuanta (s.filter fun c => c != '\n' && c != '\r')

theorem decodeDigit_encodeDigit : ∀ v : Fin 64, decodeDigit (encodeDigit v) = some v.val := by
  decide

theorem decodeDigit_encodeDigit_of_lt {v : Nat} (h : v < 64) : decodeDigit (encodeDigit v) = some v :=
  decodeDigit_encodeDigit ⟨v, h⟩

theorem toUInt8_of_eq {n : Nat} {x : UInt8} (h : n = x.toNat) : n.toUInt8 = x := by
  rw [h]
  simp

theorem encodeDigit_ne {v : Nat} {c : Char} (hv : v < 64) (hc : decodeDigit c = none) : encodeDigit v ≠ c := by
  intro e
  have h := decodeDigit_encodeDigit_of_lt hv
  rw [e, hc] at h
  cases h

theorem decodeQuanta_two {a b : Char} {va vb : Nat} (ha : decodeDigit a = some va) (hb : decodeDigit b = some vb) :
    decodeQuanta [a, b, '=', '='] = some [(va * 4 + vb / 16).toUInt8] := by
  simp [decodeQuanta, ha, hb]

theorem decodeQuanta_three {a b c : Char} {va vb vc : Nat} (ha : decodeDigit a = some va)
    (hb : decodeDigit b = some vb) (hc : decodeDigit c = some vc) :
    decodeQuanta [a, b, c, '='] = some [(va * 4 + vb / 16).toUInt8, (vb % 16 * 16 + vc / 4).toUInt8] := by
  have hpad : c ≠ '=' := by
    rintro rfl
    cases hc
  simp [decodeQuanta, ha, hb, hc]

theorem decodeQuanta_four {a b c d : Char} {va vb vc vd : Nat} (ha : decodeDigit a = some va)
    (hb : decodeDigit b = some vb) (hc : decodeDigit c = some vc) (hd : decodeDigit d = some vd) (rest : List Char) :
    decodeQuanta (a :: b :: c :: d :: rest) =
      (decodeQuanta rest).map fun r =>
        (va * 4 + vb / 16).toUInt8 :: (vb % 16 * 16 + vc / 4).toUInt8 :: (vc % 4 * 64 + vd).toUInt8 :: r := by
  have hpad : d ≠ '=' := by
    rintro rfl
    cases hd
  -- with `d` a digit, the group is a full one whatever follows
  rcases rest with _ | ⟨e, rest⟩
  · simp [decodeQuanta, ha, hb, hc, hd, hpad]
  · simp only [decodeQuanta, ha, hb, hc, hd, Option.bind_eq_bind, Option.bind_some]
    cases decodeQuanta (e :: rest) <;> rfl

theorem encode_no_newline (bs : List UInt8) : ∀ c ∈ encode bs, (c != '\n' && c != '\r') = true := by
  have hdigit : ∀ v < 64, (encodeDigit v != '\n' && encodeDigit v != '\r') = true := by
    intro v hv
    simp only [Bool.and_eq_true, bne_iff_ne, ne_eq]
    exact ⟨encodeDigit_ne hv rfl, encodeDigit_ne hv rfl⟩
  induction bs using encode.induct with
  | case1 => simp [encode]
  | case2 x =>
    have hx := x.toNat_lt
    simp only [encode, List.mem_cons, List.not_mem_nil, or_false]
    rintro c (rfl | rfl | rfl | rfl)
    · exact hdigit _ (by omega)
    · exact hdigit _ (by omega)
    all_goals decide
  | case3 x y =>
    have hx := x.toNat_lt
    have hy := y.toNat_lt
    simp only [encode, List.mem_cons, List.not_mem_nil, or_false]
    rintro c (rfl | rfl | rfl | rfl)
    · exact hdigit _ (by omega)
    · exact hdigit _ (by omega)
    · exact hdigit _ (by omega)
    · decide
  | case4 x y z rest ih =>
    have hx := x.toNat_lt
    have hy := y.toNat_lt
    have hz := z.toNat_lt
    simp only [encode, List.cons_append, List.mem_cons, List.nil_append]
    rintro c (rfl | rfl | rfl | rfl | hc)
    · exact hdigit _ (by omega)
    · exact hdigit _ (by omega)
    · exact hdigit _ (by omega)
    · exact hdigit _ (by omega)
    · exact ih c hc

theorem decodeQuanta_encode (bs : List UInt8) : decodeQuanta (encode bs) = some bs := by
  induction bs using encode.induct with
  | case1 => rfl
  | case2 x =>
    have hx := x.toNat_lt
    rw [encode, decodeQuanta_two (decodeDigit_encodeDigit_of_lt (by omega)) (decodeDigit_encodeDigit_of_lt (by omega))]
    -- the first digit carries six bits of `x`, the second its last two
    rw [toUInt8_of_eq (x := x) (by omega)]
  | case3 x y =>
    have hx := x.toNat_lt
    have hy := y.toNat_lt
    rw [encode, decodeQuanta_three (decodeDigit_encodeDigit_of_lt (by omega))
      (decodeDigit_encodeDigit_of_lt (by omega)) (decodeDigit_encodeDigit_of_lt (by omega))]
    rw [toUInt8_of_eq (x := x) (by omega), toUInt8_of_eq (x := y) (by omega)]
  | case4 x y z rest ih =>
    have hx := x.toNat_lt
    have hy := y.toNat_lt
    have hz := z.toNat_lt
    rw [encode, List.cons_append, List.cons_append, List.cons_append, List.cons_append, List.nil_append,
      decodeQuanta_four (decodeDigit_encodeDigit_of_lt (by omega)) (decodeDigit_encodeDigit_of_lt (by omega))
        (decodeDigit_encodeDigit_of_lt (by omega)) (decodeDigit_encodeDigit_of_lt (by omega)), ih, Option.map_some]
    -- each byte is put back together from the two digits its bits went to
    rw [toUInt8_of_eq (x := x) (by omega), toUInt8_of_eq (x := y) (by omega), toUInt8_of_eq (x := z) (by omega)]

theorem decode_encode (bs : List UInt8) : decode (encode bs) = some bs := by
  rw [decode, List.filter_eq_self.mpr (encode_no_newline bs), decodeQuanta_encode]

end Base64
