import Mathlib.Data.List.Basic
import Mathlib.Algebra.Group.Nat.Defs

set_option autoImplicit false

/-!
# Go's `strconv` number parsers, as acceptance tests

Only whether a parse succeeds is modelled: `ParseInt(s, 10, 64)` and
`ParseFloat(s, 64)` report an error exactly when `parseInt64Ok` and
`parseFloat64Ok` are false. The float parser follows `readFloat`, `special`
and `underscoreOK` of Go's `atof.go`, with overflow decided on the exact value
of the literal (IEEE round to nearest even reaches infinity from
`2 ^ 1024 - 2 ^ 970` on). The sign of a literal does not matter for that test,
so `readFloat` returns its magnitude as `mantissa * base ^ exponent`.
-/

namespace KubeEdge.Go

def decimalValue (ds : List Char) : Nat :=
  ds.foldl (fun n c => 10 * n + (c.toNat - '0'.toNat)) 0

def isHexDigit (c : Char) : Bool :=
  c.isDigit || ('a' ≤ c.toLower && c.toLower ≤ 'f')

def hexDigitValue (c : Char) : Nat :=
  if c.isDigit then c.toNat - '0'.toNat else c.toLower.toNat - 'a'.toNat + 10

/-- `strconv.ParseInt(s, 10, 64)` succeeds: an optional sign, at least one
    decimal digit and nothing else, within the range of `int64`. -/
def parseInt64Ok (s : String) : Bool :=
  match s.toList with
  | '-' :: ds => !ds.isEmpty && ds.all Char.isDigit && decimalValue ds ≤ 2 ^ 63
  | '+' :: ds => !ds.isEmpty && ds.all Char.isDigit && decimalValue ds < 2 ^ 63
  | ds => !ds.isEmpty && ds.all Char.isDigit && decimalValue ds < 2 ^ 63

/-- `strconv.ParseUint(s, 10, 64)`: at least one decimal digit and nothing else,
    below `2 ^ 64`. -/
def ParseUint (s : String) : Option Nat :=
  let ds := s.toList
  if !ds.isEmpty && ds.all Char.isDigit && decimalValue ds < 2 ^ 64 then some (decimalValue ds) else none

/-- `special`: `inf` or `infinity` with an optional sign, or `nan`, in any case,
    making up the whole string. -/
def isSpecialFloat (s : String) : Bool :=
  let word := (s.toList.map Char.toLower)
  match word with
  | '+' :: w | '-' :: w => w == "inf".toList || w == "infinity".toList
  | w => w == "inf".toList || w == "infinity".toList || w == "nan".toList

/-- `underscoreOK`: every underscore stands between two digits, or between a
    base prefix and a digit. `saw` is `0` after a digit, `1` after an
    underscore, `2` at the start and `3` after anything else. -/
def underscoreOK (s : List Char) : Bool :=
  let body := match s with
    | '+' :: t | '-' :: t => t
    | t => t
  let (hex, rest, saw) : Bool × List Char × Nat := match body with
    | '0' :: b :: t =>
      if b.toLower = 'x' then (true, t, 0)
      else if b.toLower = 'b' ∨ b.toLower = 'o' then (false, t, 0)
      else (false, body, 2)
    | _ => (false, body, 2)
  let step : Option Nat → Char → Option Nat := fun st c =>
    st.bind fun saw =>
      if c.isDigit || (hex && isHexDigit c) then some 0
      else if c = '_' then (if saw = 0 then some 1 else none)
      else if saw = 1 then none
      else some 3
  match rest.foldl step (some saw) with
  | some 1 => false
  | some _ => true
  | none => false

/-- The mantissa digits of a float literal: digits and underscores, with at
    most one point. Returns the digits before the point, the digits after it,
    whether a point and an underscore were seen, and the rest of the input. -/
def scanMantissa (hex : Bool) :
    List Char → List Char → List Char → Bool → Bool → List Char × List Char × Bool × Bool × List Char
  | [], int, frac, dot, us => (int, frac, dot, us, [])
  | c :: t, int, frac, dot, us =>
    if c = '_' then scanMantissa hex t int frac dot true
    else if c = '.' then
      if dot then (int, frac, dot, us, c :: t) else scanMantissa hex t int frac true us
    else if c.isDigit || (hex && isHexDigit c) then
      if dot then scanMantissa hex t int (frac ++ [c]) dot us
      else scanMantissa hex t (int ++ [c]) frac dot us
    else (int, frac, dot, us, c :: t)

/-- The exponent digits: the value accumulates only while it is below `10000`,
    as `readFloat` does. -/
def scanExponent : List Char → Nat → Bool → Nat × Bool × List Char
  | [], e, us => (e, us, [])
  | c :: t, e, us =>
    if c = '_' then scanExponent t e true
    else if c.isDigit then
      scanExponent t (if e < 10000 then 10 * e + (c.toNat - '0'.toNat) else e) us
    else (e, us, c :: t)

/-- The magnitude of a literal that `readFloat` accepts as a whole, as
    `(mantissa, base, exponent)`. -/
def readFloat (s : List Char) : Option (Nat × Nat × Int) :=
  let body : List Char := match s with
    | '+' :: t | '-' :: t => t
    | t => t
  let (hex, digits) : Bool × List Char := match body with
    | '0' :: x :: t => if x.toLower = 'x' ∧ t ≠ [] then (true, t) else (false, body)
    | _ => (false, body)
  let (int, frac, _, us, rest) := scanMantissa hex digits [] [] false false
  if int.isEmpty ∧ frac.isEmpty then none else
  let mant : Nat := (int ++ frac).foldl
    (fun n c => if hex then 16 * n + hexDigitValue c else 10 * n + (c.toNat - '0'.toNat)) 0
  -- the point moves by one digit, four bits in a hexadecimal mantissa
  let shift : Int := if hex then -(4 * frac.length : Int) else -(frac.length : Int)
  let expChar := if hex then 'p' else 'e'
  let parsed : Option (Int × Bool × List Char) := match rest with
    | c :: t =>
      if c.toLower = expChar then
        let (sign, t') : Int × List Char := match t with
          | '+' :: u => (1, u)
          | '-' :: u => (-1, u)
          | u => (1, u)
        match t' with
        | d :: _ =>
          if d.isDigit then
            let (e, us', rest') := scanExponent t' 0 false
            some (sign * e, us', rest')
          else none
        | [] => none
      else if hex then none else some (0, false, rest)
    | [] => if hex then none else some (0, false, [])
  match parsed with
  | none => none
  | some (e, us', rest') =>
    if !rest'.isEmpty then none
    else if (us || us') && !underscoreOK s then none
    else some (mant, if hex then 2 else 10, e + shift)

/-- `2 ^ 1024 - 2 ^ 970`: the largest `float64` plus half of its last place. -/
def float64Limit : Nat :=
  179769313486231580793728971405303415079934132710037826936173778980444968292764750946649017977587207096330286416692887910946555547851940402630657488671505820681908902000708383676273854845817711531764475730270069855571366959622842914819860834936475292719074168444365510704342711559699508093042880177904174497792

def roundsFinite (mant base : Nat) (e : Int) : Bool :=
  if 0 ≤ e then mant * base ^ e.toNat < float64Limit
  else mant < float64Limit * base ^ (-e).toNat

/-- `strconv.ParseFloat(s, 64)` succeeds: a special value, or a literal whose
    value rounds to a finite `float64`. -/
def parseFloat64Ok (s : String) : Bool :=
  isSpecialFloat s ||
    match readFloat s.toList with
    | some (mant, base, e) => roundsFinite mant base e
    | none => false

end KubeEdge.Go
