import Mathlib.Data.List.Basic

set_option autoImplicit false

/-!
# Go's `io.ReadFull` on a finite stream

A reader that yields the bytes of `stream` and then `io.EOF`. `io.ReadFull`
fills its buffer of `n` bytes; with nothing left it reports `io.EOF`, and with
fewer than `n` bytes left `io.ErrUnexpectedEOF`.
-/

namespace KubeEdge.Go

inductive IoError where
  | EOF
  | ErrUnexpectedEOF
  deriving DecidableEq, Repr

/-- `io.ReadFull(r, buf)` with `len(buf) = n`: the bytes read and what the
    reader has left. -/
def ReadFull (n : Nat) (stream : List UInt8) : Except IoError (List UInt8 × List UInt8) :=
  if n ≤ stream.length then .ok (stream.take n, stream.drop n)
  else if stream = [] then .error .EOF
  else .error .ErrUnexpectedEOF

theorem ReadFull_append {n : Nat} {bytes : List UInt8} (hn : bytes.length = n) (rest : List UInt8) :
    ReadFull n (bytes ++ rest) = .ok (bytes, rest) := by
  subst hn
  simp [ReadFull]

theorem ReadFull_nil {n : Nat} (hn : 0 < n) : ReadFull n [] = .error .EOF := by
  have hlen : ¬n ≤ ([] : List UInt8).length := by simp; omega
  rw [ReadFull, if_neg hlen, if_pos rfl]

theorem ReadFull_lt {n : Nat} {stream : List UInt8} (hlt : stream.length < n) :
    ReadFull n stream = .error (if stream = [] then .EOF else .ErrUnexpectedEOF) := by
  rw [ReadFull, if_neg (by omega)]
  split <;> rfl

end KubeEdge.Go
