import Mathlib.Data.Nat.Basic
import KubeEdge.Lib.FoldM

set_option autoImplicit false

/-!
# Go's `sync` locks, seen from one goroutine

A `sync.Mutex` is held or free, and a `sync.RWMutex` has a writer flag and a
count of readers. A call either returns the lock after it, or stops its
goroutine: it waits for a holder to release the lock, or the runtime throws a
fatal error that no `recover` catches. Unlocking a lock that is not held is
such an error.
-/

namespace KubeEdge.Go

inductive Stop where
  | waits
  | fatal (msg : String)
  deriving DecidableEq, Repr

structure Mutex where
  locked : Bool
  deriving DecidableEq, Repr

def Mutex.Lock (m : Mutex) : Except Stop Mutex :=
  if m.locked then .error .waits else .ok ⟨true⟩

def Mutex.Unlock (m : Mutex) : Except Stop Mutex :=
  if m.locked then .ok ⟨false⟩ else .error (.fatal "sync: unlock of unlocked mutex")

structure RWMutex where
  writer : Bool
  readers : Nat
  deriving DecidableEq, Repr

def RWMutex.Lock (rw : RWMutex) : Except Stop RWMutex :=
  if rw.writer ∨ 0 < rw.readers then .error .waits else .ok { rw with writer := true }

def RWMutex.Unlock (rw : RWMutex) : Except Stop RWMutex :=
  if rw.writer then .ok { rw with writer := false } else .error (.fatal "sync: Unlock of unlocked RWMutex")

def RWMutex.RLock (rw : RWMutex) : Except Stop RWMutex :=
  if rw.writer then .error .waits else .ok { rw with readers := rw.readers + 1 }

def RWMutex.RUnlock (rw : RWMutex) : Except Stop RWMutex :=
  if rw.readers = 0 then .error (.fatal "sync: RUnlock of unlocked RWMutex")
  else .ok { rw with readers := rw.readers - 1 }

theorem Mutex.Unlock_unlocked : Mutex.Unlock ⟨false⟩ = .error (.fatal "sync: unlock of unlocked mutex") := rfl

theorem RWMutex.Lock_free {rw : RWMutex} (hw : rw.writer = false) (hr : rw.readers = 0) :
    rw.Lock = .ok { rw with writer := true } := by
  simp [RWMutex.Lock, hw, hr]

theorem RWMutex.Unlock_Lock {rw rw' : RWMutex} (h : rw.Lock = .ok rw') : rw'.Unlock = .ok rw := by
  obtain ⟨w, r⟩ := rw
  unfold RWMutex.Lock at h
  split at h
  · cases h
  · rename_i hfree
    cases h
    simp only [not_or, Bool.not_eq_true, Nat.not_lt, Nat.le_zero] at hfree
    simp [RWMutex.Unlock, hfree.1, hfree.2]

end KubeEdge.Go
