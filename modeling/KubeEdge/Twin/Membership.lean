import KubeEdge.Go.Sync
import KubeEdge.Lib.FoldM
import Mathlib.Data.List.AList

set_option autoImplicit false

/-!
# Membership of the edge group

`dealMembershipDetail` brings the device list to the devices of a detail
message, under `LockAll`: it adds the new devices and removes those the
message does not name. `dealMembershipUpdate` adds and removes the devices an
update names, with no lock held. Both call `addDevice` and `removeDevice` with
`delta = false`, so neither takes a device's lock; yet an added device whose
`AddDeviceTrans` fails `RetryTimes` times is unlocked, and its fresh mutex is
not held.

The context is the part of `DTContext` these functions use: the IDs of the
device list, a mutex per device and the context's `RWMutex`. The database is a
stream of transaction outcomes, `true` for a commit, read one per attempt; an
exhausted stream commits. The device's other fields, its attributes and twins
(`UpdateDeviceAttr` and `DealDeviceTwin` change neither the device list nor a
lock) and the messages sent to the edge are left out.
-/

namespace KubeEdge.Twin.Membership

open KubeEdge.Go KubeEdge.Lib

def RetryTimes : Nat := 5

structure DTContext where
  DeviceList : List String
  DeviceMutex : AList (fun _ : String => Mutex)
  Mutex : RWMutex

def DTContext.Lock (deviceID : String) (dtc : DTContext) : Except Stop (Bool × DTContext) :=
  match dtc.DeviceMutex.lookup deviceID with
  | none => .ok (false, dtc)
  | some deviceMutex => do
    let rw ← dtc.Mutex.RLock
    let deviceMutex ← deviceMutex.Lock
    return (true, { dtc with Mutex := rw, DeviceMutex := dtc.DeviceMutex.insert deviceID deviceMutex })

def DTContext.Unlock (deviceID : String) (dtc : DTContext) : Except Stop (Bool × DTContext) :=
  match dtc.DeviceMutex.lookup deviceID with
  | none => .ok (false, dtc)
  | some deviceMutex => do
    let deviceMutex ← deviceMutex.Unlock
    let rw ← dtc.Mutex.RUnlock
    return (true, { dtc with Mutex := rw, DeviceMutex := dtc.DeviceMutex.insert deviceID deviceMutex })

def DTContext.LockAll (dtc : DTContext) : Except Stop DTContext := do
  return { dtc with Mutex := ← dtc.Mutex.Lock }

def DTContext.UnlockAll (dtc : DTContext) : Except Stop DTContext := do
  return { dtc with Mutex := ← dtc.Mutex.Unlock }

/-- `for i := 1; i <= n; i++ { err = trans(); if err == nil { break } }`:
    whether `err` is nil after the loop, and the outcomes left. -/
def retryTrans : Nat → List Bool → Bool × List Bool
  | 0, db => (true, db)
  | n + 1, db =>
    if db.headD true then (true, db.tail)
    else if n = 0 then (false, db.tail)
    else retryTrans n db.tail

def addDeviceStep (delta : Bool) (acc : DTContext × List Bool) (deviceID : String) :
    Except Stop (DTContext × List Bool) := do
  let (dtc, db) := acc
  if deviceID ∈ dtc.DeviceList then
    -- an existing device: refused on a delta, else its attributes and twins are updated
    return (dtc, db)
  let dtc := { dtc with DeviceMutex := dtc.DeviceMutex.insert deviceID ⟨false⟩ }
  let dtc ← if delta then (·.2) <$> dtc.Lock deviceID else pure dtc
  let dtc := { dtc with DeviceList := dtc.DeviceList ++ [deviceID] }
  let (committed, db) := retryTrans RetryTimes db
  if !committed then
    let dtc := { dtc with DeviceList := dtc.DeviceList.erase deviceID }
    let (_, dtc) ← dtc.Unlock deviceID
    return (dtc, db)
  let dtc ← if delta then (·.2) <$> dtc.Unlock deviceID else pure dtc
  return (dtc, db)

def addDevice (dtc : DTContext) (toAdd : List String) (delta : Bool) (db : List Bool) :
    Except Stop (DTContext × List Bool) :=
  if toAdd.length = 0 then .ok (dtc, db) else toAdd.foldlM (addDeviceStep delta) (dtc, db)

/-- One device of `removeDevice`'s loop: the device goes whether its
    `DeleteDeviceTrans` commits or not. -/
def removeDeviceStep (delta : Bool) (acc : DTContext × List Bool) (deviceID : String) :
    Except Stop (DTContext × List Bool) := do
  let (dtc, db) := acc
  if deviceID ∉ dtc.DeviceList then
    return (dtc, db)
  let dtc ← if delta then (·.2) <$> dtc.Lock deviceID else pure dtc
  let (_, db) := retryTrans RetryTimes db
  let dtc := { dtc with DeviceList := dtc.DeviceList.erase deviceID, DeviceMutex := dtc.DeviceMutex.erase deviceID }
  let dtc ← if delta then (·.2) <$> dtc.Unlock deviceID else pure dtc
  return (dtc, db)

def removeDevice (dtc : DTContext) (toRemove : List String) (delta : Bool) (db : List Bool) :
    Except Stop (DTContext × List Bool) :=
  toRemove.foldlM (removeDeviceStep delta) (dtc, db)

def getRemoveList (dtc : DTContext) (devices : List String) : List String :=
  dtc.DeviceList.filter (· ∉ devices)

def dealMembershipDetail (dtc : DTContext) (devices : List String) (db : List Bool) :
    Except Stop (DTContext × List Bool) := do
  let dtc ← dtc.LockAll
  let (dtc, db) ← addDevice dtc devices false db
  let toRemove := getRemoveList dtc devices
  let (dtc, db) ← if toRemove.length ≠ 0 then removeDevice dtc toRemove false db else pure (dtc, db)
  -- the deferred `UnlockAll`; a fatal error skips it
  let dtc ← dtc.UnlockAll
  return (dtc, db)

def dealMembershipUpdate (dtc : DTContext) (addDevices removeDevices : List String) (db : List Bool) :
    Except Stop (DTContext × List Bool) := do
  let (dtc, db) ← if 0 < addDevices.length then addDevice dtc addDevices false db else pure (dtc, db)
  if 0 < removeDevices.length then removeDevice dtc removeDevices false db else pure (dtc, db)

theorem DTContext.LockAll_eq {dtc : DTContext} {rw : RWMutex} (h : dtc.Mutex.Lock = .ok rw) :
    dtc.LockAll = .ok { dtc with Mutex := rw } := by
  simp [DTContext.LockAll, h]

theorem DTContext.UnlockAll_eq {dtc : DTContext} {rw : RWMutex} (h : dtc.Mutex.Unlock = .ok rw) :
    dtc.UnlockAll = .ok { dtc with Mutex := rw } := by
  simp [DTContext.UnlockAll, h]

/-! ### Writes that fail

An `AddDeviceTrans` that fails `RetryTimes` times sends a new device down the
error path, which unlocks the device's mutex although, with `delta = false`,
nothing locked it. -/

theorem retryTrans_fails (n : Nat) (rest : List Bool) :
    retryTrans (n + 1) (List.replicate (n + 1) false ++ rest) = (false, rest) := by
  induction n with
  | zero => rfl
  | succ n ih =>
    rw [retryTrans, List.replicate_succ, List.cons_append]
    exact ih

theorem addDeviceStep_fails {dtc : DTContext} {deviceID : String} (hnew : deviceID ∉ dtc.DeviceList)
    (rest : List Bool) :
    addDeviceStep false (dtc, List.replicate RetryTimes false ++ rest) deviceID =
      .error (.fatal "sync: unlock of unlocked mutex") := by
  have hfail : retryTrans RetryTimes (List.replicate RetryTimes false ++ rest) = (false, rest) :=
    retryTrans_fails 4 rest
  simp [addDeviceStep, hnew, hfail, DTContext.Unlock, Mutex.Unlock_unlocked]

/-- A membership update, or a detail message when the context's lock is free,
    whose first device is new and whose first `RetryTimes` writes fail, unlocks
    an unlocked mutex: the runtime stops with a fatal error. -/
theorem dealMembership_unlocks_unlocked_mutex (dtc : DTContext) (deviceID : String)
    (more removeDevices : List String) (rest : List Bool) (hnew : deviceID ∉ dtc.DeviceList) :
    dealMembershipUpdate dtc (deviceID :: more) removeDevices (List.replicate RetryTimes false ++ rest) =
        .error (.fatal "sync: unlock of unlocked mutex") ∧
      (dtc.Mutex = ⟨false, 0⟩ →
        dealMembershipDetail dtc (deviceID :: more) (List.replicate RetryTimes false ++ rest) =
          .error (.fatal "sync: unlock of unlocked mutex")) := by
  have hadd : ∀ dtc' : DTContext, dtc'.DeviceList = dtc.DeviceList →
      addDevice dtc' (deviceID :: more) false (List.replicate RetryTimes false ++ rest) =
        .error (.fatal "sync: unlock of unlocked mutex") := by
    intro dtc' hl
    rw [addDevice, if_neg (by simp)]
    exact foldlM_cons_error (addDeviceStep_fails (hl ▸ hnew) rest) more
  constructor
  · rw [dealMembershipUpdate, if_pos (by simp), hadd dtc rfl, except_error_bind]
  · intro hfree
    have hlock := DTContext.LockAll_eq
      (RWMutex.Lock_free (show dtc.Mutex.writer = false by rw [hfree]) (show dtc.Mutex.readers = 0 by rw [hfree]))
    rw [dealMembershipDetail, hlock, except_ok_bind, hadd { dtc with Mutex := { dtc.Mutex with writer := true } } rfl,
      except_error_bind]

theorem dealMembership_unlocks_unlocked_mutex_d1 :
    "d1" ∉ (⟨[], ∅, ⟨false, 0⟩⟩ : DTContext).DeviceList ∧
      dealMembershipUpdate ⟨[], ∅, ⟨false, 0⟩⟩ ["d1"] [] (List.replicate RetryTimes false ++ []) =
        .error (.fatal "sync: unlock of unlocked mutex") ∧
      ((⟨[], ∅, ⟨false, 0⟩⟩ : DTContext).Mutex = ⟨false, 0⟩ →
        dealMembershipDetail ⟨[], ∅, ⟨false, 0⟩⟩ ["d1"] (List.replicate RetryTimes false ++ []) =
          .error (.fatal "sync: unlock of unlocked mutex")) :=
  ⟨List.not_mem_nil, dealMembership_unlocks_unlocked_mutex ⟨[], ∅, ⟨false, 0⟩⟩ "d1" [] [] [] List.not_mem_nil⟩

def AllCommit (db : List Bool) : Prop := ∀ b ∈ db, b = true

theorem AllCommit.tail {db : List Bool} (h : AllCommit db) : AllCommit db.tail :=
  fun b hb => h b (List.mem_of_mem_tail hb)

theorem retryTrans_commit {db : List Bool} (h : AllCommit db) (n : Nat) :
    retryTrans (n + 1) db = (true, db.tail) := by
  have hhead : db.headD true = true := by
    cases db with
    | nil => rfl
    | cons b rest => exact h b List.mem_cons_self
  rw [retryTrans, if_pos hhead]

theorem addDeviceStep_commit (dtc : DTContext) {db : List Bool} (h : AllCommit db) (deviceID : String) :
    ∃ dtc' db', addDeviceStep false (dtc, db) deviceID = .ok (dtc', db') ∧
      (∀ id, id ∈ dtc'.DeviceList ↔ id ∈ dtc.DeviceList ∨ id = deviceID) ∧
      (dtc.DeviceList.Nodup → dtc'.DeviceList.Nodup) ∧ dtc'.Mutex = dtc.Mutex ∧ AllCommit db' := by
  by_cases hd : deviceID ∈ dtc.DeviceList
  · refine ⟨dtc, db, by simp [addDeviceStep, hd], fun id => ⟨.inl, ?_⟩, id, rfl, h⟩
    rintro (hid | rfl)
    exacts [hid, hd]
  · let dtc' : DTContext :=
      { dtc with
        DeviceList := dtc.DeviceList ++ [deviceID]
        DeviceMutex := dtc.DeviceMutex.insert deviceID ⟨false⟩ }
    refine ⟨dtc', db.tail, ?_, fun id => by simp [dtc'], fun hn => ?_, rfl, h.tail⟩
    · simp [addDeviceStep, hd, RetryTimes, retryTrans_commit h]
      rfl
    · exact hn.append (List.nodup_singleton deviceID) (by simpa using hd)

theorem addDevice_commit (dtc : DTContext) (toAdd : List String) {db : List Bool} (h : AllCommit db) :
    ∃ dtc' db', addDevice dtc toAdd false db = .ok (dtc', db') ∧
      (∀ id, id ∈ dtc'.DeviceList ↔ id ∈ dtc.DeviceList ∨ id ∈ toAdd) ∧
      (dtc.DeviceList.Nodup → dtc'.DeviceList.Nodup) ∧ dtc'.Mutex = dtc.Mutex ∧ AllCommit db' := by
  -- the invariant over the devices left: they and the list so far make up the old list and the message
  let I : List String → DTContext × List Bool → Prop := fun l acc =>
    (∀ id, id ∈ acc.1.DeviceList ∨ id ∈ l ↔ id ∈ dtc.DeviceList ∨ id ∈ toAdd) ∧
      (dtc.DeviceList.Nodup → acc.1.DeviceList.Nodup) ∧ acc.1.Mutex = dtc.Mutex ∧ AllCommit acc.2
  have hstep : ∀ a l acc, I (a :: l) acc → ∃ acc', addDeviceStep false acc a = .ok acc' ∧ I l acc' := by
    rintro a l ⟨d, db⟩ ⟨hmem, hn, hm, hc⟩
    obtain ⟨d', db', hd', hl', hn', hm', hc'⟩ := addDeviceStep_commit d hc a
    refine ⟨(d', db'), hd', fun id => ?_, fun h0 => hn' (hn h0), hm'.trans hm, hc'⟩
    rw [hl', ← hmem id, List.mem_cons, or_assoc]
  obtain ⟨⟨d, db'⟩, hrun, hmem, hn, hm, hc⟩ :=
    foldlM_pure_of_step I hstep toAdd (dtc, db) ⟨fun id => Iff.rfl, id, rfl, h⟩
  refine ⟨d, db', ?_, fun id => by simpa using hmem id, hn, hm, hc⟩
  unfold addDevice
  split_ifs with h0
  · rw [List.length_eq_zero_iff.mp h0] at hrun
    exact hrun
  · exact hrun

theorem removeDeviceStep_spec (dtc : DTContext) (db : List Bool) (deviceID : String) (hn : dtc.DeviceList.Nodup) :
    ∃ dtc' db', removeDeviceStep false (dtc, db) deviceID = .ok (dtc', db') ∧
      (∀ id, id ∈ dtc'.DeviceList ↔ id ∈ dtc.DeviceList ∧ id ≠ deviceID) ∧ dtc'.DeviceList.Nodup ∧
      dtc'.Mutex = dtc.Mutex := by
  by_cases hd : deviceID ∈ dtc.DeviceList
  · refine ⟨{ dtc with
        DeviceList := dtc.DeviceList.erase deviceID
        DeviceMutex := dtc.DeviceMutex.erase deviceID }, (retryTrans RetryTimes db).2,
      by simp [removeDeviceStep, hd], fun id => hn.mem_erase_iff.trans and_comm, hn.erase deviceID, rfl⟩
  · refine ⟨dtc, db, by simp [removeDeviceStep, hd], fun id => ⟨fun hid => ⟨hid, ?_⟩, And.left⟩, hn, rfl⟩
    rintro rfl
    exact hd hid

theorem removeDevice_spec (dtc : DTContext) (toRemove : List String) (db : List Bool) (hn : dtc.DeviceList.Nodup) :
    ∃ dtc' db', removeDevice dtc toRemove false db = .ok (dtc', db') ∧
      (∀ id, id ∈ dtc'.DeviceList ↔ id ∈ dtc.DeviceList ∧ id ∉ toRemove) ∧ dtc'.DeviceList.Nodup ∧
      dtc'.Mutex = dtc.Mutex := by
  -- the invariant over the devices left: the list so far, less them, is the old list less the message
  let I : List String → DTContext × List Bool → Prop := fun l acc =>
    (∀ id, id ∈ acc.1.DeviceList ∧ id ∉ l ↔ id ∈ dtc.DeviceList ∧ id ∉ toRemove) ∧
      acc.1.DeviceList.Nodup ∧ acc.1.Mutex = dtc.Mutex
  have hstep : ∀ a l acc, I (a :: l) acc → ∃ acc', removeDeviceStep false acc a = .ok acc' ∧ I l acc' := by
    rintro a l ⟨d, db⟩ ⟨hmem, hn, hm⟩
    obtain ⟨d', db', hd', hl', hn', hm'⟩ := removeDeviceStep_spec d db a hn
    refine ⟨(d', db'), hd', fun id => ?_, hn', hm'.trans hm⟩
    rw [hl', ← hmem id, List.mem_cons, not_or, and_assoc]
  obtain ⟨⟨d, db'⟩, hrun, hmem, hn, hm⟩ :=
    foldlM_pure_of_step I hstep toRemove (dtc, db) ⟨fun id => Iff.rfl, hn, rfl⟩
  exact ⟨d, db', hrun, fun id => by simpa using hmem id, hn, hm⟩

end KubeEdge.Twin.Membership
