import KubeEdge.Twin.DealSpec

set_option autoImplicit false

/-!
# The `device_twin` table and `DealDeviceTwin`

`DeviceTwinTrans` writes a deal's added rows, deletions and column updates in
one transaction; a `NULL` written to a text column reads back as the empty
string. Whether the transaction commits depends on SQLite, so `DealDeviceTwin`
takes its outcome (`dbResult`, the error of the last retry) as an argument.
-/

namespace KubeEdge.Twin

def applyColumn (row : DeviceTwin) : TwinColumn → DeviceTwin
  | .expected v => { row with expected := v.getD "" }
  | .actual v => { row with actual := v.getD "" }
  | .expectedMeta m => { row with expectedMeta := m }
  | .actualMeta m => { row with actualMeta := m }
  | .expectedVersion v => { row with expectedVersion := some v }
  | .actualVersion v => { row with actualVersion := some v }
  | .optional o => { row with optional := o }
  | .attrType t => { row with attrType := t }
  | .metadata m => { row with metadata := some m }

def rowMatches (deviceID name : String) (row : DeviceTwin) : Bool :=
  row.deviceID == deviceID && row.name == name

/-- `UpdateDeviceTwinFields`: every row of the device and name takes the columns. -/
def UpdateDeviceTwinFields (deviceID name : String) (cols : List TwinColumn) (rows : List DeviceTwin) :
    List DeviceTwin :=
  rows.map fun row => if rowMatches deviceID name row then cols.foldl applyColumn row else row

def DeleteDeviceTwin (deviceID name : String) (rows : List DeviceTwin) : List DeviceTwin :=
  rows.filter fun row => !rowMatches deviceID name row

/-- `DeviceTwinTrans` when the transaction commits: inserts, then deletions, then updates. -/
def DeviceTwinTrans (adds : List DeviceTwin) (deletes : List DeviceDelete)
    (updates : List DeviceTwinUpdate) (rows : List DeviceTwin) : List DeviceTwin :=
  let rows := rows ++ adds
  let rows := deletes.foldl (fun rows d => DeleteDeviceTwin d.deviceID d.name rows) rows
  updates.foldl (fun rows u => UpdateDeviceTwinFields u.deviceID u.name u.cols rows) rows

structure TwinStore where
  context : DTContext
  devices : List String
  rows : List DeviceTwin

def QueryDeviceTwin (deviceID : String) (rows : List DeviceTwin) : List DeviceTwin :=
  rows.filter fun row => row.deviceID == deviceID

/-- `SyncDeviceFromSqlite`: the device's twins are read back from its rows; an
    unknown device is an error that changes nothing. -/
def SyncDeviceFromSqlite (store : TwinStore) (deviceID : String) : TwinStore :=
  if deviceID ∈ store.devices then
    { store with
      context := ⟨store.context.deviceList.insert deviceID (DeviceTwinToMsgTwin (QueryDeviceTwin deviceID store.rows))⟩ }
  else store

/-- What `DealDeviceTwin` publishes: an update result (the result document, or
    an error with its code), the twin document, the delta and the sync result. -/
inductive TwinEvent where
  | updateResult (deviceID eventID : String) (twin : GoMap (Option MsgTwin))
  | updateError (deviceID eventID : String) (code : Nat) (reason : GoError)
  | document (deviceID eventID : String) (document : GoMap TwinDoc)
  | delta (deviceID : String) (twin : GoMap MsgTwin) (delta : GoMap String)
  | syncResult (deviceID : String) (twin : GoMap MsgTwin)

def dealUpdateResult (deviceID eventID : String) (code : Nat) (err : Option GoError)
    (payload : GoMap (Option MsgTwin)) : TwinEvent :=
  match err with
  | none => .updateResult deviceID eventID payload
  | some e => .updateError deviceID eventID code e

/-- The twins of an edge update's result lose their versions, and deleted twins are left out. -/
def BuildDeviceTwinResult (twins : GoMap (Option MsgTwin)) (dealType : Nat) : GoMap (Option MsgTwin) :=
  if dealType = 0 then
    twins.entries.foldl (fun result e =>
      match e.2 with
      | none => result.insert e.1 none
      | some v =>
        if v.metadata.map (·.type) = some "deleted" then result
        else result.insert e.1 (some { v with actualVersion := none, expectedVersion := none })) ∅
  else twins

def ErrorDeviceNotExist : GoError := "Update rejected due to the device is not existed"

/-- The value a twin's delta reports: a non-empty expected value that differs
    from the actual one. -/
def deltaValue (v : MsgTwin) : Option String :=
  match v.expected with
  | none => none
  | some e =>
    let expectedValue := e.value.getD ""
    match v.actual with
    | some a => if expectedValue ≠ a.value.getD "" ∧ expectedValue ≠ "" then some expectedValue else none
    | none => if expectedValue ≠ "" then some expectedValue else none

/-- `BuildDeviceTwinDelta`: the twins with an expected value that are not
    deleted, without versions, and their deltas; nothing when no twin has one. -/
def BuildDeviceTwinDelta (twins : GoMap MsgTwin) : Option (GoMap MsgTwin × GoMap String) :=
  let (result, delta) := twins.entries.foldl (fun (acc : GoMap MsgTwin × GoMap String) e =>
    if e.2.metadata.map (·.type) = some "deleted" ∨ e.2.expected.isNone then acc
    else (acc.1.insert e.1 { e.2 with actualVersion := none, expectedVersion := none },
      match deltaValue e.2 with
      | some d => acc.2.insert e.1 d
      | none => acc.2)) (∅, ∅)
  if delta.entries ≠ [] then some (result, delta) else none

/-- The events after the update result: the document, the delta of the device's
    twins, and the sync result, each when there is one. -/
def dealTail (deviceID eventID : String) (r : DealTwinResult) (twins : GoMap MsgTwin) : List TwinEvent :=
  (if r.document.entries ≠ [] then [.document deviceID eventID r.document] else []) ++
  (match BuildDeviceTwinDelta twins with
    | some (twin, delta) => [.delta deviceID twin delta]
    | none => []) ++
  (if r.syncResult.entries ≠ [] then [.syncResult deviceID r.syncResult] else [])

/-- `DealDeviceTwin`. The delta is built from the twins `DealMsgTwin` left, even
    when the device was read back from the database afterwards. -/
def DealDeviceTwin (now : Int64) (dbResult : Option GoError) (store : TwinStore)
    (deviceID eventID : String) (msgTwin : Option (GoMap (Option MsgTwin))) (dealType : Nat) :
    Option (TwinStore × List TwinEvent × Option GoError) :=
  match store.context.deviceList.lookup deviceID with
  | none =>
    some (store, [dealUpdateResult deviceID eventID NotFoundCode (some ErrorDeviceNotExist) ∅],
      some ErrorDeviceNotExist)
  | some _ =>
    match msgTwin with
    | none => some (store, [dealUpdateResult deviceID eventID BadRequestCode (some ErrorUpdate) ∅], some ErrorUpdate)
    | some content => do
      let (r, context) ← DealMsgTwin now store.context deviceID content dealType
      let twins := (context.deviceList.lookup deviceID).getD ∅
      let store := { store with context }
      if dealType = RestDealType ∧ r.err.isSome then
        pure (SyncDeviceFromSqlite store deviceID,
          [dealUpdateResult deviceID eventID BadRequestCode r.err (BuildDeviceTwinResult r.result 0)], r.err)
      else
        let (store, err) :=
          if r.add ≠ [] ∨ r.delete ≠ [] ∨ r.update ≠ [] then
            match dbResult with
            | none => ({ store with rows := DeviceTwinTrans r.add r.delete r.update store.rows }, none)
            | some e => (SyncDeviceFromSqlite store deviceID, some e)
          else (store, none)
        if err.isSome ∧ dealType = RestDealType then
          pure (store, [dealUpdateResult deviceID eventID InternalErrorCode err
            (BuildDeviceTwinResult r.result dealType)], err)
        else
          let published :=
            if dealType = RestDealType then
              [dealUpdateResult deviceID eventID InternalErrorCode none (BuildDeviceTwinResult r.result dealType)]
            else []
          pure (store, published ++ dealTail deviceID eventID r twins, none)

theorem DealDeviceTwin_rest_err {now : Int64} {dbResult : Option GoError} {store : TwinStore}
    {deviceID eventID : String} {content : GoMap (Option MsgTwin)} {r : DealTwinResult}
    {context : DTContext} {e : GoError} (hdev : deviceID ∈ store.devices)
    (hknown : (store.context.deviceList.lookup deviceID).isSome)
    (hdeal : DealMsgTwin now store.context deviceID content RestDealType = some (r, context))
    (herr : r.err = some e) :
    DealDeviceTwin now dbResult store deviceID eventID (some content) RestDealType =
      some ({ store with
          context := ⟨context.deviceList.insert deviceID
            (DeviceTwinToMsgTwin (QueryDeviceTwin deviceID store.rows))⟩ },
        [.updateError deviceID eventID BadRequestCode e], some e) := by
  obtain ⟨twins, htwins⟩ := Option.isSome_iff_exists.mp hknown
  unfold DealDeviceTwin
  rw [htwins]
  simp only [hdeal, herr, Option.isSome_some, and_self, if_true, Option.bind_eq_bind, Option.bind_some,
    SyncDeviceFromSqlite, if_pos hdev, dealUpdateResult]
  rfl

def partialAddMsgs : GoMap (Option MsgTwin) :=
  ((∅ : GoMap (Option MsgTwin)).insert "a" (some ⟨none, some ⟨some "1", none⟩, none, none, none, none⟩)).insert
    "k2" none

def emptyDeviceStore : TwinStore := ⟨⟨(∅ : GoMap (GoMap MsgTwin)).insert "d" ∅⟩, ["d"], []⟩

theorem DealDeviceTwin_nil_entry_reports_success :
    UnmarshalDeviceTwinUpdate ⟨"e", some partialAddMsgs⟩ = none ∧
    partialAddMsgs.entries.map (·.1) = ["k2", "a"] ∧
    (DealDeviceTwin 0 none emptyDeviceStore "d" "e" (some partialAddMsgs) RestDealType).map
      (fun res => (res.2.2, res.1.rows, (res.1.context.deviceList.lookup "d").map (·.lookup "a"),
        res.2.1.head?.map fun e => match e with
          | .updateResult .. => true
          | _ => false)) =
    some (none, [], some none, some true) := by
  decide

end KubeEdge.Twin
