import KubeEdge.Twin.Types

set_option autoImplicit false

/-!
# `twin.go`: how one twin message changes the twins of a device

The functions return `none` where the Go code dereferences a nil pointer and
panics. `dealTwinDelete`, `dealTwinCompare` and `dealTwinAdd` each handle the
expected half and the actual half of a twin with the same code on different
fields; `TwinPart` names the half, so that each block is written once.

Writing `twins[key]` for an existing key is `AList.insert`, which moves the
key to the front; a Go map has no order, so only lookups are observed.
-/

namespace KubeEdge.Twin

/-- `dealVersion` returns the version as the call leaves it (it is updated in
    place), whether the request's version is accepted, and the error. -/
def dealVersion (version : TwinVersion) (reqVesion : Option TwinVersion) (dealType : Nat) :
    TwinVersion × Bool × Option GoError :=
  if dealType = RestDealType then
    ({ version with edgeVersion := version.edgeVersion + 1 }, true, none)
  else if dealType ≥ SyncDealType then
    match reqVesion with
    | none =>
      if dealType = SyncTwinDeleteDealType then (version, true, none)
      else (version, false, some "Version not allowed be nil while syncing")
    | some req =>
      if version.cloudVersion > req.cloudVersion then (version, false, some "Version not allowed")
      else if version.edgeVersion > req.edgeVersion then
        (version, false, some "Not allowed to sync due to version conflict")
      else (⟨req.cloudVersion, req.edgeVersion⟩, true, none)
  else (version, true, none)

inductive TwinPart where
  | expected
  | actual
  deriving DecidableEq, Repr

namespace TwinPart

def dealType : TwinPart → Nat
  | .expected => DealExpected
  | .actual => DealActual

def value : TwinPart → MsgTwin → Option TwinValue
  | .expected, t => t.expected
  | .actual, t => t.actual

def setValue : TwinPart → MsgTwin → Option TwinValue → MsgTwin
  | .expected, t, v => { t with expected := v }
  | .actual, t, v => { t with actual := v }

def version : TwinPart → MsgTwin → Option TwinVersion
  | .expected, t => t.expectedVersion
  | .actual, t => t.actualVersion

def setVersion : TwinPart → MsgTwin → Option TwinVersion → MsgTwin
  | .expected, t, v => { t with expectedVersion := v }
  | .actual, t, v => { t with actualVersion := v }

def valueCol : TwinPart → Option String → TwinColumn
  | .expected, v => .expected v
  | .actual, v => .actual v

def metaCol : TwinPart → Option ValueMetadata → TwinColumn
  | .expected, m => .expectedMeta m
  | .actual, m => .actualMeta m

def versionCol : TwinPart → TwinVersion → TwinColumn
  | .expected, v => .expectedVersion v
  | .actual, v => .actualVersion v

def setRow : TwinPart → DeviceTwin → String → Option ValueMetadata → Option TwinVersion → DeviceTwin
  | .expected, r, v, m, ver => { r with expected := v, expectedMeta := m, expectedVersion := ver }
  | .actual, r, v, m, ver => { r with actual := v, actualMeta := m, actualVersion := ver }

end TwinPart

/-- `isTwinValueDiff`: the message carries a value for the half, and, when the
    twin has one too, the new value parses as the twin's type. -/
def isTwinValueDiff (twin msgTwin : MsgTwin) (dealType : Nat) : Option (Bool × Option GoError) := do
  let twinValue := if dealType = DealActual then twin.actual else twin.expected
  let msgTwinValue := if dealType = DealActual then msgTwin.actual else msgTwin.expected
  let twinMeta ← twin.metadata
  let valueType :=
    if twinMeta.type = "deleted" then (msgTwin.metadata.map (·.type)).getD stringType
    else twinMeta.type
  match msgTwinValue with
  | none => pure (false, none)
  | some msgValue =>
    match twinValue with
    | none => pure (true, none)
    | some _ =>
      let value ← msgValue.value
      match ValidateValue valueType value with
      | some err => pure (false, some err)
      | none => pure (true, none)

/-- `json.Unmarshal(json.Marshal(m))` into a `TypeMetadata`: nil gives the zero value. -/
def roundTripTypeMetadata (m : Option TypeMetadata) : TypeMetadata :=
  ⟨(m.map (·.type)).getD ""⟩

/-- The locals of `dealTwinDelete` and `dealTwinCompare`: the twin, the `cols`
    map, the object `syncResult[key]` points to, and the two flags. -/
structure DealState where
  twin : MsgTwin
  cols : List TwinColumn
  sync : MsgTwin
  isChange : Bool
  isSyncAllow : Bool

inductive Flow (σ : Type) where
  | next (s : σ)
  | done (s : σ)

/-- The condition `dealTwinDelete` deletes under, in Go's evaluation order. -/
def deleteCondition (twin : MsgTwin) (msgTwin : Option MsgTwin) (dealType : Nat) : Option Bool := do
  let first ← if msgTwin.isNone ∧ dealType = RestDealType then twin.optional else pure false
  if first then pure true
  else if dealType ≥ SyncDealType then do
    let m ← msgTwin
    let md ← m.metadata
    pure (md.type = "deleted")
  else pure false

/-- The request version `dealTwinDelete` passes for the half: the message's
    for a sync (dereferencing `msgTwin`), none for an edge update. -/
def requestVersion (p : TwinPart) (msgTwin : Option MsgTwin) (dealType : Nat) : Option (Option TwinVersion) :=
  if dealType ≠ RestDealType then msgTwin.map p.version else pure none

/-- One half of the deletion: a twin without a version for the half keeps its
    value; a rejected sync returns at once (`.done`). -/
def deletePart (p : TwinPart) (msgTwin : Option MsgTwin) (dealType : Nat) (s : DealState) :
    Option (Flow DealState) := do
  match p.version s.twin with
  | none => pure (.next { s with twin := p.setVersion s.twin (some ⟨0, 0⟩) })
  | some version =>
    let msgVersion ← requestVersion p msgTwin dealType
    let (version', ok, _) := dealVersion version msgVersion dealType
    let twin := p.setVersion s.twin (some version')
    if !ok then
      if dealType ≠ RestDealType then pure (.done { s with twin, sync := CopyMsgTwin twin false })
      else pure (.next { s with twin })
    else
      let twin := { p.setValue twin (some ⟨none, none⟩) with metadata := some ⟨"deleted"⟩ }
      pure (.next
        { s with
          twin
          cols := s.cols ++ [p.versionCol version', .attrType "deleted", p.metaCol none, p.valueCol none]
          sync := if dealType = RestDealType then CopyMsgTwin twin false else s.sync
          isChange := true })

/-- The early `return nil` of a rejected sync: `syncResult[key]` holds the twin,
    `document[key]` is deleted, no update is recorded. -/
def deleteRejected (r : DealTwinResult) (key : String) (s : DealState) : DealTwinResult :=
  { r with syncResult := r.syncResult.insert key s.sync, document := r.document.erase key }

def deleteFinish (r : DealTwinResult) (deviceID key : String) (dealType : Nat) (doc : TwinDoc)
    (s : DealState) : DealTwinResult :=
  if s.isChange then
    { r with
      update := r.update ++ [⟨deviceID, key, s.cols⟩]
      result := if dealType = RestDealType then r.result.insert key none else r.result
      syncResult :=
        if dealType = RestDealType then r.syncResult.insert key s.sync else r.syncResult.erase key
      document := r.document.insert key doc }
  else { r with document := r.document.erase key, syncResult := r.syncResult.erase key }

def dealTwinDelete (returnResult : DealTwinResult) (deviceID key : String) (twin : MsgTwin)
    (msgTwin : Option MsgTwin) (dealType : Nat) : Option (DealTwinResult × MsgTwin × Option GoError) := do
  let doc : TwinDoc := ⟨some (CopyMsgTwin twin true), none⟩
  let s : DealState := ⟨twin, [], MsgTwin.empty, false, true⟩
  if !(← deleteCondition twin msgTwin dealType) then
    pure (deleteFinish returnResult deviceID key dealType doc s, twin, none)
  else if twin.metadata.map (·.type) = some "deleted" then
    -- an already deleted twin: `document[key]` and `syncResult[key]` stay as set
    pure ({ returnResult with
      document := returnResult.document.insert key doc
      syncResult := returnResult.syncResult.insert key MsgTwin.empty }, twin, none)
  else
    let dealType := if dealType ≠ RestDealType then SyncTwinDeleteDealType else dealType
    match ← deletePart .expected msgTwin dealType s with
    | .done s => pure (deleteRejected returnResult key s, s.twin, none)
    | .next s =>
      match ← deletePart .actual msgTwin dealType s with
      | .done s => pure (deleteRejected returnResult key s, s.twin, none)
      | .next s => pure (deleteFinish returnResult deviceID key dealType doc s, s.twin, none)

/-- `syncResult[key]` takes the twin's half, its version, its optional flag and
    its metadata; each dereference may panic. -/
def syncPart (p : TwinPart) (sync : MsgTwin) (value : TwinValue) (version : TwinVersion)
    (twin : MsgTwin) : Option MsgTwin := do
  let optional ← twin.optional
  pure { p.setVersion (p.setValue sync (some value)) (some version) with
    optional := some optional
    metadata := some (roundTripTypeMetadata twin.metadata) }

/-- One half of the comparison. A rejected sync keeps the twin's half and stops
    the rest (`isSyncAllow := false`); a rejected or invalid edge update returns
    its error (`.done`). -/
def comparePart (p : TwinPart) (now : Int64) (msgTwin : MsgTwin) (dealType : Nat) (s : DealState) :
    Option (Flow (DealState × Option GoError)) := do
  let (ok, diffErr) ← isTwinValueDiff s.twin msgTwin p.dealType
  if ok && s.isSyncAllow then
    let msgValue ← p.value msgTwin
    let value := msgValue.value
    let vmeta : ValueMetadata := ⟨now⟩
    let version := (p.version s.twin).getD ⟨0, 0⟩
    let msgVersion := if dealType ≠ RestDealType then p.version msgTwin else none
    let (version', accepted, err) := dealVersion version msgVersion dealType
    let twin := p.setVersion s.twin (some version')
    if !accepted then
      if dealType ≠ RestDealType then
        let twinValue ← p.value twin
        let sync ← syncPart p s.sync ⟨twinValue.value, twinValue.metadata⟩ version' twin
        pure (.next ({ s with twin, sync, isSyncAllow := false }, none))
      else pure (.done ({ s with twin }, err))
    else
      let twin := p.setValue twin (some ⟨value, some vmeta⟩)
      let sync ← if dealType = RestDealType then syncPart p s.sync ⟨value, some vmeta⟩ version' twin
        else pure s.sync
      pure (.next ({ s with
        twin, sync
        cols := s.cols ++ [p.valueCol value, p.metaCol (some vmeta), p.versionCol version']
        isChange := true }, none))
  else if diffErr.isSome ∧ dealType = RestDealType then pure (.done (s, diffErr))
  else pure (.next (s, none))

def compareOptional (msgTwin : MsgTwin) (s : DealState) : Option DealState := do
  match msgTwin.optional with
  | none => pure s
  | some msgOptional =>
    let optional ← s.twin.optional
    if msgOptional ≠ optional ∧ optional then
      pure { s with
        cols := s.cols ++ [.optional msgOptional]
        twin := { s.twin with optional := some msgOptional }
        sync := { s.sync with optional := some msgOptional }
        isChange := true }
    else pure s

/-- A changed type is recorded, and becomes the twin's type only for a deleted
    twin; a deleted twin updated without metadata becomes a string twin. -/
def compareMetadata (msgTwin : MsgTwin) (s : DealState) : Option DealState := do
  match msgTwin.metadata with
  | some msgMeta =>
    if s.twin.metadata ≠ some msgMeta then
      let twinMeta ← s.twin.metadata
      let s := { s with cols := s.cols ++ [.metadata ⟨""⟩], isChange := true }
      if twinMeta.type = "deleted" then
        pure { s with
          cols := s.cols ++ [.attrType msgMeta.type]
          twin := { s.twin with metadata := some ⟨msgMeta.type⟩ }
          sync := { s.sync with metadata := some ⟨msgMeta.type⟩ } }
      else pure s
    else pure s
  | none =>
    let twinMeta ← s.twin.metadata
    if twinMeta.type = "deleted" then
      pure { s with
        twin := { s.twin with metadata := some ⟨stringType⟩ }
        cols := s.cols ++ [.attrType stringType]
        sync := { s.sync with metadata := some ⟨stringType⟩ }
        isChange := true }
    else pure s

def compareFinish (r : DealTwinResult) (deviceID key : String) (dealType : Nat) (doc : TwinDoc)
    (s : DealState) : DealTwinResult :=
  let syncResult :=
    if dealType = RestDealType then
      if s.isChange then r.syncResult.insert key s.sync else r.syncResult.erase key
    else if !s.isSyncAllow then r.syncResult.insert key s.sync else r.syncResult.erase key
  if s.isChange then
    { r with
      update := r.update ++ [⟨deviceID, key, s.cols⟩]
      document := r.document.insert key { doc with currentState := some (CopyMsgTwin s.twin true) }
      result :=
        if dealType = RestDealType then r.result.insert key (some (CopyMsgTwin s.sync true))
        else r.result
      syncResult }
  else { r with document := r.document.erase key, syncResult }

/-- A returned error leaves `document[key]` and `syncResult[key]` in the result. -/
def compareFailed (r : DealTwinResult) (key : String) (doc : TwinDoc) (s : DealState)
    (err : Option GoError) : DealTwinResult :=
  { r with
    document := r.document.insert key doc
    syncResult := r.syncResult.insert key s.sync
    err }

def dealTwinCompare (now : Int64) (returnResult : DealTwinResult) (deviceID key : String)
    (twin : MsgTwin) (msgTwin : Option MsgTwin) (dealType : Nat) :
    Option (DealTwinResult × MsgTwin × Option GoError) := do
  let twinMeta ← twin.metadata
  let doc : TwinDoc :=
    ⟨if twinMeta.type = "deleted" then none else some (CopyMsgTwin twin true), none⟩
  let s : DealState := ⟨twin, [], MsgTwin.empty, false, true⟩
  match msgTwin with
  | none =>
    pure ({ returnResult with
      document := returnResult.document.insert key doc
      syncResult := returnResult.syncResult.insert key MsgTwin.empty }, twin, none)
  | some msgTwin =>
    match ← comparePart .expected now msgTwin dealType s with
    | .done (s, err) => pure (compareFailed returnResult key doc s err, s.twin, err)
    | .next (s, _) =>
      match ← comparePart .actual now msgTwin dealType s with
      | .done (s, err) => pure (compareFailed returnResult key doc s err, s.twin, err)
      | .next (s, _) =>
        let s ← if s.isSyncAllow then compareOptional msgTwin s >>= compareMetadata msgTwin
          else pure s
        pure (compareFinish returnResult deviceID key dealType doc s, s.twin, none)

/-- One half of a new twin's row. A rejected version or an invalid value ends
    the call: with an error for an edge update, silently for a sync. -/
def addPart (p : TwinPart) (now : Int64) (msgTwin : MsgTwin) (dealType : Nat) (row : DeviceTwin) :
    Option (Flow (DeviceTwin × Option GoError × Bool)) := do
  match p.value msgTwin with
  | none => pure (.next (row, none, false))
  | some msgValue =>
    let msgVersion := if dealType ≠ RestDealType then p.version msgTwin else none
    let (version, ok, err) := dealVersion ⟨0, 0⟩ msgVersion dealType
    if !ok then
      -- the result keeps `document[key]` and `syncResult[key]`
      pure (.done (row, if dealType = RestDealType then err else none, true))
    else
      let valueType := (msgTwin.metadata.map (·.type)).getD stringType
      let value ← msgValue.value
      match ValidateValue valueType value with
      | none => pure (.next (p.setRow row value (some ⟨now⟩) (some version), none, false))
      | some err =>
        -- the result loses `document[key]` and `syncResult[key]`
        pure (.done (row, if dealType = RestDealType then some err else none, false))

/-- The row of a new twin before its halves: the sync of a deleted twin keeps
    the message's versions. -/
def addBaseRow (deviceID key : String) (msgTwin : MsgTwin) (dealType : Nat) : Option DeviceTwin := do
  let row := { MsgTwinToDeviceTwin key msgTwin with deviceID }
  if dealType ≠ RestDealType then
    let md ← msgTwin.metadata
    if md.type = "deleted" then
      pure { row with
        expectedVersion := msgTwin.expectedVersion.orElse fun _ => row.expectedVersion
        actualVersion := msgTwin.actualVersion.orElse fun _ => row.actualVersion }
    else pure row
  else pure row

/-- The optional flag defaults to `true`, the type to `string`; the metadata
    column holds the message's metadata with its type cleared. -/
def addTail (msgTwin : MsgTwin) (row : DeviceTwin) : DeviceTwin :=
  { row with
    optional := msgTwin.optional.getD true
    attrType := (msgTwin.metadata.map (·.type)).getD stringType
    metadata := msgTwin.metadata.map fun _ => ⟨""⟩ }

/-- A failed half ends the call; `keep` tells whether the result keeps
    `document[key]` and `syncResult[key]`. -/
def addFailed (r : DealTwinResult) (key : String) (err : Option GoError) (keep : Bool) :
    DealTwinResult :=
  if keep then
    { r with
      document := r.document.insert key ⟨none, none⟩
      syncResult := r.syncResult.insert key MsgTwin.empty
      err := err.orElse fun _ => r.err }
  else
    { r with
      document := r.document.erase key
      syncResult := r.syncResult.erase key
      err := err.orElse fun _ => r.err }

def addFinish (r : DealTwinResult) (key : String) (dealType : Nat) (row : DeviceTwin) :
    DealTwinResult :=
  let twin := msgTwinOfRow row
  let current := if twin.metadata.map (·.type) = some "deleted" then none
    else some (CopyMsgTwin twin true)
  { r with
    add := r.add ++ [row]
    document := r.document.insert key ⟨none, current⟩
    result :=
      if dealType = RestDealType then r.result.insert key (some (CopyMsgTwin (CopyMsgTwin twin false) true))
      else r.result
    syncResult :=
      if dealType = RestDealType then r.syncResult.insert key (CopyMsgTwin twin false)
      else r.syncResult.erase key }

def dealTwinAdd (now : Int64) (returnResult : DealTwinResult) (deviceID key : String)
    (twins : GoMap MsgTwin) (msgTwin : Option MsgTwin) (dealType : Nat) :
    Option (DealTwinResult × GoMap MsgTwin × Option GoError) := do
  match msgTwin with
  | none =>
    -- the error is returned, but `returnResult.Err` is not set
    pure ({ returnResult with document := returnResult.document.insert key ⟨none, none⟩ }, twins,
      some "The request body is wrong")
  | some msgTwin =>
    let row ← addBaseRow deviceID key msgTwin dealType
    match ← addPart .expected now msgTwin dealType row with
    | .done (_, err, keep) => pure (addFailed returnResult key err keep, twins, err)
    | .next (row, _, _) =>
      match ← addPart .actual now msgTwin dealType row with
      | .done (_, err, keep) => pure (addFailed returnResult key err keep, twins, err)
      | .next (row, _, _) =>
        let row := addTail msgTwin row
        pure (addFinish returnResult key dealType row, twins.insert key (msgTwinOfRow row), none)

/-- The test in `DealMsgTwin` that sends an existing twin to `dealTwinDelete`. -/
def isDeleteRequest (msgTwin : Option MsgTwin) (dealType : Nat) : Option Bool :=
  if msgTwin.isNone ∧ dealType = 0 then some true
  else if dealType ≥ 1 then do
    let m ← msgTwin
    let md ← m.metadata
    pure (md.type = "deleted")
  else some false

def dealTwinEntry (now : Int64) (deviceID : String) (dealType : Nat) (r : DealTwinResult)
    (twins : GoMap MsgTwin) (key : String) (msgTwin : Option MsgTwin) :
    Option (DealTwinResult × GoMap MsgTwin × Option GoError) :=
  match twins.lookup key with
  | some twin => do
    if ← isDeleteRequest msgTwin dealType then
      let (r, twin, err) ← dealTwinDelete r deviceID key twin msgTwin dealType
      pure (r, twins.insert key twin, err)
    else
      let (r, twin, err) ← dealTwinCompare now r deviceID key twin msgTwin dealType
      pure (r, twins.insert key twin, err)
  | none => dealTwinAdd now r deviceID key twins msgTwin dealType

/-- The loop of `DealMsgTwin` over the message's entries in iteration order: the
    first returned error ends it. -/
def dealTwinLoop (now : Int64) (deviceID : String) (dealType : Nat) :
    List (Σ _ : String, Option MsgTwin) → DealTwinResult → GoMap MsgTwin →
      Option (DealTwinResult × GoMap MsgTwin)
  | [], r, twins => some (r, twins)
  | ⟨key, msgTwin⟩ :: rest, r, twins => do
    let (r, twins, err) ← dealTwinEntry now deviceID dealType r twins key msgTwin
    if err.isSome then pure (r, twins)
    else dealTwinLoop now deviceID dealType rest r twins

/-- The part of `DTContext` the twin functions use: the devices by ID, each
    with its twin map (a nil map is the empty one). -/
structure DTContext where
  deviceList : GoMap (GoMap MsgTwin)

/-- `DealMsgTwin`: an unknown device is an error; otherwise the device's twins
    are updated in place, even when the loop stops at an error. -/
def DealMsgTwin (now : Int64) (context : DTContext) (deviceID : String)
    (msgTwins : GoMap (Option MsgTwin)) (dealType : Nat) : Option (DealTwinResult × DTContext) :=
  match context.deviceList.lookup deviceID with
  | none => some ({ DealTwinResult.empty with err := some "invalid device id" }, context)
  | some twins => do
    let (r, twins) ← dealTwinLoop now deviceID dealType msgTwins.entries DealTwinResult.empty twins
    pure (r, ⟨context.deviceList.insert deviceID twins⟩)

end KubeEdge.Twin
