import KubeEdge.Twin.Store
import KubeEdge.Twin.Versions

set_option autoImplicit false

/-!
# The twins in memory against the rows in SQLite

After a deal, the rows `DeviceTwinTrans` writes and the twins `DealMsgTwin`
leaves in memory should read the same: `TwinView` is what the rows keep of a
twin, as `DeviceTwinToMsgTwin` reads it back.
-/

namespace KubeEdge.Twin

def storedValue (v : Option TwinValue) : Option String :=
  match v with
  | some ⟨some s, _⟩ => some s
  | _ => none

structure TwinView where
  expected : Option String
  actual : Option String
  optional : Option Bool
  attrType : Option String
  expectedVersion : Option TwinVersion
  actualVersion : Option TwinVersion
  deriving DecidableEq, Repr

def MsgTwin.view (t : MsgTwin) : TwinView :=
  ⟨storedValue t.expected, storedValue t.actual, t.optional, t.metadata.map (·.type),
    t.expectedVersion, t.actualVersion⟩

/-- The views of the device's twins read back from `rows` and of `twins`. -/
def rowsView (deviceID key : String) (rows : List DeviceTwin) : Option TwinView :=
  ((DeviceTwinToMsgTwin (QueryDeviceTwin deviceID rows)).lookup key).map MsgTwin.view

def halfRejectedDeleteMsgs : GoMap (Option MsgTwin) :=
  (∅ : GoMap (Option MsgTwin)).insert "k"
    (some ⟨none, none, none, some ⟨"deleted"⟩, some ⟨1, 0⟩, some ⟨0, 0⟩⟩)

theorem DealMsgTwin_half_rejected_delete_diverges :
    UnmarshalDeviceTwinUpdate ⟨"e", some halfRejectedDeleteMsgs⟩ = none ∧
    (DealMsgTwin 0 versionSampleContext "d" halfRejectedDeleteMsgs SyncDealType).map
      (fun res => (res.1.err,
        rowsView "d" "k" (DeviceTwinTrans res.1.add res.1.delete res.1.update [versionSampleRow]),
        ((res.2.deviceList.lookup "d").bind (·.lookup "k")).map MsgTwin.view)) =
    some (none,
      some ⟨some "1", some "2", some true, some "string", some ⟨1, 0⟩, some ⟨0, 3⟩⟩,
      some ⟨none, some "2", some true, some "deleted", some ⟨1, 0⟩, some ⟨0, 3⟩⟩) := by
  decide

/-- The columns of a twin as `dealTwinAdd` and `dealTwinCompare` write them:
    each half's value and value metadata, the versions, the optional flag with
    default `true`, the type with default `string`, and the type-less metadata. -/
def encodeTwinRow (deviceID name : String) (twin : MsgTwin) : DeviceTwin where
  deviceID := deviceID
  name := name
  expected := (twin.expected.bind (·.value)).getD ""
  actual := (twin.actual.bind (·.value)).getD ""
  expectedMeta := twin.expected.bind (·.metadata)
  actualMeta := twin.actual.bind (·.metadata)
  expectedVersion := twin.expectedVersion
  actualVersion := twin.actualVersion
  optional := twin.optional.getD true
  attrType := (twin.metadata.map (·.type)).getD stringType
  metadata := twin.metadata.map fun _ => ⟨""⟩

theorem encodeTwinRow_msgTwinOfRow (row : DeviceTwin) :
    encodeTwinRow row.deviceID row.name (msgTwinOfRow row) =
      { row with
        expectedMeta := if row.expected = "" then none else row.expectedMeta
        actualMeta := none
        metadata := some ⟨""⟩ } := by
  by_cases he : row.expected = "" <;> by_cases ha : row.actual = "" <;>
    simp [encodeTwinRow, msgTwinOfRow, he, ha]

def valueMetaAddMsgs : GoMap (Option MsgTwin) :=
  (∅ : GoMap (Option MsgTwin)).insert "k" (some ⟨some ⟨some "", none⟩, some ⟨some "2", none⟩, none, none, none, none⟩)

/-- The row `dealTwinAdd` writes at time 5 holds both value timestamps; the
    twin loaded from it and written again holds neither. -/
theorem DeviceTwinToMsgTwin_loses_value_metadata :
    (DealMsgTwin 5 emptyDeviceStore.context "d" valueMetaAddMsgs RestDealType).map (fun res =>
      res.1.add.map fun row => (row.expectedMeta, row.actualMeta)) =
      some [(some ⟨5⟩, some ⟨5⟩)] ∧
    (DealMsgTwin 5 emptyDeviceStore.context "d" valueMetaAddMsgs RestDealType).map (fun res =>
      res.1.add.map fun row => ((DeviceTwinToMsgTwin [row]).lookup row.name).map fun t =>
        ((encodeTwinRow row.deviceID row.name t).expectedMeta, (encodeTwinRow row.deviceID row.name t).actualMeta)) =
      some [some (none, none)] := by
  decide

end KubeEdge.Twin
