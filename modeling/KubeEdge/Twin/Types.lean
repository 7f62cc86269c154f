import Mathlib.Data.List.AList
import KubeEdge.Twin.Common

set_option autoImplicit false

/-!
# `dttype` and `dtclient`: twins in memory and twin rows in SQLite

A Go `map[string]V` is an `AList`, its entries in the order a `range` visits
them. A pointer that may be nil is an `Option`; the twin module never shares a
twin's inner objects between twins, so value semantics is faithful.

The columns holding JSON (`expected_meta`, `actual_meta`, `expected_version`,
`actual_version`, `metadata`) are written only with `json.Marshal` of a flat
struct, which `json.Unmarshal` inverts; they are modelled by the value they
encode, `none` being the empty text.
-/

namespace KubeEdge.Twin

abbrev GoMap (V : Type) := AList (fun _ : String => V)

structure TwinVersion where
  cloudVersion : Int64
  edgeVersion : Int64
  deriving DecidableEq, Repr

structure ValueMetadata where
  timestamp : Int64
  deriving DecidableEq, Repr

structure TwinValue where
  value : Option String
  metadata : Option ValueMetadata
  deriving DecidableEq, Repr

structure TypeMetadata where
  type : String
  deriving DecidableEq, Repr

structure MsgTwin where
  expected : Option TwinValue
  actual : Option TwinValue
  optional : Option Bool
  metadata : Option TypeMetadata
  expectedVersion : Option TwinVersion
  actualVersion : Option TwinVersion
  deriving DecidableEq, Repr

def TwinVersion.UpdateEdgeVersion (tv : TwinVersion) : TwinVersion :=
  { tv with edgeVersion := tv.edgeVersion + 1 }

def MsgTwin.empty : MsgTwin := ⟨none, none, none, none, none, none⟩

structure DeviceTwin where
  deviceID : String
  name : String
  expected : String
  actual : String
  expectedMeta : Option ValueMetadata
  actualMeta : Option ValueMetadata
  expectedVersion : Option TwinVersion
  actualVersion : Option TwinVersion
  optional : Bool
  attrType : String
  metadata : Option TypeMetadata
  deriving DecidableEq, Repr

structure DeviceDelete where
  deviceID : String
  name : String
  deriving DecidableEq, Repr

/-- One entry of the `cols` map of a twin update; a nil value writes `NULL`. -/
inductive TwinColumn where
  | expected (value : Option String)
  | actual (value : Option String)
  | expectedMeta (data : Option ValueMetadata)
  | actualMeta (data : Option ValueMetadata)
  | expectedVersion (version : TwinVersion)
  | actualVersion (version : TwinVersion)
  | optional (optional : Bool)
  | attrType (type : String)
  | metadata (data : TypeMetadata)
  deriving DecidableEq, Repr

structure DeviceTwinUpdate where
  deviceID : String
  name : String
  cols : List TwinColumn
  deriving DecidableEq, Repr

structure TwinDoc where
  lastState : Option MsgTwin
  currentState : Option MsgTwin
  deriving DecidableEq, Repr

structure DealTwinResult where
  add : List DeviceTwin
  delete : List DeviceDelete
  update : List DeviceTwinUpdate
  result : GoMap (Option MsgTwin)
  syncResult : GoMap MsgTwin
  document : GoMap TwinDoc
  err : Option GoError

def DealTwinResult.empty : DealTwinResult := ⟨[], [], [], ∅, ∅, ∅, none⟩

/-- The loop body of `DeviceTwinToMsgTwin`: an empty text is a missing value,
    and the actual metadata is parsed but never attached. -/
def msgTwinOfRow (twin : DeviceTwin) : MsgTwin where
  expected := if twin.expected ≠ "" then some ⟨some twin.expected, twin.expectedMeta⟩ else none
  actual := if twin.actual ≠ "" then some ⟨some twin.actual, none⟩ else none
  optional := some twin.optional
  metadata := some ⟨twin.attrType⟩
  expectedVersion := twin.expectedVersion
  actualVersion := twin.actualVersion

def DeviceTwinToMsgTwin (deviceTwins : List DeviceTwin) : GoMap MsgTwin :=
  deviceTwins.foldl (fun msgTwins twin => msgTwins.insert twin.name (msgTwinOfRow twin)) ∅

def MsgTwinToDeviceTwin (name : String) (msgTwin : MsgTwin) : DeviceTwin where
  deviceID := ""
  name := name
  expected := ""
  actual := ""
  expectedMeta := none
  actualMeta := none
  expectedVersion := none
  actualVersion := none
  optional := msgTwin.optional.getD true
  attrType := (msgTwin.metadata.map (·.type)).getD "string"
  metadata := none

/-- `CopyMsgTwin` copies through a JSON round trip, which is the identity on
    these structs. -/
def CopyMsgTwin (msgTwin : MsgTwin) (noVersion : Bool) : MsgTwin :=
  if noVersion then { msgTwin with actualVersion := none, expectedVersion := none } else msgTwin

structure DeviceTwinUpdateMsg where
  eventID : String
  twin : Option (GoMap (Option MsgTwin))

def ErrorUpdate : GoError := "Update twin error, key:twin does not exist"
def ErrorKey : GoError :=
  "The key of twin must only include upper or lowercase letters, number, english, and special letter - _ . , : / @ # and the length of key should be less than 128 bytes"
def ErrorValue : GoError :=
  "The value of twin must only include upper or lowercase letters, number, english, and special letter - _ . , : / @ # and the length of value should be less than 512 bytes"

def twinValueOk (v : Option TwinValue) : Bool :=
  match v with
  | some ⟨some s, _⟩ => s == "" || ValidateTwinValue s
  | _ => true

/-- The checks of `UnmarshalDeviceTwinUpdate` on one entry, in the source's order. -/
def checkTwinEntry (key : String) (value : Option MsgTwin) : Option GoError :=
  if !ValidateTwinKey key then some ErrorKey
  else match value with
    | some v => if twinValueOk v.expected && twinValueOk v.actual then none else some ErrorValue
    | none => none

/-- `UnmarshalDeviceTwinUpdate` after decoding: the first failing entry in
    iteration order decides the error. -/
def UnmarshalDeviceTwinUpdate (msg : DeviceTwinUpdateMsg) : Option GoError :=
  match msg.twin with
  | none => some ErrorUpdate
  | some twin => twin.entries.findSome? (fun e => checkTwinEntry e.1 e.2)

end KubeEdge.Twin
