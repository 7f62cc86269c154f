import KubeEdge.Twin.Types

set_option autoImplicit false

/-!
# Device attributes: `DealMsgAttr` and the `device_attr` table

A device's attributes are kept in memory as `MsgAttr`s and in SQLite as
`DeviceAttr` rows. `DealMsgAttr` merges an attribute message into the device's
map and returns the rows to add, delete and update: an edge update
(`dealType` 0) deletes an optional attribute its message sets to nil, a sync
(`dealType` 1) also deletes the attributes its message leaves out. A new
attribute is stored as the message's own object, whose optional flag may be
nil, while its row takes the default `true`.
-/

namespace KubeEdge.Twin

structure MsgAttr where
  value : String
  optional : Option Bool
  metadata : Option TypeMetadata
  deriving DecidableEq, Repr

/-- A row of the `device_attr` table; `metadata` is the JSON text it holds, by
    the value it encodes. -/
structure DeviceAttr where
  deviceID : String
  name : String
  value : String
  optional : Bool
  attrType : String
  metadata : Option TypeMetadata
  deriving DecidableEq, Repr

inductive AttrColumn where
  | value (value : String)
  | attrType (type : String)
  | metadata (data : TypeMetadata)
  | optional (optional : Bool)
  deriving DecidableEq, Repr

structure DeviceAttrUpdate where
  deviceID : String
  name : String
  cols : List AttrColumn
  deriving DecidableEq, Repr

structure DealAttrResult where
  add : List DeviceAttr
  delete : List DeviceDelete
  update : List DeviceAttrUpdate
  result : GoMap (Option MsgAttr)

def DeviceAttrToMsgAttr (deviceAttrs : List DeviceAttr) : GoMap MsgAttr :=
  deviceAttrs.foldl (fun m attr => m.insert attr.name ⟨attr.value, some attr.optional, some ⟨attr.attrType⟩⟩) ∅

def MsgAttrToDeviceAttr (name : String) (msgAttr : MsgAttr) : DeviceAttr :=
  ⟨"", name, "", msgAttr.optional.getD true, (msgAttr.metadata.map (·.type)).getD stringType, none⟩

/-- The locals of the update of an existing attribute: the attribute, `cols`,
    `result[key]` and `isChange`. -/
structure AttrState where
  attr : MsgAttr
  cols : List AttrColumn
  result : MsgAttr
  isChange : Bool

def compareAttrValue (msgAttr : MsgAttr) (s : AttrState) : AttrState :=
  if s.attr.value ≠ msgAttr.value then
    { s with
      attr := { s.attr with value := msgAttr.value }
      cols := s.cols ++ [.value msgAttr.value]
      result := { s.result with value := msgAttr.value }
      isChange := true }
  else s

/-- The JSON of a `TypeMetadata` is injective, so the two texts differ exactly
    when the values do; the `metadata` column is written with the type cleared. -/
def compareAttrMetadata (msgAttr : MsgAttr) (s : AttrState) : AttrState :=
  match msgAttr.metadata with
  | none => s
  | some md =>
    if some md ≠ s.attr.metadata then
      { s with
        attr := { s.attr with metadata := some md }
        cols := s.cols ++ [.attrType md.type, .metadata ⟨""⟩]
        result := { s.result with metadata := some md }
        isChange := true }
    else s

/-- The optional flag may only go from `true` to `false`; the test reads
    `*attr.Optional`. -/
def compareAttrOptional (msgAttr : MsgAttr) (s : AttrState) : Option AttrState :=
  match msgAttr.optional with
  | none => some s
  | some msgOptional => do
    let optional ← s.attr.optional
    if msgOptional ≠ optional && optional then
      pure { s with
        attr := { s.attr with optional := some msgOptional }
        cols := s.cols ++ [.optional msgOptional]
        result := { s.result with optional := some msgOptional }
        isChange := true }
    else pure s

def addAttrRow (deviceID key : String) (msgAttr : MsgAttr) : DeviceAttr :=
  let deviceAttr := { MsgAttrToDeviceAttr key msgAttr with deviceID, value := msgAttr.value }
  let deviceAttr := match msgAttr.optional with
    | some optional => { deviceAttr with optional }
    | none => deviceAttr
  match msgAttr.metadata with
  | some md => { deviceAttr with attrType := md.type, metadata := some ⟨""⟩ }
  | none => deviceAttr

def dealAttrEntry (deviceID : String) (dealType : Nat) (r : DealAttrResult) (attrs : GoMap MsgAttr)
    (key : String) (msgAttr : Option MsgAttr) : Option (DealAttrResult × GoMap MsgAttr) :=
  match attrs.lookup key, msgAttr with
  | some attr, none =>
    -- only an edge update deletes here; a sync reads `msgAttr.Value`
    if dealType = 0 then do
      let optional ← attr.optional
      if optional then
        pure ({ r with delete := r.delete ++ [⟨deviceID, key⟩], result := r.result.insert key none },
          attrs.erase key)
      else pure (r, attrs)
    else none
  | some attr, some msgAttr => do
    let s := compareAttrMetadata msgAttr (compareAttrValue msgAttr ⟨attr, [], ⟨"", none, none⟩, false⟩)
    let s ← compareAttrOptional msgAttr s
    let attrs := attrs.insert key s.attr
    if s.isChange then
      pure ({ r with update := r.update ++ [⟨deviceID, key, s.cols⟩], result := r.result.insert key (some s.result) },
        attrs)
    else pure ({ r with result := r.result.erase key }, attrs)
  -- `MsgAttrToDeviceAttr(key, nil)` reads `msgAttr.Metadata`
  | none, none => none
  | none, some msgAttr =>
    pure ({ r with add := r.add ++ [addAttrRow deviceID key msgAttr], result := r.result.insert key (some msgAttr) },
      attrs.insert key msgAttr)

def dealAttrLoop (deviceID : String) (dealType : Nat) :
    List (Σ _ : String, Option MsgAttr) → DealAttrResult → GoMap MsgAttr → Option (DealAttrResult × GoMap MsgAttr)
  | [], r, attrs => some (r, attrs)
  | ⟨key, msgAttr⟩ :: rest, r, attrs => do
    let (r, attrs) ← dealAttrEntry deviceID dealType r attrs key msgAttr
    dealAttrLoop deviceID dealType rest r attrs

/-- `DealMsgAttr` on the attributes of an existing device: the result and the
    device's new attributes. -/
def DealMsgAttr (deviceID : String) (attrs : GoMap MsgAttr) (msgAttrs : GoMap (Option MsgAttr))
    (dealType : Nat) : Option (DealAttrResult × GoMap MsgAttr) := do
  let (r, attrs) ← dealAttrLoop deviceID dealType msgAttrs.entries ⟨[], [], [], ∅⟩ attrs
  if dealType > 0 then
    let missing := attrs.keys.filter fun key => key ∉ msgAttrs
    let r := { r with
      delete := r.delete ++ missing.map (⟨deviceID, ·⟩)
      result := missing.foldl (fun result key => result.insert key none) r.result }
    pure (r, r.delete.foldl (fun attrs d => attrs.erase d.name) attrs)
  else pure (r, attrs)

theorem dealAttrEntry_eq_none_of_unset_optional {deviceID : String} {dealType : Nat} {r : DealAttrResult}
    {attrs : GoMap MsgAttr} {key : String} {attr : MsgAttr} {msgAttr : Option MsgAttr}
    (hattr : attrs.lookup key = some attr) (hopt : attr.optional = none)
    (hmsg : (msgAttr = none ∧ dealType = 0) ∨ ∃ m, msgAttr = some m ∧ m.optional.isSome) :
    dealAttrEntry deviceID dealType r attrs key msgAttr = none := by
  rcases hmsg with ⟨rfl, rfl⟩ | ⟨m, rfl, hm⟩
  · simp [dealAttrEntry, hattr, hopt]
  · obtain ⟨o, ho⟩ := Option.isSome_iff_exists.mp hm
    -- the value and metadata steps keep the flag, which `compareAttrOptional` reads
    have hkeep : (compareAttrMetadata m (compareAttrValue m ⟨attr, [], ⟨"", none, none⟩, false⟩)).attr.optional =
        none := by
      unfold compareAttrMetadata compareAttrValue
      split <;> split_ifs <;> simp [hopt]
    simp [dealAttrEntry, hattr, compareAttrOptional, ho, hkeep]

def unflaggedAttrMsgs : GoMap (Option MsgAttr) :=
  (∅ : GoMap (Option MsgAttr)).insert "k" (some ⟨"1", none, none⟩)

def nilAttrMsgs : GoMap (Option MsgAttr) :=
  (∅ : GoMap (Option MsgAttr)).insert "k" none

/-- The attribute is written as optional, kept in memory with a nil flag, and
    the next edge update that deletes it dereferences that flag. -/
theorem DealMsgAttr_unflagged_attribute_panics :
    (DealMsgAttr "d" ∅ unflaggedAttrMsgs 0).map (fun res => (res.1.add, res.2.lookup "k")) =
      some ([⟨"d", "k", "1", true, "string", none⟩], some ⟨"1", none, none⟩) ∧
    ((DealMsgAttr "d" ∅ unflaggedAttrMsgs 0).bind fun res => DealMsgAttr "d" res.2 nilAttrMsgs 0).isNone := by
  decide

end KubeEdge.Twin
