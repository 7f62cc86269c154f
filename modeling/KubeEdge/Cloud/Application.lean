import KubeEdge.MetaServer.WatchChan
import KubeEdge.Cloud.Resource

set_option autoImplicit false

/-!
# Listeners of the dynamic controller

An edge node's watch application names a key and carries a label and a field
selector. `ToListener` turns it into a `SelectorListener`, adding the key's
namespace to the field selector, and `sendObj` forwards an object's event to
the node when `LabelFieldSelector.MatchObj` accepts the object. Selectors are
taken parsed; `labels.Parse` and `fields.ParseSelectorOrDie` and the
operators `Gt` and `Lt` are left out. Objects are unstructured.
-/

namespace KubeEdge.Cloud

open KubeEdge.Go KubeEdge.Beehive KubeEdge.MetaServer

abbrev LabelSet := AList (fun _ : String => String)

inductive SelectorOperator where
  | In
  | NotIn
  | Equals
  | DoubleEquals
  | NotEquals
  | Exists
  | DoesNotExist
  deriving DecidableEq, Repr

structure Requirement where
  key : String
  operator : SelectorOperator
  strValues : List String
  deriving DecidableEq, Repr

def Requirement.Matches (r : Requirement) (ls : LabelSet) : Bool :=
  match r.operator with
  | .In | .Equals | .DoubleEquals =>
    match ls.lookup r.key with
    | some v => decide (v ∈ r.strValues)
    | none => false
  | .NotIn | .NotEquals =>
    match ls.lookup r.key with
    | some v => decide (v ∉ r.strValues)
    | none => true
  | .Exists => (ls.lookup r.key).isSome
  | .DoesNotExist => (ls.lookup r.key).isNone

abbrev LabelSelector := List Requirement

def LabelSelector.Matches (sel : LabelSelector) (ls : LabelSet) : Bool :=
  sel.all (·.Matches ls)

/-- A term of a `fields.Selector`; an absent field reads as `""`. -/
inductive FieldTerm where
  | hasTerm (field value : String)
  | notHasTerm (field value : String)
  deriving DecidableEq, Repr

def FieldTerm.Matches : FieldTerm → LabelSet → Bool
  | .hasTerm field value, ls => (ls.lookup field).getD "" == value
  | .notHasTerm field value, ls => (ls.lookup field).getD "" != value

abbrev FieldSelector := List FieldTerm

def FieldSelector.Matches (sel : FieldSelector) (ls : LabelSet) : Bool :=
  sel.all (·.Matches ls)

structure LabelFieldSelector where
  label : LabelSelector
  field : FieldSelector

/-- `Match`: the source applies the label selector to both sets. -/
def LabelFieldSelector.Match (lf : LabelFieldSelector) (set set2 : LabelSet) : Bool :=
  lf.label.Matches set && lf.label.Matches set2

structure DynObject where
  kind : String
  name : String
  objectNamespace : String
  labels : LabelSet
  nodeName : Option String
  uid : String
  resourceVersion : String
  deletionTimestamp : Option Int64

/-- `UnstructuredAttr`: for a pod the namespace goes under `metadata.namespaces`;
    other kinds take `DefaultNamespaceScopedAttr`. -/
def UnstructuredAttr (obj : DynObject) : LabelSet × LabelSet :=
  if obj.kind = "Pod" then
    let setMap : LabelSet := ∅
    let setMap := if obj.name ≠ "" then setMap.insert "metadata.name" obj.name else setMap
    let setMap :=
      if obj.objectNamespace ≠ "" then setMap.insert "metadata.namespaces" obj.objectNamespace else setMap
    let setMap := match obj.nodeName with
      | some value => setMap.insert "spec.nodeName" value
      | none => setMap
    (obj.labels, setMap)
  else (obj.labels, ((∅ : LabelSet).insert "metadata.name" obj.name).insert "metadata.namespace" obj.objectNamespace)

def LabelFieldSelector.MatchObj (lf : LabelFieldSelector) (obj : DynObject) : Bool :=
  lf.Match (UnstructuredAttr obj).1 (UnstructuredAttr obj).2

structure SelectorListener where
  nodeName : String
  gvr : GroupVersionResource
  selector : LabelFieldSelector

/-- `Application.ToListener` for the application's node and key, with its
    options' selectors. -/
def ToListener (nodeName key : String) (label : LabelSelector) (field : FieldSelector) :
    Option SelectorListener := do
  let (gvr, ns, _) ← ParseKey key
  let selector : LabelFieldSelector := ⟨label, field⟩
  let selector :=
    if ns ≠ "" then { selector with field := selector.field ++ [.hasTerm "metadata.namespace" ns] } else selector
  pure ⟨nodeName, gvr, selector⟩

def DynamicControllerModuleName : String := "dynamiccontroller"
def InsertOperation : String := "insert"

/-- `sendObj`: the message sent to the node, under the ID `NewMessage` draws. -/
def sendObj (l : SelectorListener) (msgID : String) (event : MetaServer.Event DynObject) : Option Message :=
  if !l.selector.MatchObj event.object then none
  else
    let obj := event.object
    let ns := if obj.objectNamespace = "" then NullNamespace else obj.objectNamespace
    match BuildResource l.nodeName ns l.gvr.resource obj.name with
    | .error _ => none
    | .ok resource =>
      let operation := match event.type with
        | .added => InsertOperation
        | .modified => UpdateOperation
        | .deleted => DeleteOperation
      some ⟨⟨msgID, "", obj.resourceVersion, false⟩, ⟨DynamicControllerModuleName, GroupResource, operation, resource⟩,
        some ⟨obj.uid, obj.deletionTimestamp⟩⟩

/-- The fields the API server defines for an object: its name and namespace,
    and for a pod its node. -/
def apiFields (obj : DynObject) : LabelSet :=
  let fields := ((∅ : LabelSet).insert "metadata.name" obj.name).insert "metadata.namespace" obj.objectNamespace
  if obj.kind = "Pod" then
    match obj.nodeName with
    | some value => fields.insert "spec.nodeName" value
    | none => fields
  else fields

/-- An application's condition on an object: the key's namespace when it has
    one, the label selector on the labels and the field selector on the fields. -/
def intendedForward (ns : String) (label : LabelSelector) (field : FieldSelector) (obj : DynObject) : Bool :=
  (ns == "" || obj.objectNamespace == ns) && label.Matches obj.labels && field.Matches (apiFields obj)

def webPodIn (ns : String) (labels : LabelSet) : DynObject :=
  ⟨"Pod", "web", ns, labels, some "edge-1", "u1", "7", none⟩

/-- A watch of the pods of `default` receives a pod of namespace `other`, and a
    watch with the label selector `app=web` does not receive a pod labelled
    `app=web`: the label selector is also tested on the field set. -/
theorem sendObj_ignores_application_selectors :
    intendedForward "default" [] [] (webPodIn "other" ∅) = false ∧
    ((ToListener "edge-1" "/core/v1/pods/default" [] []).bind fun l =>
      sendObj l "m" ⟨.added, webPodIn "other" ∅⟩).isSome = true ∧
    intendedForward "default" [⟨"app", .Equals, ["web"]⟩] [] (webPodIn "default" ((∅ : LabelSet).insert "app" "web")) =
      true ∧
    ((ToListener "edge-1" "/core/v1/pods/default" [⟨"app", .Equals, ["web"]⟩] []).bind fun l =>
      sendObj l "m" ⟨.added, webPodIn "default" ((∅ : LabelSet).insert "app" "web")⟩).isNone = true := by
  decide

end KubeEdge.Cloud
