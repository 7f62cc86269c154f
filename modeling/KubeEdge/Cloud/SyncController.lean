import KubeEdge.Go.Schema
import KubeEdge.Cloud.ChannelQueue

set_option autoImplicit false

/-!
# The sync controller's reconcile of one `ObjectSync`

An `ObjectSync` named `<node>.<uid>` records the resource version the edge
node acknowledged for one object. `manageObject` looks the object up in the
API server and sends the edge a delete when the object is gone, or an update
when the object is newer than the edge's version. The messages it sends are
returned as a list; `none` is a panic. The API server is a function from the
request to what `Get` returns.
-/

namespace KubeEdge.Cloud

open KubeEdge.Go KubeEdge.Beehive

def EdgeControllerModuleName : String := "edgecontroller"
def NamespaceNone : String := ""

def getNodeName (syncName : String) : String :=
  Join (Split syncName '.').dropLast '.'

/-- `tmps[len(tmps)-1]`; `Split` never returns an empty list. -/
def getObjectUID (syncName : String) : String :=
  (Split syncName '.').getLastD ""

structure ObjectSyncSpec where
  objectAPIVersion : String
  objectKind : String
  objectName : String
  deriving DecidableEq, Repr

structure ObjectSync where
  name : String
  syncNamespace : String
  spec : ObjectSyncSpec
  objectResourceVersion : String
  deriving DecidableEq, Repr

/-- The fields of the returned object `manageObject` and the message read. -/
structure ApiObject where
  uid : String
  resourceVersion : String
  deletionTimestamp : Option Int64
  deriving DecidableEq, Repr

/-- What the dynamic client's `Get` returns: the object, a not-found error, or
    another error. -/
inductive GetResult where
  | found (obj : ApiObject)
  | notFound
  | failed
  deriving DecidableEq, Repr

abbrev ApiServer := GroupVersionResource → String → String → GetResult

/-- The resource and namespace `manageObject` gets: `some none` where it
    returns on an unparsable API version, `none` where it panics indexing the
    second part of a CRD's API version. -/
def syncResource (sync : ObjectSync) : Option (Option (GroupVersionResource × String)) :=
  if Contains sync.spec.objectAPIVersion "kubeedge.io" then
    match Split sync.spec.objectAPIVersion '/' with
    | group :: version :: _ => some (some (⟨group, version, sync.spec.objectKind⟩, NamespaceNone))
    | _ => none
  else
    match ParseGroupVersion sync.spec.objectAPIVersion with
    | .error _ => some none
    | .ok gv => some (some (gv.WithResource sync.spec.objectKind, sync.syncNamespace))

/-- `buildEdgeControllerMessage`, under the ID `NewMessage` draws; `none` is
    its nil result on a resource it cannot build. -/
def buildEdgeControllerMessage (msgID nodeName resourceNamespace resourceType resourceName operationType : String)
    (obj : ApiObject) : Option Message :=
  match BuildResource nodeName resourceNamespace resourceType resourceName with
  | .error _ => none
  | .ok resource =>
    some ⟨⟨msgID, "", obj.resourceVersion, false⟩, ⟨EdgeControllerModuleName, GroupResource, operationType, resource⟩,
      some ⟨obj.uid, obj.deletionTimestamp⟩⟩

/-- `sendEvents`; `*msg` on a nil message panics. -/
def sendEvents (notFound : Bool) (msgID nodeName : String) (sync : ObjectSync)
    (resourceType objectResourceVersion : String) (obj : ApiObject) : Option (List Message) := do
  let resourceType := if resourceType = "missions" then "mission" else resourceType
  if notFound then
    let msg ← buildEdgeControllerMessage msgID nodeName sync.syncNamespace resourceType
      sync.spec.objectName DeleteOperation obj
    pure [msg]
  else if sync.objectResourceVersion = "" then pure []
  else
    let c ← CompareResourceVersion objectResourceVersion sync.objectResourceVersion
    if c > 0 then
      let msg ← buildEdgeControllerMessage msgID nodeName sync.syncNamespace resourceType
        sync.spec.objectName UpdateOperation obj
      pure [msg]
    else pure []

/-- `manageObject`: every error of `Get`, not-found included, returns before
    anything is sent; an object under another UID is sent as deleted. -/
def manageObject (api : ApiServer) (msgID : String) (sync : ObjectSync) : Option (List Message) := do
  match ← syncResource sync with
  | none => pure []
  | some (gvr, resourceNamespace) =>
    match api gvr resourceNamespace sync.spec.objectName with
    | .notFound | .failed => pure []
    | .found object =>
      sendEvents (getObjectUID sync.name ≠ object.uid) msgID (getNodeName sync.name) sync
        sync.spec.objectKind object.resourceVersion object

theorem Split_BuildObjectSyncName (nodeName uid : String) (huid : '.' ∉ uid.toList) :
    Split (BuildObjectSyncName nodeName uid) '.' = Split nodeName '.' ++ [uid] := by
  rw [BuildObjectSyncName, show "." = String.singleton '.' from rfl, Split_append_sep,
    Split_of_not_mem huid]

theorem getNodeName_BuildObjectSyncName (nodeName uid : String) (huid : '.' ∉ uid.toList) :
    getNodeName (BuildObjectSyncName nodeName uid) = nodeName := by
  rw [getNodeName, Split_BuildObjectSyncName nodeName uid huid, List.dropLast_concat, Join_Split]

theorem getObjectUID_BuildObjectSyncName (nodeName uid : String) (huid : '.' ∉ uid.toList) :
    getObjectUID (BuildObjectSyncName nodeName uid) = uid := by
  rw [getObjectUID, Split_BuildObjectSyncName nodeName uid huid, List.getLastD_concat]

/-- An object the API server does not find is never reported deleted: the
    not-found error of `Get` returns before `sendEvents`. -/
theorem manageObject_notFound {api : ApiServer} {msgID : String} {sync : ObjectSync}
    {gvr : GroupVersionResource} {ns : String} (hres : syncResource sync = some (some (gvr, ns)))
    (hget : api gvr ns sync.spec.objectName = .notFound) :
    manageObject api msgID sync = some [] := by
  simp [manageObject, hres, hget]

theorem manageObject_found {api : ApiServer} {msgID nodeName uid : String} {sync : ObjectSync}
    {gvr : GroupVersionResource} {ns : String} {obj : ApiObject}
    (hname : sync.name = BuildObjectSyncName nodeName uid) (huid : '.' ∉ uid.toList)
    (hres : syncResource sync = some (some (gvr, ns))) (hget : api gvr ns sync.spec.objectName = .found obj) :
    manageObject api msgID sync =
      sendEvents (uid ≠ obj.uid) msgID nodeName sync sync.spec.objectKind obj.resourceVersion obj := by
  have huid' := getObjectUID_BuildObjectSyncName nodeName uid huid
  have hnode := getNodeName_BuildObjectSyncName nodeName uid huid
  rw [← hname] at huid' hnode
  simp [manageObject, hres, hget, huid', hnode]

theorem manageObject_otherUID {api : ApiServer} {msgID nodeName uid : String} {sync : ObjectSync}
    {gvr : GroupVersionResource} {ns : String} {obj : ApiObject}
    (hname : sync.name = BuildObjectSyncName nodeName uid) (huid : '.' ∉ uid.toList)
    (hres : syncResource sync = some (some (gvr, ns))) (hget : api gvr ns sync.spec.objectName = .found obj)
    (hne : obj.uid ≠ uid) :
    manageObject api msgID sync =
      (buildEdgeControllerMessage msgID nodeName sync.syncNamespace
        (if sync.spec.objectKind = "missions" then "mission" else sync.spec.objectKind)
        sync.spec.objectName DeleteOperation obj).map fun msg => [msg] := by
  rw [manageObject_found hname huid hres hget, sendEvents, decide_eq_true (Ne.symm hne), if_pos rfl]
  exact Option.map_eq_bind.symm

theorem manageObject_sameUID {api : ApiServer} {msgID nodeName uid : String} {sync : ObjectSync}
    {gvr : GroupVersionResource} {ns : String} {obj : ApiObject} {a b : Nat}
    (hname : sync.name = BuildObjectSyncName nodeName uid) (huid : '.' ∉ uid.toList)
    (hres : syncResource sync = some (some (gvr, ns))) (hget : api gvr ns sync.spec.objectName = .found obj)
    (heq : obj.uid = uid) (ha : ParseUint obj.resourceVersion = some a)
    (hb : ParseUint sync.objectResourceVersion = some b) :
    manageObject api msgID sync =
      if b < a then
        (buildEdgeControllerMessage msgID nodeName sync.syncNamespace
          (if sync.spec.objectKind = "missions" then "mission" else sync.spec.objectKind)
          sync.spec.objectName UpdateOperation obj).map fun msg => [msg]
      else some [] := by
  -- a version that parses is not empty
  have hbne : sync.objectResourceVersion ≠ "" := by
    rintro h
    simp [h, ParseUint] at hb
  have hcmp : CompareResourceVersion obj.resourceVersion sync.objectResourceVersion =
      some (if a > b then 1 else if a = b then 0 else -1) := by
    simp [CompareResourceVersion, ha, hb]
  rw [manageObject_found hname huid hres hget]
  simp only [sendEvents, heq, ne_eq, not_true_eq_false, decide_false, Bool.false_eq_true, if_false, hbne,
    hcmp]
  by_cases hab : b < a
  · -- the versions compare as 1
    rw [if_pos hab, if_pos hab]
    exact Option.map_eq_bind.symm
  · -- not above: equal, or below
    have hc : ¬ (0 : Int) < (if a = b then 0 else -1) := by
      split_ifs <;> omega
    simp [hab, hc]

def podSync : ObjectSync :=
  ⟨BuildObjectSyncName "edge.node-1" "u1", "default", ⟨"v1", "pods", "p"⟩, "5"⟩

/-- The pod deleted from the API server is never reported to the node, while
    a pod recreated under another UID is. -/
theorem manageObject_deleted_object_sends_nothing :
    manageObject (fun _ _ _ => .notFound) "m" podSync = some [] ∧
    (manageObject (fun _ _ _ => .found ⟨"u2", "7", none⟩) "m" podSync).map (·.map (·.router)) =
      some [⟨EdgeControllerModuleName, GroupResource, DeleteOperation, "node/edge.node-1/default/pods/p"⟩] := by
  decide

end KubeEdge.Cloud
