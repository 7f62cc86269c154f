import KubeEdge.MetaManager.Message
import KubeEdge.MetaServer.Key
import KubeEdge.Go.Json
import KubeEdge.Cloud.Application

set_option autoImplicit false

/-!
# The imitator's `Inject`

Before the meta manager stores an insert or an update, and before it deletes,
it hands the message to `imitator.DefaultV2Client.Inject`. `Event` decodes the
content with the unstructured JSON scheme into watch events, one per item of a
list; `Inject` serves them in order, writing each object to `meta_v2` (three
tries) or deleting it there. Every `utilruntime.Must` on the way panics on an
error, and the meta manager's loop with it: `Inject` is `none` there. The rows
of `meta_v2` and the hooks `Trigger` wakes are left out; `Inject` returns the
events it served. `json.Unmarshal` is the parameter `Unmarshal`, `none` on a
text that is no JSON; encoding a decoded object never fails.
-/

namespace KubeEdge.Imitator

open KubeEdge.Go KubeEdge.MetaManager

structure Unstructured where
  Object : List (String × JsonValue)

def Unstructured.GetAPIVersion (u : Unstructured) : String := getNestedString u.Object ["apiVersion"]

def Unstructured.GetKind (u : Unstructured) : String := getNestedString u.Object ["kind"]

def Unstructured.GetNamespace (u : Unstructured) : String := getNestedString u.Object ["metadata", "namespace"]

def Unstructured.GetName (u : Unstructured) : String := getNestedString u.Object ["metadata", "name"]

def Unstructured.GroupVersionKind (u : Unstructured) : MetaServer.GroupVersionKind :=
  match ParseGroupVersion u.GetAPIVersion with
  | .error _ => ⟨"", "", ""⟩
  | .ok gv => ⟨gv.group, gv.version, u.GetKind⟩

def Unstructured.IsList (u : Unstructured) : Bool :=
  match u.Object.lookup "items" with
  | some (.array _) => true
  | _ => false

/-- `EachListItem`, collecting the items; `none` on its error for an item that
    is no map. -/
def Unstructured.EachListItem (u : Unstructured) : Option (List Unstructured) :=
  match u.Object.lookup "items" with
  | some (.array items) => items.mapM fun
    | .object child => some ⟨child⟩
    | _ => none
  | _ => none

def Unstructured.keyObject (u : Unstructured) : MetaServer.KeyObject :=
  ⟨u.GroupVersionKind, u.GetNamespace, u.GetName⟩

def decodeToUnstructured (Unmarshal : String → Option JsonValue) (data : String) : Option Unstructured :=
  match Unmarshal data with
  | some (.object m) => some ⟨m⟩
  -- `null` leaves the map nil
  | some .null => some ⟨[]⟩
  | _ => none

/-- `runtime.DecodeInto` with `UnstructuredJSONScheme`: a map with a kind. -/
def DecodeInto (Unmarshal : String → Option JsonValue) (data : String) : Option Unstructured :=
  (decodeToUnstructured Unmarshal data).bind fun obj =>
    if obj.GroupVersionKind.kind = "" then none else some obj

def parseResource (resource : String) : String × String × String :=
  Cloud.parseResource resource

def Event (Unmarshal : String → Option JsonValue) (msg : Message) :
    Option (List (Option MetaServer.EventType × Unstructured)) :=
  let resType := (parseResource msg.router.resource).2.1
  if Contains resType "status" then some []
  else
    match msg.content.marshal with
    | .error _ => none
    | .ok bytes =>
      let op : Option MetaServer.EventType :=
        if msg.router.operation = Cloud.InsertOperation then some .added
        else if msg.router.operation = Beehive.UpdateOperation then some .modified
        else if msg.router.operation = Beehive.DeleteOperation then some .deleted
        else none
      match DecodeInto Unmarshal bytes with
      | none => some []
      | some obj =>
        if obj.IsList then obj.EachListItem.map (·.map fun item => (op, item))
        else some [(op, obj)]

def Must (err : Option String) : Option Unit :=
  match err with
  | none => some ()
  | some _ => none

/-- `InsertOrUpdateObj`, given the outcome of its write after the three tries. -/
def InsertOrUpdateObj (write : Option String) (obj : Unstructured) : Option (Option String) :=
  match MetaServer.KeyFuncObj obj.keyObject with
  | .error _ => none
  | .ok _ => some (write.map fun _ => "failed to access database after 3 times try")

/-- `DeleteObj`: `Delete` logs its error and returns `nil`. -/
def DeleteObj (obj : Unstructured) : Option (Option String) :=
  match MetaServer.KeyFuncObj obj.keyObject with
  | .error _ => none
  | .ok _ => some none

def serve (write : Option String) (e : Option MetaServer.EventType × Unstructured) : Option Unit :=
  match e.1 with
  | some .added | some .modified => InsertOrUpdateObj write e.2 >>= Must
  | some .deleted => DeleteObj e.2 >>= Must
  | none => some ()

def injectFrom (injectWrite : Nat → Option String) : Nat → List (Option MetaServer.EventType × Unstructured) → Option Unit
  | _, [] => some ()
  | i, e :: rest => serve (injectWrite i) e >>= fun _ => injectFrom injectWrite (i + 1) rest

def Inject (Unmarshal : String → Option JsonValue) (injectWrite : Nat → Option String) (msg : Message) :
    Option (List (Option MetaServer.EventType × Unstructured)) := do
  let events ← Event Unmarshal msg
  injectFrom injectWrite 0 events
  pure events

section Panics
variable {Unmarshal : String → Option JsonValue} {injectWrite : Nat → Option String} {msg : Message}

theorem Inject_status (h : Contains (parseResource msg.router.resource).2.1 "status" = true) :
    Inject Unmarshal injectWrite msg = some [] := by
  simp [Inject, Event, h, injectFrom]

theorem KeyFuncObj_isOk_iff (obj : Unstructured) :
    (∃ key, MetaServer.KeyFuncObj obj.keyObject = .ok key) ↔ obj.GroupVersionKind ≠ ⟨"", "", ""⟩ := by
  unfold MetaServer.KeyFuncObj Unstructured.keyObject
  dsimp only
  split_ifs with h <;> simp [h]

theorem serve_eq_none_iff (write : Option String) (e : Option MetaServer.EventType × Unstructured) :
    serve write e = none ↔
      (e.1.isSome ∧ e.2.GroupVersionKind = ⟨"", "", ""⟩) ∨
        ((e.1 = some .added ∨ e.1 = some .modified) ∧ write.isSome) := by
  have hkey := KeyFuncObj_isOk_iff e.2
  obtain ⟨op, obj⟩ := e
  dsimp only at hkey ⊢
  cases hk : MetaServer.KeyFuncObj obj.keyObject with
  | error err =>
    have hgvk : obj.GroupVersionKind = ⟨"", "", ""⟩ := by simpa [hk] using hkey
    rcases op with _ | _ | _ | _ <;> simp [serve, InsertOrUpdateObj, DeleteObj, hk, hgvk]
  | ok key =>
    have hgvk : obj.GroupVersionKind ≠ ⟨"", "", ""⟩ := hkey.mp ⟨key, hk⟩
    rcases op with _ | _ | _ | _ <;> cases write <;> simp [serve, InsertOrUpdateObj, DeleteObj, Must, hk, hgvk]

theorem injectFrom_eq_none_iff (injectWrite : Nat → Option String) :
    ∀ (i : Nat) (events : List (Option MetaServer.EventType × Unstructured)),
      injectFrom injectWrite i events = none ↔ ∃ j e, events[j]? = some e ∧ serve (injectWrite (i + j)) e = none
  | _, [] => by simp [injectFrom]
  | i, e :: rest => by
    have ih := injectFrom_eq_none_iff injectWrite (i + 1) rest
    cases he : serve (injectWrite i) e with
    | none => exact ⟨fun _ => ⟨0, e, rfl, he⟩, fun _ => by simp [injectFrom, he]⟩
    | some u =>
      simp only [injectFrom, he, Option.bind_eq_bind, Option.bind_some, ih]
      constructor
      · rintro ⟨j, e', hj, hserve⟩
        exact ⟨j + 1, e', hj, by rwa [show i + (j + 1) = i + 1 + j by omega]⟩
      · rintro ⟨j, e', hj, hserve⟩
        cases j with
        | zero =>
          rw [List.getElem?_cons_zero, Option.some.injEq] at hj
          subst hj
          rw [Nat.add_zero, he] at hserve
          cases hserve
        | succ j => exact ⟨j, e', hj, by rwa [show i + 1 + j = i + (j + 1) by omega]⟩

theorem Inject_eq_none_iff :
    Inject Unmarshal injectWrite msg = none ↔
      Event Unmarshal msg = none ∨
        ∃ events, Event Unmarshal msg = some events ∧ injectFrom injectWrite 0 events = none := by
  unfold Inject
  cases Event Unmarshal msg with
  | none => simp
  | some events => cases hinj : injectFrom injectWrite 0 events <;> simp [hinj]

theorem Event_eq_none_iff :
    Event Unmarshal msg = none ↔
      Contains (parseResource msg.router.resource).2.1 "status" = false ∧
        ((∃ err, msg.content.marshal = .error err) ∨
          ∃ bytes obj, msg.content.marshal = .ok bytes ∧ DecodeInto Unmarshal bytes = some obj ∧
            obj.IsList = true ∧ obj.EachListItem = none) := by
  unfold Event
  cases hs : Contains (parseResource msg.router.resource).2.1 "status" with
  | true => simp [hs]
  | false =>
    simp only [hs, Bool.false_eq_true, if_false, true_and]
    cases hc : msg.content.marshal with
    | error err => simp
    | ok bytes =>
      cases hd : DecodeInto Unmarshal bytes with
      | none => simp [hd]
      | some obj => cases hl : obj.IsList <;> cases he : obj.EachListItem <;> simp [hd, hl, he]

theorem serve_none_of_ne_none {write : Option String} {e : Option MetaServer.EventType × Unstructured}
    (h : serve write e ≠ none) : serve none e ≠ none := by
  rw [Ne, serve_eq_none_iff] at h ⊢
  rintro (hgvk | ⟨-, hw⟩)
  · exact h (.inl hgvk)
  · cases hw

theorem injectFrom_of_writes {injectWrite' : Nat → Option String} {i : Nat}
    {events : List (Option MetaServer.EventType × Unstructured)} (h : injectFrom injectWrite i events ≠ none)
    (hw : ∀ j, injectWrite' j = none) : injectFrom injectWrite' i events ≠ none := by
  rw [Ne, injectFrom_eq_none_iff] at h ⊢
  rintro ⟨j, e, hj, hserve⟩
  rw [hw] at hserve
  exact serve_none_of_ne_none (fun hs => h ⟨j, e, hj, hs⟩) hserve

theorem Inject_of_writes {events : List (Option MetaServer.EventType × Unstructured)}
    {injectWrite' : Nat → Option String} (h : Inject Unmarshal injectWrite msg = some events)
    (hw : ∀ i, injectWrite' i = none) : Inject Unmarshal injectWrite' msg = some events := by
  unfold Inject at h ⊢
  cases hev : Event Unmarshal msg with
  | none => simp [hev] at h
  | some events' =>
    cases hinj : injectFrom injectWrite 0 events' with
    | none => simp [hev, hinj] at h
    | some u =>
      have hevents : events' = events := by simpa [hev, hinj] using h
      obtain ⟨u', hu'⟩ := Option.ne_none_iff_exists'.mp
        (injectFrom_of_writes (by rw [hinj]; exact Option.some_ne_none u) hw)
      subst hevents
      simp [hu']

end Panics

end KubeEdge.Imitator
