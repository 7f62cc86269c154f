import KubeEdge.MetaServer.Key

set_option autoImplicit false

/-!
# The events a sqlite watch channel emits

`watchChan.processEvent` passes the events of the meta store on to a watcher,
through the watcher's selection predicate: an object that stops matching is
sent as `Deleted`, a modified object that starts matching as `Added`, and
`added` records, per key, whether the key was last sent as present. The
object type and its predicate are left abstract; the key is `KeyFuncObj`'s.
-/

namespace KubeEdge.MetaServer

structure Event (α : Type) where
  type : EventType
  object : α
  deriving DecidableEq, Repr

/-- `Added` only while absent, `Modified` and `Deleted` only while present. -/
def streamStep (present : Bool) : EventType → Option Bool
  | .added => if present then none else some true
  | .modified => if present then some true else none
  | .deleted => if present then some false else none

def WellFormedStream (present : Bool) : List EventType → Bool
  | [] => true
  | type :: rest =>
    match streamStep present type with
    | some present => WellFormedStream present rest
    | none => false

/-- The part of the protocol about `Modified`, with presence read as "the last
    event was not `Deleted`". -/
def modifiedOnlyWhilePresent (present : Bool) : List EventType → Bool
  | [] => true
  | type :: rest => (type != .modified || present) && modifiedOnlyWhilePresent (type != .deleted) rest

def presentAfter (present : Bool) (types : List EventType) : Bool :=
  types.foldl (fun _ type => type != .deleted) present

section
variable {α : Type} (keyFunc : α → Except String String) (filter : α → Bool)

def switchEvent (hasBeenAdded matched : Bool) (e : Event α) : Option (Event α) :=
  if hasBeenAdded && !matched then some ⟨.deleted, e.object⟩
  else if hasBeenAdded && matched then some e
  else if !hasBeenAdded && !matched then none
  else if e.type = .modified then some ⟨.added, e.object⟩
  -- no case of the switch applies: the event goes out as it came
  else some e

/-- One incoming event: the key and event sent on `resultChan`, if any, and
    the `added` map after it. An object without a key is dropped. -/
def processEvent (added : AList (fun _ : String => Bool)) (e : Event α) :
    Option (String × Event α) × AList (fun _ : String => Bool) :=
  match keyFunc e.object with
  | .error _ => (none, added)
  | .ok key =>
    match switchEvent ((added.lookup key).getD false) (filter e.object) e with
    | none => (none, added)
    | some res => (some (key, res), added.insert key (res.type != .deleted))

def processEvents : List (Event α) → AList (fun _ : String => Bool) →
    List (String × Event α) × AList (fun _ : String => Bool)
  | [], added => ([], added)
  | e :: rest, added =>
    let (out, added) := processEvent keyFunc filter added e
    let (outs, added) := processEvents rest added
    (out.toList ++ outs, added)

end

def emittedTypes {α : Type} (key : String) (outs : List (String × Event α)) : List EventType :=
  (outs.filter (·.1 == key)).map (·.2.type)

theorem presentAfter_append (present : Bool) (xs ys : List EventType) :
    presentAfter present (xs ++ ys) = presentAfter (presentAfter present xs) ys := by
  simp [presentAfter, List.foldl_append]

theorem modifiedOnlyWhilePresent_append (present : Bool) (xs ys : List EventType) :
    modifiedOnlyWhilePresent present (xs ++ ys) =
      (modifiedOnlyWhilePresent present xs && modifiedOnlyWhilePresent (presentAfter present xs) ys) := by
  induction xs generalizing present with
  | nil => simp [modifiedOnlyWhilePresent, presentAfter]
  | cons x xs ih => simp [modifiedOnlyWhilePresent, presentAfter, ih, Bool.and_assoc]

theorem emittedTypes_append {α : Type} (key : String) (xs ys : List (String × Event α)) :
    emittedTypes key (xs ++ ys) = emittedTypes key xs ++ emittedTypes key ys := by
  simp [emittedTypes]

section
variable {α : Type} {keyFunc : α → Except String String} {filter : α → Bool}

theorem switchEvent_modified {hasBeenAdded matched : Bool} {e res : Event α}
    (h : switchEvent hasBeenAdded matched e = some res) (hmod : res.type = .modified) : hasBeenAdded = true := by
  cases hasBeenAdded
  · -- not added yet: dropped, sent as `Added` when modified, or sent as it came
    cases matched
    · simp [switchEvent] at h
    · simp only [switchEvent, Bool.false_and, Bool.not_false, Bool.not_true, Bool.and_false,
        Bool.false_eq_true, if_false] at h
      split at h
      · cases h
        cases hmod
      · cases h
        contradiction
  · rfl

theorem processEvent_spec {added added' : AList (fun _ : String => Bool)} {e : Event α}
    {out : Option (String × Event α)} (h : processEvent keyFunc filter added e = (out, added')) :
    (out = none ∧ added' = added) ∨
    ∃ key res, out = some (key, res) ∧ added' = added.insert key (res.type != .deleted) ∧
      (res.type = .modified → (added.lookup key).getD false = true) := by
  unfold processEvent at h
  split at h
  · cases h
    exact .inl ⟨rfl, rfl⟩
  · rename_i key _
    split at h
    · cases h
      exact .inl ⟨rfl, rfl⟩
    · rename_i res hres
      cases h
      exact .inr ⟨key, res, rfl, rfl, switchEvent_modified hres⟩

theorem processEvent_key {added added₁ : AList (fun _ : String => Bool)} {e : Event α}
    {out : Option (String × Event α)} (hstep : processEvent keyFunc filter added e = (out, added₁)) (k : String) :
    presentAfter ((added.lookup k).getD false) (emittedTypes k out.toList) = (added₁.lookup k).getD false ∧
      modifiedOnlyWhilePresent ((added.lookup k).getD false) (emittedTypes k out.toList) = true := by
  rcases processEvent_spec hstep with ⟨rfl, rfl⟩ | ⟨key, res, rfl, rfl, hmod⟩
  · simp [emittedTypes, presentAfter, modifiedOnlyWhilePresent]
  · by_cases hk : key = k
    · subst hk
      cases hres : res.type <;> simp_all [emittedTypes, presentAfter, modifiedOnlyWhilePresent]
    · simp [emittedTypes, presentAfter, modifiedOnlyWhilePresent, hk, AList.lookup_insert_ne (Ne.symm hk)]

/-- Over any run, for every key: `added` holds whether the last event sent for
    the key was not `Deleted`, and `Modified` is sent only while it was not. -/
theorem processEvents_added_records_last_sent (k : String) (events : List (Event α))
    (added : AList (fun _ : String => Bool)) :
    ((processEvents keyFunc filter events added).2.lookup k).getD false =
        presentAfter ((added.lookup k).getD false) (emittedTypes k (processEvents keyFunc filter events added).1) ∧
      modifiedOnlyWhilePresent ((added.lookup k).getD false)
        (emittedTypes k (processEvents keyFunc filter events added).1) = true := by
  induction events generalizing added with
  | nil => simp [processEvents, emittedTypes, presentAfter, modifiedOnlyWhilePresent]
  | cons e rest ih =>
    rcases hstep : processEvent keyFunc filter added e with ⟨out, added₁⟩
    obtain ⟨ih₁, ih₂⟩ := ih added₁
    obtain ⟨hpresent, hmodified⟩ := processEvent_key hstep k
    simp only [processEvents, hstep, emittedTypes_append, presentAfter_append,
      modifiedOnlyWhilePresent_append]
    rw [hpresent]
    exact ⟨ih₁, by rw [hmodified, Bool.true_and, ih₂]⟩

end

def webPodObject : KeyObject := ⟨⟨"", "v1", "Pod"⟩, "default", "web"⟩

/-- Under the empty predicate, a delete of a key never sent goes out as the
    first event for it, and a second add goes out while the key is added. -/
theorem processEvents_passes_unpaired_events :
    emittedTypes "/core/v1/pods/default/web"
        (processEvents KeyFuncObj (fun _ => true) [⟨.deleted, webPodObject⟩] ∅).1 = [.deleted] ∧
    WellFormedStream false [.deleted] = false ∧
    emittedTypes "/core/v1/pods/default/web"
        (processEvents KeyFuncObj (fun _ => true) [⟨.added, webPodObject⟩, ⟨.added, webPodObject⟩] ∅).1 =
      [.added, .added] ∧
    WellFormedStream false [.added, .added] = false := by
  decide

end KubeEdge.MetaServer
