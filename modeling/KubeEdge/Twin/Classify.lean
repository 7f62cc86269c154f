import KubeEdge.Beehive.Message
import KubeEdge.Go.Strings
import KubeEdge.Lib.Base64

set_option autoImplicit false

/-!
# Classifying the messages of the device twin

The eventbus's MQTT server forwards a message published on a device or node
topic to the twin group, its resource the URL-safe base64 of the topic's bytes
(`Server.onSubscribe`). `classifyMsg` decodes the topic, takes its fourth
`/`-segment as the identity, cuts the topic around the first occurrence of the
identity with `strings.Index`, and looks the two ends up in `EventActionMap`.

A Go string is the list of its bytes: the topic and the identity cut from it
are byte lists. `classifyMsg` returns `none` where the Go code panics (an
index past the end of a slice). The message content is not modelled: the
twin's conversion of it to bytes and the `json.Marshal` of the edge manager's
branch change neither the result nor the identity and action.
-/

namespace KubeEdge.Twin

open KubeEdge.Go KubeEdge.Beehive

def BusGroup : String := "bus"
def HubGroup : String := "hub"
def TwinGroup : String := "twin"
def UserGroup : String := "user"

def LifeCycleConnectETPrefix : String := "$hw/events/connected/"
def LifeCycleDisconnectETPrefix : String := "$hw/events/disconnected/"
def MemETPrefix : String := "$hw/events/node/"
def MemETUpdateSuffix : String := "/membership/updated"
def MemETDetailResultSuffix : String := "/membership/detail/result"
def MemETGetSuffix : String := "/membership/get"
def DeviceETPrefix : String := "$hw/events/device/"
def TwinETUpdateSuffix : String := "/twin/update"
def TwinETGetSuffix : String := "/twin/get"
def TwinETCloudSyncSuffix : String := "/twin/cloud_updated"
def DeviceETUpdatedSuffix : String := "/updated"
def DeviceETStateUpdateSuffix : String := "/state/update"
def DeviceETStateGetSuffix : String := "/state/get"

def MemDetailResult : String := "MemDetailResult"
def MemGet : String := "MemGet"
def MemUpdated : String := "MemUpdated"
def TwinGet : String := "TwinGet"
def TwinUpdate : String := "TwinUpdate"
def TwinCloudSync : String := "TwinCloudSync"
def DeviceUpdated : String := "DeviceUpdated"
def DeviceStateGet : String := "DeviceStateGet"
def DeviceStateUpdate : String := "DeviceStateUpdate"
def LifeCycle : String := "LifeCycle"

def EventActionMap : List (String × List (String × String)) :=
  [(MemETPrefix,
      [(MemETDetailResultSuffix, MemDetailResult), (MemETUpdateSuffix, MemUpdated), (MemETGetSuffix, MemGet)]),
    (DeviceETPrefix,
      [(DeviceETStateGetSuffix, DeviceStateGet), (DeviceETUpdatedSuffix, DeviceUpdated),
        (DeviceETStateUpdateSuffix, DeviceStateUpdate), (TwinETUpdateSuffix, TwinUpdate),
        (TwinETCloudSyncSuffix, TwinCloudSync), (TwinETGetSuffix, TwinGet)])]

/-- `EventActionMap[prefix][suffix]` on the bytes of a topic: a missing prefix
    is a nil inner map, in which every lookup misses. -/
def lookupEventAction (pre suf : List UInt8) : Option String :=
  (EventActionMap.find? fun e => Bytes e.1 == pre).bind fun e =>
    (e.2.find? fun a => Bytes a.1 == suf).map (·.2)

/-- `Server.onSubscribe`: the group a message published on `topic` goes to, and its route. -/
def onSubscribe (topic : String) : String × MessageRoute :=
  if HasPrefix topic "$hw/events/device" || HasPrefix topic "$hw/events/node" then
    (TwinGroup, ⟨BusGroup, UserGroup, ResponseOperation, String.ofList (Base64.encode (Bytes topic))⟩)
  else (HubGroup, ⟨BusGroup, UserGroup, "upload", topic⟩)

structure DTMessage where
  Msg : Message
  Identity : List UInt8
  Action : String
  deriving DecidableEq

def slash : UInt8 := 47

def classifyMsg (message : DTMessage) : Option (Bool × DTMessage) :=
  let msgSource := message.Msg.router.source
  if msgSource = "bus" then
    let idLoc := 3
    match Base64.decode message.Msg.router.resource.toList with
    | none => some (false, message)
    | some topic =>
      let splitString := topic.splitOn slash
      if splitString.length = 4 then
        if (Bytes LifeCycleConnectETPrefix).isPrefixOf topic then
          some (true, { message with Identity := [], Action := LifeCycle })
        else if (Bytes LifeCycleDisconnectETPrefix).isPrefixOf topic then
          some (true, { message with Identity := [], Action := LifeCycle })
        else some (false, message)
      else do
        -- `splitString[idLoc]` panics on a topic of fewer than four segments
        let identity ← splitString[idLoc]?
        let loc := Index topic identity
        let nextLoc := loc + identity.length
        -- `topic[0:loc]` and `topic[nextLoc:]`
        if loc < 0 ∨ topic.length < nextLoc then none
        else
          match lookupEventAction (topic.take loc.toNat) (topic.drop nextLoc.toNat) with
          | some action => some (true, { message with Identity := identity, Action := action })
          | none => some (false, message)
  else if msgSource = "edgemgr" ∨ msgSource = "devicecontroller" then
    let resource := message.Msg.router.resource
    if Contains resource "membership/detail" then some (true, { message with Action := MemDetailResult })
    else if Contains resource "membership" then some (true, { message with Action := MemUpdated })
    else if Contains resource "twin/cloud_updated" then do
      -- `resources[1]` panics on a resource without `/`
      let identity ← (Split resource '/')[1]?
      some (true, { message with Action := TwinCloudSync, Identity := Bytes identity })
    else if Contains message.Msg.router.operation "updated" then
      let resources := Split resource '/'
      if resources.length = 2 ∧ elementAt resources 0 = "device" then
        some (true, { message with Action := DeviceUpdated, Identity := Bytes (elementAt resources 1) })
      else some (true, message)
    else some (false, message)
  else if msgSource = "edgehub" then
    if message.Msg.router.resource = "node/connection" then some (true, { message with Action := LifeCycle })
    else some (false, message)
  else some (false, message)

theorem Bytes_append (a b : String) : Bytes (a ++ b) = Bytes a ++ Bytes b := by
  simp [Bytes, String.toList_append, List.flatMap_append]

theorem EventActionMap_shape : ∀ e ∈ EventActionMap,
    (Bytes e.1).getLast? = some slash ∧ ((Bytes e.1).dropLast.splitOn slash).length = 3 ∧
      ∀ a ∈ e.2, (Bytes a.1).head? = some slash := by
  decide

theorem lookupEventAction_registered : ∀ e ∈ EventActionMap, ∀ a ∈ e.2,
    lookupEventAction (Bytes e.1) (Bytes a.1) = some a.2 := by
  decide

theorem find_take_eq_none : ∀ e ∈ EventActionMap, ∀ n < (Bytes e.1).length,
    (EventActionMap.find? fun e' => Bytes e'.1 == (Bytes e.1).take n) = none := by
  decide

theorem lookupEventAction_take {e : String × List (String × String)} (he : e ∈ EventActionMap) {n : Nat}
    (hn : n < (Bytes e.1).length) (suf : List UInt8) : lookupEventAction ((Bytes e.1).take n) suf = none := by
  simp [lookupEventAction, find_take_eq_none e he n hn]

theorem splitOn_topic {P S d : List UInt8} (hP : P.getLast? = some slash) (hS : S.head? = some slash)
    (hd : slash ∉ d) : (P ++ d ++ S).splitOn slash = P.dropLast.splitOn slash ++ d :: S.tail.splitOn slash := by
  obtain ⟨P', rfl⟩ := List.getLast?_eq_some_iff.mp hP
  obtain ⟨S', rfl⟩ := List.head?_eq_some_iff.mp hS
  have htopic : P' ++ [slash] ++ d ++ slash :: S' = P' ++ slash :: (d ++ slash :: S') := by simp
  rw [htopic, List.splitOn_append_cons_self, List.splitOn_append_cons_self, List.splitOn_eq_singleton hd,
    List.dropLast_concat, List.tail_cons]
  rfl

theorem splitOn_event {e : String × List (String × String)} (he : e ∈ EventActionMap) {a : String × String}
    (ha : a ∈ e.2) {d : List UInt8} (hd : slash ∉ d) :
    ((Bytes e.1 ++ d ++ Bytes a.1).splitOn slash).length ≠ 4 ∧
      ((Bytes e.1 ++ d ++ Bytes a.1).splitOn slash)[3]? = some d := by
  obtain ⟨hlast, hthree, hhead⟩ := EventActionMap_shape e he
  rw [splitOn_topic hlast (hhead a ha) hd]
  have hrest := List.splitOn_ne_nil slash (Bytes a.1).tail
  constructor
  · rw [List.length_append, hthree, List.length_cons]
    have : 0 < ((Bytes a.1).tail.splitOn slash).length := List.length_pos_iff.mpr hrest
    omega
  · rw [List.getElem?_append_right (by omega), hthree]
    rfl

theorem prefix_drop_event (P d S : List UInt8) : d <+: (P ++ d ++ S).drop P.length := by
  rw [List.append_assoc, List.drop_left]
  exact List.prefix_append d S

section Bus
variable {message : DTMessage} (hbus : message.Msg.router.source = "bus")
include hbus

theorem classifyMsg_short {topic : List UInt8}
    (hres : message.Msg.router.resource = String.ofList (Base64.encode topic))
    (hshort : (topic.splitOn slash).length < 4) : classifyMsg message = none := by
  have hnone : (topic.splitOn slash)[3]? = none := List.getElem?_eq_none (by omega)
  simp [classifyMsg, hbus, hres, Base64.decode_encode, show (topic.splitOn slash).length ≠ 4 by omega, hnone]

theorem classifyMsg_cut {topic d : List UInt8} {j : Nat}
    (hres : message.Msg.router.resource = String.ofList (Base64.encode topic))
    (hlen : (topic.splitOn slash).length ≠ 4) (hid : (topic.splitOn slash)[3]? = some d)
    (hloc : Index topic d = (j : Int)) (hend : j + d.length ≤ topic.length) :
    classifyMsg message =
      some ((lookupEventAction (topic.take j) (topic.drop (j + d.length))).elim (false, message)
        fun action => (true, { message with Identity := d, Action := action })) := by
  have hcut : ¬((j : Int) < 0 ∨ (topic.length : Int) < (j : Int) + d.length) := by omega
  have hnext : ((j : Int) + d.length).toNat = j + d.length := by omega
  simp only [classifyMsg, hbus, hres, String.toList_ofList, Base64.decode_encode, if_true, if_neg hlen, hid, hloc,
    Option.bind_eq_bind, Option.bind_some, if_neg hcut, Int.toNat_natCast, hnext]
  cases lookupEventAction (topic.take j) (topic.drop (j + d.length)) <;> rfl

/-- An identity that also occurs before the end of the topic's prefix: `Index`
    finds the earlier occurrence, the topic is cut inside its prefix, and the
    lookup misses. -/
theorem classifyMsg_early {e : String × List (String × String)} (he : e ∈ EventActionMap) {a : String × String}
    (ha : a ∈ e.2) {d : List UInt8} (hd : slash ∉ d)
    (hres : message.Msg.router.resource = String.ofList (Base64.encode (Bytes e.1 ++ d ++ Bytes a.1)))
    (hearly : ∃ i < (Bytes e.1).length, d <+: (Bytes e.1 ++ d ++ Bytes a.1).drop i) :
    classifyMsg message = some (false, message) := by
  obtain ⟨hlen, hid⟩ := splitOn_event he ha hd
  obtain ⟨i, hi, hocc⟩ := hearly
  obtain ⟨j, hj, hloc, hjocc, hfirst⟩ := Index_spec hocc
  have htake : (Bytes e.1 ++ d ++ Bytes a.1).take j = (Bytes e.1).take j := by
    rw [List.append_assoc, List.take_append_of_le_length (by omega)]
  rw [classifyMsg_cut hbus hres hlen hid hloc (add_length_le_of_first hjocc hfirst), htake,
    lookupEventAction_take he (by omega)]
  rfl

theorem classifyMsg_registered {e : String × List (String × String)} (he : e ∈ EventActionMap)
    {a : String × String} (ha : a ∈ e.2) {d : List UInt8} (hd : slash ∉ d)
    (hres : message.Msg.router.resource = String.ofList (Base64.encode (Bytes e.1 ++ d ++ Bytes a.1)))
    (hlater : ∀ i < (Bytes e.1).length, ¬d <+: (Bytes e.1 ++ d ++ Bytes a.1).drop i) :
    classifyMsg message = some (true, { message with Identity := d, Action := a.2 }) := by
  obtain ⟨hlen, hid⟩ := splitOn_event he ha hd
  obtain ⟨j, hj, hloc, hjocc, hfirst⟩ := Index_spec (prefix_drop_event (Bytes e.1) d (Bytes a.1))
  -- the first occurrence is the one at the end of the prefix
  have hjP : j = (Bytes e.1).length := by
    by_contra hne
    exact hlater j (by omega) hjocc
  subst hjP
  have htake : (Bytes e.1 ++ d ++ Bytes a.1).take (Bytes e.1).length = Bytes e.1 := by
    rw [List.append_assoc, List.take_left]
  have hdrop : (Bytes e.1 ++ d ++ Bytes a.1).drop ((Bytes e.1).length + d.length) = Bytes a.1 := by
    rw [← List.length_append, List.drop_left]
  rw [classifyMsg_cut hbus hres hlen hid hloc (add_length_le_of_first hjocc hfirst), htake, hdrop,
    lookupEventAction_registered e he a ha]
  rfl

end Bus

/-- A bus message on a topic of fewer than four segments panics, and one on an
    event topic whose identity also occurs before the end of its prefix is not
    classified. -/
theorem classifyMsg_misreads_topics (message : DTMessage) (hbus : message.Msg.router.source = "bus") :
    (∀ topic : List UInt8, (topic.splitOn slash).length < 4 →
      message.Msg.router.resource = String.ofList (Base64.encode topic) → classifyMsg message = none) ∧
    (∀ e ∈ EventActionMap, ∀ a ∈ e.2, ∀ d : List UInt8, slash ∉ d →
      message.Msg.router.resource = String.ofList (Base64.encode (Bytes e.1 ++ d ++ Bytes a.1)) →
      (∃ i < (Bytes e.1).length, d <+: (Bytes e.1 ++ d ++ Bytes a.1).drop i) →
      classifyMsg message = some (false, message)) :=
  ⟨fun _ hshort hres => classifyMsg_short hbus hres hshort,
    fun _ he _ ha _ hd hres hearly => classifyMsg_early hbus he ha hd hres hearly⟩

theorem classifyMsg_misreads_topics_node_e :
    (⟨⟨⟨"", "", "", false⟩, (onSubscribe "$hw/events/node/e/membership/updated").2, none⟩, [], ""⟩ : DTMessage).Msg.router.source = "bus" ∧
      classifyMsg ⟨⟨⟨"", "", "", false⟩, (onSubscribe "$hw/events/node/e/membership/updated").2, none⟩, [], ""⟩ =
        some (false, ⟨⟨⟨"", "", "", false⟩, (onSubscribe "$hw/events/node/e/membership/updated").2, none⟩, [], ""⟩) ∧
    (⟨⟨⟨"", "", "", false⟩, (onSubscribe "$hw/events/node").2, none⟩, [], ""⟩ : DTMessage).Msg.router.source = "bus" ∧
      classifyMsg ⟨⟨⟨"", "", "", false⟩, (onSubscribe "$hw/events/node").2, none⟩, [], ""⟩ = none :=
  have hbus : (⟨⟨⟨"", "", "", false⟩, (onSubscribe "$hw/events/node/e/membership/updated").2, none⟩, [], ""⟩ :
      DTMessage).Msg.router.source = "bus" := by decide
  have hbus₂ : (⟨⟨⟨"", "", "", false⟩, (onSubscribe "$hw/events/node").2, none⟩, [], ""⟩ :
      DTMessage).Msg.router.source = "bus" := by decide
  ⟨hbus, (classifyMsg_misreads_topics _ hbus).2 (MemETPrefix, [(MemETDetailResultSuffix, MemDetailResult),
      (MemETUpdateSuffix, MemUpdated), (MemETGetSuffix, MemGet)]) List.mem_cons_self
    (MemETUpdateSuffix, MemUpdated) (by decide) (Bytes "e") (by decide) (by decide) ⟨4, by decide, by decide⟩,
    hbus₂, (classifyMsg_misreads_topics _ hbus₂).1 (Bytes "$hw/events/node") (by decide) (by decide)⟩

theorem onSubscribe_event {e : String × List (String × String)} (he : e ∈ EventActionMap) (rest : String) :
    onSubscribe (e.1 ++ rest) =
      (TwinGroup, ⟨BusGroup, UserGroup, ResponseOperation, String.ofList (Base64.encode (Bytes (e.1 ++ rest)))⟩) := by
  have hpre : ∀ e ∈ EventActionMap, HasPrefix e.1 "$hw/events/device" = true ∨ HasPrefix e.1 "$hw/events/node" = true := by
    decide
  have hroute : (HasPrefix (e.1 ++ rest) "$hw/events/device" || HasPrefix (e.1 ++ rest) "$hw/events/node") = true := by
    rcases hpre e he with h | h
    · simp [HasPrefix_append h rest]
    · simp [HasPrefix_append h rest]
  rw [onSubscribe, if_pos hroute]

/-- A message published on an event topic goes to the twin, which classifies it
    with the topic's identity and the action registered for its prefix and
    suffix, whenever the identity does not also occur inside the prefix. -/
theorem classifyMsg_onSubscribe {e : String × List (String × String)} (he : e ∈ EventActionMap)
    {a : String × String} (ha : a ∈ e.2) (id : String) (hid : slash ∉ Bytes id)
    (hlater : ∀ i < (Bytes e.1).length, ¬Bytes id <+: (Bytes e.1 ++ Bytes id ++ Bytes a.1).drop i)
    (header : MessageHeader) (content : Option ObjectMeta) (identity : List UInt8) (action : String) :
    (onSubscribe (e.1 ++ id ++ a.1)).1 = TwinGroup ∧
      classifyMsg ⟨⟨header, (onSubscribe (e.1 ++ id ++ a.1)).2, content⟩, identity, action⟩ =
        some (true, ⟨⟨header, (onSubscribe (e.1 ++ id ++ a.1)).2, content⟩, Bytes id, a.2⟩) := by
  rw [String.append_assoc, onSubscribe_event he]
  refine ⟨rfl, ?_⟩
  have hres : String.ofList (Base64.encode (Bytes (e.1 ++ (id ++ a.1)))) =
      String.ofList (Base64.encode (Bytes e.1 ++ Bytes id ++ Bytes a.1)) := by
    rw [Bytes_append, Bytes_append, List.append_assoc]
  exact classifyMsg_registered rfl he ha hid hres hlater

theorem classifyMsg_onSubscribe_sensor :
    (MemETPrefix, [(MemETDetailResultSuffix, MemDetailResult), (MemETUpdateSuffix, MemUpdated),
      (MemETGetSuffix, MemGet)]) ∈ EventActionMap ∧
    (MemETUpdateSuffix, MemUpdated) ∈ [(MemETDetailResultSuffix, MemDetailResult), (MemETUpdateSuffix, MemUpdated),
      (MemETGetSuffix, MemGet)] ∧
    slash ∉ Bytes "sensor" ∧
    (∀ i < (Bytes MemETPrefix).length, ¬Bytes "sensor" <+: (Bytes MemETPrefix ++ Bytes "sensor" ++ Bytes MemETUpdateSuffix).drop i) ∧
    (onSubscribe (MemETPrefix ++ "sensor" ++ MemETUpdateSuffix)).1 = TwinGroup ∧
      classifyMsg ⟨⟨⟨"", "", "", false⟩, (onSubscribe (MemETPrefix ++ "sensor" ++ MemETUpdateSuffix)).2, none⟩, [], ""⟩ =
        some (true, ⟨⟨⟨"", "", "", false⟩, (onSubscribe (MemETPrefix ++ "sensor" ++ MemETUpdateSuffix)).2, none⟩,
          Bytes "sensor", MemUpdated⟩) :=
  have he : (MemETPrefix, [(MemETDetailResultSuffix, MemDetailResult), (MemETUpdateSuffix, MemUpdated),
      (MemETGetSuffix, MemGet)]) ∈ EventActionMap := List.mem_cons_self
  have ha : (MemETUpdateSuffix, MemUpdated) ∈ [(MemETDetailResultSuffix, MemDetailResult),
      (MemETUpdateSuffix, MemUpdated), (MemETGetSuffix, MemGet)] := by decide
  have hid : slash ∉ Bytes "sensor" := by decide
  have hlater : ∀ i < (Bytes MemETPrefix).length,
      ¬Bytes "sensor" <+: (Bytes MemETPrefix ++ Bytes "sensor" ++ Bytes MemETUpdateSuffix).drop i := by decide
  ⟨he, ha, hid, hlater, classifyMsg_onSubscribe he ha "sensor" hid hlater ⟨"", "", "", false⟩ none [] ""⟩

end KubeEdge.Twin
