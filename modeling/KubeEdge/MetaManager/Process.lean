import KubeEdge.MetaManager.Dao
import KubeEdge.MetaManager.Imitator
import KubeEdge.Beehive.ParseResource
import KubeEdge.Cloud.SyncController
import KubeEdge.Lib.FoldM
import Mathlib.Data.List.Sort

set_option autoImplicit false

/-!
# The meta manager's message loop

`metaManager.process` dispatches each message it receives on its operation to
one handler, which writes the meta table and sends messages on: to edged or
clusterd (as a response when the request was synchronous), to the cloud through
the context's send group, or to the edge function module. A remote query runs in
a goroutine: its `SendSync` to the cloud is recorded when the query arrives, and
its answer is a step of its own, so that other messages are processed in
between.

A step is given what the world answers it (`Answers`): the database's answers
to its calls, edged's to a volume operation, and the order in which Go ranges
over the map of pod statuses. The loop panics, and `process` is `none`, where
`Inject` panics on an insert, an update or a delete, and where
`ParseResourceEdge` panics in `syncPodStatus`.
-/

namespace KubeEdge.MetaManager

def MetaManagerModuleName : String := "metaManager"
def OK : String := "OK"
def GroupResource : String := "resource"
def OperationMetaSync : String := "meta-internal-sync"
def OperationFunctionAction : String := "action"
def OperationFunctionActionResult : String := "action_result"
def EdgeFunctionModel : String := "edgefunction"
def CloudFunctionModel : String := "funcmgr"
def CloudControlerModel : String := "edgecontroller"

def EdgedModuleName : String := "edged"
def ClusterdModuleName : String := "clusterd"
def OperationNodeConnection : String := "connect"
def CloudConnected : String := "cloud_connected"
def CloudDisconnected : String := "cloud_disconnected"

def ResourceTypePod : String := "pod"
def ResourceTypePodStatus : String := "podstatus"
def ResourceTypeConfigmap : String := "configmap"
def ResourceTypeSecret : String := "secret"
def ResourceTypePersistentVolume : String := "persistentvolume"
def ResourceTypePersistentVolumeClaim : String := "persistentvolumeclaim"
def ResourceTypeVolumeAttachment : String := "volumeattachment"
def ResourceTypeMission : String := "mission"
def ResourceTypeMissionList : String := "missionlist"
def ResourceTypeEdgeCluster : String := "edgecluster"
def ResourceTypeEdgeClusterList : String := "edgeclusterlist"

def CSIOperationTypeCreateVolume : String := "createvolume"
def CSIOperationTypeDeleteVolume : String := "deletevolume"
def CSIOperationTypeControllerPublishVolume : String := "controllerpublishvolume"
def CSIOperationTypeControllerUnpublishVolume : String := "controllerunpublishvolume"

inductive Call where
  | Send (module : String)
  | SendResp
  | SendToGroup (group : String)
  | SendSync (module : String)
  deriving DecidableEq, Repr

structure Sent where
  call : Call
  message : OutMessage
  deriving DecidableEq, Repr

/-- The meta manager's state: its mode, the configuration and connection flag
    of `metamanager/config`, the meta table, the remote queries whose goroutine
    waits on the cloud, and every message sent so far. -/
structure metaManager where
  edgeClusterMode : Bool
  ContextSendGroup : String
  ContextSendModule : String
  Connected : Bool
  table : MetaTable
  remoteQueries : List Message
  sent : List Sent

def metaManager.send (s : metaManager) (call : Call) (message : OutMessage) : metaManager :=
  { s with sent := s.sent ++ [⟨call, message⟩] }

def sendToEdgeModules (message : OutMessage) (sync : Bool) (moduleName : String) (s : metaManager) :
    metaManager :=
  if sync then s.send .SendResp message else s.send (.Send moduleName) message

def sendToEdged (message : OutMessage) (sync : Bool) (s : metaManager) : metaManager :=
  sendToEdgeModules message sync EdgedModuleName s

def sendToClusterd (message : OutMessage) (sync : Bool) (s : metaManager) : metaManager :=
  sendToEdgeModules message sync ClusterdModuleName s

def sendToCloud (message : OutMessage) (s : metaManager) : metaManager :=
  s.send (.SendToGroup s.ContextSendGroup) message

/-- `feedbackError` with an error: every caller passes one. -/
def feedbackError (err info : String) (request : Message) (s : metaManager) : metaManager :=
  let errInfo := info ++ ": " ++ err
  let errResponse := (NewErrorMessage request errInfo).SetRoute MetaManagerModuleName request.router.group
  if request.router.source = EdgedModuleName then sendToEdged errResponse request.header.sync s
  else if request.router.source = ClusterdModuleName then sendToClusterd errResponse request.header.sync s
  else sendToCloud errResponse s

def requireRemoteQuery (resType : String) : Bool :=
  resType == ResourceTypeConfigmap || resType == ResourceTypeSecret ||
    resType == ResourceTypePersistentVolume || resType == ResourceTypePersistentVolumeClaim ||
    resType == ResourceTypeVolumeAttachment || resType == Beehive.ResourceTypeNode

def isClusterdResource (resType : String) : Bool :=
  resType == ResourceTypeMission || resType == ResourceTypeMissionList ||
    resType == ResourceTypeEdgeCluster || resType == ResourceTypeEdgeClusterList

def resourceUnchanged (query : Option String) (resType resKey content : String) (table : MetaTable) : Bool :=
  resType == ResourceTypePodStatus && query.isNone &&
    match QueryMeta .key resKey table with
    | v :: _ => content == v
    | [] => false

theorem resourceUnchanged_lookup {query : Option String} {resType resKey content : String} {table : MetaTable}
    (h : resourceUnchanged query resType resKey content table = true) :
    (table.lookup resKey).map Prod.snd = some content := by
  unfold resourceUnchanged at h
  rw [QueryMeta_key] at h
  cases hl : table.lookup resKey with
  | none => simp [hl] at h
  | some row =>
    simp only [hl, Option.map_some, Option.toList_some, Bool.and_eq_true, beq_iff_eq] at h
    rw [Option.map_some, h.2]

section Handlers
variable (Unmarshal : String → Option Go.JsonValue)

def processUpdate (dao : Dao) (message : Message) (s : metaManager) : Option metaManager :=
  match message.content.marshal with
  | .error err => some (feedbackError err "Error to marshal message content" message s)
  | .ok content => do
    let _ ← Imitator.Inject Unmarshal dao.injectWrite message
    pure <|
      let resKey := (Cloud.parseResource message.router.resource).1
      let resType := (Cloud.parseResource message.router.resource).2.1
      let sync := message.header.sync
      if resourceUnchanged dao.query resType resKey content s.table then
        let resp := NewRespByMessage message (.text OK)
        if isClusterdResource resType then sendToClusterd resp sync s else sendToEdged resp sync s
      else
        match dao.write with
        | some err => feedbackError err "Error to update meta to DB" message s
        | none =>
          let s := { s with table := InsertOrUpdate ⟨resKey, resType, content⟩ s.table }
          let msgSource := message.router.source
          if msgSource = EdgedModuleName then
            sendToEdged (NewRespByMessage message (.text OK)) sync (sendToCloud message.out s)
          else if msgSource = ClusterdModuleName then
            sendToClusterd (NewRespByMessage message (.text OK)) sync (sendToCloud message.out s)
          else if msgSource = Cloud.EdgeControllerModuleName ∨ msgSource = Cloud.DynamicControllerModuleName then
            let s := if isClusterdResource resType then sendToClusterd message.out sync s
              else sendToEdged message.out sync s
            sendToCloud (NewRespByMessage message (.text OK)) s
          else if msgSource = CloudFunctionModel then s.send (.Send EdgeFunctionModel) message.out
          else if msgSource = EdgeFunctionModel then sendToCloud message.out s
          else s

def processInsert (dao : Dao) (message : Message) (s : metaManager) : Option metaManager :=
  let resKey := (Cloud.parseResource message.router.resource).1
  let resType := (Cloud.parseResource message.router.resource).2.1
  -- only a stored resource of edge clusters is updated in place; a failed query finds none
  if isClusterdResource resType ∧ dao.query = none ∧ (QueryMeta .key resKey s.table).length > 0 then
    processUpdate Unmarshal dao message s
  else
    match message.content.marshal with
    | .error err => some (feedbackError err "Error to marshal message content" message s)
    | .ok content => do
      let _ ← Imitator.Inject Unmarshal dao.injectWrite message
      pure <|
        match dao.write with
        | some err => feedbackError err "Error to save meta to DB" message s
        | none =>
          let s := { s with table := SaveMeta ⟨resKey, resType, content⟩ s.table }
          let s := if isClusterdResource resType then sendToClusterd message.out false s
            else sendToEdged message.out false s
          sendToCloud (NewRespByMessage message (.text OK)) s

def processResponse (dao : Dao) (message : Message) (s : metaManager) : metaManager :=
  match message.content.marshal with
  | .error err => feedbackError err "Error to marshal message content" message s
  | .ok content =>
    match dao.write with
    | some err => feedbackError err "Error to update meta to DB" message s
    | none =>
      let resKey := (Cloud.parseResource message.router.resource).1
      let resType := (Cloud.parseResource message.router.resource).2.1
      let s := { s with table := InsertOrUpdate ⟨resKey, resType, content⟩ s.table }
      if message.router.source = CloudControlerModel then
        if isClusterdResource resType then sendToClusterd message.out message.header.sync s
        else sendToEdged message.out message.header.sync s
      else sendToCloud message.out s

def processDelete (dao : Dao) (message : Message) (s : metaManager) : Option metaManager := do
  let _ ← Imitator.Inject Unmarshal dao.injectWrite message
  pure <|
    match dao.write with
    | some err => feedbackError err "Error to delete meta to DB" message s
    | none =>
      let s := { s with table := DeleteMetaByKey message.router.resource s.table }
      let resType := (Cloud.parseResource message.router.resource).2.1
      if resType = ResourceTypePod ∧ message.router.source = EdgedModuleName then sendToCloud message.out s
      else
        let s := if isClusterdResource resType then sendToClusterd message.out message.header.sync s
          else sendToEdged message.out false s
        sendToCloud (NewRespByMessage message (.text OK)) s

/-- `processRemoteQuery` up to its goroutine's `SendSync`: the query leaves for
    the cloud under a new ID and waits for the answer. -/
def processRemoteQuery (message : Message) (s : metaManager) : metaManager :=
  { s.send (.SendSync s.ContextSendModule) (UpdateID message).out with
    remoteQueries := s.remoteQueries ++ [message] }

/-- The rest of the goroutine of `processRemoteQuery`, once `SendSync` returns
    the cloud's answer or an error, given the error of its write. -/
def remoteQueryDone (original : Message) (result : Except String Message) (write : Option String) (s : metaManager) :
    metaManager :=
  let originalID := original.header.id
  let message := UpdateID original
  match result with
  | .error err => feedbackError err "Error to query meta in DB" message s
  | .ok resp =>
    match resp.content.marshal with
    | .error err => feedbackError err "Error to marshal message content" message s
    | .ok content =>
      let resKey := (Cloud.parseResource message.router.resource).1
      let resType := (Cloud.parseResource message.router.resource).2.1
      -- a failed write is only logged
      let s := match write with
        | none => { s with table := InsertOrUpdate ⟨resKey, resType, content⟩ s.table }
        | some _ => s
      let resp := { resp with header := { resp.header with parentID := originalID } }
      -- edge clusters are sent the query itself, not the answer
      let s := if isClusterdResource resType then sendToClusterd message.out message.header.sync s
        else sendToEdged resp.out message.header.sync s
      sendToCloud (NewRespByMessage resp (.text OK)) s

/-- The answer `processQuery` gives from the table, sent from the meta manager. -/
def sendQueryResp (message : Message) (metas : List String) (s : metaManager) : metaManager :=
  let resp := NewRespByMessage message (.metas metas)
  let resp := resp.SetRoute MetaManagerModuleName resp.router.group
  if s.edgeClusterMode then sendToClusterd resp message.header.sync s
  else sendToEdged resp message.header.sync s

def processQuery (dao : Dao) (message : Message) (s : metaManager) : metaManager :=
  let resKey := (Cloud.parseResource message.router.resource).1
  let resType := (Cloud.parseResource message.router.resource).2.1
  let resID := (Cloud.parseResource message.router.resource).2.2
  if requireRemoteQuery resType ∧ s.Connected then
    let metas := QueryMeta .key resKey s.table
    if dao.query.isSome ∨ metas.length = 0 ∨ resType = Beehive.ResourceTypeNode ∨
        resType = ResourceTypeVolumeAttachment then
      processRemoteQuery message s
    else sendQueryResp message metas s
  else
    match dao.query with
    | some err => feedbackError err "Error to query meta in DB" message s
    | none =>
      -- with no ID, every resource of the type
      let metas := if resID = "" then QueryMeta .type resType s.table else QueryMeta .key resKey s.table
      sendQueryResp message metas s

def processNodeConnection (message : Message) (s : metaManager) : metaManager :=
  let content := message.content.string
  if content = CloudConnected then { s with Connected := true }
  else if content = CloudDisconnected then { s with Connected := false }
  else s

/-- `processFunctionAction` and `processFunctionActionResult`: save the content,
    then pass the message on. -/
def processFunction (forward : metaManager → metaManager) (dao : Dao) (message : Message) (s : metaManager) :
    metaManager :=
  match message.content.marshal with
  | .error err => feedbackError err "Error to marshal message content" message s
  | .ok content =>
    match dao.write with
    | some err => feedbackError err "Error to save meta to DB" message s
    | none =>
      let resKey := (Cloud.parseResource message.router.resource).1
      let resType := (Cloud.parseResource message.router.resource).2.1
      forward { s with table := SaveMeta ⟨resKey, resType, content⟩ s.table }

def processFunctionAction (dao : Dao) (message : Message) (s : metaManager) : metaManager :=
  processFunction (fun s => s.send (.Send EdgeFunctionModel) message.out) dao message s

def processFunctionActionResult (dao : Dao) (message : Message) (s : metaManager) : metaManager :=
  processFunction (sendToCloud message.out) dao message s

/-- `processVolume`, with what edged's `SendSync` returned: on an error, the
    zero message, whose content is nil. -/
def processVolume (message : Message) (back : Except String Message) (s : metaManager) : metaManager :=
  let s := s.send (.SendSync EdgedModuleName) message.out
  let content := match back with
    | .ok back => Body.content back.content
    | .error _ => Body.nil
  sendToCloud (NewRespByMessage message content) s

abbrev PodStatusContents := AList (fun _ : String => List String)

def podKeyOf (key : String) : String :=
  let sep := String.singleton Cloud.ResourceSep
  Go.ReplaceOnce key (sep ++ ResourceTypePodStatus ++ sep) (sep ++ ResourceTypePod ++ sep)

/-- One record of `syncPodStatus`'s loop: the table as the loop leaves it and
    the statuses gathered so far, or the table the function returned with after
    a failed query of a pod; `none` where `ParseResourceEdge` panics. -/
def syncPodStatusStep (isJSON : String → Bool) (dao : Dao) (acc : Except MetaTable (MetaTable × PodStatusContents))
    (v : Meta) : Option (Except MetaTable (MetaTable × PodStatusContents)) :=
  match acc with
  | .error table => some (.error table)
  | .ok acc =>
    (Beehive.ParseResourceEdge v.Key Beehive.QueryOperation).map fun parsed =>
      let namespaceParsed := match parsed with
        | .ok (ns, _, _) => ns
        | .error _ => ""
      let podKey := podKeyOf v.Key
      match dao.podQuery v.Key with
      | some _ => .error acc.1
      | none =>
        if (QueryMeta .key podKey acc.1).length ≤ 0 then
          -- the pod is gone: its status row goes too, unless the delete fails
          .ok (if (dao.podDelete v.Key).isNone then DeleteMetaByKey v.Key acc.1 else acc.1, acc.2)
        else if isJSON v.Value then
          .ok (acc.1, acc.2.insert namespaceParsed ((acc.2.lookup namespaceParsed).getD [] ++ [v.Value]))
        else .ok acc

def podStatusMessage (ns : String) (content : List String) : OutMessage :=
  ⟨NewMessage "", ⟨MetaManagerModuleName, GroupResource, Beehive.UpdateOperation,
    ns ++ String.singleton Cloud.ResourceSep ++ ResourceTypePodStatus⟩, .statuses content⟩

/-- The order of a `range` over the map of statuses: by increasing `rank` of the
    namespace, ties in the map's order. Every order is some rank's. -/
def rangeOrder (rank : String → Nat) (contents : PodStatusContents) : List (Σ _ : String, List String) :=
  contents.entries.insertionSort fun a b => rank a.1 ≤ rank b.1

def syncPodStatus (isJSON : String → Bool) (dao : Dao) (rank : String → Nat) (s : metaManager) :
    Option metaManager :=
  match dao.query with
  | some _ => some s
  | none =>
    let podStatusRecords := QueryAllMeta .type ResourceTypePodStatus s.table
    if podStatusRecords.length ≤ 0 then some s
    else (podStatusRecords.foldlM (syncPodStatusStep isJSON dao) (.ok (s.table, ∅))).map fun
      | .error table => { s with table }
      | .ok acc =>
        (rangeOrder rank acc.2).foldl (fun s e => sendToCloud (podStatusMessage e.1 e.2) s) { s with table := acc.1 }

/-- What the world answers one step: the database, edged to a volume
    operation's `SendSync`, and Go's runtime, which ranges over a map by `rank`. -/
structure Answers where
  dao : Dao
  back : Except String Message
  rank : String → Nat

def process (message : Message) (answers : Answers) (s : metaManager) : Option metaManager :=
  let operation := message.router.operation
  let dao := answers.dao
  if operation = Cloud.InsertOperation then processInsert Unmarshal dao message s
  else if operation = Beehive.UpdateOperation then processUpdate Unmarshal dao message s
  else if operation = Beehive.DeleteOperation then processDelete Unmarshal dao message s
  else if operation = Beehive.QueryOperation then some (processQuery dao message s)
  else if operation = Beehive.ResponseOperation then some (processResponse dao message s)
  else if operation = OperationNodeConnection then some (processNodeConnection message s)
  -- a status is JSON where `json.Unmarshal` into an `interface{}` succeeds
  else if operation = OperationMetaSync then syncPodStatus (fun v => (Unmarshal v).isSome) dao answers.rank s
  else if operation = OperationFunctionAction then some (processFunctionAction dao message s)
  else if operation = OperationFunctionActionResult then some (processFunctionActionResult dao message s)
  else if operation = CSIOperationTypeCreateVolume ∨ operation = CSIOperationTypeDeleteVolume ∨
      operation = CSIOperationTypeControllerPublishVolume ∨ operation = CSIOperationTypeControllerUnpublishVolume then
    some (processVolume message answers.back s)
  else some s

/-- What happens next: the main loop receives a message, or a remote query's
    goroutine gets its answer (and the outcome of its write). -/
inductive Action where
  | receive (message : Message) (answers : Answers)
  | remoteAnswer (query : Message) (result : Except String Message) (write : Option String)

def step (s : metaManager) : Action → Option metaManager
  | .receive message answers => process Unmarshal message answers s
  | .remoteAnswer query result write =>
    if query ∈ s.remoteQueries then
      some (remoteQueryDone query result write { s with remoteQueries := s.remoteQueries.erase query })
    else none

def run (s : metaManager) (actions : List Action) : Option metaManager :=
  actions.foldlM (step Unmarshal) s

end Handlers

theorem parseResource_fst (resource : String) : (Cloud.parseResource resource).1 = resource := by
  rw [Cloud.parseResource]
  split <;> rfl

def typeOf (resource : String) : String :=
  (Cloud.parseResource resource).2.1

section Table
variable (message : Message) (s : metaManager)

@[simp] theorem send_table (call : Call) (m : OutMessage) : (s.send call m).table = s.table := rfl

@[simp] theorem sendToEdgeModules_table (m : OutMessage) (sync : Bool) (moduleName : String) :
    (sendToEdgeModules m sync moduleName s).table = s.table := by
  unfold sendToEdgeModules
  split <;> rfl

@[simp] theorem sendToEdged_table (m : OutMessage) (sync : Bool) : (sendToEdged m sync s).table = s.table :=
  sendToEdgeModules_table s m sync _

@[simp] theorem sendToClusterd_table (m : OutMessage) (sync : Bool) :
    (sendToClusterd m sync s).table = s.table :=
  sendToEdgeModules_table s m sync _

@[simp] theorem sendToCloud_table (m : OutMessage) : (sendToCloud m s).table = s.table := rfl

@[simp] theorem feedbackError_table (err info : String) : (feedbackError err info message s).table = s.table := by
  unfold feedbackError
  split_ifs <;> simp

@[simp] theorem sendQueryResp_table (metas : List String) : (sendQueryResp message metas s).table = s.table := by
  unfold sendQueryResp
  split <;> simp

end Table

section Flags
variable (message : Message) (s : metaManager)

@[simp] theorem send_Connected (call : Call) (m : OutMessage) : (s.send call m).Connected = s.Connected := rfl

@[simp] theorem send_remoteQueries (call : Call) (m : OutMessage) :
    (s.send call m).remoteQueries = s.remoteQueries := rfl

@[simp] theorem sendToEdgeModules_Connected (m : OutMessage) (sync : Bool) (moduleName : String) :
    (sendToEdgeModules m sync moduleName s).Connected = s.Connected := by
  unfold sendToEdgeModules
  split <;> rfl

@[simp] theorem sendToEdgeModules_remoteQueries (m : OutMessage) (sync : Bool) (moduleName : String) :
    (sendToEdgeModules m sync moduleName s).remoteQueries = s.remoteQueries := by
  unfold sendToEdgeModules
  split <;> rfl

@[simp] theorem sendToEdged_Connected (m : OutMessage) (sync : Bool) :
    (sendToEdged m sync s).Connected = s.Connected :=
  sendToEdgeModules_Connected s m sync _

@[simp] theorem sendToEdged_remoteQueries (m : OutMessage) (sync : Bool) :
    (sendToEdged m sync s).remoteQueries = s.remoteQueries :=
  sendToEdgeModules_remoteQueries s m sync _

@[simp] theorem sendToClusterd_Connected (m : OutMessage) (sync : Bool) :
    (sendToClusterd m sync s).Connected = s.Connected :=
  sendToEdgeModules_Connected s m sync _

@[simp] theorem sendToClusterd_remoteQueries (m : OutMessage) (sync : Bool) :
    (sendToClusterd m sync s).remoteQueries = s.remoteQueries :=
  sendToEdgeModules_remoteQueries s m sync _

@[simp] theorem sendToCloud_Connected (m : OutMessage) : (sendToCloud m s).Connected = s.Connected := rfl

@[simp] theorem sendToCloud_remoteQueries (m : OutMessage) : (sendToCloud m s).remoteQueries = s.remoteQueries := rfl

@[simp] theorem feedbackError_Connected (err info : String) :
    (feedbackError err info message s).Connected = s.Connected := by
  unfold feedbackError
  split_ifs <;> simp

@[simp] theorem feedbackError_remoteQueries (err info : String) :
    (feedbackError err info message s).remoteQueries = s.remoteQueries := by
  unfold feedbackError
  split_ifs <;> simp

@[simp] theorem sendQueryResp_Connected (metas : List String) :
    (sendQueryResp message metas s).Connected = s.Connected := by
  unfold sendQueryResp
  split <;> simp

@[simp] theorem sendQueryResp_remoteQueries (metas : List String) :
    (sendQueryResp message metas s).remoteQueries = s.remoteQueries := by
  unfold sendQueryResp
  split <;> simp

/-- What a handler leaves alone unless it is the node connection's or starts a
    remote query: the connection flag and the queries in flight. -/
structure KeepsFlags (s s' : metaManager) : Prop where
  Connected : s'.Connected = s.Connected
  remoteQueries : s'.remoteQueries = s.remoteQueries

theorem processQuery_offline (dao : Dao) (hoff : s.Connected = false) :
    processQuery dao message s =
      match dao.query with
      | some err => feedbackError err "Error to query meta in DB" message s
      | none =>
        sendQueryResp message
          (if (Cloud.parseResource message.router.resource).2.2 = "" then
            QueryMeta .type (typeOf message.router.resource) s.table
          else QueryMeta .key message.router.resource s.table) s := by
  unfold processQuery
  simp only [hoff, Bool.false_eq_true, and_false, if_false, parseResource_fst, typeOf]

theorem processNodeConnection_remoteQueries :
    (processNodeConnection message s).remoteQueries = s.remoteQueries := by
  unfold processNodeConnection
  dsimp only
  split_ifs <;> rfl

theorem processNodeConnection_Connected (h : message.content.string ≠ CloudConnected) (hoff : s.Connected = false) :
    (processNodeConnection message s).Connected = false := by
  unfold processNodeConnection
  dsimp only
  rw [if_neg h]
  split_ifs
  · rfl
  · exact hoff

end Flags

/-- What a handler may do to the table: nothing, or write or delete the row of
    its message's resource, typed as `parseResource` types it. -/
inductive Writes (key : String) (table : MetaTable) : MetaTable → Prop
  | keep : Writes key table table
  | update (value : String) : Writes key table (InsertOrUpdate ⟨key, typeOf key, value⟩ table)
  | save (value : String) : Writes key table (SaveMeta ⟨key, typeOf key, value⟩ table)
  | delete : Writes key table (DeleteMetaByKey key table)


def TypeInv (table : MetaTable) : Prop :=
  ∀ key type value, table.lookup key = some (type, value) → type = typeOf key

theorem typeInv_empty : TypeInv ∅ := by
  intro key type value h
  rw [AList.lookup_empty] at h
  cases h

theorem typeInv_iff (table : MetaTable) : TypeInv table ↔ ∀ row ∈ table.entries, row.2.1 = typeOf row.1 :=
  ⟨fun h row hrow => h row.1 row.2.1 row.2.2 (AList.mem_lookup_iff.mpr hrow),
    fun h _ _ _ hk => h _ (AList.mem_lookup_iff.mp hk)⟩

instance (table : MetaTable) : Decidable (TypeInv table) :=
  decidable_of_iff _ (typeInv_iff table).symm

theorem typeOf_of_mem_QueryAllMeta {table : MetaTable} {type : String} {v : Meta} (hinv : TypeInv table)
    (hv : v ∈ QueryAllMeta .type type table) : typeOf v.Key = type :=
  have hrow := (mem_QueryAllMeta_type type table v).mp hv
  (hinv _ _ _ hrow.2).symm.trans hrow.1

section Writes
variable {key : String} {table table' : MetaTable}

theorem Writes.lookup_ne (h : Writes key table table') {k : String} (hk : k ≠ key) :
    table'.lookup k = table.lookup k := by
  cases h with
  | keep => rfl
  | update value => simp [lookup_InsertOrUpdate, hk]
  | save value => simp [lookup_SaveMeta, hk]
  | delete => simp [lookup_DeleteMetaByKey, hk]

theorem Writes.typeInv (h : Writes key table table') (hinv : TypeInv table) : TypeInv table' := by
  intro k type value hk
  by_cases hkey : k = key
  · subst hkey
    cases h with
    | keep => exact hinv k type value hk
    | update v =>
      rw [lookup_InsertOrUpdate, if_pos rfl] at hk
      cases hk
      rfl
    | save v =>
      rw [lookup_SaveMeta, if_pos rfl] at hk
      -- a stored row stays, else the new one is stored
      cases hstored : table.lookup k with
      | some row =>
        rw [hstored] at hk
        exact hinv k type value (hstored.trans hk)
      | none =>
        rw [hstored] at hk
        cases hk
        rfl
    | delete => simp [lookup_DeleteMetaByKey] at hk
  · rw [h.lookup_ne hkey] at hk
    exact hinv k type value hk

end Writes

/-- What a handler that returns does: it writes at most the row of its
    message's resource, and keeps the connection flag and the queries in flight. -/
structure Handles (key : String) (s s' : metaManager) : Prop where
  writes : Writes key s.table s'.table
  keeps : KeepsFlags s s'

section Handles
variable {key : String} {s s' : metaManager}

theorem Handles.keep (ht : s'.table = s.table) (hc : s'.Connected = s.Connected)
    (hr : s'.remoteQueries = s.remoteQueries) : Handles key s s' :=
  ⟨ht ▸ .keep, ⟨hc, hr⟩⟩

theorem Handles.update (value : String)
    (ht : s'.table = InsertOrUpdate ⟨(Cloud.parseResource key).1, (Cloud.parseResource key).2.1, value⟩ s.table)
    (hc : s'.Connected = s.Connected) (hr : s'.remoteQueries = s.remoteQueries) : Handles key s s' := by
  rw [parseResource_fst] at ht
  exact ⟨ht ▸ .update value, ⟨hc, hr⟩⟩

theorem Handles.save (value : String)
    (ht : s'.table = SaveMeta ⟨(Cloud.parseResource key).1, (Cloud.parseResource key).2.1, value⟩ s.table)
    (hc : s'.Connected = s.Connected) (hr : s'.remoteQueries = s.remoteQueries) : Handles key s s' := by
  rw [parseResource_fst] at ht
  exact ⟨ht ▸ .save value, ⟨hc, hr⟩⟩

end Handles

section Handlers
variable {Unmarshal : String → Option Go.JsonValue} {dao : Dao} {message : Message} {s s' : metaManager}

theorem processUpdate_handles (h : processUpdate Unmarshal dao message s = some s') :
    Handles message.router.resource s s' := by
  unfold processUpdate at h
  split at h
  · cases h
    exact .keep (by simp) (by simp) (by simp)
  · rename_i content _
    rw [Lib.bind_pure_eq_some] at h
    obtain ⟨-, rfl⟩ := h
    dsimp only
    by_cases hu : resourceUnchanged dao.query (Cloud.parseResource message.router.resource).2.1
        (Cloud.parseResource message.router.resource).1 content s.table = true
    · -- the status is stored already: only the answer
      rw [if_pos hu]
      split_ifs <;> exact .keep (by simp) (by simp) (by simp)
    · rw [if_neg hu]
      cases dao.write with
      | some err => exact .keep (by simp) (by simp) (by simp)
      | none =>
        dsimp only
        -- the branches of the source switch only send
        split_ifs <;> exact .update content (by simp) (by simp) (by simp)

theorem processUpdate_eq_none_iff :
    processUpdate Unmarshal dao message s = none ↔
      (∃ content, message.content.marshal = .ok content) ∧ Imitator.Inject Unmarshal dao.injectWrite message = none := by
  unfold processUpdate
  cases message.content.marshal with
  | error err => simp
  | ok content => cases Imitator.Inject Unmarshal dao.injectWrite message <;> simp

theorem processInsert_handles (h : processInsert Unmarshal dao message s = some s') :
    Handles message.router.resource s s' := by
  unfold processInsert at h
  dsimp only at h
  by_cases hupdate : isClusterdResource (Cloud.parseResource message.router.resource).2.1 = true ∧ dao.query = none ∧
      (QueryMeta .key (Cloud.parseResource message.router.resource).1 s.table).length > 0
  · rw [if_pos hupdate] at h
    exact processUpdate_handles h
  · rw [if_neg hupdate] at h
    split at h
    · cases h
      exact .keep (by simp) (by simp) (by simp)
    · rename_i content _
      rw [Lib.bind_pure_eq_some] at h
      obtain ⟨-, rfl⟩ := h
      cases dao.write with
      | some err => exact .keep (by simp) (by simp) (by simp)
      | none =>
        dsimp only
        split_ifs <;> exact .save content (by simp) (by simp) (by simp)

theorem processInsert_eq_none_iff :
    processInsert Unmarshal dao message s = none ↔
      (∃ content, message.content.marshal = .ok content) ∧ Imitator.Inject Unmarshal dao.injectWrite message = none := by
  unfold processInsert
  dsimp only
  by_cases hupdate : isClusterdResource (Cloud.parseResource message.router.resource).2.1 = true ∧ dao.query = none ∧
      (QueryMeta .key (Cloud.parseResource message.router.resource).1 s.table).length > 0
  · rw [if_pos hupdate]
    exact processUpdate_eq_none_iff
  · rw [if_neg hupdate]
    cases message.content.marshal with
    | error err => simp
    | ok content => cases Imitator.Inject Unmarshal dao.injectWrite message <;> simp

theorem processResponse_handles : Handles message.router.resource s (processResponse dao message s) := by
  unfold processResponse
  split
  · exact .keep (by simp) (by simp) (by simp)
  · rename_i content _
    cases dao.write with
    | some err => exact .keep (by simp) (by simp) (by simp)
    | none =>
      dsimp only
      split_ifs <;> exact .update content (by simp) (by simp) (by simp)

theorem processDelete_handles (h : processDelete Unmarshal dao message s = some s') :
    Handles message.router.resource s s' := by
  unfold processDelete at h
  rw [Lib.bind_pure_eq_some] at h
  obtain ⟨-, rfl⟩ := h
  cases dao.write with
  | some err => exact .keep (by simp) (by simp) (by simp)
  | none =>
    dsimp only
    split_ifs <;> exact ⟨by simp only [sendToCloud_table, sendToEdged_table, sendToClusterd_table]; exact .delete,
      ⟨by simp, by simp⟩⟩

theorem processDelete_eq_none_iff :
    processDelete Unmarshal dao message s = none ↔ Imitator.Inject Unmarshal dao.injectWrite message = none := by
  unfold processDelete
  cases Imitator.Inject Unmarshal dao.injectWrite message <;> simp

theorem processFunction_handles (forward : metaManager → metaManager)
    (hforward : ∀ s, (forward s).table = s.table ∧ KeepsFlags s (forward s)) :
    Handles message.router.resource s (processFunction forward dao message s) := by
  unfold processFunction
  split
  · exact .keep (by simp) (by simp) (by simp)
  · rename_i content _
    cases dao.write with
    | some err => exact .keep (by simp) (by simp) (by simp)
    | none =>
      obtain ⟨ht, hc, hr⟩ := hforward { s with table := SaveMeta ⟨(Cloud.parseResource message.router.resource).1,
        (Cloud.parseResource message.router.resource).2.1, content⟩ s.table }
      exact .save content ht hc hr

theorem processVolume_handles (back : Except String Message) :
    Handles message.router.resource s (processVolume message back s) :=
  .keep (by simp [processVolume]) (by simp [processVolume]) (by simp [processVolume])

theorem remoteQueryDone_handles (result : Except String Message) (write : Option String) :
    Handles message.router.resource s (remoteQueryDone message result write s) := by
  unfold remoteQueryDone
  split
  · exact .keep (by simp) (by simp) (by simp)
  · split
    · exact .keep (by simp) (by simp) (by simp)
    · rename_i content _
      cases write with
      | some err =>
        dsimp only
        split_ifs <;> exact .keep (by simp) (by simp) (by simp)
      | none =>
        dsimp only
        split_ifs <;> exact .update content (by simp [UpdateID]) (by simp) (by simp)

end Handlers

/-- The messages whose handler calls `Inject`, with the `Inject` panicking. -/
def InjectPanics (Unmarshal : String → Option Go.JsonValue) (dao : Dao) (message : Message) : Prop :=
  Imitator.Inject Unmarshal dao.injectWrite message = none ∧
    (message.router.operation = Beehive.DeleteOperation ∨
      (message.router.operation = Cloud.InsertOperation ∨ message.router.operation = Beehive.UpdateOperation) ∧
        ∃ content, message.content.marshal = .ok content)

section Step
variable {Unmarshal : String → Option Go.JsonValue} {dao : Dao} {message : Message}

theorem injectPanics_of_write (hop : message.router.operation = Cloud.InsertOperation ∨
      message.router.operation = Beehive.UpdateOperation) :
    InjectPanics Unmarshal dao message ↔
      (∃ content, message.content.marshal = .ok content) ∧ Imitator.Inject Unmarshal dao.injectWrite message = none := by
  have hdel : message.router.operation ≠ Beehive.DeleteOperation := by rcases hop with h | h <;> rw [h] <;> decide
  constructor
  · rintro ⟨hinj, hdel' | ⟨-, hc⟩⟩
    · exact absurd hdel' hdel
    · exact ⟨hc, hinj⟩
  · rintro ⟨hc, hinj⟩
    exact ⟨hinj, .inr ⟨hop, hc⟩⟩

theorem injectPanics_of_delete (hop : message.router.operation = Beehive.DeleteOperation) :
    InjectPanics Unmarshal dao message ↔ Imitator.Inject Unmarshal dao.injectWrite message = none :=
  ⟨And.left, fun hinj => ⟨hinj, .inl hop⟩⟩

theorem not_injectPanics (hins : message.router.operation ≠ Cloud.InsertOperation)
    (hupd : message.router.operation ≠ Beehive.UpdateOperation) (hdel : message.router.operation ≠ Beehive.DeleteOperation) :
    ¬InjectPanics Unmarshal dao message := by
  rintro ⟨-, h | ⟨h | h, -⟩⟩
  · exact hdel h
  · exact hins h
  · exact hupd h

end Step

section Dispatch
variable (Unmarshal : String → Option Go.JsonValue) (message : Message) (answers : Answers) (s : metaManager)

/-- What a message other than the sync does: it panics exactly where `Inject`
    does; otherwise it is a query, a node connection, or a handler that writes
    at most its own row and keeps the flags. -/
theorem process_of_ne_sync (hop : message.router.operation ≠ OperationMetaSync) :
    (process Unmarshal message answers s = none ↔ InjectPanics Unmarshal answers.dao message) ∧
      ∀ s', process Unmarshal message answers s = some s' →
        (message.router.operation = Beehive.QueryOperation ∧ s' = processQuery answers.dao message s) ∨
          (message.router.operation = OperationNodeConnection ∧ s' = processNodeConnection message s) ∨
          Handles message.router.resource s s' := by
  unfold process
  dsimp only
  -- one operation after the other, in the order of the source's switch
  by_cases hins : message.router.operation = Cloud.InsertOperation
  · rw [if_pos hins]
    exact ⟨processInsert_eq_none_iff.trans (injectPanics_of_write (.inl hins)).symm,
      fun _ h => .inr (.inr (processInsert_handles h))⟩
  rw [if_neg hins]
  by_cases hupd : message.router.operation = Beehive.UpdateOperation
  · rw [if_pos hupd]
    exact ⟨processUpdate_eq_none_iff.trans (injectPanics_of_write (.inr hupd)).symm,
      fun _ h => .inr (.inr (processUpdate_handles h))⟩
  rw [if_neg hupd]
  by_cases hdel : message.router.operation = Beehive.DeleteOperation
  · rw [if_pos hdel]
    exact ⟨processDelete_eq_none_iff.trans (injectPanics_of_delete hdel).symm,
      fun _ h => .inr (.inr (processDelete_handles h))⟩
  rw [if_neg hdel]
  have hpanics : ¬InjectPanics Unmarshal answers.dao message := not_injectPanics hins hupd hdel
  by_cases hquery : message.router.operation = Beehive.QueryOperation
  · rw [if_pos hquery]
    exact ⟨iff_of_false (Option.some_ne_none _) hpanics, fun _ h => .inl ⟨hquery, (Option.some.inj h).symm⟩⟩
  rw [if_neg hquery]
  by_cases hresp : message.router.operation = Beehive.ResponseOperation
  · rw [if_pos hresp]
    exact ⟨iff_of_false (Option.some_ne_none _) hpanics,
      fun _ h => .inr (.inr (Option.some.inj h ▸ processResponse_handles))⟩
  rw [if_neg hresp]
  by_cases hconn : message.router.operation = OperationNodeConnection
  · rw [if_pos hconn]
    exact ⟨iff_of_false (Option.some_ne_none _) hpanics, fun _ h => .inr (.inl ⟨hconn, (Option.some.inj h).symm⟩)⟩
  rw [if_neg hconn, if_neg hop]
  by_cases haction : message.router.operation = OperationFunctionAction
  · rw [if_pos haction]
    exact ⟨iff_of_false (Option.some_ne_none _) hpanics, fun _ h => .inr (.inr (Option.some.inj h ▸
      processFunction_handles _ fun _ => ⟨rfl, rfl, rfl⟩))⟩
  rw [if_neg haction]
  by_cases hresult : message.router.operation = OperationFunctionActionResult
  · rw [if_pos hresult]
    exact ⟨iff_of_false (Option.some_ne_none _) hpanics, fun _ h => .inr (.inr (Option.some.inj h ▸
      processFunction_handles _ fun _ => ⟨rfl, rfl, rfl⟩))⟩
  rw [if_neg hresult]
  -- a volume operation, or one the switch has no case for
  split
  · exact ⟨iff_of_false (Option.some_ne_none _) hpanics,
      fun _ h => .inr (.inr (Option.some.inj h ▸ processVolume_handles answers.back))⟩
  · exact ⟨iff_of_false (Option.some_ne_none _) hpanics,
      fun _ h => .inr (.inr (Option.some.inj h ▸ .keep rfl rfl rfl))⟩

theorem process_of_insert (h : message.router.operation = Cloud.InsertOperation) :
    process Unmarshal message answers s = processInsert Unmarshal answers.dao message s := by
  unfold process
  rw [h, if_pos rfl]

theorem process_of_update (h : message.router.operation = Beehive.UpdateOperation) :
    process Unmarshal message answers s = processUpdate Unmarshal answers.dao message s := by
  unfold process
  rw [h, if_neg (by decide), if_pos rfl]

theorem process_of_delete (h : message.router.operation = Beehive.DeleteOperation) :
    process Unmarshal message answers s = processDelete Unmarshal answers.dao message s := by
  unfold process
  rw [h, if_neg (by decide), if_neg (by decide), if_pos rfl]

theorem process_of_query (h : message.router.operation = Beehive.QueryOperation) :
    process Unmarshal message answers s = some (processQuery answers.dao message s) := by
  unfold process
  rw [h, if_neg (by decide), if_neg (by decide), if_neg (by decide), if_pos rfl]

theorem process_of_response (h : message.router.operation = Beehive.ResponseOperation) :
    process Unmarshal message answers s = some (processResponse answers.dao message s) := by
  unfold process
  rw [h, if_neg (by decide), if_neg (by decide), if_neg (by decide), if_neg (by decide), if_pos rfl]

theorem process_of_sync (h : message.router.operation = OperationMetaSync) :
    process Unmarshal message answers s =
      syncPodStatus (fun v => (Unmarshal v).isSome) answers.dao answers.rank s := by
  unfold process
  rw [h, if_neg (by decide), if_neg (by decide), if_neg (by decide), if_neg (by decide), if_neg (by decide),
    if_neg (by decide), if_pos rfl]

end Dispatch

theorem step_remoteAnswer {Unmarshal : String → Option Go.JsonValue} {s s' : metaManager} {query : Message}
    {result : Except String Message} {write : Option String}
    (h : step Unmarshal s (.remoteAnswer query result write) = some s') :
    query ∈ s.remoteQueries ∧
      s' = remoteQueryDone query result write { s with remoteQueries := s.remoteQueries.erase query } := by
  simp only [step] at h
  split_ifs at h with hq
  cases h
  exact ⟨hq, rfl⟩

section Effects
variable (Unmarshal : String → Option Go.JsonValue) (message : Message) (s : metaManager) {content : String}

theorem processUpdate_lookup {dao : Dao} {s' : metaManager} (hc : message.content.marshal = .ok content)
    (hw : dao.write = none) (h : processUpdate Unmarshal dao message s = some s') :
    (s'.table.lookup message.router.resource).map Prod.snd = some content := by
  unfold processUpdate at h
  rw [hc, Lib.bind_pure_eq_some] at h
  obtain ⟨-, rfl⟩ := h
  dsimp only
  by_cases hu : resourceUnchanged dao.query (Cloud.parseResource message.router.resource).2.1
      (Cloud.parseResource message.router.resource).1 content s.table = true
  · rw [if_pos hu]
    have hrow := resourceUnchanged_lookup hu
    rw [parseResource_fst] at hrow
    split_ifs <;> simpa using hrow
  · rw [if_neg hu, hw]
    dsimp only
    split_ifs <;> simp [lookup_InsertOrUpdate, parseResource_fst]

theorem processResponse_lookup {dao : Dao} (hc : message.content.marshal = .ok content) (hw : dao.write = none) :
    ((processResponse dao message s).table.lookup message.router.resource).map Prod.snd = some content := by
  unfold processResponse
  rw [hc, hw]
  dsimp only
  split_ifs <;> simp [lookup_InsertOrUpdate, parseResource_fst]

theorem Inject_podstatus {injectWrite : Nat → Option String}
    (htype : typeOf message.router.resource = ResourceTypePodStatus) :
    Imitator.Inject Unmarshal injectWrite message = some [] := by
  apply Imitator.Inject_status
  rw [Imitator.parseResource, show (Cloud.parseResource message.router.resource).2.1 = ResourceTypePodStatus from htype]
  decide

/-- The same pod status again only answers OK, when the database took the first
    and answers the second's query: nothing is written or sent on to the cloud. -/
theorem processUpdate_podstatus_repeat (htype : typeOf message.router.resource = ResourceTypePodStatus)
    (hc : message.content.marshal = .ok content) {dao₁ dao₂ : Dao} (hw : dao₁.write = none) (hq : dao₂.query = none) :
    ∃ s₁, processUpdate Unmarshal dao₁ message s = some s₁ ∧
      processUpdate Unmarshal dao₂ message s₁ =
        some (sendToEdged (NewRespByMessage message (.text OK)) message.header.sync s₁) := by
  obtain ⟨s₁, h₁⟩ : ∃ s₁, processUpdate Unmarshal dao₁ message s = some s₁ := by
    refine Option.ne_none_iff_exists'.mp fun hnone => ?_
    rw [processUpdate_eq_none_iff, Inject_podstatus Unmarshal message htype] at hnone
    exact Option.some_ne_none _ hnone.2
  have hrow := processUpdate_lookup Unmarshal message s hc hw h₁
  refine ⟨s₁, h₁, ?_⟩
  -- the second update finds its content stored
  have hu : resourceUnchanged dao₂.query (Cloud.parseResource message.router.resource).2.1
      (Cloud.parseResource message.router.resource).1 content s₁.table = true := by
    rw [parseResource_fst, show (Cloud.parseResource message.router.resource).2.1 = ResourceTypePodStatus from htype,
      resourceUnchanged, QueryMeta_key, hrow, hq]
    simp
  have hclusterd : isClusterdResource (Cloud.parseResource message.router.resource).2.1 = false := by
    rw [show (Cloud.parseResource message.router.resource).2.1 = ResourceTypePodStatus from htype]
    decide
  unfold processUpdate
  rw [hc, Inject_podstatus Unmarshal message htype]
  dsimp only
  rw [if_pos hu, hclusterd]
  rfl

def sampleManager : metaManager where
  edgeClusterMode := false
  ContextSendGroup := "hub"
  ContextSendModule := "websocket"
  Connected := true
  table := ∅
  remoteQueries := []
  sent := []

def statusUpdate : Message :=
  ⟨⟨"m1", "", "", false⟩, ⟨EdgedModuleName, GroupResource, Beehive.UpdateOperation, "default/podstatus/p1"⟩,
    .bytes "[1]"⟩

theorem processUpdate_podstatus_repeat_p1 :
    typeOf statusUpdate.router.resource = ResourceTypePodStatus ∧ statusUpdate.content.marshal = .ok "[1]" ∧
      Dao.ok.write = none ∧ Dao.ok.query = none ∧
      ∃ s₁, processUpdate (fun _ => none) Dao.ok statusUpdate sampleManager = some s₁ ∧
        processUpdate (fun _ => none) Dao.ok statusUpdate s₁ =
          some (sendToEdged (NewRespByMessage statusUpdate (.text OK)) statusUpdate.header.sync s₁) :=
  ⟨by decide, rfl, rfl, rfl, processUpdate_podstatus_repeat (fun _ => none) statusUpdate sampleManager (by decide) rfl rfl rfl⟩

def podInsert (content : String) : Message :=
  ⟨⟨"m2", "", "", false⟩, ⟨Cloud.EdgeControllerModuleName, GroupResource, Cloud.InsertOperation, "default/pod/p1"⟩,
    .bytes content⟩

end Effects

end KubeEdge.MetaManager
