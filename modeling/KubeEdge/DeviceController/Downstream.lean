import Mathlib.Data.List.AList

set_option autoImplicit false

/-!
# The device controller's device profiles

`DownstreamController` keeps, for each node, a config map whose
`deviceProfile.json` lists the device instances bound to the node, one
protocol entry per instance and the device models they use. Device events from
the informer edit these profiles: `deviceAdded` appends, `deviceDeleted`
removes by swapping with the last entry, `updateConfigMap` replaces the
protocol, and `deviceUpdated` moves a device whose node selector changed by an
add on the new node and a delete on the old one.

The cached config maps are modelled; the API calls that write them, and the
membership and twin messages sent to the edge, are not. A nil `NodeSelector`
or `DeviceModelRef` is dereferenced by the source and panics: the functions
return `none` there. The JSON text of a profile is the profile itself, an
absent key reads as `""`, and a profile with no entries marshals to `{}`.
-/

namespace KubeEdge.DeviceController

def OPCUA : String := "opcua"
def Modbus : String := "modbus"
def Bluetooth : String := "bluetooth"
def CustomizedProtocol : String := "customized-protocol"

structure NodeSelectorRequirement where
  key : String
  operator : String
  values : List String
  deriving DecidableEq, Repr

structure NodeSelectorTerm where
  matchExpressions : List NodeSelectorRequirement
  deriving DecidableEq, Repr

structure NodeSelector where
  nodeSelectorTerms : List NodeSelectorTerm
  deriving DecidableEq, Repr

/-- The protocol configurations of a device; the configurations themselves are
    opaque to the controller, which copies them into the profile. -/
structure ProtocolConfig where
  opcUA : Option String
  modbus : Option String
  bluetooth : Option String
  customizedProtocol : Option String
  common : Option String
  deriving DecidableEq, Repr

structure DeviceData where
  dataProperties : List String
  dataTopic : String
  deriving DecidableEq, Repr

structure DeviceSpec where
  deviceModelRef : Option String
  protocol : ProtocolConfig
  propertyVisitors : List String
  data : DeviceData
  nodeSelector : Option NodeSelector
  deriving DecidableEq, Repr

/-- The object metadata `isDeviceUpdated` compares, and the two fields it ignores. -/
structure ObjectMeta where
  name : String
  labels : List (String × String)
  resourceVersion : String
  generation : Nat
  deriving DecidableEq, Repr

structure Device where
  objectMeta : ObjectMeta
  spec : DeviceSpec
  twins : List String
  deriving DecidableEq, Repr

structure PropertyVisitor where
  name : String
  propertyName : String
  modelName : String
  deriving DecidableEq, Repr

structure DeviceInstance where
  id : String
  name : String
  protocol : String
  model : String
  twins : List String
  dataProperties : List String
  dataTopic : String
  propertyVisitors : List PropertyVisitor
  deriving DecidableEq, Repr

structure Protocol where
  name : String
  protocol : String
  protocolConfig : Option String
  protocolCommonConfig : Option String
  deriving DecidableEq, Repr

/-- `types.DeviceProfile`; a device model is kept by its name. -/
structure DeviceProfile where
  deviceInstances : List DeviceInstance
  deviceModels : List String
  protocols : List Protocol
  deriving DecidableEq, Repr

/-- The profile marshals to `{}`: every list is empty (`omitempty`). -/
def DeviceProfile.isEmpty (p : DeviceProfile) : Bool :=
  p.deviceInstances.isEmpty && p.deviceModels.isEmpty && p.protocols.isEmpty

/-- A cached config map: `Data[DeviceProfileJSON]`, if the key is set. -/
structure ConfigMap where
  data : Option DeviceProfile
  deriving DecidableEq, Repr

structure DownstreamController where
  devices : AList (fun _ : String => Device)
  configMaps : AList (fun _ : String => ConfigMap)
  deviceModels : List String

/-- `NodeSelectorTerms[0].MatchExpressions[0].Values[0]`, where the length
    checks of the source pass. -/
def firstNode (selector : NodeSelector) : Option String :=
  match selector.nodeSelectorTerms with
  | term :: _ =>
    match term.matchExpressions with
    | expr :: _ => expr.values.head?
    | [] => none
  | [] => none

/-- Go's `s[i] = s[len(s)-1]; s = s[:len(s)-1]`. -/
def swapRemove {α : Type} (l : List α) (i : Nat) : List α :=
  match l.getLast? with
  | some last => (l.set i last).dropLast
  | none => l

/-- The protocol entry of a device: its kind and configuration, or the empty
    entry when no protocol is set ("Device doesn't support valid protocol"). -/
def deviceProtocolOf (device : Device) : Protocol :=
  let p := device.spec.protocol
  let entry := fun (kind : String) (config : Option String) =>
    (⟨kind ++ "-" ++ device.objectMeta.name, kind, config, p.common⟩ : Protocol)
  if p.opcUA.isSome then entry OPCUA p.opcUA
  else if p.modbus.isSome then entry Modbus p.modbus
  else if p.bluetooth.isSome then entry Bluetooth p.bluetooth
  else if p.customizedProtocol.isSome then entry CustomizedProtocol p.customizedProtocol
  else ⟨"", "", none, p.common⟩

/-- `addPropertyVisitorsToDeviceInstance`: each visitor reads the model name. -/
def propertyVisitorsOf (device : Device) : Option (List PropertyVisitor) :=
  device.spec.propertyVisitors.mapM fun propertyName => do
    let modelName ← device.spec.deviceModelRef
    pure ⟨propertyName, propertyName, modelName⟩

def addDeviceInstanceAndProtocol (device : Device) (deviceProfile : DeviceProfile) :
    Option DeviceProfile := do
  let model ← device.spec.deviceModelRef
  let deviceProtocol := deviceProtocolOf device
  let propertyVisitors ← propertyVisitorsOf device
  let deviceInstance : DeviceInstance :=
    ⟨device.objectMeta.name, device.objectMeta.name, deviceProtocol.name, model, device.twins,
      device.spec.data.dataProperties, device.spec.data.dataTopic, propertyVisitors⟩
  pure { deviceProfile with
    deviceInstances := deviceProfile.deviceInstances ++ [deviceInstance]
    protocols := deviceProfile.protocols ++ [deviceProtocol] }

/-- `addDeviceProfile`: without the device model in the model manager the
    profile is not written back, and the instance added to it is lost. -/
def addDeviceProfile (deviceModels : List String) (device : Device) (configMap : ConfigMap) :
    Option ConfigMap := do
  let deviceProfile := configMap.data.getD ⟨[], [], []⟩
  let deviceProfile ← addDeviceInstanceAndProtocol device deviceProfile
  let modelName ← device.spec.deviceModelRef
  if modelName ∉ deviceModels then pure configMap
  else
    let deviceProfile :=
      if modelName ∈ deviceProfile.deviceModels then deviceProfile
      else { deviceProfile with deviceModels := deviceProfile.deviceModels ++ [modelName] }
    pure { configMap with data := some deviceProfile }

def addToConfigMap (dc : DownstreamController) (device : Device) (node : String) :
    Option DownstreamController := do
  let configMap := (dc.configMaps.lookup node).getD ⟨none⟩
  let configMap ← addDeviceProfile dc.deviceModels device configMap
  pure { dc with configMaps := dc.configMaps.insert node configMap }

def deviceAdded (dc : DownstreamController) (device : Device) : Option DownstreamController := do
  let dc := { dc with devices := dc.devices.insert device.objectMeta.name device }
  let selector ← device.spec.nodeSelector
  match firstNode selector with
  | some node => addToConfigMap dc device node
  | none => pure dc

/-- The instance of `device` in the profile, updated as `updateConfigMap` does. -/
def updateInstance (device : Device) (protocol : String) (visitors : List PropertyVisitor)
    (devInst : DeviceInstance) : DeviceInstance :=
  { devInst with
    propertyVisitors := visitors
    twins := device.twins
    dataProperties := device.spec.data.dataProperties
    dataTopic := device.spec.data.dataTopic
    protocol }

def updateConfigMap (dc : DownstreamController) (device : Device) : Option DownstreamController := do
  let selector ← device.spec.nodeSelector
  match firstNode selector with
  | none => pure dc
  | some node =>
    match dc.configMaps.lookup node with
    | none => pure dc
    | some configMap =>
      match configMap.data with
      | none => pure dc
      | some deviceProfile =>
        if deviceProfile.isEmpty then pure dc
        else
          let oldProtocol :=
            ((deviceProfile.deviceInstances.find? (·.name = device.objectMeta.name)).map (·.protocol)).getD ""
          -- the old protocol is cut out keeping the order of the others
          let protocols := match deviceProfile.protocols.findIdx? (·.name = oldProtocol) with
            | some i => deviceProfile.protocols.eraseIdx i
            | none => deviceProfile.protocols
          let deviceProtocol := deviceProtocolOf device
          let instances ← match deviceProfile.deviceInstances.findIdx? (·.name = device.objectMeta.name) with
            | some i => do
              let visitors ← propertyVisitorsOf device
              pure (deviceProfile.deviceInstances.modify i (updateInstance device deviceProtocol.name visitors))
            | none => pure deviceProfile.deviceInstances
          let deviceProfile :=
            { deviceProfile with deviceInstances := instances, protocols := protocols ++ [deviceProtocol] }
          pure { dc with configMaps := dc.configMaps.insert node { configMap with data := some deviceProfile } }

def deleteProtocol (protocol : String) (protocols : List Protocol) : List Protocol :=
  match protocols.findIdx? (fun p : Protocol => p.name = protocol) with
  | some i => swapRemove protocols i
  | none => protocols

/-- Without an instance of the device the protocol searched for is `""`. -/
def deleteDeviceInstanceAndProtocol (device : Device) (deviceProfile : DeviceProfile) : DeviceProfile :=
  let instances := deviceProfile.deviceInstances
  match instances.findIdx? (fun inst : DeviceInstance => inst.name = device.objectMeta.name) with
  | some i =>
    { deviceProfile with
      deviceInstances := swapRemove instances i
      protocols := deleteProtocol ((instances[i]?.map DeviceInstance.protocol).getD "") deviceProfile.protocols }
  | none => { deviceProfile with protocols := deleteProtocol "" deviceProfile.protocols }

def deleteDeviceModelAndVisitors (modelName : String) (deviceProfile : DeviceProfile) : DeviceProfile :=
  match deviceProfile.deviceModels.findIdx? (fun m : String => m = modelName) with
  | some i => { deviceProfile with deviceModels := swapRemove deviceProfile.deviceModels i }
  | none => deviceProfile

/-- `deleteFromDeviceProfile`: a model no instance references any more is
    dropped; without the model in the model manager nothing is written back. -/
def deleteFromDeviceProfile (deviceModels : List String) (device : Device) (configMap : ConfigMap) :
    Option ConfigMap := do
  match configMap.data with
  | none => pure configMap
  | some deviceProfile =>
    let deviceProfile := deleteDeviceInstanceAndProtocol device deviceProfile
    let modelName ← device.spec.deviceModelRef
    if modelName ∉ deviceModels then pure configMap
    else
      let deviceProfile :=
        if deviceProfile.deviceInstances.any (fun inst : DeviceInstance => inst.model = modelName) then deviceProfile
        else deleteDeviceModelAndVisitors modelName deviceProfile
      pure { configMap with data := some deviceProfile }

/-- `deleteFromConfigMap`: a config map whose profile reads `{}` or `""` is
    dropped from the cache. -/
def deleteFromConfigMap (dc : DownstreamController) (device : Device) : Option DownstreamController := do
  let selector ← device.spec.nodeSelector
  match firstNode selector with
  | none => pure dc
  | some node =>
    match dc.configMaps.lookup node with
    | none => pure dc
    | some configMap =>
      let configMap ← deleteFromDeviceProfile dc.deviceModels device configMap
      if configMap.data.all DeviceProfile.isEmpty then
        pure { dc with configMaps := dc.configMaps.erase node }
      else pure { dc with configMaps := dc.configMaps.insert node configMap }

def deviceDeleted (dc : DownstreamController) (device : Device) : Option DownstreamController :=
  deleteFromConfigMap { dc with devices := dc.devices.erase device.objectMeta.name } device

/-- `isDeviceUpdated`: the resource version and the generation do not count. -/
def isDeviceUpdated (oldDevice newDevice : Device) : Bool :=
  oldDevice.objectMeta.name ≠ newDevice.objectMeta.name || oldDevice.objectMeta.labels ≠ newDevice.objectMeta.labels ||
    oldDevice.spec ≠ newDevice.spec || oldDevice.twins ≠ newDevice.twins

def deviceUpdated (dc : DownstreamController) (device : Device) : Option DownstreamController := do
  match dc.devices.lookup device.objectMeta.name with
  | none =>
    -- "If device not present in device map means it is not modified and added."
    deviceAdded dc device
  | some cachedDevice =>
    let dc := { dc with devices := dc.devices.insert device.objectMeta.name device }
    if !isDeviceUpdated cachedDevice device then pure dc
    else
      let oldSelector ← cachedDevice.spec.nodeSelector
      let newSelector ← device.spec.nodeSelector
      if oldSelector.nodeSelectorTerms ≠ newSelector.nodeSelectorTerms then
        let dc ← deviceAdded dc device
        deviceDeleted dc cachedDevice
      else
        let statusUpdated := cachedDevice.twins ≠ device.twins
        let dc ← if cachedDevice.spec.protocol ≠ device.spec.protocol || statusUpdated ||
            cachedDevice.spec.data ≠ device.spec.data ||
            cachedDevice.spec.propertyVisitors ≠ device.spec.propertyVisitors then
          updateConfigMap dc device
          else pure dc
        -- the twin message indexes `Values[0]` without the length checks
        if statusUpdated then
          let _ ← firstNode newSelector
          pure dc
        else pure dc

inductive DeviceEvent where
  | added (device : Device)
  | modified (device : Device)
  | deleted (device : Device)
  deriving DecidableEq, Repr

def syncDeviceStep (dc : DownstreamController) : DeviceEvent → Option DownstreamController
  | .added device => deviceAdded dc device
  | .modified device => deviceUpdated dc device
  | .deleted device => deviceDeleted dc device

def syncDeviceRun : List DeviceEvent → DownstreamController → Option DownstreamController
  | [], dc => some dc
  | e :: rest, dc => (syncDeviceStep dc e).bind (syncDeviceRun rest)

def profileNames (dc : DownstreamController) (node : String) : List String :=
  (((dc.configMaps.lookup node).bind ConfigMap.data).map
    fun p => p.deviceInstances.map DeviceInstance.name).getD []

def boundDevice (node : String) : Device :=
  ⟨⟨"d", [], "1", 1⟩, ⟨some "m", ⟨none, some "{}", none, none, none⟩, [], ⟨[], ""⟩,
    some ⟨[⟨[⟨"node", "In", [node]⟩]⟩]⟩⟩, []⟩

/-- Moving a device to another node ends with `deviceDeleted` of the old
    object, which drops the device from the cache as well; the next event for
    it, here a resync of the same object, adds it to the new node again, and
    the node's profile lists the one device bound to it twice. -/
theorem syncDeviceRun_moved_device_listed_twice :
    (syncDeviceRun [.added (boundDevice "node-a"), .modified (boundDevice "node-b"),
        .modified (boundDevice "node-b")] ⟨∅, ∅, ["m"]⟩).map
      (fun dc => (profileNames dc "node-b", profileNames dc "node-a",
        (dc.devices.lookup "d").isSome)) =
      some (["d", "d"], [], true) := by
  decide

end KubeEdge.DeviceController
