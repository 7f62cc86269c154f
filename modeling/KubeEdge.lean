import KubeEdge.Go.Strconv
import KubeEdge.Twin.Common
import KubeEdge.Twin.Types
import KubeEdge.Twin.Deal
import KubeEdge.Twin.DealSpec
import KubeEdge.Twin.Versions
import KubeEdge.Twin.Store
import KubeEdge.Twin.Refinement
import KubeEdge.Go.Strings
import KubeEdge.Beehive.Message
import KubeEdge.Beehive.ChannelContext
import KubeEdge.Cloud.Resource
import KubeEdge.Cloud.ChannelQueue
import KubeEdge.Cloud.ChannelQueueSpec
import KubeEdge.Cloud.NodeSessions
import KubeEdge.MetaServer.Watch
import KubeEdge.Viaduct.SyncKeeper
import KubeEdge.Lib.BigEndian
import KubeEdge.Go.Io
import KubeEdge.Viaduct.Packer
import KubeEdge.DeviceController.Downstream
import KubeEdge.Lib.LocalFold
import KubeEdge.Cloud.MissionState
import KubeEdge.Go.Schema
import KubeEdge.Cloud.SyncController
import KubeEdge.Twin.Attr
import KubeEdge.MetaServer.Key
import KubeEdge.MetaServer.WatchChan
import KubeEdge.Cloud.Application
import KubeEdge.Cloud.WriteLoops
import KubeEdge.Beehive.ParseResource
import KubeEdge.MetaServer.Kind
import KubeEdge.Go.Binary
import KubeEdge.Stream.Message
import KubeEdge.Cloud.MissionStatePruner
import KubeEdge.Go.Sync
import KubeEdge.Twin.Membership
import KubeEdge.Lib.Regex
import KubeEdge.Router.Path
import KubeEdge.Lib.Base64
import KubeEdge.Twin.Classify
import KubeEdge.Clusterd.MissionDeployer
import KubeEdge.Go.Json
import KubeEdge.MetaManager.Message
import KubeEdge.MetaManager.Dao
import KubeEdge.MetaManager.Imitator
import KubeEdge.MetaManager.Process
import KubeEdge.MetaManager.PodStatus
import KubeEdge.MetaManager.Runs
import KubeEdge.MetaManager.Delivery
