import DevSys.Common.JsonObjects
import DevSys.Common.TopicFormats
import DevSys.Device.Activation
import DevSys.Device.DeviceIds
import DevSys.Device.ModelKeys
import DevSys.Device.OfflineCalls
import DevSys.Device.OfflineCheck
import DevSys.Device.Registration
import DevSys.Device.Relocation
import DevSys.Device.Sweep
import DevSys.Device.Tenants
import DevSys.Device.Tokens
import DevSys.Device.TypeManager
import DevSys.Device.Ulids
import DevSys.Fault.History
import DevSys.Fault.Reassignment
import DevSys.Fault.Restart
import DevSys.Lib.Admission
import DevSys.Lib.Calendar
import DevSys.Lib.HttpReply
import DevSys.Lib.HttpRequests
import DevSys.Lib.JsonArrays
import DevSys.Lib.JsonStrings
import DevSys.Lib.Lanes
import DevSys.Lib.Machines
import DevSys.Lib.MqttServer
import DevSys.Lib.Polling
import DevSys.Mqtt.Idle
import DevSys.Mqtt.LengthBytes
import DevSys.Mqtt.Loopback
import DevSys.Mqtt.PacketIds
import DevSys.Mqtt.Sessions
import DevSys.Mqtt.Survival
import DevSys.Order.Conservation
import DevSys.Order.Fetch
import DevSys.Order.Frame
import DevSys.Order.Restart
import DevSys.Order.Shop
import DevSys.Organization.AccountFrame
import DevSys.Organization.BrokerMirror
import DevSys.Organization.ChildrenCount
import DevSys.Organization.Credentials
import DevSys.Organization.Integrity
import DevSys.Organization.Scope
import DevSys.Organization.Sessions
import DevSys.Organization.Tenancy
import DevSys.Organization.Tree
import DevSys.Ota.Firmware
import DevSys.Ota.FirmwareData
import DevSys.Ota.FirmwareStore
import DevSys.Ota.Latest
import DevSys.Ota.Ranges
import DevSys.Ota.Rollout
import DevSys.Ota.Statistics
import DevSys.Ota.Upgrades
import DevSys.Recipe.RecipeManager
import DevSys.Router.Finality
import DevSys.Router.Homes
import DevSys.Router.Isolation
import DevSys.Router.Migration
import DevSys.Router.PerDevice
import DevSys.Router.Pipeline
import DevSys.Router.Recovery
import DevSys.Router.Reports
import DevSys.Router.Status
import DevSys.Router.Subscriptions
import DevSys.Security.TlsManager
import DevSys.Server.BodyFraming
import DevSys.Server.DeviceStatements
import DevSys.Server.DeviceWrites
import DevSys.Server.DiskScan
import DevSys.Server.Dispatch
import DevSys.Server.Exceptions
import DevSys.Server.Exchange
import DevSys.Server.FaultListing
import DevSys.Server.HeaderFields
import DevSys.Server.HeaderNames
import DevSys.Server.HeaderReaders
import DevSys.Server.Lifecycle
import DevSys.Server.Listings
import DevSys.Server.MainLoop
import DevSys.Server.OrderCreation
import DevSys.Server.OrgTree
import DevSys.Server.QueryFilters
import DevSys.Server.QueryParams
import DevSys.Server.RequestRoundTrip
import DevSys.Server.Scoped
import DevSys.Server.TenantDetail
import DevSys.Server.TenantKey
import DevSys.Storage.DeviceTypes
import DevSys.Storage.Directory
import DevSys.Storage.LogExport
import DevSys.Storage.Migrations
import DevSys.Storage.RoundTrip
import DevSys.Storage.RowDecoders
import DevSys.Storage.Statements
