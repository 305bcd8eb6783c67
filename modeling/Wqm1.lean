import Wqm1.Library.Prog
import Wqm1.Library.Bytes
import Wqm1.Library.Aes
import Wqm1.Radio.Region
import Wqm1.Radio.Crypto
import Wqm1.Radio.Frame
import Wqm1.Radio.Mac
import Wqm1.Radio.MacCommands
import Wqm1.Radio.Downlink
import Wqm1.Radio.Join
import Wqm1.Radio.Uplink
import Wqm1.Radio.Cayenne
import Wqm1.Radio.Unit
import Wqm1.Radio.Outline
import Wqm1.Radio.Authenticity
import Wqm1.Radio.Replay
import Wqm1.Radio.DownlinkCodec
import Wqm1.Radio.UplinkGrammar
import Wqm1.Radio.LinkChecks
import Wqm1.Radio.Telemetry
import Wqm1.Radio.LinkAdrBlock
import Wqm1.Radio.Counters
import Wqm1.Library.Events
import Wqm1.App.Workers
import Wqm1.App.Supervisor
import Wqm1.App.Liveness
import Wqm1.Library.Window
import Wqm1.Sensing.Drift
import Wqm1.Sensing.Monitor
import Wqm1.Sensing.Silence
import Wqm1.Radio.ParamsDocument
import Wqm1.Radio.MacRun
import Wqm1.Radio.JoinReplay
import Wqm1.Radio.MacState
import Wqm1.Radio.CayenneDecode
import Wqm1.Radio.CayenneRoundTrip
import Wqm1.Library.Dict
import Wqm1.Control.Relay
import Wqm1.Control.RelayCeiling
import Wqm1.Control.IrrigationHold
import Wqm1.Control.HoldAgreement
import Wqm1.Control.Rules
import Wqm1.Control.RuleCycle
import Wqm1.Control.TimerSweep
import Wqm1.Control.SuspensionFailsafe
import Wqm1.Control.Ownership
import Wqm1.Breaker.Controller
import Wqm1.Breaker.Interlock
import Wqm1.Breaker.Commands
import Wqm1.Breaker.OffRequest
import Wqm1.Breaker.ShortCycle
import Wqm1.Library.Table
import Wqm1.Storage.Buffer
import Wqm1.Storage.StoreForward
import Wqm1.Storage.Migration
import Wqm1.Cloud.DeviceCommands
import Wqm1.Cloud.CommandOnce
import Wqm1.Cloud.CommandReports
import Wqm1.Ota.Agent
import Wqm1.Library.Action
import Wqm1.Library.Containment
import Wqm1.Library.LinkFree
import Wqm1.Ota.CrashSafety
import Wqm1.Ota.Failure
import Wqm1.Ota.SelfTest
import Wqm1.Ota.TarExtract
import Wqm1.Ota.TarGuard
import Wqm1.Ota.TarSlip
import Wqm1.Ota.TrustGate
import Wqm1.Library.FileTree
import Wqm1.App.EventQueue
import Wqm1.Library.Crew
import Wqm1.Cloud.KeyRevocation
import Wqm1.Library.Disk
import Wqm1.Storage.AtomicReplace
import Wqm1.Storage.ConfigUpdates
import Wqm1.Sensing.CalibrationStore
import Wqm1.Identity.DeviceKeys
import Wqm1.Identity.OneKey
import Wqm1.Library.OnTime
import Wqm1.Control.Automation
import Wqm1.Control.BudgetGate
import Wqm1.Control.BudgetRefusal
import Wqm1.Control.Cooldown
import Wqm1.Library.Double
import Wqm1.Library.Yaml
import Wqm1.Config.Schema
import Wqm1.Config.Manager
import Wqm1.Config.Validity
import Wqm1.Config.Validation
import Wqm1.Config.Layering
import Wqm1.Config.RemoteCalls
import Wqm1.Sensing.GpsPower
import Wqm1.Sensing.FlowTotalizer
import Wqm1.Library.Text
import Wqm1.Network.CardBinding
import Wqm1.Network.TerseNames
import Wqm1.Network.SavedProfiles
import Wqm1.Network.JoinRecord
import Wqm1.Config.Reconciliation
import Wqm1.Integrations.HomeAssistant
import Wqm1.Cloud.Rs485Config
import Wqm1.Cloud.CommandSettings
import Wqm1.Cloud.BusAddresses
import Wqm1.Control.HoldDecisions
import Wqm1.Radio.LinkAdrAnswer
import Wqm1.Radio.DownlinkBytes
import Wqm1.Config.ValidatedValues
import Wqm1.Sensing.PhSensor
import Wqm1.Cloud.DeviceHandlers
import Wqm1.Cloud.CalibrationProtocol
import Wqm1.Cloud.CommandTotality
import Wqm1.Control.WaterProfile
import Wqm1.Control.ProfileInstallation
import Wqm1.Sensing.Modbus
import Wqm1.Library.Rounding
import Wqm1.Library.Numeral
import Wqm1.Sensing.GgaSentence
import Wqm1.Library.ShiftRegister
import Wqm1.Sensing.ModbusCrc
import Wqm1.Library.Escape
import Wqm1.Network.WifiQr
import Wqm1.Library.DateTime
import Wqm1.Network.ClockRepair
import Wqm1.Platform.HostPins
import Wqm1.Platform.PinClashes
import Wqm1.Library.Quotients
import Wqm1.Radio.Sx1262
import Wqm1.Radio.OnAir
import Wqm1.Network.Hotspot
import Wqm1.Network.RadioOwner
import Wqm1.Network.HotspotEnds
import Wqm1.Breaker.AbleEdge
import Wqm1.Breaker.Bearer
import Wqm1.Library.JsonText
import Wqm1.Library.Held
import Wqm1.Library.LineStream
import Wqm1.Network.ScanList
import Wqm1.Network.ScanCache
import Wqm1.Network.SetupPage
import Wqm1.Network.JoinService
import Wqm1.Sensing.Ads1115
import Wqm1.Cloud.Registration
import Wqm1.Cloud.RegistrationTimes
import Wqm1.Sensing.ClockSource
