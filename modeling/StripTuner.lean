import StripTuner.Lib.Prog
import StripTuner.CredentialStore.Credentials
import StripTuner.CredentialStore.Store
import StripTuner.CredentialStore.PowerLoss
import StripTuner.CredentialStore.Failures
import StripTuner.Lib.Flash
import StripTuner.FwMeta.Flash
import StripTuner.Updater.Boot
import StripTuner.FwMeta.Records
import StripTuner.Updater.Board
import StripTuner.Updater.Upload
import StripTuner.Updater.Receive
import StripTuner.Updater.BootDecision
import StripTuner.Updater.Runs
import StripTuner.Updater.Reply
import StripTuner.Ws2812.Symbols
import StripTuner.Ws2812.Pulses
import StripTuner.Ws2812.Agreement
import StripTuner.PulseMonitor.Model
import StripTuner.PulseMonitor.Pairing
import StripTuner.PulseMonitor.Rounds
import StripTuner.PulseMonitor.Outcomes
import StripTuner.Lib.Loop
import StripTuner.Provisioning.Components
import StripTuner.Provisioning.Orchestrator
import StripTuner.Provisioning.System
import StripTuner.Provisioning.Services
import StripTuner.Lib.Refine
import StripTuner.Provisioning.Core
import StripTuner.Lib.Monitor
import StripTuner.Provisioning.History
import StripTuner.Provisioning.Policy
import StripTuner.Provisioning.ActivePair
import StripTuner.Provisioning.Deadlines
import StripTuner.Provisioning.Association
import StripTuner.Provisioning.Status
import StripTuner.Lib.Threads
import StripTuner.Logging.Queue
import StripTuner.Logging.Races
import StripTuner.Updater.CrashLoop
import StripTuner.Updater.ForceFlag
import StripTuner.HttpPortal.Forms
import StripTuner.HttpPortal.Exchanges
import StripTuner.HttpPortal.Results
import StripTuner.HttpPortal.Submissions
import StripTuner.Updater.Server
import StripTuner.Updater.SingleUpload
import StripTuner.Updater.StatusReply
import StripTuner.FwMeta.Generator
import StripTuner.Updater.UsbFlash
import StripTuner.Lib.Decimal
import StripTuner.HttpPortal.TunerPage
import StripTuner.Button.Sampling
import StripTuner.Updater.Splits
import StripTuner.Button.Gestures
import StripTuner.Lib.Averages
import StripTuner.Ws2812.Measurement
import StripTuner.Ws2812.ReadAnalysis
import StripTuner.Lib.Memory
import StripTuner.DnsServer.Response
import StripTuner.DnsServer.Questions
import StripTuner.HttpPortal.Origins
import StripTuner.Lib.Hex
import StripTuner.Lib.UrlEncoded
import StripTuner.Lib.Json
import StripTuner.WifiManager.Scan
import StripTuner.HttpPortal.PortalForm
import StripTuner.HttpPortal.FormFields
import StripTuner.HttpPortal.Setup
import StripTuner.HttpPortal.ScanList
import StripTuner.Lib.Ranking
import StripTuner.WifiManager.Normalize
import StripTuner.HttpPortal.ResultQuery
import StripTuner.HttpPortal.ResultBody
import StripTuner.LedController.Encoder
import StripTuner.LedController.Driver
import StripTuner.LedController.Frames
import StripTuner.FwMeta.Corruption
import StripTuner.Lib.Traces
import StripTuner.Lib.Register
import StripTuner.CredentialStore.Register
import StripTuner.Lib.SearchParams
import StripTuner.HttpPortal.PageScript
import StripTuner.HttpPortal.PageSession
import StripTuner.HttpPortal.PagePolls
import StripTuner.ForeignFrame
import StripTuner.Loopback
import StripTuner.WifiManager.ScanNetworks
import StripTuner.HttpPortal.SetupServer
import StripTuner.HttpPortal.SetupPage
import StripTuner.Lib.Lanes
import StripTuner.Lib.Distance
import StripTuner.Updater.BitFlips
import StripTuner.Updater.Sessions
import StripTuner.Updater.StatusText
import StripTuner.Updater.UploadPage
import StripTuner.Updater.UploadSite
