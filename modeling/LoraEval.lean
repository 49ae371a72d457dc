import LoraEval.Core.Loop
import LoraEval.Core.Buffer
import LoraEval.Core.Bits
import LoraEval.Core.Decimal
import LoraEval.App.Number
import LoraEval.App.Database
import LoraEval.App.Form
import LoraEval.App.Settings
import LoraEval.App.Summary
import LoraEval.App.FormEncoding
import LoraEval.Firmware.Modem
import LoraEval.Firmware.Message
import LoraEval.Firmware.Sender
import LoraEval.Firmware.SenderInvariant
import LoraEval.Firmware.Notification
import LoraEval.Firmware.Receiver
import LoraEval.Firmware.ReceiverInvariant
import LoraEval.Graphs.ProcessData
import LoraEval.Experiment.Enumeration
import LoraEval.Experiment.MessageAgreement
import LoraEval.Core.Run
import LoraEval.Firmware.Handshake
import LoraEval.Firmware.HandshakeInvariant
import LoraEval.Experiment.Start
import LoraEval.Firmware.StartDelay
import LoraEval.Experiment.Delay
import LoraEval.App.Central
import LoraEval.App.ResultLog
import LoraEval.Firmware.SenderThreads
import LoraEval.Firmware.ReceiverConfig
import LoraEval.Core.Single
import LoraEval.Firmware.SenderTiming
import LoraEval.Experiment.Timing
import LoraEval.Experiment.Numbering
import LoraEval.Firmware.ReceiverRecords
import LoraEval.Core.Csv
import LoraEval.Core.TextFile
import LoraEval.App.ResultFile
import LoraEval.Graphs.InputFiles
import LoraEval.Experiment.ResultFiles
import LoraEval.Experiment.InformationFiles
import LoraEval.App.ExperimentScreen
import LoraEval.Experiment.ExportedRows
import LoraEval.Core.Exclusive
import LoraEval.Firmware.Radio
import LoraEval.Firmware.RadioThreads
import LoraEval.Firmware.SenderRadio
import LoraEval.Firmware.ReceiverRadio
import LoraEval.Firmware.SenderTransmit
import LoraEval.Firmware.TransmitMode
import LoraEval.Graphs.Charts
import LoraEval.Graphs.Session
import LoraEval.App.Connection
import LoraEval.App.SingleConnection
import LoraEval.App.CommandScreen
import LoraEval.App.OpenWrites
import LoraEval.Experiment.TimeOnAir
import LoraEval.Firmware.ReceiverReports
import LoraEval.Experiment.BitErrors
import LoraEval.Firmware.Receptions
import LoraEval.Experiment.MessageNumbers
import LoraEval.Experiment.CorrectFlag
import LoraEval.Experiment.Faults
import LoraEval.Core.Ordered
import LoraEval.Graphs.OrderedRows
import LoraEval.Core.Double
import LoraEval.Firmware.LoopCommands
import LoraEval.App.ExploreScreens
import LoraEval.Firmware.ExploreMessage
import LoraEval.Experiment.ExploreMessages
import LoraEval.App.ExperimentStore
import LoraEval.Core.Table
import LoraEval.App.ExperimentIsolation
import LoraEval.Experiment.PingVerdicts
import LoraEval.Firmware.PingResponse
import LoraEval.App.Positions
import LoraEval.Experiment.SettingsFit
import LoraEval.Experiment.ResultBroadcasts
import LoraEval.Firmware.RunNotifications
import LoraEval.Graphs.ResultRows
import LoraEval.Experiment.Deliveries
import LoraEval.Experiment.Measurement
import LoraEval.Firmware.RadioDriver
import LoraEval.App.ExperimentMode
import LoraEval.App.RecordEdits
import LoraEval.App.RecordInvariant
import LoraEval.App.ScreenSteps
import LoraEval.App.ExperimentRuns
import LoraEval.App.ExperimentSteps
import LoraEval.Graphs.Scenario
import LoraEval.Graphs.ScenarioCharts
import LoraEval.App.ExperimentView
import LoraEval.App.ExperimentFollows
import LoraEval.App.ExperimentRefinement
import LoraEval.Graphs.CodingRates
import LoraEval.Firmware.LatePackets
import LoraEval.Firmware.ReceiverTiming
