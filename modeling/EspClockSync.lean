import EspClockSync.Machine.Checked
import EspClockSync.Machine.Ring
import EspClockSync.Machine.Channel
import EspClockSync.Machine.System
import EspClockSync.Machine.Text
import EspClockSync.Machine.Occurrence
import EspClockSync.Machine.Hexadecimal
import EspClockSync.Machine.Tracking
import EspClockSync.Machine.Statistics
import EspClockSync.Machine.Extrapolation
import EspClockSync.Sync.Packet
import EspClockSync.Sync.Isqrt
import EspClockSync.Sync.Estimator
import EspClockSync.Sync.AlphaBeta
import EspClockSync.Sync.LinearTracker
import EspClockSync.Server.Broadcast
import EspClockSync.Rig.Capture
import EspClockSync.Rig.Calibrate
import EspClockSync.Rig.Report
import EspClockSync.Meter.Line
import EspClockSync.Meter.Stats
import EspClockSync.Meter.Matching
import EspClockSync.Meter.Reader
import EspClockSync.Meter.Status
import EspClockSync.Client.State
import EspClockSync.Client.Queries
import EspClockSync.Client.Steps
import EspClockSync.Client.Trace
import EspClockSync.Rig.Board
import EspClockSync.Rig.Bssid
import EspClockSync.Firmware.Bootstrap
import EspClockSync.Firmware.Exchange
import EspClockSync.Verif.EstimatorWindow
import EspClockSync.Verif.EstimatorHistory
import EspClockSync.Verif.EstimatorAnswers
import EspClockSync.Verif.EstimatorAgreement
import EspClockSync.Verif.EstimatorDrift
import EspClockSync.Verif.EstimatorQuality
import EspClockSync.Verif.TsfConversion
import EspClockSync.Verif.FilterSteps
import EspClockSync.Verif.FilterSafety
import EspClockSync.Verif.FilterErrors
import EspClockSync.Verif.FilterTracking
import EspClockSync.Verif.FilterInfluence
import EspClockSync.Verif.FilterEpochs
import EspClockSync.Verif.TrackerWindow
import EspClockSync.Verif.TrackerHistory
import EspClockSync.Verif.TrackerAnswers
import EspClockSync.Verif.TrackerRecovery
import EspClockSync.Verif.InstantInverse
import EspClockSync.Verif.ClientSteps
import EspClockSync.Verif.ClientTrace
import EspClockSync.Verif.ExtraTimer
import EspClockSync.Verif.RxTimestamp
import EspClockSync.Verif.EventConservation
import EspClockSync.Verif.SamplePipeline
import EspClockSync.Verif.OneAccessPoint
import EspClockSync.Verif.InstantClock
import EspClockSync.Verif.Timebases
import EspClockSync.Verif.ArithmeticSafety
import EspClockSync.Verif.ForeignBeacons
import EspClockSync.Verif.ClientSafety
import EspClockSync.Verif.PacketSearch
import EspClockSync.Verif.ServerTimeline
import EspClockSync.Verif.ServerSamples
import EspClockSync.Verif.CaptureUnwrap
import EspClockSync.Verif.CaptureInterleavings
import EspClockSync.Verif.Calibration
import EspClockSync.Verif.BoardSteps
import EspClockSync.Verif.BoardClient
import EspClockSync.Verif.PulseTicks
import EspClockSync.Verif.PulseWave
import EspClockSync.Verif.BoardEdges
import EspClockSync.Verif.BssidText
import EspClockSync.Verif.LineRoundTrip
import EspClockSync.Verif.ReaderLines
import EspClockSync.Verif.BoardLines
import EspClockSync.Verif.MeterSteps
import EspClockSync.Verif.MeterVerdict
import EspClockSync.Verif.MeterSpread
import EspClockSync.Verif.SelfLoop
import EspClockSync.Verif.MeterHistory
import EspClockSync.Verif.MeterPruning
import EspClockSync.Verif.MeterSchedules
import EspClockSync.Verif.MeterPercentile
import EspClockSync.Verif.MeterReports
import EspClockSync.Verif.BootstrapLines
import EspClockSync.Verif.BootstrapExchange
