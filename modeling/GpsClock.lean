import GpsClock.Sync.Synchroniser
import GpsClock.Sml.Burst
import GpsClock.Link.Pending
import GpsClock.Link.System
import GpsClock.Link.Updates
import GpsClock.Sync.Invariants
import GpsClock.Sync.Holdover
import GpsClock.Sync.Hysteresis
import GpsClock.Lib.Journal
import GpsClock.Store.Flash
import GpsClock.Store.Record
import GpsClock.Store.Scan
import GpsClock.Store.Write
import GpsClock.Store.Sound
import GpsClock.Store.Runs
import GpsClock.Store.PowerCut
import GpsClock.Store.Failure
import GpsClock.Settings.Records
import GpsClock.Settings.Restart
import GpsClock.Settings.Revisions
import GpsClock.Lib.Steps
import GpsClock.TimeZone.Payload
import GpsClock.TimeZone.Restore
import GpsClock.TimeZone.Schedule
import GpsClock.TimeZone.Agreement
import GpsClock.TimeZone.Service
import GpsClock.TimeZone.Coverage
import GpsClock.Menu.Items
import GpsClock.Menu.Menu
import GpsClock.Menu.Edits
import GpsClock.Sync.FreeRun
import GpsClock.Menu.ManualTime
import GpsClock.Display.Frame
import GpsClock.Display.Modes
import GpsClock.Display.Tubes
import GpsClock.Display.Display
import GpsClock.Display.Seconds
import GpsClock.Platform.Timeline
import GpsClock.Sync.Truthful
import GpsClock.Sync.Placement
import GpsClock.Gnss.Epoch
import GpsClock.Timing.Acquisition
import GpsClock.Timing.ClosedLoop
import GpsClock.Gnss.UbxParser
import GpsClock.Lib.Truncation
import GpsClock.Ntp.EspClock
import GpsClock.Ntp.Uncertainty
import GpsClock.Rtc.Pcf8563
import GpsClock.Rtc.SourceRtc
import GpsClock.Lib.Response
import GpsClock.Rtc.System
import GpsClock.Rtc.Bound
import GpsClock.Rtc.Stopped
import GpsClock.Sync.SourceNtp
import GpsClock.Sync.NtpLabels
import GpsClock.Lib.BitSet
import GpsClock.Lib.Overlap
import GpsClock.Ntp.Select
import GpsClock.Ntp.Inverse
import GpsClock.Sync.TimeSet
import GpsClock.Rtc.Rate
import GpsClock.Rtc.PlainWrites
import GpsClock.Display.Uncertainty
import GpsClock.Lib.Rounding
import GpsClock.Timing.Q16
import GpsClock.Timing.PiServo
import GpsClock.Timing.Fraction
import GpsClock.Timing.Kalman
import GpsClock.Lib.Wrapping
import GpsClock.Timing.Scheduler
import GpsClock.Lib.Decimal
import GpsClock.Platform.FormatNs
import GpsClock.Display.Delta
import GpsClock.Gnss.Assembler
import GpsClock.Ui.Alarm
import GpsClock.Timing.Slots
import GpsClock.Rtc.Superseded
import GpsClock.Rtc.Confirms
import GpsClock.Rtc.Counted
import GpsClock.Lib.Bcd
import GpsClock.Rtc.Registers
import GpsClock.Console.Parse
import GpsClock.Console.Moment
import GpsClock.Gnss.Config
import GpsClock.Drivers.I2c1
import GpsClock.Drivers.I2cQueue
import GpsClock.Drivers.Uart
import GpsClock.Drivers.UartRings
import GpsClock.Lib.PaddedOrder
import GpsClock.Net.Version
import GpsClock.Sync.PpsMonitor
import GpsClock.Sml.Silence
import GpsClock.Sml.Stream
import GpsClock.Timing.Resume
import GpsClock.Link.Saves
import GpsClock.Lib.LocalTime
import GpsClock.Menu.LocalTime
import GpsClock.Menu.Frames
import GpsClock.Menu.Unchanged
import GpsClock.Lib.Simulation
import GpsClock.Menu.Button
import GpsClock.Timing.ControlLoop
import GpsClock.Timing.LoopRuns
import GpsClock.Timing.TimedLoop
import GpsClock.Ui.Controls
import GpsClock.Ui.Presses
import GpsClock.Lib.Recent
import GpsClock.Ntp.Client
import GpsClock.Ntp.OneServer
import GpsClock.Ntp.Renamed
import GpsClock.Display.TrueSeconds
import GpsClock.Timing.Capture
import GpsClock.Ntp.EspSecond
import GpsClock.Sync.LeapChain
