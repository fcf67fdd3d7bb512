import Backplane.Flight.Batch
import Backplane.Utils.LinearFit
import Backplane.Utils.SlidingList
import Backplane.Utils.RollingSum
import Backplane.Utils.Slope
import Backplane.Samples.FindLine
import Backplane.Samples.FlightPlan
import Backplane.SensorModule.Flight
import Backplane.Utils.Debouncer
import Backplane.Utils.DebouncerLaw
import Backplane.Utils.Format
import Backplane.Os.FlightLogLine
import Backplane.Os.FileReads
import Backplane.SensorModule.Detection
import Backplane.SensorModule.Handlers
import Backplane.SensorModule.Phases
import Backplane.SensorModule.DeadSensor
import Backplane.SensorModule.Submissions
import Backplane.SensorModule.TPlus
import Backplane.SensorModule.Attribution
import Backplane.Flight.Order
import Backplane.Flight.Preemption
import Backplane.Net.UdpSocket
import Backplane.Os.File
import Backplane.Os.DataLogger
import Backplane.Os.LogTrouble
import Backplane.Classic.FrameLog
import Backplane.Classic.FrameLogTrouble
import Backplane.Drivers.Mcp356x
import Backplane.Drivers.Mcp356xSamples
import Backplane.Drivers.Mcp356xSetup
import Backplane.Drivers.Ms5611
import Backplane.Drivers.Barometer
import Backplane.Drivers.Ms5611Prom
import Backplane.Drivers.Adxl375
import Backplane.Drivers.Ina260
import Backplane.Drivers.FailedFetch
import Backplane.Classic.FloatGetters
import Backplane.PowerModule.Sensing
import Backplane.Net.Tftp
import Backplane.Net.TftpParse
import Backplane.Net.TftpWait
import Backplane.Net.TftpAbort
import Backplane.Utils.HashMap
import Backplane.Radio.Transmit
import Backplane.Radio.RadioModule
import Backplane.Radio.PadRequest
import Backplane.Radio.LoraDirection
import Backplane.Utils.HashMapRuns
import Backplane.Messaging.MessagePort
import Backplane.Horus.Packet
import Backplane.Horus.Consume
import Backplane.OpenRocket.Packets
import Backplane.OpenRocket.Units
import Backplane.OpenRocket.Imu
import Backplane.OpenRocket.EventLog
import Backplane.OpenRocket.Conversion
import Backplane.Os.Rtos
import Backplane.SensorModule.Networking
import Backplane.SensorModule.Boots
import Backplane.Radio.Gnss
import Backplane.Radio.Downlink
import Backplane.Tools.DataLogCheck
import Backplane.Radio.Uplink
import Backplane.Radio.Delivery
