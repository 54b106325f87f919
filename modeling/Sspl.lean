import Sspl.Foundation.System
import Sspl.Foundation.Call
import Sspl.Foundation.Slots
import Sspl.Foundation.Wide
import Sspl.Foundation.Try
import Sspl.Foundation.Acyclic
import Sspl.Foundation.Alternation
import Sspl.Python.Value
import Sspl.Python.Text
import Sspl.Store.Queue
import Sspl.Store.Fifo
import Sspl.Store.Room
import Sspl.Store.Interleaving
import Sspl.Store.Facts
import Sspl.Store.Overlap
import Sspl.Store.NoLoss
import Sspl.Store.Size
import Sspl.Store.Limit
import Sspl.Store.Crash
import Sspl.Security.Library
import Sspl.Messaging.Ack
import Sspl.Messaging.Ingress
import Sspl.Messaging.Signature
import Sspl.Messaging.Egress
import Sspl.Messaging.Delivery
import Sspl.Messaging.Accumulated
import Sspl.Messaging.Order
import Sspl.Sensor.Thread
import Sspl.Sensor.Safety
import Sspl.Sensor.Outcome
import Sspl.Sensor.Bootstrap
import Sspl.Systemd.Monitor
import Sspl.Systemd.Alternation
import Sspl.Systemd.Watch
import Sspl.Realstor.Fru
import Sspl.Realstor.Persistence
import Sspl.Realstor.Interference
import Sspl.Realstor.Presence
import Sspl.Realstor.Faults
import Sspl.NodeHw.Channel
import Sspl.Iem.Outstanding
import Sspl.NodeHw.Sel
import Sspl.Iem.Message
import Sspl.Iem.Grammar
import Sspl.Iem.Tail
import Sspl.Iem.Schedule
import Sspl.Iem.Malformed
import Sspl.Controller.ExecuteThread
import Sspl.Controller.Requests
import Sspl.Controller.Scheduler
import Sspl.Conf.Store
import Sspl.Conf.Upgrade
import Sspl.NodeController.Handler
import Sspl.NodeController.Actuators
import Sspl.NodeController.Answers
import Sspl.Sensor.Dependency
import Sspl.Node.Cpu
import Sspl.Node.Network
import Sspl.Node.SasPort
import Sspl.Realstor.Actuator
import Sspl.Realstor.Commands
import Sspl.Systemd.Keys
import Sspl.Drives.Coverage
import Sspl.Disk.Runs
import Sspl.DiskMonitor.Acks
import Sspl.DiskMonitor.PerDrive
import Sspl.Raid.Alternate
import Sspl.Node.HighUsage
import Sspl.Node.DiskSpace
import Sspl.Node.MemFault
import Sspl.Raid.IntegrityAlerts
import Sspl.Raid.IntegrityRound
import Sspl.Raid.StatusLine
import Sspl.Disk.RoundTrip
import Sspl.Disk.ExpanderReset
import Sspl.Raid.Rounds
import Sspl.Node.CpuList
import Sspl.Server.CpuHealth
import Sspl.Server.Health
import Sspl.Server.GetData
import Sspl.Foundation.Pattern
import Sspl.Server.Psu
import Sspl.Server.Platform
import Sspl.Realstor.Failover
import Sspl.Messaging.Routing
import Sspl.Realstor.Volumes
import Sspl.Realstor.Sideplanes
import Sspl.Realstor.Fans
import Sspl.NodeHw.FruRequests
import Sspl.Drives.Waiting
import Sspl.Node.SasPhys
import Sspl.Realstor.Reachability
import Sspl.Systemd.Enabling
import Sspl.Systemd.Disabled
import Sspl.Systemd.Nonactive
import Sspl.Systemd.Signals
import Sspl.Security.KeyFiles
import Sspl.Security.Verifying
import Sspl.Security.Tokens
import Sspl.Foundation.Words
import Sspl.Foundation.Replace
import Sspl.NodeHw.Alerts
import Sspl.NodeHw.Resources
import Sspl.NodeHw.Verdicts
import Sspl.NodeHw.MadeUp
import Sspl.NodeHw.FanEvents
import Sspl.NodeHw.DirectCheck
import Sspl.Threads.Mailbox
import Sspl.Threads.Queues
import Sspl.Threads.DebugOff
