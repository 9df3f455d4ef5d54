import Rtl8190.Lib.Run
import Rtl8190.Lib.Microwire
import Rtl8190.Lib.Circular
import Rtl8190.Reorder.Code
import Rtl8190.Reorder.Window
import Rtl8190.Reorder.Order
import Rtl8190.Reorder.Timer
import Rtl8190.Reorder.Pool
import Rtl8190.Reorder.Complete
import Rtl8190.Lib.Hysteresis
import Rtl8190.RateAdaptive.Code
import Rtl8190.RateAdaptive.History
import Rtl8190.Lib.Trace
import Rtl8190.Watchdog.Code
import Rtl8190.Watchdog.Stuck
import Rtl8190.Lib.Indices
import Rtl8190.Lib.Memory
import Rtl8190.BlockAck.Code
import Rtl8190.BlockAck.RoundTrip
import Rtl8190.BlockAck.Handshake
import Rtl8190.Lib.LinkedList
import Rtl8190.TrafficStream.Code
import Rtl8190.TrafficStream.Lists
import Rtl8190.Tx.Code
import Rtl8190.Tx.Ring
import Rtl8190.Lib.Progress
import Rtl8190.Tx.Softmac
import Rtl8190.Tx.WaitQueue
import Rtl8190.Beacon.Dot11d
import Rtl8190.Beacon.Code
import Rtl8190.Beacon.Decoders
import Rtl8190.Beacon.Bounds
import Rtl8190.Rx.Code
import Rtl8190.Rx.Protection
import Rtl8190.BlockAck.Negotiation
import Rtl8190.BlockAck.Interleaved
import Rtl8190.BlockAck.Wedge
import Rtl8190.Crypt.Ccmp
import Rtl8190.Crypt.CcmpReplay
import Rtl8190.Crypt.Tkip
import Rtl8190.Crypt.TkipCache
import Rtl8190.Xmit.Code
import Rtl8190.Xmit.SeqNum
import Rtl8190.Beacon.Networks
import Rtl8190.Beacon.NetworkList
import Rtl8190.Lib.Ledger
import Rtl8190.Rx.FragCache
import Rtl8190.Rx.Provenance
import Rtl8190.Rx.Fragments
import Rtl8190.Rx.Ownership
import Rtl8190.Association.Code
import Rtl8190.Association.Soundness
import Rtl8190.Association.AccessPoint
import Rtl8190.Rx.Duplicates
import Rtl8190.Beacon.Stored
import Rtl8190.RxRing.Code
import Rtl8190.RxRing.Ownership
import Rtl8190.RxRing.Batch
import Rtl8190.Cam.Code
import Rtl8190.Cam.Restore
import Rtl8190.Cam.Setters
import Rtl8190.Cam.Install
import Rtl8190.Lib.Flag
import Rtl8190.Power.Code
import Rtl8190.Power.Flags
import Rtl8190.Association.Choice
import Rtl8190.Association.Progress
import Rtl8190.Association.Quiescence
import Rtl8190.Association.Selection
import Rtl8190.Lib.Nonce
import Rtl8190.Crypt.Nonces
import Rtl8190.Association.Essid
import Rtl8190.Lib.Semaphore
import Rtl8190.Wx.Code
import Rtl8190.Wx.Semaphores
import Rtl8190.Edca.Code
import Rtl8190.Edca.Fidelity
import Rtl8190.Power.RfCode
import Rtl8190.Power.OffReason
import Rtl8190.Link.Code
import Rtl8190.Link.Mirror
import Rtl8190.Crypt.RoundTrip
import Rtl8190.Rx.Subframes
import Rtl8190.PowerSave.Code
import Rtl8190.Beacon.Build
import Rtl8190.Beacon.RoundTrip
import Rtl8190.PowerSave.Handshake
import Rtl8190.Beacon.Tim
import Rtl8190.Crypt.WeakIvs
import Rtl8190.Firmware.Download
import Rtl8190.Firmware.Boot
import Rtl8190.Beacon.Country
import Rtl8190.Beacon.CountryScan
import Rtl8190.Rx.Cleanup
import Rtl8190.Rx.HeaderLength
import Rtl8190.Crypt.Counters
import Rtl8190.Xmit.Fit
import Rtl8190.Xmit.Delivery
import Rtl8190.Crypt.InStep
import Rtl8190.Rx.InOrder
import Rtl8190.Xmit.Link
import Rtl8190.Xmit.Arrival
import Rtl8190.Xmit.EndToEnd
import Rtl8190.Lib.Slots
import Rtl8190.LinkDetect.Window
import Rtl8190.PowerSave.Sleep
import Rtl8190.Lib.Narrow
import Rtl8190.Phy.Code
import Rtl8190.Phy.Report
import Rtl8190.Lib.SlidingWindow
import Rtl8190.Phy.Process
import Rtl8190.Phy.Windows
import Rtl8190.Lib.Filter
import Rtl8190.Phy.Smoothing
import Rtl8190.Ht.Code
import Rtl8190.Lib.Best
import Rtl8190.Ht.HighestRate
import Rtl8190.Association.Retry
import Rtl8190.Lib.Rounds
import Rtl8190.Scan.Active
import Rtl8190.Scan.Background
import Rtl8190.Mgmt.Parse
import Rtl8190.Mgmt.ParseSafety
import Rtl8190.Lib.Packets
import Rtl8190.Mgmt.Build
import Rtl8190.Mgmt.BuildSafety
import Rtl8190.Lib.Lanes
import Rtl8190.TxPower.Code
import Rtl8190.TxPower.Lanes
import Rtl8190.TxPower.Switch
import Rtl8190.Lib.Banked
import Rtl8190.Rf.Code
import Rtl8190.Rf.Paging
import Rtl8190.Channel.Code
import Rtl8190.Channel.Switch
import Rtl8190.Channel.Bandwidth
import Rtl8190.Channel.InProgress
import Rtl8190.Dig.Code
import Rtl8190.Lib.Cached
import Rtl8190.Dig.Bytes
import Rtl8190.Dig.Tick
import Rtl8190.Dig.Coherence
import Rtl8190.Dig.Restore
import Rtl8190.PowerTracking.Code
import Rtl8190.PowerTracking.Indices
import Rtl8190.Lib.Ranking
import Rtl8190.RxPath.Code
import Rtl8190.RxPath.Selection
import Rtl8190.RxPath.Counter
import Rtl8190.Fsync.Code
import Rtl8190.Fsync.Machine
import Rtl8190.Tx.MgmtQueue
import Rtl8190.Crypt.DelayedDeinit
import Rtl8190.Crypt.LastSent
import Rtl8190.Wx.GenIe
import Rtl8190.Lib.Snprintf
import Rtl8190.Wx.TranslateScan
import Rtl8190.Wx.EncodeExt
import Rtl8190.Lib.Resources
import Rtl8190.Lifecycle.Code
import Rtl8190.Lifecycle.Rings
import Rtl8190.Lifecycle.GiveUp
import Rtl8190.Lifecycle.Sessions
import Rtl8190.Lifecycle.Leaks
import Rtl8190.Eeprom.Code
import Rtl8190.Eeprom.Read
import Rtl8190.Eeprom.Info
import Rtl8190.Eeprom.Image
