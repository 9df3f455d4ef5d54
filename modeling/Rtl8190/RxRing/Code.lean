import Mathlib.Data.Fintype.Pi
import Rtl8190.Rx.Code

/-!
# The RX ring

`rtl8192_rx`, `rtl8192_alloc_rx_desc_ring`, `rtl8192_free_rx_ring` and the RX half of
`rtl8192_pci_resetdescring` (`rtl_core.c`), with `rtl8192_rx_query_status_desc` (`rtl8192e.c`) and
`rtl8192_query_rxphystatus` (`rtl_core.c`). `char` is signed. The counters of `priv->stats` are left
out, and the running averages with them.
-/

open Rtl8190.Memory Function

namespace Rtl8190.RxRing

/-! ## Descriptors -/

structure RxDesc where
  length : BitVec 14
  crc32 : Bool
  icv : Bool
  rxDrvInfoSize : Byte
  shift : BitVec 2
  swDec : Bool
  eor : Bool
  own : Bool
  bufferAddress : BitVec 32
  deriving DecidableEq, Inhabited, Repr

/-- `struct rtllib_rx_stats`. A field that no function writes is left out. -/
structure RxStats where
  macTime : BitVec 32 × BitVec 32
  rssi : Int
  signal : Byte
  noise : Byte
  rate : Byte
  freq : Byte
  len : BitVec 16
  nicType : Byte
  length : BitVec 14
  signalQuality : Nat
  recvSignalPower : Int
  rxPower : Int
  signalStrength : Nat
  bHwError : Bool
  bCRC : Bool
  bICV : Bool
  bShortPreamble : Bool
  decrypted : Bool
  timeStampLow : BitVec 32
  timeStampHigh : BitVec 32
  bShift : Bool
  rxDrvInfoSize : Byte
  rxBufShift : Nat
  bIsAMPDU : Bool
  bFirstMPDU : Bool
  bContainHTC : Bool
  rxIs40MHzPacket : Bool
  rxPWDBAll : Nat
  rxMIMOSignalStrength : Fin 4 → Nat
  rxMIMOSignalQuality : Fin 2 → Int
  bPacketMatchBSSID : Bool
  bIsCCK : Bool
  bPacketToSelf : Bool
  packetlength : Nat
  fraglength : Nat
  fragoffset : Nat
  ntotalfrag : Nat
  bPacketBeacon : Bool
  bToSelfBA : Bool
  cckAdcPwdb : Fin 4 → Int
  seqNum : Nat
  deriving DecidableEq, Inhabited

/-- `stats` at the start of `rtl8192_rx`. What is not named there is zero. -/
def initialStats : RxStats :=
  { macTime := (0, 0), rssi := 0, signal := 0, noise := 0x9e, rate := 0, freq := 1, len := 0
    nicType := 1, length := 0, signalQuality := 0, recvSignalPower := 0, rxPower := 0
    signalStrength := 0, bHwError := false, bCRC := false, bICV := false, bShortPreamble := false
    decrypted := false, timeStampLow := 0, timeStampHigh := 0, bShift := false, rxDrvInfoSize := 0
    rxBufShift := 0, bIsAMPDU := false, bFirstMPDU := false, bContainHTC := false
    rxIs40MHzPacket := false, rxPWDBAll := 0, rxMIMOSignalStrength := fun _ => 0
    rxMIMOSignalQuality := fun _ => 0, bPacketMatchBSSID := false, bIsCCK := false
    bPacketToSelf := false, packetlength := 0, fraglength := 0, fragoffset := 0, ntotalfrag := 0
    bPacketBeacon := false, bToSelfBA := false, cckAdcPwdb := fun _ => 0, seqNum := 0 }

/-! ## What the hardware reports -/

/-- The settings of the device when a frame is handled. -/
structure Settings where
  bssid : Addr
  devAddr : Addr
  /-- `rf_type == RF_2T4R && DM_RxPathSelTable.Enable` -/
  rxPathSel : Bool
  reg824Bit9 : Bool
  ledControlHandler : Bool

/-- A descriptor that the hardware gave back, with what its buffer holds, and what the driver reads
besides. -/
structure Received where
  desc : RxDesc
  buf : Nat → Byte
  settings : Settings
  /-- The register `TSFR + 4`. -/
  tsfHigh : BitVec 32
  /-- The running average `priv->stats.signal_strength`. -/
  rssi : Int

namespace Received

variable (r : Received)

def bufShift : Nat := r.desc.shift.toNat

def drvInfo (i : Nat) : Byte := r.buf (r.bufShift + i)

def partAggr : Bool := (r.drvInfo 1).getLsbD 4
def firstAggr : Bool := (r.drvInfo 1).getLsbD 5
def rxRate : BitVec 7 := (r.drvInfo 2).setWidth 7
def rxHT : Bool := (r.drvInfo 2).getLsbD 7
def bw : Bool := (r.drvInfo 3).getLsbD 0
def splcp : Bool := (r.drvInfo 3).getLsbD 1

def tsfl : BitVec 32 :=
  (r.drvInfo 7 ++ r.drvInfo 6) ++ (r.drvInfo 5 ++ r.drvInfo 4)

/-- The bytes of `pcck_buf` and `pofdm_buf`. -/
def phyStatus (i : Nat) : Byte := r.drvInfo (8 + i)

def frame (i : Nat) : Byte := r.buf (r.desc.rxDrvInfoSize.toNat + r.bufShift + i)

def frameCtl : BitVec 16 := r.frame 1 ++ r.frame 0
def seqCtl : BitVec 16 := r.frame 23 ++ r.frame 22
def addr1 : Addr := fun j => r.frame (4 + j)
def addr2 : Addr := fun j => r.frame (10 + j)
def addr3 : Addr := fun j => r.frame (16 + j)

def isCck : Bool := decide (r.rxRate.toNat < 4) && !r.rxHT

def hwRateToMRate90 : Byte :=
  if r.rxHT then
    if r.rxRate.toNat < 16 then BitVec.ofNat 8 (0x80 + r.rxRate.toNat)
    else if r.rxRate = 0x20 then 0xa0
    else 0x02
  else [0x02, 0x04, 0x0b, 0x16, 0x0c, 0x12, 0x18, 0x24, 0x30, 0x48, 0x60, 0x6c].getD r.rxRate.toNat 0x02

/-- `bpacket_match_bssid`, for a frame without an error. -/
def matchBssid : Bool :=
  decide (Rx.fcType r.frameCtl ≠ Rx.ftypeCtl) &&
    decide (r.settings.bssid =
      if Rx.toDs r.frameCtl then r.addr1 else if Rx.fromDs r.frameCtl then r.addr2 else r.addr3)

def toSelf : Bool := r.matchBssid && decide (r.addr1 = r.settings.devAddr)

def isBeacon : Bool := r.frameCtl &&& 0x00fc = 0x0080

def toSelfBa : Bool := decide (r.frameCtl &&& 0x00fc = 0x0094) && decide (r.addr1 = r.settings.devAddr)

end Received

/-! ## Signal strength and quality -/

def queryRxpwrpercentage (antpower : Int) : Nat :=
  if antpower ≤ -100 ∨ 20 ≤ antpower then 0
  else if 0 ≤ antpower then 100
  else (100 + antpower).toNat

def evmDbtopercentage (value : Int) : Nat :=
  let ret := -(max (min value 0) (-33)) * 3
  if ret = 99 then 100 else ret.toNat

/-- `rtl819x_signal_scale_mapping`, for what is at most 100. -/
def signalScaleMapping (currsig : Nat) : Nat :=
  if 61 ≤ currsig then 90 + (currsig - 60) / 4
  else if 41 ≤ currsig then 78 + (currsig - 40) / 2
  else if 31 ≤ currsig then 66 + (currsig - 30)
  else if 21 ≤ currsig then 54 + (currsig - 20)
  else if 5 ≤ currsig then 42 + (currsig - 5) * 2 / 3
  else if currsig = 4 then 36
  else if currsig = 3 then 27
  else if currsig = 2 then 18
  else if currsig = 1 then 9
  else currsig

/-- `rx_pwr_all` of a CCK frame. -/
def cckPower (r : Received) : Int :=
  let report := r.phyStatus 5
  if r.settings.reg824Bit9 then
    let gain : Int := ((report &&& 0x1f) <<< 1).toNat
    match ((report &&& 0x60) >>> 5).toNat with
    | 3 => -35 - gain
    | 2 => -23 - gain
    | 1 => -11 - gain
    | _ => -8 - gain
  else
    let gain : Int := (report &&& 0x3e).toNat
    match ((report &&& 0xc0) >>> 6).toNat with
    | 3 => -35 - gain
    | 2 => -23 - gain
    | 1 => -11 - gain
    | _ => 8 - gain

def cckQuality (r : Received) (rxPWDBAll : Nat) : Nat :=
  let report := (r.phyStatus 4).toNat
  if rxPWDBAll > 40 then 100
  else if report > 64 then 0
  else if report < 20 then 100
  else (64 - report) * 100 / 44

/-- The CCK part of `rtl8192_query_rxphystatus`. `rf_rx_num` is 0 in it. -/
def queryCck (r : Received) (stats : RxStats) : RxStats :=
  let pwdbAll := queryRxpwrpercentage (cckPower r)
  let sq := cckQuality r pwdbAll
  { stats with
    cckAdcPwdb := if r.settings.rxPathSel && r.matchBssid then
        fun i => (r.phyStatus i).toInt.tdiv 2
      else stats.cckAdcPwdb
    rxPWDBAll := pwdbAll
    recvSignalPower := cckPower r
    signalQuality := if r.matchBssid then sq else stats.signalQuality
    rxMIMOSignalQuality := fun i => if r.matchBssid ∧ i = 0 then sq else -1
    signalStrength := signalScaleMapping pwdbAll }

/-- `rx_pwr_all` of an OFDM frame. -/
def ofdmPower (r : Received) : Int := ((r.phyStatus 4 >>> 1) &&& 0x7f).toNat - 106

def pathPower (r : Received) (i : Fin 4) : Int := (r.phyStatus i &&& 0x3f).toNat * 2 - 106

def spatialStreams (r : Received) : Nat :=
  if r.rxHT ∧ 8 ≤ r.rxRate.toNat ∧ r.rxRate.toNat ≤ 15 then 2 else 1

def streamEvm (r : Received) (i : Fin 2) : Nat :=
  evmDbtopercentage ((r.phyStatus (13 + i)).toInt.tdiv 2)

/-- The OFDM part of `rtl8192_query_rxphystatus`. -/
def queryOfdm (r : Received) (stats : RxStats) : RxStats :=
  { stats with
    rxMIMOSignalStrength := if r.matchBssid then fun i => queryRxpwrpercentage (pathPower r i)
      else stats.rxMIMOSignalStrength
    rxPWDBAll := queryRxpwrpercentage (ofdmPower r)
    rxPower := ofdmPower r
    recvSignalPower := ofdmPower r
    signalQuality := if r.matchBssid then streamEvm r 0 else stats.signalQuality
    rxMIMOSignalQuality := fun i =>
      if r.matchBssid ∧ i.val < spatialStreams r then streamEvm r i else -1 }

def queryRxphystatus (r : Received) (stats : RxStats) : RxStats :=
  let stats := { stats with
    bPacketMatchBSSID := r.matchBssid
    bPacketToSelf := r.toSelf
    bIsCCK := r.isCck
    bPacketBeacon := r.isBeacon
    bToSelfBA := r.toSelfBa }
  if r.isCck then queryCck r stats else queryOfdm r stats

def translateRxSignalStuff (r : Received) (stats : RxStats) : RxStats :=
  queryRxphystatus r { stats with seqNum := Rx.seqSeq r.seqCtl, rssi := r.rssi }

/-! ## The status of a descriptor -/

/-- `UpdateRxPktTimeStamp8190`, with `LastRxDescTSFLow` and `LastRxDescTSFHigh`. -/
def updateRxPktTimeStamp (last : BitVec 32 × BitVec 32) (stats : RxStats) :
    (BitVec 32 × BitVec 32) × RxStats :=
  if stats.bIsAMPDU && !stats.bFirstMPDU then (last, { stats with macTime := last })
  else (stats.macTime, stats)

/-- The descriptor reports an error, or a frame that is too short. -/
def RxDesc.bad (desc : RxDesc) : Bool := desc.crc32 || desc.icv || decide (desc.length.toNat < 24)

/-- `rtl8192_rx_query_status_desc`: whether the frame is good, `LastRxDescTSF` and the statistics. -/
def queryStatusDesc (last : BitVec 32 × BitVec 32) (stats : RxStats) (r : Received) :
    Bool × (BitVec 32 × BitVec 32) × RxStats :=
  let stats := { stats with
    bICV := r.desc.icv
    bCRC := r.desc.crc32
    bHwError := r.desc.bad
    length := r.desc.length }
  if r.desc.bad then (false, last, { stats with bShift := false })
  else
    let stats := { stats with
      rxDrvInfoSize := r.desc.rxDrvInfoSize
      rxBufShift := r.bufShift
      decrypted := !r.desc.swDec
      rate := r.hwRateToMRate90
      bShortPreamble := r.splcp
      bIsAMPDU := r.partAggr
      bFirstMPDU := r.partAggr && r.firstAggr
      timeStampLow := r.tsfl
      timeStampHigh := r.tsfHigh }
    let t := updateRxPktTimeStamp last stats
    let stats := { t.2 with
      bShift := if r.bufShift + r.desc.rxDrvInfoSize.toNat > 0 then true else t.2.bShift
      rxIs40MHzPacket := r.bw }
    let stats := translateRxSignalStuff r stats
    (true, t.1, { stats with
      packetlength := r.desc.length.toNat - 4
      fraglength := r.desc.length.toNat - 4
      fragoffset := 0
      ntotalfrag := 1 })

/-! ## One frame -/

/-- What `rtllib_rx` returns, and what it writes into the statistics. -/
structure RtllibRx where
  accepted : Bool
  /-- `HTCCheck` holds of the frame. -/
  containHTC : Bool
  /-- `rtllib_rx_frame_mgmt` writes `len`. -/
  len : Option (BitVec 16)
  /-- `rtllib_network_init` writes `signal` and `noise`. -/
  signal : Option (Byte × Byte)
  deriving DecidableEq, Inhabited, Repr

def RtllibRx.stats (rx : RtllibRx) (stats : RxStats) : RxStats :=
  { stats with
    bContainHTC := stats.bContainHTC || rx.containHTC
    len := rx.len.getD stats.len
    signal := (rx.signal.map (·.1)).getD stats.signal
    noise := (rx.signal.map (·.2)).getD stats.noise }

/-- The local variables of `rtl8192_rx`, and `LastRxDescTSF`. -/
structure Batch where
  stats : RxStats
  unicastPacket : Bool
  bLedBlinking : Bool
  lastRxDescTSF : BitVec 32 × BitVec 32

/-- The variables at the start of `rtl8192_rx`. -/
def startBatch (lastRxDescTSF : BitVec 32 × BitVec 32) : Batch :=
  ⟨initialStats, false, true, lastRxDescTSF⟩

/-- What `rtl8192_rx` does with a frame. -/
structure Handled where
  stats : RxStats
  /-- The frame counts as unicast if it is accepted. -/
  unicast : Bool
  ledBlinks : Bool
  deriving DecidableEq

def Received.unicast (r : Received) : Bool := !r.addr1.isMulticast

def Received.isMgmt (r : Received) : Bool := Rx.fcType r.frameCtl = Rx.ftypeMgmt

/-- The body of the loop of `rtl8192_rx` up to the call of `rtllib_rx`, unless the descriptor is
bad. -/
def receive (b : Batch) (r : Received) : Batch × Option Handled :=
  let q := queryStatusDesc b.lastRxDescTSF b.stats r
  if q.1 then
    let unicastPacket := b.unicastPacket || r.unicast
    let bLedBlinking := b.bLedBlinking && !r.isMgmt
    (⟨q.2.2, unicastPacket, bLedBlinking, q.2.1⟩,
      some ⟨q.2.2, unicastPacket, bLedBlinking && r.settings.ledControlHandler⟩)
  else ({ b with stats := q.2.2, lastRxDescTSF := q.2.1 }, none)

/-- The variables after the frame was handled. -/
def handle (b : Batch) (r : Received) (rx : RtllibRx) : Batch :=
  let h := receive b r
  if h.2.isSome then { h.1 with stats := rx.stats h.1.stats } else h.1

/-! ## Buffers -/

inductive Holder where
  | ring
  /-- `rtllib_rx` took it. -/
  | stack
  | freed
  deriving DecidableEq, Inhabited, Repr

/-- A `struct sk_buff` of the ring. -/
structure RxSkb where
  holder : Holder
  /-- The DMA mapping of the buffer, if it is mapped. -/
  mapping : Option (BitVec 32)
  cb : BitVec 32
  deriving Inhabited

structure State where
  /-- `rx_ring` points to a ring that was set up. -/
  rxRing : Bool
  desc : Nat → RxDesc
  rxBuf : Nat → Option Nat
  rxIdx : Nat
  skb : Nat → RxSkb
  /-- The next pointer that `dev_alloc_skb` returns; pointers are not used again. -/
  nextSkb : Nat
  batch : Batch
  /-- The kernel has crashed. -/
  oops : Bool

/-- The parameters of the driver. -/
structure Config where
  rxringcount : Nat
  rxbuffersize : BitVec 14
  pos : 0 < rxringcount

variable (cfg : Config)

/-- A new buffer with the mapping `addr` goes into slot `i`. -/
def State.putSkb (s : State) (i : Nat) (addr : BitVec 32) : State :=
  { s with
    rxBuf := update s.rxBuf i (some s.nextSkb)
    skb := update s.skb s.nextSkb ⟨.ring, some addr, addr⟩
    nextSkb := s.nextSkb + 1 }

/-! ## Allocation, release and reset -/

/-- The loop of `rtl8192_alloc_rx_desc_ring` for the slots from `i` on, with how many are left.
`alloc` gives the mapping of the buffer for a slot, if one can be allocated. It tells whether the
loop comes to its end. -/
def allocLoop (alloc : Nat → Option (BitVec 32)) : Nat → Nat → State → Bool × State
  | 0, _, s => (true, s)
  | left + 1, i, s =>
    match alloc i with
    | none => (false, s)
    | some addr =>
      let s := s.putSkb i addr
      allocLoop alloc left (i + 1) { s with
        desc := update s.desc i { s.desc i with
          bufferAddress := addr, length := cfg.rxbuffersize, own := true } }

/-- `rtl8192_alloc_rx_desc_ring`; `ring` tells whether the memory of the ring is allocated and
aligned. A ring that is not is not used. -/
def rtl8192AllocRxDescRing (ring : Bool) (alloc : Nat → Option (BitVec 32)) (s : State) : State :=
  if ring then
    let r := allocLoop cfg alloc cfg.rxringcount 0
      { s with rxRing := true, desc := fun _ => ⟨0, false, false, 0, 0, false, false, false, 0⟩, rxIdx := 0 }
    let last := cfg.rxringcount - 1
    if r.1 then { r.2 with desc := update r.2.desc last { r.2.desc last with eor := true } }
    else r.2
  else s

/-- `rtl8192_free_rx_ring`. The slots keep their pointers. -/
def rtl8192FreeRxRing (s : State) : State :=
  { s with
    rxRing := false
    skb := fun p =>
      if (List.range cfg.rxringcount).any fun i => s.rxBuf i = some p then
        { s.skb p with holder := .freed, mapping := none }
      else s.skb p }

def rtl8192PciResetdescring (s : State) : State :=
  if s.rxRing then
    { s with
      desc := fun i => if i < cfg.rxringcount then { s.desc i with own := true } else s.desc i
      rxIdx := 0 }
  else s

/-! ## Reception -/

/-- What one turn of the loop of `rtl8192_rx` finds. -/
structure Turn where
  buf : Nat → Byte
  settings : Settings
  tsfHigh : BitVec 32
  rssi : Int
  rtllibRx : RtllibRx
  /-- What the buffer has at `cb` after `rtllib_rx`. -/
  garbage : BitVec 32
  /-- The mapping of the new buffer, if one can be allocated. -/
  newSkb : Option (BitVec 32)

def State.received (s : State) (t : Turn) : Received :=
  ⟨s.desc s.rxIdx, t.buf, t.settings, t.tsfHigh, t.rssi⟩

/-- `done`: the descriptor goes back to the hardware with the buffer `p`. -/
def State.rearm (s : State) (p : Nat) : State :=
  let i := s.rxIdx
  { s with
    desc := update s.desc i { s.desc i with
      bufferAddress := (s.skb p).cb
      own := true
      length := cfg.rxbuffersize
      eor := if i = cfg.rxringcount - 1 then true else (s.desc i).eor }
    rxIdx := (i + 1) % cfg.rxringcount }

/-- `rtllib_rx` has the buffer `p`, which is not mapped any more. A buffer that it refuses is freed. -/
def State.handOver (s : State) (p : Nat) (t : Turn) : State :=
  let holder := if t.rtllibRx.accepted then .stack else .freed
  { s with skb := update s.skb p ⟨holder, none, t.garbage⟩ }

/-- One turn of the loop of `rtl8192_rx`, for a descriptor that the hardware gave back. -/
def rxTurn (s : State) (t : Turn) : State :=
  match s.rxBuf s.rxIdx with
  -- The query of the status, or the code at `done`, reads through a null pointer.
  | none => { s with oops := true }
  | some p =>
    let r := s.received t
    let s' := { s with batch := handle s.batch r t.rtllibRx }
    if r.desc.bad then s'.rearm cfg p
    else
      let s' := s'.handOver p t
      match t.newSkb with
      | none => s'.rearm cfg p
      | some addr => (s'.putSkb s'.rxIdx addr).rearm cfg s'.nextSkb

/-- The loop of `rtl8192_rx`, with how many turns are left. -/
def rxLoop : Nat → List Turn → State → State
  | 0, _, s => s
  | _, [], s => s
  | count + 1, t :: ts, s =>
    if s.oops ∨ (s.desc s.rxIdx).own then s else rxLoop count ts (rxTurn cfg s t)

def rtl8192Rx (turns : List Turn) (s : State) : State :=
  rxLoop cfg cfg.rxringcount turns { s with batch := startBatch s.batch.lastRxDescTSF }

/-! ## Runs -/

/-- What happens. The hardware changes only descriptors that it owns, and not their addresses. -/
inductive Event where
  | alloc (ring : Bool) (alloc : Nat → Option (BitVec 32))
  | free
  | reset
  /-- The hardware has filled the buffer of slot `i`. -/
  | hardware (i : Nat) (length : BitVec 14) (crc32 icv swDec : Bool) (rxDrvInfoSize : Byte)
      (shift : BitVec 2)
  /-- `rtl8192_rx` is called. -/
  | start
  /-- The next turn of its loop. -/
  | turn (t : Turn)

def step (s : State) : Event → State
  | .alloc ring alloc => if s.oops ∨ s.rxRing then s else rtl8192AllocRxDescRing cfg ring alloc s
  | .free => if s.oops ∨ ¬ s.rxRing then s else rtl8192FreeRxRing cfg s
  | .reset => if s.oops then s else rtl8192PciResetdescring cfg s
  | .hardware i length crc32 icv swDec rxDrvInfoSize shift =>
    if s.rxRing ∧ (s.desc i).own then
      { s with desc := update s.desc i { s.desc i with
        length, crc32, icv, swDec, rxDrvInfoSize, shift, own := false } }
    else s
  | .start => { s with batch := startBatch s.batch.lastRxDescTSF }
  | .turn t =>
    if s.oops ∨ ¬ s.rxRing ∨ (s.desc s.rxIdx).own then s else rxTurn cfg s t

end Rtl8190.RxRing
