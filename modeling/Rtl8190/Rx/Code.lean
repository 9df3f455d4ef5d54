import Rtl8190.Reorder.Pool
import Rtl8190.Types

/-!
# Reception of data frames

`rtllib_rx` and its helpers (`rtllib_rx.c`), on a little-endian 64-bit host. Each byte in memory
carries the MPDU it came with, which no function looks at. The ciphers are parameters: they keep the
header of the frame and their own state.

Statistics, link detection and the power-save polling are left out; a management frame is handed to
other code. A frame goes either to `netif_rx` or to the reorder buffer of its stream.
-/

open Rtl8190.Memory Rtl8190.Reorder Function

namespace Rtl8190.Rx

/-! ## Memory -/

/-- The MPDU that a byte came with. -/
structure Origin where
  frameCtl : BitVec 16
  /-- The MPDU went through `decrypt_mpdu`, which accepted it. -/
  decrypted : Bool
  deriving DecidableEq, Inhabited, Repr

/-- A byte in memory. What does not belong to a frame has no origin. -/
structure Octet where
  val : Byte
  origin : Option Origin
  deriving DecidableEq, Inhabited, Repr

/-- A `struct sk_buff`: memory from `skb->data` on, and `skb->len`. -/
structure Skb where
  mem : Nat → Octet
  len : Nat
  deriving Inhabited

namespace Skb

variable (skb : Skb)

def byte (i : Nat) : Byte := (skb.mem i).val

def le16 (i : Nat) : BitVec 16 := skb.byte (i + 1) ++ skb.byte i

def addr (i : Nat) : Addr := fun j => skb.byte (i + j)

def frameCtl : BitVec 16 := skb.le16 0
def seqCtl : BitVec 16 := skb.le16 22
def addr1 : Addr := skb.addr 4
def addr2 : Addr := skb.addr 10
def addr3 : Addr := skb.addr 16
def addr4 : Addr := skb.addr 24

def pull (n : Nat) : Skb := ⟨fun i => skb.mem (n + i), skb.len - n⟩

def trim (n : Nat) : Skb := ⟨skb.mem, min skb.len n⟩

def put (n : Nat) (src : Nat → Octet) : Skb :=
  ⟨fun i => if skb.len ≤ i ∧ i < skb.len + n then src (i - skb.len) else skb.mem i, skb.len + n⟩

end Skb

/-- A frame of `len` bytes as the driver gets it. -/
def received (mem : Nat → Byte) (len : Nat) : Skb :=
  ⟨fun i => ⟨mem i, if i < len then some ⟨mem 1 ++ mem 0, false⟩ else none⟩, len⟩

/-! ## The frame control field -/

section FrameControl

variable (fc : BitVec 16)

def ftypeMgmt : BitVec 16 := 0x0000
def ftypeCtl : BitVec 16 := 0x0004
def ftypeData : BitVec 16 := 0x0008

def fcType : BitVec 16 := fc &&& 0x000c

def fcStype : BitVec 16 := fc &&& 0x00f0

/-- `fc & RTLLIB_FCTL_TODS` -/
def toDs : Bool := fc.getLsbD 8

def fromDs : Bool := fc.getLsbD 9

/-- `fc & RTLLIB_FCTL_MOREFRAGS` -/
def moreFrags : Bool := fc.getLsbD 10

def retry : Bool := fc.getLsbD 11

/-- `fc & RTLLIB_FCTL_WEP`, the Protected bit. -/
def wep : Bool := fc.getLsbD 14

def qosHasSeq : Bool := fc &&& 0x00bc = 0x0088

def isQosDataFrame : Bool := fc &&& 0x0088 = 0x0088

def isDataFrame : Bool := fcType fc = ftypeData

def isLegacyDataFrame : Bool := isDataFrame fc && !fc.getLsbD 7

def rtllibGetHdrlen : Nat :=
  if fcType fc = ftypeData then
    (if fromDs fc ∧ toDs fc then 30 else 24) + if qosHasSeq fc then 2 else 0
  else if fcType fc = ftypeCtl then
    if fcStype fc = 0x00c0 ∨ fcStype fc = 0x00d0 then 10 else 16
  else 24

end FrameControl

def seqFrag (sc : BitVec 16) : Nat := sc.toNat % 16

def seqSeq (sc : BitVec 16) : Nat := sc.toNat / 16

def up2ac (up : Nat) : Nat :=
  if up < 1 then 1 else if up < 3 then 0 else if up < 4 then 1 else if up < 6 then 2 else 3

/-- The TID class by which the fragment cache and the duplicate filter are indexed. -/
def tidClass (hdr : Skb) : Nat :=
  let fc := hdr.frameCtl
  if qosHasSeq fc then
    up2ac ((hdr.le16 (if fromDs fc ∧ toDs fc then 30 else 24)).toNat % 16) + 1
  else 0

def frameQosTid (hdr : Skb) : Nat :=
  (hdr.byte (if toDs hdr.frameCtl ∧ fromDs hdr.frameCtl then 30 else 24)).toNat % 16

/-! ## Ciphers -/

/-- What `decrypt_mpdu` leaves behind the header when it accepts a frame. -/
structure Decrypted where
  keyidx : Nat
  payload : Nat → Byte
  len : Nat

/-- `struct rtllib_crypto_ops`. The functions get `priv`, whether the hardware decrypts, the frame
and the length of its header. -/
structure CryptOps (κ : Type) where
  name : String
  decryptMpdu : Option (κ → Bool → (Nat → Byte) → Nat → Nat → κ × Option Decrypted)
  /-- It also gets the key index. It only trims the frame, to the length it returns. -/
  decryptMsdu : Option (κ → Bool → (Nat → Byte) → Nat → Nat → Nat → κ × Option Nat)

structure Config (κ : Type) where
  hostDecrypt : Bool
  openWep : Bool
  crypt : Fin 4 → Option (CryptOps κ)
  hz : BitVec 64
  rxReorderWinSize : Nat

/-! ## State -/

/-- The last frame that the duplicate filter let through. -/
structure LastRx where
  seqNum : Nat
  fragNum : Nat
  packetTime : BitVec 64
  deriving DecidableEq, Inhabited, Repr

structure IbssSeq where
  mac : Addr
  last : Nat → LastRx
  deriving Inhabited

/-- `struct rtllib_frag_entry`. The buffer is a pointer. -/
structure FragEntry where
  firstFragTime : BitVec 64
  seq : Nat
  lastFrag : Nat
  skb : Option Nat
  srcAddr : Addr
  dstAddr : Addr
  deriving Inhabited

/-- A buffer of the fragment cache; `room` is the distance from `skb->data` to `skb->end`. -/
structure FragSkb where
  skb : Skb
  room : Nat
  deriving Inhabited

structure Rxb where
  subframes : List Skb
  src : Addr
  dst : Addr
  /-- The frame was let through because `rtllib_is_eapol_frame` recognised it. -/
  eapol : Bool
  deriving Inhabited

structure State (ι κ : Type) where
  priv : Fin 4 → κ
  lastRx : Nat → LastRx
  ibssMacHash : Nat → List IbssSeq
  /-- `RxLastSeqNum` and `RxLastFragNum` of the receive streams. -/
  rxLast : ι → Nat × Nat
  fragCache : Nat → List FragEntry
  fragNextIdx : Nat → Nat
  /-- The buffers that are allocated. -/
  heap : Nat → Option FragSkb
  /-- The next pointer that `dev_alloc_skb` returns; pointers are not used again. -/
  nextSkb : Nat
  reorder : Pool.State ι Rxb
  /-- What went to `netif_rx` without the reorder buffer. -/
  delivered : List Rxb
  /-- The kernel has crashed. -/
  oops : Bool

/-- What a call finds: settings of the device, the clock, and how allocations and `GetTs` end. -/
structure Env (ι : Type) where
  devAddr : Addr
  bssid : Addr
  iwMode : IwMode
  qosActive : Bool
  bCurRxReorderEnable : Bool
  bCurrentHTSupport : Bool
  hwsecActive : Bool
  tkipCountermeasures : Bool
  /-- `rx_stats->bContainHTC` as the caller left it. -/
  bContainHTC : Bool
  jiffies : BitVec 64
  /-- The clock after the frame was reassembled. -/
  jiffiesLater : BitVec 64
  getTs : Addr → Nat → Option ι
  /-- A new `struct ieee_ibss_seq` with what its memory holds, if one is allocated. -/
  ibssSeqAlloc : Option (Nat → LastRx)
  /-- The room of a new buffer for fragments, if one is allocated. -/
  fragSkbRoom : Option Nat
  rxbAlloc : Bool
  /-- What a freed buffer, and the unwritten part of a new one, hold. -/
  garbage : FragSkb

variable {ι κ : Type} (cfg : Config κ) (env : Env ι)

def timeAfter (a b : BitVec 64) : Bool := (b - a).msb

/-! ## Selection of the key -/

def htcCheck (skb : Skb) : Bool :=
  env.bCurrentHTSupport && isQosDataFrame skb.frameCtl && skb.frameCtl.getLsbD 15

def hdrlen (skb : Skb) : Nat := rtllibGetHdrlen skb.frameCtl + if htcCheck env skb then 4 else 0

/-- `idx`, read from the frame itself. -/
def keySlot (skb : Skb) : Fin 4 :=
  if skb.len ≥ hdrlen env skb + 3 then
    ⟨(skb.byte (hdrlen env skb + 3)).toNat / 64, by
      have := (skb.byte (hdrlen env skb + 3)).isLt
      omega⟩
  else 0

/-- `crypt`: the slot, if it holds a cipher with `decrypt_mpdu`. -/
def selectCrypt (skb : Skb) : Option (Fin 4) :=
  if cfg.hostDecrypt then
    if (cfg.crypt (keySlot env skb)).any (·.decryptMpdu.isSome) then some (keySlot env skb) else none
  else none

/-! ## The duplicate filter -/

/-- The end of `is_duplicate_packet`: `none` for `drop`. -/
def checkLast (last : LastRx) (seq frag : Nat) : Option LastRx :=
  if last.seqNum = seq ∧ timeAfter (last.packetTime + 5 * cfg.hz) env.jiffies then
    if last.fragNum = frag then none
    else if last.fragNum + 1 ≠ frag then none
    else some ⟨seq, frag, env.jiffies⟩
  else some ⟨seq, frag, env.jiffies⟩

/-- The entry for the transmitter in its list of `ibss_mac_hash`: whether the frame is a duplicate,
and the list after the check; `none` if there is no entry. -/
def checkIbss (mac : Addr) (tid seq frag : Nat) : List IbssSeq → Option (Bool × List IbssSeq)
  | [] => none
  | entry :: rest =>
    if entry.mac = mac then
      match checkLast cfg env (entry.last tid) seq frag with
      | none => some (true, entry :: rest)
      | some last => some (false, { entry with last := update entry.last tid last } :: rest)
    else (checkIbss mac tid seq frag rest).map fun r => (r.1, entry :: r.2)

def isDuplicatePacket (s : State ι κ) (header : Skb) : Bool × State ι κ :=
  let seq := seqSeq header.seqCtl
  let frag := seqFrag header.seqCtl
  let tid := tidClass header
  match env.iwMode with
  | .adhoc =>
    let mac := header.addr2
    let index := (mac 5).toNat % 31
    match checkIbss cfg env mac tid seq frag (s.ibssMacHash index) with
    | some (dup, entries) => (dup, { s with ibssMacHash := update s.ibssMacHash index entries })
    | none =>
      match env.ibssSeqAlloc with
      | none => (false, s)
      | some memory =>
        let entry : IbssSeq := ⟨mac, update memory tid ⟨seq, frag, env.jiffies⟩⟩
        (false, { s with
          ibssMacHash := update s.ibssMacHash index (entry :: s.ibssMacHash index) })
  | .infra =>
    match checkLast cfg env (s.lastRx tid) seq frag with
    | none => (true, s)
    | some last => (false, { s with lastRx := update s.lastRx tid last })
  | _ => (false, s)

/-- The duplicate check of `rtllib_rx`: whether the frame is dropped. -/
def duplicateCheck [DecidableEq ι] (s : State ι κ) (skb : Skb) : Bool × State ι κ :=
  let fc := skb.frameCtl
  if env.bCurRxReorderEnable = false ∨ env.qosActive = false ∨ isDataFrame fc = false ∨
      isLegacyDataFrame fc = true then
    if fcType fc = ftypeMgmt ∧ fcStype fc = 0x0080 then (false, s)
    else isDuplicatePacket cfg env s skb
  else
    match env.getTs skb.addr2 (frameQosTid skb) with
    | none => (true, s)
    | some pRxTS =>
      let last := (seqSeq skb.seqCtl, seqFrag skb.seqCtl)
      if retry fc ∧ last = s.rxLast pRxTS then (true, s)
      else (false, { s with rxLast := update s.rxLast pRxTS last })

/-! ## The filter -/

def dstSrc (skb : Skb) : Addr × Addr :=
  match fromDs skb.frameCtl, toDs skb.frameCtl with
  | true, false => (skb.addr1, skb.addr3)
  | false, true => (skb.addr3, skb.addr2)
  | true, true => (skb.addr3, skb.addr4)
  | false, false => (skb.addr1, skb.addr2)

def carriesData (stype : BitVec 16) : Bool := [0x0000, 0x0010, 0x0020, 0x0030, 0x0080].contains stype

def forUs (skb : Skb) : Bool :=
  match env.iwMode with
  | .adhoc =>
    skb.addr2 ≠ env.devAddr ∧
      if skb.addr1.isMulticast then skb.addr3 = env.bssid else skb.addr1 = env.devAddr
  | .infra =>
    skb.addr3 ≠ env.devAddr ∧
      if skb.addr1.isMulticast then skb.addr2 = env.bssid else skb.addr1 = env.devAddr
  | _ => true

inductive Verdict where
  /-- `goto rx_dropped` -/
  | dropped
  /-- `goto rx_exit`, or a return of 1. -/
  | exit
  | pass
  deriving DecidableEq, Repr

def rxFilter [DecidableEq ι] (s : State ι κ) (skb : Skb) : Verdict × State ι κ :=
  let fc := skb.frameCtl
  if skb.len < 10 then (.dropped, s)
  else if skb.len < rtllibGetHdrlen fc then (.dropped, s)
  -- `rtllib_monitor_rx` takes the frame, which is not for the stack.
  else if env.iwMode = .monitor then (.exit, s)
  else if cfg.hostDecrypt ∧ selectCrypt cfg env skb = none ∧ wep fc then (.dropped, s)
  else if skb.len < 24 then (.dropped, s)
  else
    let d := duplicateCheck cfg env s skb
    if d.1 then (.dropped, d.2)
    else if fcType fc = ftypeMgmt then (.exit, d.2)
    else if fromDs fc ∧ toDs fc ∧ skb.len < 30 then (.dropped, d.2)
    else if ¬ carriesData (fcStype fc) then (.dropped, d.2)
    else if ¬ forUs env skb then (.dropped, d.2)
    else (.pass, d.2)

theorem rxFilter_snd [DecidableEq ι] (s : State ι κ) (skb : Skb) :
    (rxFilter cfg env s skb).2 = s ∨
      (rxFilter cfg env s skb).2 = (duplicateCheck cfg env s skb).2 := by
  -- The filter changes nothing, but for what the duplicate check keeps.
  unfold rxFilter
  by_cases hshort : skb.len < 10
  · exact .inl (congrArg Prod.snd (if_pos hshort))
  by_cases hheader : skb.len < rtllibGetHdrlen skb.frameCtl
  · exact .inl (congrArg Prod.snd ((if_neg hshort).trans (if_pos hheader)))
  dsimp only
  rw [if_neg hshort, if_neg hheader]
  by_cases hmonitor : env.iwMode = .monitor
  · exact .inl (congrArg Prod.snd (if_pos hmonitor))
  rw [if_neg hmonitor]
  by_cases hkey : cfg.hostDecrypt = true ∧ selectCrypt cfg env skb = none ∧ wep skb.frameCtl = true
  · exact .inl (congrArg Prod.snd (if_pos hkey))
  rw [if_neg hkey]
  by_cases hthree : skb.len < 24
  · exact .inl (congrArg Prod.snd (if_pos hthree))
  rw [if_neg hthree]
  right
  split
  · rfl
  split
  · rfl
  split
  · rfl
  split
  · rfl
  split <;> rfl

/-! ## Decryption of one frame -/

def Skb.decrypted (skb : Skb) (hdrlen : Nat) (d : Decrypted) : Skb :=
  ⟨fun i => ⟨if i < hdrlen then skb.byte i else d.payload (i - hdrlen),
      if i < d.len then some ⟨skb.frameCtl, true⟩ else none⟩, d.len⟩

/-- `rtllib_rx_frame_decrypt`: `none` for a negative result, and otherwise the key index. -/
def rtllibRxFrameDecrypt (s : State ι κ) (skb : Skb) (crypt : Option (Fin 4)) :
    Option (Nat × Skb) × State ι κ :=
  match crypt with
  | none => (some (0, skb), s)
  | some slot =>
    match cfg.crypt slot with
    | none => (some (0, skb), s)
    | some ops =>
      match ops.decryptMpdu with
      | none => (some (0, skb), s)
      | some decryptMpdu =>
        let hdrlen := rtllibGetHdrlen skb.frameCtl
        if env.tkipCountermeasures ∧ ops.name = "TKIP" then (none, s)
        else
          let r := decryptMpdu (s.priv slot) env.hwsecActive skb.byte skb.len hdrlen
          (r.2.map fun d => (d.keyidx, skb.decrypted hdrlen d),
            { s with priv := update s.priv slot r.1 })

/-- The decryption in `rtllib_rx`. `keyidx` is 0 otherwise. -/
def rxDecrypt (s : State ι κ) (skb : Skb) : Option (Nat × Skb) × State ι κ :=
  if cfg.hostDecrypt ∧ wep skb.frameCtl then
    rtllibRxFrameDecrypt cfg env s skb (selectCrypt cfg env skb)
  else (some (0, skb), s)

/-! ## The fragment cache -/

/-- `dev_kfree_skb_any` -/
def State.free (s : State ι κ) (p : Nat) : State ι κ := { s with heap := update s.heap p none }

def State.freeAll (s : State ι κ) (ps : List Nat) : State ι κ := ps.foldl State.free s

/-- `rtllib_frag_cache_find` in one row of the cache: the buffers it freed, the row, and the entry
it found. It looks for any fragment if `frag` is `none`. -/
def fragCacheFind (now : BitVec 64) (seq : Nat) (frag : Option Nat) (src dst : Addr) :
    List FragEntry → List Nat × List FragEntry × Option (Nat × Nat)
  | [] => ([], [], none)
  | entry :: rest =>
    let expired := timeAfter now (entry.firstFragTime + 2 * cfg.hz)
    let freed := if expired then entry.skb.toList else []
    let entry := if expired then { entry with skb := none } else entry
    match entry.skb with
    | some p =>
      if entry.seq = seq ∧ (frag = none ∨ frag = some (entry.lastFrag + 1)) ∧
          entry.srcAddr = src ∧ entry.dstAddr = dst then
        (freed, entry :: rest, some (0, p))
      else
        let r := fragCacheFind now seq frag src dst rest
        (freed ++ r.1, entry :: r.2.1, r.2.2.map fun q => (q.1 + 1, q.2))
    | none =>
      let r := fragCacheFind now seq frag src dst rest
      (freed ++ r.1, entry :: r.2.1, r.2.2.map fun q => (q.1 + 1, q.2))

/-- A search in the cache for the frame with header `hdr`. -/
def fragCacheLookup (s : State ι κ) (now : BitVec 64) (hdr : Skb) (frag : Option Nat) :
    List Nat × List FragEntry × Option (Nat × Nat) :=
  fragCacheFind cfg now (seqSeq hdr.seqCtl) frag hdr.addr2 hdr.addr1 (s.fragCache (tidClass hdr))

def fragCacheNew (s : State ι κ) (hdr : Skb) : Option Nat × State ι κ :=
  match env.fragSkbRoom with
  | none => (none, s)
  | some room =>
    let tid := tidClass hdr
    let row := s.fragCache tid
    let idx := s.fragNextIdx tid
    let old := (row[idx]?.bind (·.skb)).toList
    let p := s.nextSkb
    let entry : FragEntry :=
      ⟨env.jiffies, seqSeq hdr.seqCtl, seqFrag hdr.seqCtl, some p, hdr.addr2, hdr.addr1⟩
    let s := s.freeAll old
    (some p, { s with
      fragCache := update s.fragCache tid (row.set idx entry)
      fragNextIdx := update s.fragNextIdx tid (if idx + 1 ≥ 4 then 0 else idx + 1)
      heap := update s.heap p (some ⟨⟨env.garbage.skb.mem, 0⟩, room⟩)
      nextSkb := p + 1 })

def rtllibFragCacheGet (s : State ι κ) (hdr : Skb) : Option Nat × State ι κ :=
  let frag := seqFrag hdr.seqCtl
  if frag = 0 then fragCacheNew env s hdr
  else
    let r := fragCacheLookup cfg s env.jiffies hdr (some frag)
    let s := s.freeAll r.1
    let row := match r.2.2 with
      | some (i, _) => r.2.1.modify i fun entry => { entry with lastFrag := frag }
      | none => r.2.1
    (r.2.2.map (·.2), { s with fragCache := update s.fragCache (tidClass hdr) row })

def rtllibFragCacheInvalidate (s : State ι κ) (now : BitVec 64) (hdr : Skb) : State ι κ :=
  let r := fragCacheLookup cfg s now hdr none
  let s := s.freeAll r.1
  let row := match r.2.2 with
    | some (i, _) => r.2.1.modify i fun entry => { entry with skb := none }
    | none => r.2.1
  { s with fragCache := update s.fragCache (tidClass hdr) row }

/-- The buffer at `p`, or whatever a read of freed memory yields. -/
def State.deref (s : State ι κ) (p : Nat) : FragSkb := (s.heap p).getD env.garbage

def State.write (s : State ι κ) (p : Nat) (skb : Skb) : State ι κ :=
  { s with heap := update s.heap p ((s.heap p).map fun b => { b with skb := skb }) }

/-! ## Reassembly -/

/-- How the fragments part of `rtllib_rx` ends. -/
inductive Reassembly where
  | dropped
  | exit
  /-- The frame, and the pointer to it if it is a buffer of the fragment cache. -/
  | msdu (skb : Skb) (p : Option Nat)

/-- Where the copy of a fragment begins: the first one keeps its header. -/
def copyFrom (frame : Skb) : Nat := if seqFrag frame.seqCtl ≠ 0 then hdrlen env frame else 0

/-- The fragment `frame`, which is `skb` after decryption, joins the others. -/
def rxReassemble (s : State ι κ) (frame skb : Skb) : Reassembly × State ι κ :=
  let fc := frame.frameCtl
  let frag := seqFrag frame.seqCtl
  if frag ≠ 0 ∨ moreFrags fc then
    let g := rtllibFragCacheGet cfg env s skb
    match g.1 with
    | none => (.dropped, g.2)
    | some p =>
      let fragSkb := g.2.deref env p
      -- `flen` is negative when an HT control field is counted that the frame does not have.
      if frag ≠ 0 ∧ skb.len < hdrlen env frame then (.dropped, { g.2 with oops := true })
      else
        let flen := skb.len - copyFrom env frame
        if fragSkb.skb.len + flen > fragSkb.room then
          (.dropped, rtllibFragCacheInvalidate cfg g.2 env.jiffiesLater skb)
        else
          let joined := fragSkb.skb.put flen fun i => skb.mem (copyFrom env frame + i)
          let s := g.2.write p joined
          if moreFrags fc then (.exit, s)
          else (.msdu joined (some p), rtllibFragCacheInvalidate cfg s env.jiffiesLater joined)
  else (.msdu skb none, s)

/-! ## Indication -/

def rtllibRxFrameDecryptMsdu (s : State ι κ) (skb : Skb) (keyidx : Nat) (crypt : Option (Fin 4)) :
    Option Skb × State ι κ :=
  match crypt with
  | none => (some skb, s)
  | some slot =>
    match (cfg.crypt slot).bind (·.decryptMsdu) with
    | none => (some skb, s)
    | some decryptMsdu =>
      let r := decryptMsdu (s.priv slot) env.hwsecActive skb.byte skb.len keyidx
        (rtllibGetHdrlen skb.frameCtl)
      (r.2.map skb.trim, { s with priv := update s.priv slot r.1 })

def rxDecryptMsdu (s : State ι κ) (frame skb : Skb) (keyidx : Nat) : Option Skb × State ι κ :=
  if cfg.hostDecrypt ∧ wep frame.frameCtl then
    rtllibRxFrameDecryptMsdu cfg env s skb keyidx (selectCrypt cfg env frame)
  else (some skb, s)

def rtllibIsEapolFrame (skb : Skb) (hdrlen : Nat) : Bool :=
  let fc := skb.frameCtl
  24 + 8 ≤ skb.len ∧
    ((toDs fc ∧ ¬ fromDs fc ∧ skb.addr1 = env.devAddr ∧ skb.addr3 = env.devAddr) ∨
      (fromDs fc ∧ ¬ toDs fc ∧ skb.addr1 = env.devAddr)) ∧
    skb.byte (hdrlen + 6) = 0x88 ∧ skb.byte (hdrlen + 7) = 0x8E

/-- The loop of `parse_subframe` over an A-MSDU, with the number of subframes that still fit. It
returns what is left of the frame, and the subframes unless the frame is malformed. -/
def subframeLoop : Nat → Skb → List Skb → Skb × Option (List Skb)
  | 0, skb, subframes => (skb, some subframes)
  | room + 1, skb, subframes =>
    if 14 < skb.len then
      let length := (skb.byte 12 ++ skb.byte 13).toNat
      if skb.len < 14 + length then (skb, none)
      else
        let skb := skb.pull 14
        let subframes := subframes ++ [skb.trim length]
        if room = 0 then (skb, some subframes)
        else
          let skb := skb.pull length
          let padding := (4 - (length + 14) % 4) % 4
          if skb.len = 0 then subframeLoop room skb subframes
          else if skb.len < padding then (skb, none)
          else subframeLoop room (skb.pull padding) subframes
    else (skb, some subframes)

def llcOffset (skb : Skb) (bContainHTC : Bool) : Nat :=
  24 + (if qosHasSeq skb.frameCtl then 2 else 0) + if bContainHTC then 4 else 0

/-- `parse_subframe`: what is left of the frame, and the subframes unless it returns 0. An A-MSDU of
no subframe is one of these cases. -/
def parseSubframe (skb : Skb) (bContainHTC : Bool) : Skb × Option (List Skb) :=
  if skb.len ≤ llcOffset skb bContainHTC then (skb, none)
  else
    let aggregate := qosHasSeq skb.frameCtl ∧ (skb.byte 24).getLsbD 7
    let skb := skb.pull (llcOffset skb bContainHTC)
    if aggregate then
      let r := subframeLoop 64 skb []
      (r.1, r.2.bind fun subframes => if subframes = [] then none else some subframes)
    else (skb, some [skb])

/-- An Ethernet frame for the stack. -/
structure Packet where
  dst : Addr
  src : Addr
  /-- The length that is put in front of the payload, if the payload does not begin with a type. -/
  len : Option Nat
  payload : Skb
  /-- `eapol` of the `struct rtllib_rxb`. -/
  eapol : Bool
  deriving Inhabited

def rfc1042Header : List Byte := [0xaa, 0xaa, 0x03, 0x00, 0x00, 0x00]

def bridgeTunnelHeader : List Byte := [0xaa, 0xaa, 0x03, 0x00, 0x00, 0xf8]

/-- The conversion of a subframe that `rtllib_rx` and `rtllib_indicate_packets` make. -/
def toEthernet (rxb : Rxb) (sub : Skb) : Packet :=
  let snap := (List.range 6).map sub.byte
  let ethertype := sub.byte 6 ++ sub.byte 7
  if 8 ≤ sub.len ∧ ((snap = rfc1042Header ∧ ethertype ≠ 0x80F3 ∧ ethertype ≠ 0x8137) ∨
      snap = bridgeTunnelHeader) then
    ⟨rxb.dst, rxb.src, none, sub.pull 6, rxb.eapol⟩
  else ⟨rxb.dst, rxb.src, some sub.len, sub, rxb.eapol⟩

def rtllibIndicatePackets (rxb : Rxb) : List Packet := rxb.subframes.map (toEthernet rxb)

/-- Everything that went to the upper layer. -/
def State.upper (s : State ι κ) : List Packet :=
  (s.delivered ++ s.reorder.indicated).flatMap rtllibIndicatePackets

/-- The last part of `rtllib_rx`, for a stream if the reorder buffer is used. -/
def indicate [DecidableEq ι] (s : State ι κ) (rxb : Rxb) (pTS : Option ι) (seqNum : Nat) :
    State ι κ :=
  match pTS with
  | some i =>
    if env.bCurRxReorderEnable then
      { s with reorder := Pool.step cfg.rxReorderWinSize s.reorder (.packet i rxb seqNum) }
    else { s with delivered := s.delivered ++ [rxb] }
  | none => { s with delivered := s.delivered ++ [rxb] }

def rxStream (skb : Skb) : Option ι :=
  if env.qosActive ∧ isQosDataFrame skb.frameCtl ∧ ¬ skb.addr1.isMulticast then
    env.getTs skb.addr2 (frameQosTid skb)
  else none

/-! ## The entry point -/

/-- `crypt && !(fc & RTLLIB_FCTL_WEP) && !ieee->open_wep`: the frame should be encrypted. -/
def unencrypted (frame : Skb) : Bool :=
  (selectCrypt cfg env frame).isSome && !wep frame.frameCtl && !cfg.openWep

/-- `rtllib_rx` after the decryption of the whole frame `skb`, which is the buffer `p` of the
fragment cache if there is one. -/
def rxIndicate [DecidableEq ι] (s : State ι κ) (frame skb : Skb) (p : Option Nat) :
    Bool × State ι κ :=
  let keep (s : State ι κ) (skb : Skb) := p.elim s fun p => s.write p skb
  let s := keep s skb
  if unencrypted cfg env frame ∧ ¬ rtllibIsEapolFrame env skb (hdrlen env frame) then (false, s)
  else if env.rxbAlloc then
    let r := parseSubframe skb (env.bContainHTC || htcCheck env frame)
    match r.2 with
    | none => (false, keep s r.1)
    | some subframes =>
      let d := dstSrc frame
      let s := indicate cfg env s ⟨subframes, d.2, d.1, unencrypted cfg env frame⟩
        (rxStream env skb) (seqSeq frame.seqCtl)
      (true, p.elim s s.free)
  else (false, s)

def rtllibRx [DecidableEq ι] (s : State ι κ) (frame : Skb) : Bool × State ι κ :=
  let f := rxFilter cfg env s frame
  match f.1 with
  | .dropped => (false, f.2)
  | .exit => (true, f.2)
  | .pass =>
    let d := rxDecrypt cfg env f.2 frame
    match d.1 with
    | none => (false, d.2)
    | some (keyidx, skb) =>
      let r := rxReassemble cfg env d.2 frame skb
      match r.1 with
      | .dropped => (false, r.2)
      | .exit => (true, r.2)
      | .msdu skb p =>
        let m := rxDecryptMsdu cfg env r.2 frame skb keyidx
        match m.1 with
        | none => (false, m.2)
        | some skb => rxIndicate cfg env m.2 frame skb p

/-! ## Runs -/

/-- What happens: a frame of `len` bytes arrives, with other memory behind it, or the timer of a
stream or its removal empties the reorder buffer. -/
inductive Event (ι : Type) where
  | rx (env : Env ι) (mem : Nat → Byte) (len : Nat)
  | pendingTimeout (i : ι)
  | removeTs (i : ι)

def step [DecidableEq ι] (s : State ι κ) (e : Event ι) : State ι κ :=
  if s.oops then s
  else
    match e with
    | .rx env mem len => (rtllibRx cfg env s (received mem len)).2
    | .pendingTimeout i =>
      { s with reorder := Pool.step cfg.rxReorderWinSize s.reorder (.timeout i) }
    | .removeTs i => { s with reorder := Pool.step cfg.rxReorderWinSize s.reorder (.removeTs i) }

structure State.Initial (s : State ι κ) : Prop where
  fragCache : ∀ tid, ∀ entry ∈ s.fragCache tid, entry.skb = none
  heap : ∀ p, s.heap p = none
  reorder : ∃ streams, s.reorder = Pool.init streams
  delivered : s.delivered = []
  oops : s.oops = false

end Rtl8190.Rx
