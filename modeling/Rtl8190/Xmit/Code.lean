import Rtl8190.Crypt.Code
import Rtl8190.TrafficStream.Code

/-!
# Transmission of data frames

`rtllib_xmit_inter` and its helpers (`rtllib_tx.c`), from an Ethernet frame to its fragments, on a
little-endian host. The descriptors of the hardware are left out, but for `bHwSec`. The ciphers are
parameters. A function that walks a list of traffic streams, and every caller of it, returns `none`
when the walk does not end, or when the kernel crashes.
-/

open Rtl8190.Memory Rtl8190.TrafficStream Rtl8190.Crypt Function

namespace Rtl8190.Xmit

/-! ## Buffers -/

def bytesAt (mem : Nat → Byte) (i n : Nat) : List Byte := (List.range n).map fun j => mem (i + j)

/-- A buffer as `dev_alloc_skb` returns it: the room in front of the data, and behind it. -/
structure Room (size : Nat) where
  headroom : Nat
  tailroom : Nat
  size_le : size ≤ tailroom

/-- The empty buffer, with its control block cleared. -/
def Room.skb {size : Nat} (room : Room size) : Skb := ⟨room.headroom, [], room.tailroom, false, 0⟩

def reserve (skb : Skb) (n : Nat) : Skb :=
  { skb with headroom := skb.headroom + n, tailroom := skb.tailroom - n }

/-- `skb_put`, which crashes the kernel when there is no room. -/
def skbPut (skb : Skb) (bs : List Byte) : Option Skb :=
  if bs.length ≤ skb.tailroom then some (skb.put bs) else none

def skbPutIf (c : Bool) (skb : Skb) (bs : List Byte) : Option Skb :=
  if c then skbPut skb bs else some skb

structure EthSkb where
  mem : Nat → Byte
  len : Nat
  /-- `ip_hdr(skb)->tos` -/
  tos : Byte

def EthSkb.dest (skb : EthSkb) : Addr := fun j => skb.mem j

def EthSkb.src (skb : EthSkb) : Addr := fun j => skb.mem (6 + j)

def EthSkb.etherType (skb : EthSkb) : BitVec 16 := skb.mem 12 ++ skb.mem 13

/-- Where the data is after `skb_pull(skb, sizeof(struct ethhdr))`, which a shorter frame refuses. -/
def EthSkb.payloadAt (skb : EthSkb) : Nat := if skb.len < 14 then 0 else 14

/-! ## The device -/

/-- What the transmit path uses of a `struct rtllib_crypto_ops`. The functions get `priv`, the frame
and the length of its header, and tell whether they return 0. They keep the header. -/
structure CryptOps (κ : Type) where
  name : String
  extraPrefixLen : Nat
  extraPostfixLen : Nat
  encryptMsdu : Option (κ → Skb → Nat → Bool × Skb × κ)
  encryptMpdu : Option (κ → Skb → Nat → Bool × Skb × κ)
  msdu_header : ∀ encrypt ∈ encryptMsdu, ∀ priv skb hdrLen, hdrLen ≤ skb.len →
    (encrypt priv skb hdrLen).2.1.data.take hdrLen = skb.data.take hdrLen
  mpdu_header : ∀ encrypt ∈ encryptMpdu, ∀ priv skb hdrLen, hdrLen ≤ skb.len →
    (encrypt priv skb hdrLen).2.1.data.take hdrLen = skb.data.take hdrLen

def CryptOps.msdu {κ : Type} (ops : CryptOps κ) (priv : κ) (frag : Skb) (hdrLen : Nat) :
    Bool × Skb × κ :=
  match ops.encryptMsdu with
  | some encryptMsdu => encryptMsdu priv frag hdrLen
  | none => (true, frag, priv)

def CryptOps.mpdu {κ : Type} (ops : CryptOps κ) (priv : κ) (frag : Skb) (hdrLen : Nat) :
    Bool × Skb × κ :=
  match ops.encryptMpdu with
  | some encryptMpdu => encryptMpdu priv frag hdrLen
  | none => (true, frag, priv)

/-- The settings that a call finds, and how its allocations end. -/
structure Device (κ : Type) where
  xmitHandler : Bool
  rawTx : Bool
  ieee8021x : Bool
  hostEncrypt : Bool
  dropUnencrypted : Bool
  hwsecActive : Bool
  tkipCountermeasures : Bool
  /-- `current_network.qos_data.active` -/
  qosActive : Bool
  /-- `current_network.qos_data.supported` -/
  qosSupported : Bool
  iwMode : IwMode
  bssid : Addr
  fts : Nat
  /-- `config & (CFG_RTLLIB_COMPUTE_FCS | CFG_RTLLIB_RESERVE_FCS)` -/
  reserveFcs : Bool
  wmmAcm : BitVec 8
  txHeadroom : Nat
  /-- `crypt[tx_keyidx]` -/
  crypt : Option (CryptOps κ)
  txbAlloc : Bool
  skbAlloc : Nat → (size : Nat) → Option (Room size)
  /-- What the bytes reserved for the FCS hold. -/
  fcs : Fin 4 → Byte

structure State (κ : Type) where
  /-- `crypt[tx_keyidx]->priv` -/
  priv : κ
  seqCtrl : Nat → BitVec 16
  /-- The transmit streams, and `TxCurSeq` of each. -/
  ts : TsLists
  txCurSeq : Record → BitVec 16

variable {κ : Type} (dev : Device κ)

/-! ## Priorities -/

def rtllibClassify (skb : EthSkb) : Nat :=
  if skb.etherType ≠ 0x0800 then 0
  else
    match (skb.tos &&& 0xfc).toNat with
    | 0x20 => 2
    | 0x40 => 1
    | 0x60 => 3
    | 0x80 => 4
    | 0xa0 => 5
    | 0xc0 => 6
    | 0xe0 => 7
    | _ => 0

/-- `wme_downgrade_ac`: `none` for a negative result. -/
def wmeDowngradeAc : Nat → Option Nat
  | 6 | 7 => some 5
  | 4 | 5 => some 3
  | 0 | 3 => some 1
  | _ => none

/-- The loop that leaves the classes with mandatory admission control. A priority is lowered at most
three times. -/
def acmLoop (wmmAcm : BitVec 8) : Nat → Nat → Nat
  | 0, priority => priority
  | turns + 1, priority =>
    if wmmAcm.getLsbD priority then
      match wmeDowngradeAc priority with
      | none => priority
      | some priority => acmLoop wmmAcm turns priority
    else priority

/-! ## What the fragments share -/

/-- The SNAP header of `rtllib_put_snap`, with the type. -/
def rtllibPutSnap (hProto : BitVec 16) : List Byte :=
  let oui : List Byte :=
    if hProto = 0x8137 ∨ hProto = 0x80f3 then [0x00, 0x00, 0xf8] else [0x00, 0x00, 0x00]
  0xaa :: 0xaa :: 0x03 :: oui ++ [(hProto >>> 8).setWidth 8, hProto.setWidth 8]

/-- The variables of `rtllib_xmit_inter` that its loop uses. -/
structure Plan where
  etherType : BitVec 16
  encrypt : Bool
  fc : BitVec 16
  addr1 : Addr
  addr2 : Addr
  addr3 : Addr
  qosCtl : BitVec 16
  hdrLen : Nat
  priority : Nat
  fragSize : Nat
  bytes : Nat

def encrypts (skb : EthSkb) : Bool :=
  !(decide (skb.etherType = 0x888e) && dev.ieee8021x) && dev.hostEncrypt && dev.crypt.isSome

def addresses (skb : EthSkb) : Addr × Addr × Addr :=
  match dev.iwMode with
  | .infra => (dev.bssid, skb.src, skb.dest)
  | .adhoc => (skb.dest, skb.src, dev.bssid)
  | _ => (fun _ => 0, fun _ => 0, fun _ => 0)

def frameControl (skb : EthSkb) : BitVec 16 :=
  0x0008 ||| (if encrypts dev skb then 0x4000 else 0) ||| (if dev.qosActive then 0x0080 else 0) |||
    (if dev.iwMode = .infra then 0x0100 else 0)

def plan (skb : EthSkb) : Plan :=
  let addr := addresses dev skb
  let priority :=
    if dev.qosActive then acmLoop dev.wmmAcm 4 (rtllibClassify skb) else rtllibClassify skb
  { etherType := skb.etherType
    encrypt := encrypts dev skb
    fc := frameControl dev skb
    addr1 := addr.1
    addr2 := addr.2.1
    addr3 := addr.2.2
    -- `QOS_CTL_NOTCONTAIN_ACK` is not among the bits that `RTLLIB_QOS_TID` keeps.
    qosCtl := BitVec.ofNat 16 priority &&& 0x000f
    hdrLen := if dev.qosActive then 26 else 24
    priority := priority
    fragSize := if addr.1.isMulticast then 2346 else dev.fts
    bytes := skb.len - skb.payloadAt + 8 }

/-- What a fragment needs besides the payload. -/
def Plan.overhead (p : Plan) : Nat :=
  p.hdrLen + (if dev.reserveFcs then 4 else 0) +
    if p.encrypt then dev.crypt.elim 0 fun ops => ops.extraPrefixLen + ops.extraPostfixLen else 0

def Plan.bytesPerFrag (p : Plan) : Nat := p.fragSize - p.overhead dev

/-- The number of fragments is rounded up. -/
def Plan.nrFrags (p : Plan) : Nat :=
  p.bytes / p.bytesPerFrag dev + if p.bytes % p.bytesPerFrag dev = 0 then 0 else 1

def Plan.bytesLastFrag (p : Plan) : Nat :=
  if p.bytes % p.bytesPerFrag dev = 0 then p.bytesPerFrag dev else p.bytes % p.bytesPerFrag dev

def Plan.header (p : Plan) (more : Bool) (seqCtl : BitVec 16) : List Byte :=
  le16 (if more then p.fc ||| 0x0400 else p.fc) ++ [0, 0] ++ p.addr1.bytes ++ p.addr2.bytes ++
    p.addr3.bytes ++ le16 seqCtl ++ if dev.qosActive then le16 p.qosCtl else []

/-! ## Sequence numbers -/

/-- `GetTs` for the transmit direction. A stream that is not found is new, and `ResetTxTsEntry`
clears its record. -/
def getTxTs (s : State κ) (addr : Addr) (tid : Nat) : Option (Option Record × State κ) :=
  match getTs dev.iwMode dev.qosSupported s.ts addr tid .txDir false with
  | some (some (.inr pTS), _) => some (some pTS, s)
  | some (none, _) =>
    match getTs dev.iwMode dev.qosSupported s.ts addr tid .txDir true with
    | some (some (.inr pTS), ts) =>
      some (some pTS, { s with ts := ts, txCurSeq := update s.txCurSeq pTS 0 })
    | some (none, ts) => some (none, { s with ts := ts })
    | _ => none
  | _ => none

def nextSeq (seq : BitVec 16) : BitVec 16 := BitVec.ofNat 16 ((seq.toNat + 1) % 4096)

def rtllibQuerySeqnum (s : State κ) (frameCtl : BitVec 16) (priority : Nat) (dst : Addr) :
    Option (BitVec 16 × State κ) :=
  if dst.isMulticast then some (0, s)
  else if Rx.isQosDataFrame frameCtl then
    match getTxTs dev s dst priority with
    | none => none
    | some (none, s) => some (0, s)
    | some (some pTS, s) =>
      some (s.txCurSeq pTS, { s with txCurSeq := update s.txCurSeq pTS (nextSeq (s.txCurSeq pTS)) })
  else some (0, s)

def seqCtl (seqnum : BitVec 16) (i : Nat) : BitVec 16 := seqnum <<< 4 ||| BitVec.ofNat 16 i

def fragSeqCtl (p : Plan) (s : State κ) (frameCtl : BitVec 16) (i : Nat) :
    Option (BitVec 16 × State κ) :=
  if dev.qosActive ∧ ¬ p.addr1.isMulticast then
    (rtllibQuerySeqnum dev s frameCtl p.priority p.addr1).map fun r => (seqCtl r.1 i, r.2)
  else some (seqCtl (s.seqCtrl 0) i, s)

def advanceSeqCtrl (p : Plan) (s : State κ) : State κ :=
  let k := if dev.qosActive ∧ ¬ p.addr1.isMulticast then Rx.up2ac p.priority + 1 else 0
  { s with
    seqCtrl := update s.seqCtrl k (if s.seqCtrl k = 0xfff then 0 else s.seqCtrl k + 1) }

/-! ## The fragments -/

/-- `rtllib_encrypt_fragment`, whose result its caller ignores. -/
def rtllibEncryptFragment (priv : κ) (frag : Skb) (hdrLen : Nat) : Skb × κ :=
  match dev.crypt with
  | none => (frag, priv)
  | some ops =>
    if dev.tkipCountermeasures ∧ ops.name = "TKIP" then (frag, priv)
    else
      let m := ops.msdu priv frag hdrLen
      if m.1 then (ops.mpdu m.2.2 m.2.1 hdrLen).2 else m.2

/-- How many bytes of the MSDU go into fragment `i`: the first one also takes the SNAP header. -/
def Plan.payloadBytes (p : Plan) (i : Nat) (more : Bool) : Nat :=
  (if more then p.bytesPerFrag dev else p.bytesLastFrag dev) - if i = 0 then 8 else 0

def plainFragment (p : Plan) (room : Skb) (i : Nat) (more : Bool) (seqCtl : BitVec 16)
    (payload : List Byte) : Option Skb := do
  let bHwSec := p.encrypt && dev.hwsecActive
  let prefixLen := if p.encrypt then dev.crypt.elim 0 (·.extraPrefixLen) else 0
  let skb := reserve (reserve { room with bHwSec := bHwSec } dev.txHeadroom) prefixLen
  let skb ← skbPut skb (p.header dev more seqCtl)
  let skb ← skbPutIf (i = 0) skb (rtllibPutSnap p.etherType)
  skbPut skb payload

/-- One turn of the loop: fragment `i`, which takes `payload`. -/
def xmitFragment (p : Plan) (s : State κ) (room : Skb) (i : Nat) (more : Bool) (payload : List Byte) :
    Option (Skb × State κ) := do
  let (seqCtl, s) ← fragSeqCtl dev p s (if more then p.fc ||| 0x0400 else p.fc) i
  let skb ← plainFragment dev p room i more seqCtl payload
  let (skb, priv) :=
    if p.encrypt then rtllibEncryptFragment dev s.priv skb p.hdrLen else (skb, s.priv)
  let skb ← skbPutIf dev.reserveFcs skb (List.ofFn dev.fcs)
  some (skb, { s with priv := priv })

/-- The loop, from fragment `i` on, over the buffers that are left. The payload
begins at byte `pos`. -/
def xmitLoop (p : Plan) (mem : Nat → Byte) : State κ → Nat → Nat → List Skb →
    Option (List Skb × State κ)
  | s, _, _, [] => some ([], s)
  | s, i, pos, room :: rooms => do
    let more := !rooms.isEmpty
    let n := p.payloadBytes dev i more
    let (skb, s) ← xmitFragment dev p s room i more (bytesAt mem pos n)
    let (skbs, s) ← xmitLoop p mem s (i + 1) (pos + n) rooms
    some (skb :: skbs, s)

/-! ## The entry point -/

structure Txb where
  encrypted : Bool
  payloadSize : Nat
  queueIndex : Nat
  fragments : List Skb

/-- How `rtllib_xmit_inter` ends. -/
inductive Outcome where
  /-- The frame is consumed, and nothing is sent. -/
  | dropped
  /-- The stack keeps the frame. -/
  | failed
  | sent (txb : Txb)

def rtllibAllocTxb (nrFrags txbSize : Nat) : Option (List Skb) :=
  if dev.txbAlloc then
    (List.range nrFrags).mapM fun i => (dev.skbAlloc i txbSize).map (·.skb)
  else none

def xmitRaw (s : State κ) (skb : EthSkb) : Option (Outcome × State κ) :=
  if skb.len < 24 then some (.dropped, s)
  else
    match rtllibAllocTxb dev 1 skb.len with
    | some [room] =>
      (skbPut room (bytesAt skb.mem 0 skb.len)).map fun frag => (.sent ⟨false, skb.len, 0, [frag]⟩, s)
    | _ => some (.failed, s)

def rtllibXmitInter (s : State κ) (skb : EthSkb) : Option (Outcome × State κ) :=
  if dev.xmitHandler = false then some (.dropped, s)
  else if dev.rawTx then xmitRaw dev s skb
  else if skb.len < 8 then some (.dropped, s)
  else if encrypts dev skb = false ∧ dev.ieee8021x ∧ dev.dropUnencrypted ∧ skb.etherType ≠ 0x888e then
    some (.dropped, s)
  else
    let p := plan dev skb
    -- Otherwise the kernel divides by zero, or copies a negative number of bytes.
    if p.bytesPerFrag dev < 8 then none
    else
      match rtllibAllocTxb dev (p.nrFrags dev) (p.fragSize + dev.txHeadroom) with
      | none => some (.failed, s)
      | some rooms =>
        (xmitLoop dev p skb.mem s 0 skb.payloadAt rooms).map fun r =>
          (.sent ⟨p.encrypt, p.bytes, if dev.qosActive then Rx.up2ac p.priority else 1, r.1⟩,
            advanceSeqCtrl dev p r.2)

end Rtl8190.Xmit
