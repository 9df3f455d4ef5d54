import Mathlib.Data.List.Forall2
import Rtl8190.Beacon.RoundTrip
import Rtl8190.Mgmt.BuildSafety
import Rtl8190.Mgmt.ParseSafety
import Rtl8190.Scan.Background

/-!
# What an active scan finds

`rtllib_softmac_scan_syncro` sends probe requests on the channels of its map, and access points that
run this driver answer them (`rtllib_softmac.c`, `rtllib_rx.c`). Frames are bytes, and the air may lose
any of them. The scan hears the access points of its channels that have the name it asks for, each of
them once for each request, and what it hears is what they are.
-/

open Rtl8190.Memory Rtl8190.Beacon Rtl8190.Elements Rtl8190.Mgmt

namespace Rtl8190.Scan

/-! ## The access points -/

structure Exchange where
  /-- The request arrives. -/
  heard : Bool
  /-- What lies behind it in the memory of the access point -/
  behind : Nat → Byte
  /-- The memory of the answer, if there is some -/
  mem : Option (Nat → Byte)
  /-- The answer arrives. -/
  back : Bool
  /-- What lies behind it in the memory of the scanner -/
  behindBack : Nat → Byte

structure Ap extends Mgmt.Device where
  channel : Nat
  /-- `softmac_features & IEEE_SOFTMAC_PROBERS` -/
  softmacProbers : Bool
  linked : Bool
  /-- What becomes of the requests, by their channel and their number -/
  exchange : Nat → Nat → Exchange

/-- A frame that has arrived, and what lies behind it -/
structure Heard where
  bytes : List Byte
  behind : Nat → Byte

def Heard.mem (f : Heard) : Nat → Byte := place f.bytes f.behind

def softmacMgmtXmit (d : Mgmt.Device) (skb : Mgmt.Skb) : Mgmt.Device × List Byte :=
  ({ d with seqCtrl := if d.seqCtrl = 0xfff then 0 else d.seqCtrl + 1 },
    (Mgmt.softmacMgmtXmit d skb).bytes)

def rtllibRespToProbe (ap : Ap) (dest : Addr) : Option (Nat → Byte) → Ap × List (List Byte)
  | some mem =>
    let (skb, d) := Mgmt.rtllibProbeResp ap.toDevice dest mem
    let (d, frame) := softmacMgmtXmit d skb
    ({ ap with toDevice := d }, [frame])
  | none => (ap, [])

/-- What `probe_rq_parse` reads of the device -/
def Ap.current (ap : Ap) : CurrentNetwork :=
  ⟨ap.currentNetwork.bssid, ap.currentNetwork.ssid, BitVec.ofNat 8 ap.currentNetwork.ssidLen⟩

def rtllibRxProbeRq (ap : Ap) (skb : Heard) (mem : Option (Nat → Byte)) : Ap × List (List Byte) :=
  match (probeRqParse ap.current skb.mem skb.bytes.length).val with
  | some (same, some dest) => if same > 0 then rtllibRespToProbe ap dest mem else (ap, [])
  | _ => (ap, [])

def Ap.answers (ap : Ap) : Bool :=
  ap.softmacProbers && (ap.iwMode = .adhoc || ap.iwMode = .master) && ap.linked

def rtllibRxMgt (ap : Ap) (skb : Heard) (mem : Option (Nat → Byte)) : Ap × List (List Byte) :=
  if skb.mem 0 &&& 0xf0 = 0x40 ∧ ap.answers then rtllibRxProbeRq ap skb mem else (ap, [])

def Ap.hears (ap : Ap) (ch k : Nat) (request : List Byte) : Ap × List Heard :=
  let e := ap.exchange ch k
  if ap.channel = ch ∧ e.heard then
    let (ap, frames) := rtllibRxMgt ap ⟨request, e.behind⟩ e.mem
    (ap, if e.back then frames.map fun frame => ⟨frame, e.behindBack⟩ else [])
  else (ap, [])

def hearAll (ch k : Nat) (request : List Byte) : List Ap → List Ap × List Heard
  | [] => ([], [])
  | ap :: aps =>
    let (ap, heard) := ap.hears ch k request
    let (aps, rest) := hearAll ch k request aps
    (ap :: aps, heard ++ rest)

/-! ## The scan -/

structure Scanner extends Mgmt.Device where
  activeScan : Bool
  /-- `softmac_features & IEEE_SOFTMAC_PROBERQ` -/
  softmacProberq : Bool
  channelMap : Nat → Byte
  /-- The memory of request `k` on a channel, if there is some -/
  request : Nat → Nat → Option (Nat → Byte)
  /-- The loop finds the state `RTLLIB_LINKED`, or `sync_scan_hurryup`, when it is at a channel. -/
  stops : Nat → Bool

def rtllibSendProbe (ch k : Nat) (s : Scanner) (aps : List Ap) : Scanner × List Ap × List Heard :=
  match s.request ch k with
  | some mem =>
    let (d, frame) := softmacMgmtXmit s.toDevice (rtllibProbeReq s.toDevice mem)
    ({ s with toDevice := d }, hearAll ch k frame aps)
  | none => (s, aps, [])

def rtllibSendProbeRequests (ch : Nat) (s : Scanner) (aps : List Ap) :
    Scanner × List Ap × List Heard :=
  if s.activeScan ∧ s.softmacProberq then
    let (s, aps, heard) := rtllibSendProbe ch 0 s aps
    let (s, aps, heard') := rtllibSendProbe ch 1 s aps
    (s, aps, heard ++ heard')
  else (s, aps, [])

/-- Both loops of `rtllib_softmac_scan_syncro`, with `left` channels after `ch`: the channels that were
set, and what was heard. -/
def scanFrom : Nat → Nat → Scanner → List Ap → List Nat × List Heard
  | 0, _, _, _ => ([], [])
  | left + 1, ch, s, aps =>
    let ch := ch + 1
    if s.channelMap ch = 0 then scanFrom left ch s aps
    else if s.stops ch then ([], [])
    else
      let (s, aps, heard) := if s.channelMap ch = 1 then rtllibSendProbeRequests ch s aps
        else (s, aps, [])
      let (set, rest) := scanFrom left ch s aps
      (ch :: set, heard ++ rest)

def rtllibSoftmacScanSyncro (s : Scanner) (aps : List Ap) : List Nat × List Heard :=
  scanFrom maxChannelNumber 0 s aps

/-! ## Requests -/

theorem Heard.at {f : Heard} {bs : List Byte} (h : f.bytes = bs) {k : Nat} {b : Byte}
    (hk : bs[k]? = some b) : f.mem k = b := by
  subst h
  obtain ⟨hlt, rfl⟩ := List.getElem?_eq_some_iff.mp hk
  exact place_of_lt hlt

theorem Heard.middle {f : Heard} {as bs cs : List Byte} (h : f.bytes = as ++ (bs ++ cs)) (j : Nat)
    (hj : j < bs.length) : f.mem (as.length + j) = bs[j] := by
  apply Heard.at h
  rw [List.getElem?_append_right (Nat.le_add_right _ _), Nat.add_sub_cancel_left,
    List.getElem?_append_left hj, List.getElem?_eq_getElem hj]

/-- The name that the scanner asks for is the beginning of the access point's, or it asks for all. A
name ends before a byte 0. -/
def asks (s ap : Mgmt.Device) : Bool :=
  s.currentNetwork.ssidLen = 0 ||
    (strncmp s.currentNetwork.ssid ap.currentNetwork.ssid 0 0 s.currentNetwork.ssidLen).val

theorem strncmp_congr {mem mem' s2 : Nat → Byte} (s1 s1' n i : Nat)
    (h : ∀ j < n, mem (s1 + j) = mem' (s1' + j)) :
    (strncmp mem s2 s1 i n).val = (strncmp mem' s2 s1' i n).val := by
  induction n generalizing s1 s1' i with
  | zero => rfl
  | succ n ih =>
    have hfirst : mem s1 = mem' s1' := h 0 (Nat.succ_pos n)
    have hrest := ih (s1 + 1) (s1' + 1) (i + 1) fun j hj => by
      rw [Nat.add_assoc, Nat.add_assoc, Nat.add_comm 1 j]
      exact h (j + 1) (by omega)
    unfold strncmp
    rw [read_bind_val, read_bind_val, hfirst]
    split_ifs
    · rfl
    · rfl
    · exact hrest

/-- The frame is a probe request of the scanner. -/
structure IsRequest (s : Mgmt.Device) (f : Heard) : Prop where
  stype : f.mem 0 = 0x40
  source : (fun i => f.mem (10 + i) : Addr) = s.devAddr
  bssid : (fun i => f.mem (16 + i) : Addr) = broadcast
  element : f.mem 24 = 0
  length : f.mem 25 = BitVec.ofNat 8 s.currentNetwork.ssidLen
  name : ∀ j < s.currentNetwork.ssidLen, f.mem (26 + j) = s.currentNetwork.ssid j
  long : 26 ≤ f.bytes.length

theorem probeReq_bytes (s : Mgmt.Device) (mem : Nat → Byte) :
    (softmacMgmtXmit s (rtllibProbeReq s mem)).2 =
      (headerBytes 0x0040 0 broadcast s.devAddr broadcast ++ le16 (s.seqCtrl <<< 4) ++
        [0, BitVec.ofNat 8 s.currentNetwork.ssidLen]) ++
      (copied s.currentNetwork.ssid s.currentNetwork.ssidLen ++
        (s.rtllibMfieBrate ++ s.rtllibMfieGrate)) := by
  rw [show (softmacMgmtXmit s (rtllibProbeReq s mem)).2 = _ from sent_bytes s mem .probeReq]
  simp only [Builder.head, Builder.fields, Builder.elements, List.append_assoc, List.nil_append]

theorem isRequest (s : Mgmt.Device) (mem behind : Nat → Byte) :
    IsRequest s ⟨(softmacMgmtXmit s (rtllibProbeReq s mem)).2, behind⟩ := by
  have hbytes := probeReq_bytes s mem
  generalize (softmacMgmtXmit s (rtllibProbeReq s mem)).2 = bytes at hbytes
  have hat {k : Nat} {b : Byte} := Heard.at (f := ⟨bytes, behind⟩) hbytes (k := k) (b := b)
  refine ⟨hat rfl, ?_, ?_, hat rfl, hat rfl, fun j hj => ?_, ?_⟩
  · funext i
    fin_cases i <;> exact hat rfl
  · funext i
    fin_cases i <;> exact hat rfl
  · have hin : j < (copied s.currentNetwork.ssid s.currentNetwork.ssidLen).length := by
      rw [length_copied]
      exact hj
    exact (Heard.middle (f := ⟨bytes, behind⟩) hbytes j hin).trans (getElem_copied _ _ hin)
  · rw [hbytes, List.length_append]
    exact Nat.le_add_right 26 _

theorem probeRqParse_request {s : Mgmt.Device} {f : Heard} (h : IsRequest s f) (ap : Ap)
    (hlen : s.currentNetwork.ssidLen < 256) :
    (probeRqParse ap.current f.mem f.bytes.length).val =
      some (if asks s ap.toDevice then 1 else 0, some s.devAddr) := by
  -- The access point understands the request.
  have hlong := h.long
  have haddressed : Addressed ap.current f.mem := .inr h.bssid
  rw [(probeRqParse_addressed (by omega) haddressed).1, h.source]
  have hssid : (findSsid f.mem f.bytes.length f.bytes.length 24).val =
      some (some (26, BitVec.ofNat 8 s.currentNetwork.ssidLen)) := by
    obtain ⟨fuel, hfuel⟩ : ∃ fuel, f.bytes.length = fuel + 1 :=
      Nat.exists_eq_add_one.mpr (by omega)
    rw [hfuel, findSsid, if_pos (by omega), read_bind_val, if_pos h.element, read_bind_val, h.length]
    rfl
  rw [hssid]
  have hnat : (BitVec.ofNat 8 s.currentNetwork.ssidLen).toNat = s.currentNetwork.ssidLen := by
    rw [BitVec.toNat_ofNat]
    exact Nat.mod_eq_of_lt hlen
  unfold probeAnswer asks
  dsimp only
  by_cases hzero : s.currentNetwork.ssidLen = 0
  · simp [hzero]
  · have hne : BitVec.ofNat 8 s.currentNetwork.ssidLen ≠ 0 := fun h0 => by
      rw [h0] at hnat
      exact hzero hnat.symm
    have hsame : (strncmp f.mem ap.current.ssid 26 0 s.currentNetwork.ssidLen).val =
        (strncmp s.currentNetwork.ssid ap.current.ssid 0 0 s.currentNetwork.ssidLen).val :=
      strncmp_congr 26 0 _ 0 fun j hj => by rw [h.name j hj, Nat.zero_add]
    rw [if_neg hne, bind_val, pure_val, hnat, hsame]
    simp only [hzero, decide_false, Bool.false_or]
    rfl

/-! ## Answers -/

/-- The frame is an answer of the access point to the scanner, and tells what it is. -/
structure Tells (s : Mgmt.Device) (ap : Ap) (f : Heard) : Prop where
  stype : f.mem 0 = 0x50
  dest : (fun i => f.mem (4 + i) : Addr) = s.devAddr
  bssid : (fun i => f.mem (16 + i) : Addr) = ap.currentNetwork.bssid
  recovered : ap.toIeee.InBounds → ∀ env network dot11d,
    Recovered ap.toIeee ap.copyGroupSuite (parsed env ⟨f.mem, f.bytes.length⟩ network dot11d)

/-- What answers change of an access point -/
structure Drift (ap ap' : Ap) : Prop where
  channel : ap'.channel = ap.channel
  softmacProbers : ap'.softmacProbers = ap.softmacProbers
  linked : ap'.linked = ap.linked
  exchange : ap'.exchange = ap.exchange
  ieee : ap'.toIeee = ap.toIeee ∨ ap'.toIeee = ap.copyGroupSuite

theorem copyGroupSuite_idem (ieee : Ieee) : ieee.copyGroupSuite.copyGroupSuite = ieee.copyGroupSuite := by
  unfold Ieee.copyGroupSuite
  by_cases hc : ieee.wpaIeLen ≠ 0 ∧ ieee.iwMode = .adhoc
  · simp only [if_pos hc]
    congr 1
    funext i
    split_ifs with hin hbefore
    · omega
    · rfl
    · rfl
  · rw [if_neg hc, if_neg hc]

section
variable {s : Mgmt.Device} {ap ap' : Ap}

theorem Drift.currentNetwork (h : Drift ap ap') : ap'.currentNetwork = ap.currentNetwork := by
  rcases h.ieee with heq | heq
  · rw [heq]
  · rw [heq, Ieee.copyGroupSuite_currentNetwork]

theorem Drift.copyGroupSuite (h : Drift ap ap') : ap'.copyGroupSuite = ap.copyGroupSuite := by
  rcases h.ieee with heq | heq
  · rw [heq]
  · rw [heq, copyGroupSuite_idem]

theorem Drift.answers (h : Drift ap ap') : ap'.answers = ap.answers := by
  have hmode : ap'.iwMode = ap.iwMode := by
    rcases h.ieee with heq | heq
    · rw [heq]
    · rw [heq]
      unfold Ieee.copyGroupSuite
      split_ifs <;> rfl
  unfold Ap.answers
  rw [h.softmacProbers, h.linked, hmode]

theorem Drift.asks (h : Drift ap ap') : Scan.asks s ap'.toDevice = Scan.asks s ap.toDevice := by
  unfold Scan.asks
  rw [h.currentNetwork]

theorem fixedPart_copyGroupSuite (ieee : Ieee) (dest : Addr) (mem : Nat → Byte) :
    ieee.copyGroupSuite.fixedPart dest mem = ieee.fixedPart dest mem := by
  unfold Ieee.copyGroupSuite
  split <;> rfl

/-- The memory that a probe response is built from, had it held the sequence number before -/
def numbered (ap : Ap) (mem behind : Nat → Byte) (i : Nat) : Byte :=
  if i < 24 then (le16 (ap.seqCtrl <<< 4)).getD (i - 22) 0 else if i < 36 then mem i else behind i

def Ap.answer (ap : Ap) (dest : Addr) (mem : Nat → Byte) : List Byte :=
  (softmacMgmtXmit ap.toDevice (Mgmt.rtllibProbeResp ap.toDevice dest mem).1).2

theorem answer_bytes (ap : Ap) (dest : Addr) (mem behind : Nat → Byte) :
    ap.answer dest mem =
      ap.copyGroupSuite.fixedPart dest (numbered ap mem behind) ++ ap.copyGroupSuite.tags := by
  have hbytes : ap.answer dest mem = _ := sent_bytes ap.toDevice mem (.probeResp dest)
  have hseq : copied (fun i => numbered ap mem behind (22 + i)) 10 =
      le16 (ap.seqCtrl <<< 4) ++ copied (fun i => mem (24 + i)) 8 := rfl
  rw [hbytes, fixedPart_copyGroupSuite, Ieee.fixedPart, hseq]
  simp only [Builder.head, Builder.fields, Builder.elements, headerBytes, List.append_assoc]

theorem answer_frame (ap : Ap) (dest : Addr) (mem behind : Nat → Byte) :
    (⟨place (ap.answer dest mem) behind, (ap.answer dest mem).length⟩ : Beacon.Skb) =
      ap.copyGroupSuite.frame dest (numbered ap mem behind) := by
  -- The frame, as the model of beacons has it.
  have hlen : (ap.copyGroupSuite.fixedPart dest (numbered ap mem behind)).length = 36 :=
    Ieee.length_fixedPart _ _ _
  rw [answer_bytes ap dest mem behind]
  unfold Ieee.frame
  congr 1
  · funext i
    unfold place
    split_ifs with hin
    · rfl
    · rw [List.length_append, hlen] at hin
      unfold numbered
      rw [if_neg (by omega), if_neg (by omega)]
  · rw [List.length_append, hlen]
    rfl

theorem answer_tells (hdrift : Drift ap ap') (mem behind : Nat → Byte) :
    Tells s ap ⟨ap'.answer s.devAddr mem, behind⟩ := by
  have hbytes := answer_bytes ap' s.devAddr mem behind
  have hat {k : Nat} {b : Byte} :=
    Heard.at (f := ⟨ap'.answer s.devAddr mem, behind⟩) hbytes (k := k) (b := b)
  refine ⟨hat rfl, ?_, ?_, fun hbounds env network dot11d => ?_⟩
  · funext i
    fin_cases i <;> exact hat rfl
  · rw [← hdrift.currentNetwork, ← Ieee.copyGroupSuite_currentNetwork ap'.toIeee]
    funext i
    fin_cases i <;> exact hat rfl
  · have hframe := answer_frame ap' s.devAddr mem behind
    rw [hdrift.copyGroupSuite] at hframe
    have hrecovered := Ieee.recovered_copyGroupSuite
      (Ieee.recovered_frame hbounds.copyGroupSuite s.devAddr (numbered ap' mem behind) env network
        dot11d)
    rw [← hframe] at hrecovered
    exact hrecovered

theorem Drift.answered (h : Drift ap ap') (dest : Addr) (alloc : Option (Nat → Byte)) :
    Drift ap (rtllibRespToProbe ap' dest alloc).1 := by
  cases alloc with
  | none => exact h
  | some mem =>
    exact ⟨h.channel, h.softmacProbers, h.linked, h.exchange, .inr h.copyGroupSuite⟩

def reaches (s : Mgmt.Device) (ch k : Nat) (ap : Ap) : Bool :=
  let e := ap.exchange ch k
  ap.channel = ch && e.heard && ap.answers && asks s ap.toDevice && e.mem.isSome && e.back

theorem rtllibRxMgt_request {f : Heard} (hreq : IsRequest s f)
    (hlen : s.currentNetwork.ssidLen < 256) (alloc : Option (Nat → Byte)) :
    rtllibRxMgt ap' f alloc =
      if ap'.answers && asks s ap'.toDevice then rtllibRespToProbe ap' s.devAddr alloc
      else (ap', []) := by
  have hstype : f.mem 0 &&& 0xf0 = 0x40 := by
    rw [hreq.stype]
    rfl
  unfold rtllibRxMgt rtllibRxProbeRq
  rw [probeRqParse_request hreq ap' hlen]
  simp only [hstype, true_and]
  cases ap'.answers <;> cases asks s ap'.toDevice <;> rfl

theorem hears_spec (hdrift : Drift ap ap') (ch k : Nat) {request : List Byte}
    (hreq : ∀ behind, IsRequest s ⟨request, behind⟩) (hlen : s.currentNetwork.ssidLen < 256) :
    Drift ap (ap'.hears ch k request).1 ∧
      List.Forall₂ (Tells s) (if reaches s ch k ap then [ap] else []) (ap'.hears ch k request).2 := by
  -- What one access point makes of a request.
  unfold Ap.hears reaches
  rw [hdrift.channel, hdrift.exchange]
  dsimp only
  rw [rtllibRxMgt_request (hreq _) hlen, hdrift.answers, hdrift.asks]
  generalize ap.exchange ch k = e
  by_cases hheard : ap.channel = ch ∧ e.heard = true
  · rw [if_pos hheard]
    cases hasks : ap.answers && asks s ap.toDevice with
    | false =>
      rw [if_neg Bool.false_ne_true]
      simp only [hheard.1, hheard.2, decide_true, Bool.true_and, hasks, Bool.false_and]
      refine ⟨hdrift, ?_⟩
      cases e.back <;> exact .nil
    | true =>
      rw [if_pos rfl]
      simp only [hheard.1, hheard.2, decide_true, Bool.true_and, hasks]
      refine ⟨hdrift.answered _ _, ?_⟩
      cases e.mem with
      | none => cases e.back <;> exact .nil
      | some mem =>
        cases e.back with
        | false => exact .nil
        | true => exact .cons (answer_tells hdrift mem e.behindBack) .nil
  · rw [if_neg hheard]
    have hnot : (decide (ap.channel = ch) && e.heard) = false := by
      simpa using hheard
    simp only [hnot, Bool.false_and]
    exact ⟨hdrift, .nil⟩

theorem hearAll_spec {aps aps' : List Ap} (hdrift : List.Forall₂ Drift aps aps') (ch k : Nat)
    {request : List Byte} (hreq : ∀ behind, IsRequest s ⟨request, behind⟩)
    (hlen : s.currentNetwork.ssidLen < 256) :
    List.Forall₂ Drift aps (hearAll ch k request aps').1 ∧
      List.Forall₂ (Tells s) (aps.filter (reaches s ch k)) (hearAll ch k request aps').2 := by
  induction hdrift with
  | nil => exact ⟨.nil, .nil⟩
  | @cons ap ap' aps aps' hone _ ih =>
    obtain ⟨hap, hheard⟩ := hears_spec hone ch k hreq hlen
    refine ⟨.cons hap ih.1, ?_⟩
    have hfilter : (ap :: aps).filter (reaches s ch k) =
        (if reaches s ch k ap then [ap] else []) ++ aps.filter (reaches s ch k) := by
      cases hr : reaches s ch k ap <;> simp [hr]
    rw [hfilter]
    exact List.rel_append hheard ih.2

end

/-! ## The whole scan -/

/-- The channels of the map, in their order, up to the first one where the loop is stopped -/
def Scanner.channels (s : Scanner) (ch left : Nat) : List Nat :=
  ((List.range' (ch + 1) left).filter fun c => s.channelMap c ≠ 0).takeWhile fun c => !s.stops c

def Scanner.sends (s : Scanner) (ch k : Nat) : Bool :=
  s.channelMap ch = 1 && s.activeScan && s.softmacProberq && (s.request ch k).isSome

/-- The access points whose answers to request `k` on channel `ch` arrive -/
def Scanner.answering (s : Scanner) (aps : List Ap) (ch k : Nat) : List Ap :=
  if s.sends ch k then aps.filter (reaches s.toDevice ch k) else []

/-- The access points that the scan hears, in this order -/
def Scanner.found (s : Scanner) (aps : List Ap) (chs : List Nat) : List Ap :=
  chs.flatMap fun ch => s.answering aps ch 0 ++ s.answering aps ch 1

section
variable {s : Scanner} {n : BitVec 16} {aps aps' : List Ap}

theorem sendProbe_spec (hdrift : List.Forall₂ Drift aps aps')
    (hlen : s.currentNetwork.ssidLen < 256) {ch k : Nat} (hmap : s.channelMap ch = 1)
    (hactive : s.activeScan = true ∧ s.softmacProberq = true) :
    ∃ n' aps'' heard, rtllibSendProbe ch k { s with seqCtrl := n } aps' =
      ({ s with seqCtrl := n' }, aps'', heard) ∧
      List.Forall₂ Drift aps aps'' ∧ List.Forall₂ (Tells s.toDevice) (s.answering aps ch k) heard := by
  unfold rtllibSendProbe Scanner.answering Scanner.sends
  simp only [hmap, hactive.1, hactive.2, decide_true, Bool.true_and]
  cases hreq : s.request ch k with
  | none => exact ⟨n, aps', [], rfl, hdrift, .nil⟩
  | some mem =>
    have hrequest (behind : Nat → Byte) : IsRequest s.toDevice ⟨_, behind⟩ :=
      { isRequest { s.toDevice with seqCtrl := n } mem behind with }
    obtain ⟨hdrift', hheard⟩ := hearAll_spec hdrift ch k hrequest hlen
    exact ⟨_, _, _, rfl, hdrift', hheard⟩

theorem sendProbeRequests_spec (hdrift : List.Forall₂ Drift aps aps')
    (hlen : s.currentNetwork.ssidLen < 256) {ch : Nat} (hmap : s.channelMap ch = 1) :
    ∃ n' aps'' heard, rtllibSendProbeRequests ch { s with seqCtrl := n } aps' =
      ({ s with seqCtrl := n' }, aps'', heard) ∧
      List.Forall₂ Drift aps aps'' ∧
      List.Forall₂ (Tells s.toDevice) (s.answering aps ch 0 ++ s.answering aps ch 1) heard := by
  unfold rtllibSendProbeRequests
  by_cases hactive : s.activeScan = true ∧ s.softmacProberq = true
  · obtain ⟨n₀, aps₀, heard₀, heq₀, hdrift₀, hheard₀⟩ :=
      sendProbe_spec (n := n) hdrift hlen (k := 0) hmap hactive
    obtain ⟨n₁, aps₁, heard₁, heq₁, hdrift₁, hheard₁⟩ :=
      sendProbe_spec (n := n₀) hdrift₀ hlen (k := 1) hmap hactive
    rw [if_pos hactive, heq₀]
    dsimp only
    rw [heq₁]
    exact ⟨n₁, aps₁, _, rfl, hdrift₁, List.rel_append hheard₀ hheard₁⟩
  · have hnone (k : Nat) : s.answering aps ch k = [] := by
      have hsends : s.sends ch k = false := by
        simp only [Scanner.sends]
        grind
      rw [Scanner.answering, hsends]
      rfl
    rw [if_neg hactive, hnone, hnone]
    exact ⟨n, aps', [], rfl, hdrift, .nil⟩

theorem channels_succ (ch left : Nat) : s.channels ch (left + 1) =
    if s.channelMap (ch + 1) = 0 then s.channels (ch + 1) left
    else if s.stops (ch + 1) then [] else (ch + 1) :: s.channels (ch + 1) left := by
  unfold Scanner.channels
  rw [List.range'_succ, List.filter_cons]
  by_cases hmap : s.channelMap (ch + 1) = 0
  · rw [if_neg (by simpa using hmap), if_pos hmap]
  · rw [if_pos (by simpa using hmap), if_neg hmap, List.takeWhile_cons]
    cases s.stops (ch + 1) <;> rfl

theorem scanFrom_spec (hdrift : List.Forall₂ Drift aps aps')
    (hlen : s.currentNetwork.ssidLen < 256) (left ch : Nat) :
    (scanFrom left ch { s with seqCtrl := n } aps').1 = s.channels ch left ∧
      List.Forall₂ (Tells s.toDevice) (s.found aps (s.channels ch left))
        (scanFrom left ch { s with seqCtrl := n } aps').2 := by
  induction left generalizing ch n aps' with
  | zero => exact ⟨rfl, .nil⟩
  | succ left ih =>
    rw [channels_succ, scanFrom]
    dsimp only
    by_cases hzero : s.channelMap (ch + 1) = 0
    · rw [if_pos hzero, if_pos hzero]
      exact ih hdrift (ch + 1)
    · rw [if_neg hzero, if_neg hzero]
      by_cases hstops : s.stops (ch + 1) = true
      · rw [if_pos hstops, if_pos hstops]
        exact ⟨rfl, .nil⟩
      · rw [if_neg hstops, if_neg hstops]
        obtain ⟨n', aps'', heard, heq, hdrift', hheard⟩ : ∃ n' aps'' heard,
            (if s.channelMap (ch + 1) = 1 then
                rtllibSendProbeRequests (ch + 1) { s with seqCtrl := n } aps'
              else ({ s with seqCtrl := n }, aps', [])) = ({ s with seqCtrl := n' }, aps'', heard) ∧
            List.Forall₂ Drift aps aps'' ∧ List.Forall₂ (Tells s.toDevice)
              (s.answering aps (ch + 1) 0 ++ s.answering aps (ch + 1) 1) heard := by
          by_cases hone : s.channelMap (ch + 1) = 1
          · rw [if_pos hone]
            exact sendProbeRequests_spec hdrift hlen hone
          · have hnone (k : Nat) : s.answering aps (ch + 1) k = [] := by
              have hsends : s.sends (ch + 1) k = false := by
                rw [Scanner.sends, decide_eq_false hone]
                rfl
              rw [Scanner.answering, hsends]
              rfl
            rw [if_neg hone, hnone, hnone]
            exact ⟨n, aps', [], rfl, hdrift, .nil⟩
        rw [heq]
        obtain ⟨hset, hrest⟩ := ih (n := n') hdrift' (ch + 1)
        exact ⟨congrArg ((ch + 1) :: ·) hset, List.rel_append hheard hrest⟩

end

/-- A scan sets the channels of its map in their order, until it is stopped, and what it hears are the
access points that have its name and whose exchange the air lets pass, once for each request. Each of
them can be made out of its answer. -/
theorem scan_finds (s : Scanner) (aps : List Ap) (hlen : s.currentNetwork.ssidLen < 256) :
    (rtllibSoftmacScanSyncro s aps).1 = s.channels 0 maxChannelNumber ∧
      List.Forall₂ (Tells s.toDevice) (s.found aps (s.channels 0 maxChannelNumber))
        (rtllibSoftmacScanSyncro s aps).2 := by
  have hdrift : List.Forall₂ Drift aps aps :=
    List.forall₂_same.mpr fun ap _ => ⟨rfl, rfl, rfl, rfl, .inl rfl⟩
  exact scanFrom_spec (n := s.seqCtrl) hdrift hlen maxChannelNumber 0

def scanning : Scanner where
  toDevice := associating false
  activeScan := true
  softmacProberq := true
  channelMap c := if c = 6 then 1 else if c = 7 then 2 else 0
  request _ _ := some fun _ => 0
  stops _ := false

def serving : Ap where
  toDevice := { associating false with iwMode := .master }
  channel := 6
  softmacProbers := true
  linked := true
  exchange _ _ := ⟨true, fun _ => 0, some fun _ => 0, true, fun _ => 0⟩

theorem scan_finds_serving :
    ∃ f g, (rtllibSoftmacScanSyncro scanning [serving]).2 = [f, g] ∧
      Tells scanning.toDevice serving f ∧ Tells scanning.toDevice serving g := by
  have hfound : scanning.found [serving] (scanning.channels 0 maxChannelNumber) =
      [serving, serving] := rfl
  obtain ⟨-, htells⟩ := scan_finds scanning [serving] (by decide)
  rw [hfound] at htells
  cases htells with
  | cons hf hrest =>
    cases hrest with
    | cons hg hnil =>
      cases hnil
      exact ⟨_, _, rfl, hf, hg⟩

end Rtl8190.Scan
