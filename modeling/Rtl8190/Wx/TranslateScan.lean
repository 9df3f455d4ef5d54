import Rtl8190.Beacon.Build
import Rtl8190.Beacon.Stored
import Rtl8190.Ht.Code
import Rtl8190.Lib.Snprintf

/-!
# A network of the scan, for user space

`rtl819x_translate_scan` (`rtllib_wx.c`) hands a network to the stream helpers, on a 64-bit host. The
texts grow in arrays on its stack.
-/

open Rtl8190.Memory Rtl8190.Snprintf
open Rtl8190.Beacon (Network copied ieeeN24g length_copied wlanCapabilityIbss wlanCapabilityPrivacy)
open Rtl8190.Ht (HighThroughput HtCapabilityEle elementStart htGetHighestMcsRate mcsDataRate mcsFilterAll)

namespace Rtl8190.Wx.TranslateScan

/-! ## The code -/

def maxCustomLen : Nat := 64

def ifNamSiz : Nat := 16

/-- `MAX_WPA_IE_LEN` and `MAX_WZC_IE_LEN` -/
def maxWpaIeLen : Nat := 64
def maxWzcIeLen : Nat := 256

def wlanCapabilityEss : BitVec 16 := 0x0001

/-- `IW_ENCODE_NOKEY` and `IW_ENCODE_DISABLED`; `IW_ENCODE_ENABLED` is 0. -/
def iwEncodeNokey : BitVec 16 := 0x0800
def iwEncodeDisabled : BitVec 16 := 0x8000

def ascii (s : String) : List Byte := s.toList.map fun c => BitVec.ofNat 8 c.toNat

def decimal (n : Nat) : List Byte := (Nat.toDigits 10 n).map fun c => BitVec.ofNat 8 c.toNat

def hex (b : Byte) : List Byte :=
  [b.toNat / 16, b.toNat % 16].map fun d => BitVec.ofNat 8 d.digitChar.toNat

structure Env where
  wirelessExt : Nat
  hz : Nat
  jiffies : BitVec 64
  wpaEnabled : Bool
  pHTInfo : HighThroughput

/-- `network->stats`, the fields that are read -/
structure Stats where
  signal : Byte
  rssi : Byte
  noise : Byte

/-- The events of a fixed size. The value of a rate from outside of the table is `none`. -/
inductive Event
  | siocgiwap (bssid : Addr)
  | siocgiwname (name : List Byte)
  | siocgiwmode (mode : IwMode)
  | siocgiwfreq (m : Byte)
  | siocgiwrate (value : Option Nat)
  | iwevqual (qual level noise updated : Byte)

inductive PointCmd
  | siocgiwessid
  | siocgiwencode
  | iwevcustom
  | iwevgenie

/-- `iwe.u.data`, with the bytes at the pointer that hold something. -/
structure Point where
  cmd : PointCmd
  flags : BitVec 16
  length : BitVec 16
  written : List Byte

inductive Access
  /-- `p` moves to this byte of `custom`. -/
  | pointer (pos : Nat)
  | protoName (i : Nat)
  /-- A store into a `buf` of `size` bytes, for an element. -/
  | ieBuf (size i : Nat)
  /-- `iwe_stream_add_event_rsl` -/
  | event (e : Event)
  /-- `iwe_stream_add_point_rsl` -/
  | point (p : Point)

deriving instance Inhabited for Ht.HtExtchnlOffset, HighThroughput, Env, Stats

def addPoint (cmd : PointCmd) (flags : BitVec 16) (length : Nat) (written : List Byte) :
    Reads Access Unit :=
  note (.point ⟨cmd, flags, BitVec.ofNat 16 length, written⟩)

def addEssid (network : Network) : Reads Access Unit :=
  if network.ssidLen > 0 then
    addPoint .siocgiwessid 1 (min network.ssidLen 32) (copied network.ssid 33)
  else if network.hiddenSsidLen = 0 then
    addPoint .siocgiwessid 1 9 (ascii "<hidden>" ++ [0])
  else
    addPoint .siocgiwessid 1 (min network.hiddenSsidLen 32) (copied network.hiddenSsid 33)

structure ModesUnit where
  modeString : List Byte
  modeSize : Nat
  sized : modeSize = modeString.length

def rtllibModes : List ModesUnit :=
  [⟨ascii "a", 1, rfl⟩, ⟨ascii "b", 1, rfl⟩, ⟨ascii "g", 1, rfl⟩, ⟨ascii "?", 1, rfl⟩,
    ⟨ascii "N-24G", 5, rfl⟩, ⟨ascii "N-5G", 4, rfl⟩]

/-- The loop over the modes from bit `i` on. What stands before `pname` is `name`. -/
def addModes (mode : Byte) : Nat → List ModesUnit → List Byte → Reads Access (List Byte)
  | _, [], name => pure name
  | i, m :: ms, name =>
    if mode.getLsbD i then do
      noteAll (fun k => .protoName (name.length + k)) (m.modeString.length + 1)
      addModes mode (i + 1) ms (name ++ m.modeString)
    else addModes mode (i + 1) ms name

def protoName (mode : Byte) : Reads Access (List Byte) := do
  let name ← addModes mode 0 rtllibModes []
  note (.protoName name.length)
  pure name

def addMode (capability : BitVec 16) : Reads Access Unit :=
  if capability &&& (wlanCapabilityEss ||| wlanCapabilityIbss) ≠ 0 then
    note (.event (.siocgiwmode (if capability &&& wlanCapabilityEss ≠ 0 then .master else .adhoc)))
  else pure ()

def encodeFlags (capability : BitVec 16) : BitVec 16 :=
  if capability &&& wlanCapabilityPrivacy ≠ 0 then iwEncodeNokey else iwEncodeDisabled

/-! ### The rates -/

/-- The order of the two loops: a rate of `rates_ex` comes first if it is less than the next one of
`rates`. -/
def mergeRates : List Byte → List Byte → List Byte
  | [], ex => ex
  | r :: rates, ex =>
    ex.takeWhile (fun e => decide (e < r)) ++ r :: mergeRates rates (ex.dropWhile fun e => decide (e < r))

def networkRates (network : Network) : List Byte :=
  mergeRates ((copied network.rates network.ratesLen).map (· &&& 0x7f))
    ((copied network.ratesEx network.ratesExLen).map (· &&& 0x7f))

def rateText (rate : Byte) : List Byte :=
  decimal (rate.toNat / 2) ++ (if rate.getLsbD 0 then ascii ".5" else []) ++ ascii " "

def print (custom : Text Byte) (s : List Byte) : Reads Access (Text Byte) := do
  let custom := custom.append maxCustomLen 0 s
  note (.pointer custom.pos)
  pure custom

def printAll (custom : Text Byte) : List (List Byte) → Reads Access (Text Byte)
  | [] => pure custom
  | s :: ss => do
    let custom ← print custom s
    printAll custom ss

def ratesText (network : Network) : Reads Access (Text Byte) :=
  printAll ⟨[], 0⟩ (ascii " Rates (Mb/s): " :: (networkRates network).map rateText)

def htRate (env : Env) (network : Network) : Option Nat := do
  let buf : Fin 32 → Byte := fun i => network.bssht.bdHTCapBuf i
  let start := elementStart 0x33 buf
  let htCap := HtCapabilityEle.ofBytes fun i => buf (start + i)
  let isShortGI := if htCap.chlWidth then htCap.shortGI40Mhz else htCap.shortGI20Mhz
  let maxMcs ← htGetHighestMcsRate env.pHTInfo htCap.mcs mcsFilterAll
  (mcsDataRate htCap.chlWidth isShortGI)[(maxMcs &&& 0x7f).toNat]?

def maxRate (env : Env) (network : Network) : Option Nat := do
  let rates := (networkRates network).foldl (fun max rate => if rate.toNat > max then rate.toNat else max) 0
  if network.mode ≥ ieeeN24g then
    let rate ← htRate env network
    return if rate > rates then rate else rates
  else return rates

def addCustom (flags : BitVec 16) (custom : Text Byte) : Reads Access Unit :=
  if BitVec.ofNat 16 custom.pos ≠ 0 then addPoint .iwevcustom flags custom.pos custom.written
  else pure ()

/-! ### The elements -/

/-- An element as text, before version 18 of the wireless extensions -/
def addIeText (wpaEnabled : Bool) (label : String) (ie : Nat → Byte) (len : Nat) : Reads Access Unit :=
  if wpaEnabled ∧ len ≠ 0 then do
    let text := ascii label ++ (copied ie len).flatMap hex
    noteAll (.ieBuf (maxWpaIeLen * 2 + 30)) (text.length + 1)
    addPoint .iwevcustom 0 text.length (text ++ [0])
  else pure ()

def addIe (size : Nat) (ie : Nat → Byte) (len : Nat) : Reads Access Unit :=
  if len ≠ 0 then do
    noteAll (.ieBuf size) len
    addPoint .iwevgenie 0 len (copied ie len)
  else pure ()

def addIes (env : Env) (network : Network) : Reads Access Unit :=
  if env.wirelessExt < 18 then do
    addIeText env.wpaEnabled "wpa_ie =" network.wpaIe network.wpaIeLen
    addIeText env.wpaEnabled "rsn_ie =" network.rsnIe network.rsnIeLen
  else do
    addIe maxWpaIeLen network.wpaIe network.wpaIeLen
    addIe maxWpaIeLen network.rsnIe network.rsnIeLen
    addIe maxWzcIeLen network.wzcIe network.wzcIeLen

/-- The flags of the last point: `iwe` is cleared for an element, and by newer versions anyway. -/
def ageFlags (env : Env) (network : Network) : BitVec 16 :=
  if env.wirelessExt < 18 ∧ ¬ (env.wpaEnabled ∧ (network.wpaIeLen ≠ 0 ∨ network.rsnIeLen ≠ 0)) then
    encodeFlags network.capability
  else 0

def ageText (env : Env) (network : Network) : List Byte :=
  ascii " Last beacon: " ++
    decimal ((env.jiffies - BitVec.ofNat 64 network.lastScanned).toNat / (env.hz / 100)) ++ ascii "ms ago"

/-- `rtl819x_translate_scan`. The quality is marked as updated as a whole, whatever `mask` says. -/
def rtl819xTranslateScan (env : Env) (network : Network) (stats : Stats) : Reads Access Unit := do
  note (.event (.siocgiwap network.bssid))
  addEssid network
  let name ← protoName network.mode
  note (.event (.siocgiwname ((ascii "IEEE802.11" ++ name).take (ifNamSiz - 1))))
  addMode network.capability
  note (.event (.siocgiwfreq network.channel))
  addPoint .siocgiwencode (encodeFlags network.capability) 0 (copied network.ssid 33)
  let custom ← ratesText network
  note (.event (.siocgiwrate ((maxRate env network).map (· * 500000))))
  addCustom (encodeFlags network.capability) custom
  note (.event (.iwevqual stats.signal stats.rssi stats.noise 7))
  addCustom (encodeFlags network.capability) custom.restart
  addIes env network
  let age ← print custom.restart (ageText env network)
  addCustom (ageFlags env network) age

/-! ## What is safe -/

/-- The pointer is not past the end, the stores are inside their arrays, and a helper gets no more
bytes than hold something. -/
def Safe : Access → Prop
  | .pointer pos => pos ≤ maxCustomLen
  | .protoName i => i < ifNamSiz
  | .ieBuf size i => i < size
  | .event _ => True
  | .point p => p.length.toNat ≤ p.written.length

/-- How long the text of a rate is: one or two digits, `.5` for an odd one, and a blank. -/
def rateWidth (rate : Byte) : Nat :=
  (if (rate &&& 0x7f).toNat < 20 then 2 else 3) + if rate.getLsbD 0 then 2 else 0

/-- How long the text of the rates is, with its label. -/
def ratesWidth (network : Network) : Nat :=
  15 + (((copied network.rates network.ratesLen).map rateWidth).sum +
    ((copied network.ratesEx network.ratesExLen).map rateWidth).sum)

@[simp] theorem ascii_length (s : String) : (ascii s).length = s.length := by
  rw [ascii, List.length_map, String.length_toList]

theorem decimal_length_le_iff {n k : Nat} (hk : 0 < k) : (decimal n).length ≤ k ↔ n < 10 ^ k := by
  rw [decimal, List.length_map]
  exact Nat.length_toDigits_le_iff (by omega) hk

theorem decimal_length_pos (n : Nat) : 0 < (decimal n).length := by
  rw [decimal, List.length_map]
  exact Nat.length_toDigits_pos

theorem rateText_length (rate : Byte) : (rateText (rate &&& 0x7f)).length = rateWidth rate := by
  have hlt : (rate &&& 0x7f).toNat < 128 := by
    rw [BitVec.toNat_and]
    exact Nat.lt_succ_of_le Nat.and_le_right
  have hodd : (rate &&& 0x7f).getLsbD 0 = rate.getLsbD 0 := by
    rw [BitVec.getLsbD_and]
    exact Bool.and_true _
  have hone := @decimal_length_le_iff ((rate &&& 0x7f).toNat / 2) 1 (by omega)
  have htwo := @decimal_length_le_iff ((rate &&& 0x7f).toNat / 2) 2 (by omega)
  have hpos := decimal_length_pos ((rate &&& 0x7f).toNat / 2)
  have hdigits : (decimal ((rate &&& 0x7f).toNat / 2)).length + 1 =
      if (rate &&& 0x7f).toNat < 20 then 2 else 3 := by
    split <;> omega
  have hhalf : (if rate.getLsbD 0 then ascii ".5" else []).length = if rate.getLsbD 0 then 2 else 0 := by
    split <;> rfl
  have hblank : (ascii " ").length = 1 := rfl
  simp only [rateText, rateWidth, hodd, List.length_append, ← hdigits, hhalf, hblank]
  omega

/-! ## The rates -/

theorem mergeRates_perm (rates ex : List Byte) : (mergeRates rates ex).Perm (rates ++ ex) := by
  induction rates generalizing ex with
  | nil => exact .refl _
  | cons r rates ih =>
    have hrest := (ih (ex.dropWhile fun e => decide (e < r))).cons r
    apply (hrest.append_left _).trans
    apply List.perm_middle.trans
    apply List.Perm.cons
    apply (List.perm_append_comm_assoc _ _ _).trans
    rw [List.takeWhile_append_dropWhile]
    exact .refl _

theorem networkRates_width (network : Network) :
    15 + (((networkRates network).map rateText).map List.length).sum = ratesWidth network := by
  have hperm := (mergeRates_perm ((copied network.rates network.ratesLen).map (· &&& 0x7f))
    ((copied network.ratesEx network.ratesExLen).map (· &&& 0x7f))).map fun rate => (rateText rate).length
  rw [networkRates, List.map_map, ratesWidth]
  congr 1
  refine hperm.sum_eq.trans ?_
  simp only [List.map_append, List.map_map, List.sum_append, Function.comp_def, rateText_length]

@[simp] theorem print_val (custom : Text Byte) (s : List Byte) :
    (print custom s).val = custom.append maxCustomLen 0 s := rfl

theorem within_print {custom : Text Byte} (h : custom.Fits maxCustomLen) (s : List Byte) :
    (print custom s).Within Safe ↔ custom.pos + s.length ≤ maxCustomLen := by
  simp [print, Safe, Text.append_pos h.pos_le]

theorem printAll_val (custom : Text Byte) (ss : List (List Byte)) :
    (printAll custom ss).val = custom.appendAll maxCustomLen 0 ss := by
  induction ss generalizing custom with
  | nil => rfl
  | cons s ss ih => exact ih _

/-- The pointer stays inside the array exactly if there is room for all of the texts. -/
theorem within_printAll {custom : Text Byte} (h : custom.Fits maxCustomLen) (ss : List (List Byte)) :
    (printAll custom ss).Within Safe ↔ custom.pos + (ss.map List.length).sum ≤ maxCustomLen := by
  induction ss generalizing custom with
  | nil => simpa [printAll] using h.pos_le
  | cons s ss ih =>
    simp only [printAll, within_bind, within_print h, print_val, List.map_cons, List.sum_cons]
    constructor
    · rintro ⟨hs, hss⟩
      rw [ih (h.append hs), Text.append_pos h.pos_le] at hss
      omega
    · intro hall
      have hs : custom.pos + s.length ≤ maxCustomLen := by omega
      rw [ih (h.append hs), Text.append_pos h.pos_le]
      omega

theorem ratesTexts_length (network : Network) :
    ((ascii " Rates (Mb/s): " :: (networkRates network).map rateText).map List.length).sum =
      ratesWidth network := by
  rw [← networkRates_width, List.map_cons, List.sum_cons]
  rfl

theorem fits_start : Text.Fits maxCustomLen ⟨([] : List Byte), 0⟩ := ⟨Nat.zero_le _, Nat.zero_le _⟩

theorem within_ratesText (network : Network) :
    (ratesText network).Within Safe ↔ ratesWidth network ≤ maxCustomLen := by
  rw [ratesText, within_printAll fits_start, ratesTexts_length, Nat.zero_add]

theorem ratesText_fits {network : Network} (h : ratesWidth network ≤ maxCustomLen) :
    (ratesText network).val.Fits maxCustomLen := by
  rw [ratesText, printAll_val]
  apply Text.appendAll_fits fits_start
  rw [ratesTexts_length, Nat.zero_add]
  exact h

/-! ## The other parts -/

theorem addPoint_safe {cmd : PointCmd} {flags : BitVec 16} {length : Nat} {written : List Byte}
    (h : length ≤ written.length) : (addPoint cmd flags length written).Within Safe := by
  rw [addPoint, within_note]
  simp only [Safe, BitVec.toNat_ofNat]
  exact (Nat.mod_le _ _).trans h

theorem addEssid_safe (network : Network) : (addEssid network).Within Safe := by
  unfold addEssid
  simp only [within_ite]
  refine ⟨fun _ => addPoint_safe ?_, fun _ => ⟨fun _ => addPoint_safe ?_, fun _ => addPoint_safe ?_⟩⟩
  · rw [length_copied]
    omega
  · exact Nat.le_of_eq rfl
  · rw [length_copied]
    omega

theorem addModes_safe {mode : Byte} {i : Nat} {ms : List ModesUnit} {name : List Byte}
    (h : name.length + (ms.map ModesUnit.modeSize).sum < ifNamSiz) :
    (addModes mode i ms name).Ensures Safe
      fun name' => name'.length ≤ name.length + (ms.map ModesUnit.modeSize).sum := by
  -- The name gets no longer than the modes that are left.
  induction ms generalizing i name with
  | nil => exact .pure (Nat.le_add_right _ _)
  | cons m ms ih =>
    simp only [List.map_cons, List.sum_cons, m.sized] at h ⊢
    rw [addModes]
    split
    · refine .after ((within_noteAll _ _).mpr fun k hk => ?_) fun _ => ?_
      · simp only [Safe]
        omega
      have hrest := @ih (i + 1) (name ++ m.modeString) (by rw [List.length_append]; omega)
      rw [List.length_append] at hrest
      exact ⟨hrest.within, by have := hrest.result; omega⟩
    · have hrest := @ih (i + 1) name (by omega)
      exact ⟨hrest.within, by have := hrest.result; omega⟩

theorem protoName_safe (mode : Byte) : (protoName mode).Within Safe := by
  have hmodes : (addModes mode 0 rtllibModes []).Ensures Safe fun name => name.length ≤ 13 :=
    @addModes_safe mode 0 rtllibModes [] (by decide)
  have hlen := hmodes.result
  simp only [protoName, within_bind, within_note, within_pure, and_true, Safe, ifNamSiz]
  exact ⟨hmodes.within, by omega⟩

theorem addMode_safe (capability : BitVec 16) : (addMode capability).Within Safe := by
  unfold addMode
  simp [within_ite, Safe]

theorem addCustom_safe {flags : BitVec 16} {custom : Text Byte} (h : custom.Fits maxCustomLen) :
    (addCustom flags custom).Within Safe := by
  unfold addCustom
  simp [within_ite, addPoint_safe h.pos_le_written]

theorem flatMap_hex_length (bs : List Byte) : (bs.flatMap hex).length = 2 * bs.length := by
  induction bs with
  | nil => rfl
  | cons b bs ih =>
    rw [List.flatMap_cons, List.length_append, ih, List.length_cons]
    simp only [hex, List.length_map, List.length_cons, List.length_nil]
    omega

theorem addIeText_safe {wpaEnabled : Bool} {label : String} {ie : Nat → Byte} {len : Nat}
    (hlabel : label.length = 8) (hlen : len ≤ maxWpaIeLen) :
    (addIeText wpaEnabled label ie len).Within Safe := by
  unfold addIeText
  simp only [within_ite, within_bind, within_noteAll, within_pure]
  refine ⟨fun _ => ⟨fun i hi => ?_, addPoint_safe ?_⟩, fun _ => trivial⟩
  · rw [List.length_append, flatMap_hex_length, length_copied, ascii_length] at hi
    simp only [Safe]
    omega
  · exact (List.sublist_append_left _ _).length_le

theorem addIe_safe {size : Nat} {ie : Nat → Byte} {len : Nat} (hlen : len ≤ size) :
    (addIe size ie len).Within Safe := by
  unfold addIe
  simp only [within_ite, within_bind, within_noteAll, within_pure]
  refine ⟨fun _ => ⟨fun i hi => Nat.lt_of_lt_of_le hi hlen, addPoint_safe ?_⟩, fun _ => trivial⟩
  rw [length_copied]

theorem addIes_safe (env : Env) {network : Network} (h : network.lengths.Ok) :
    (addIes env network).Within Safe := by
  have hwpa : network.wpaIeLen ≤ maxWpaIeLen := h.wpaIeLen
  have hrsn : network.rsnIeLen ≤ maxWpaIeLen := h.rsnIeLen
  have hwzc : network.wzcIeLen ≤ maxWzcIeLen := h.wzcIeLen
  unfold addIes
  simp only [within_ite, within_bind]
  refine ⟨fun _ => ⟨addIeText_safe rfl hwpa, addIeText_safe rfl hrsn⟩, fun _ => ?_⟩
  exact ⟨addIe_safe hwpa, addIe_safe hrsn, addIe_safe hwzc⟩

theorem ageText_length_lt (env : Env) (network : Network) : (ageText env network).length < maxCustomLen := by
  have hage : (env.jiffies - BitVec.ofNat 64 network.lastScanned).toNat / (env.hz / 100) < 10 ^ 20 := by
    apply lt_of_le_of_lt (Nat.div_le_self _ _)
    omega
  have hdigits := (decimal_length_le_iff (by omega)).mpr hage
  have hlabel : (ascii " Last beacon: ").length = 14 := rfl
  have hunit : (ascii "ms ago").length = 6 := rfl
  simp only [ageText, List.length_append, hlabel, hunit, maxCustomLen]
  omega

theorem age_written (env : Env) (network : Network) (custom : Text Byte) :
    (print custom.restart (ageText env network)).val.written.take (ageText env network).length =
      ageText env network := by
  have hroom := ageText_length_lt env network
  have hfits : custom.restart.Fits maxCustomLen := Text.fits_restart
  have htake := @Text.append_take _ maxCustomLen 0 _ (ageText env network) hfits
    (by simpa [Text.restart] using hroom)
  simpa [Text.restart] using htake

/-! ## The whole function -/

theorem ratesWidth_le_of_safe {env : Env} {network : Network} {stats : Stats}
    (hsafe : (rtl819xTranslateScan env network stats).Within Safe) :
    ratesWidth network ≤ maxCustomLen := by
  simp only [rtl819xTranslateScan, within_bind, within_ratesText] at hsafe
  tauto

theorem safe_of_ratesWidth_le {env : Env} {network : Network} {stats : Stats} (h : network.lengths.Ok)
    (hrates : ratesWidth network ≤ maxCustomLen) :
    (rtl819xTranslateScan env network stats).Within Safe := by
  have hage := ageText_length_lt env network
  have hfits := ratesText_fits hrates
  have hrestart : (ratesText network).val.restart.Fits maxCustomLen := Text.fits_restart
  have hroom : (ratesText network).val.restart.pos + (ageText env network).length ≤ maxCustomLen := by
    simpa [Text.restart] using hage.le
  have hencode : (addPoint .siocgiwencode (encodeFlags network.capability) 0
      (copied network.ssid 33)).Within Safe := addPoint_safe (Nat.zero_le _)
  simp only [rtl819xTranslateScan, within_bind, within_ratesText, within_note, within_print hrestart,
    print_val]
  exact ⟨trivial, addEssid_safe network, protoName_safe _, trivial, addMode_safe _, trivial, hencode,
    hrates, trivial, addCustom_safe hfits, trivial, addCustom_safe hrestart, addIes_safe env h, hroom,
    addCustom_safe (hrestart.append hroom)⟩

/-- With the lengths of its arrays, a network is handed over safely exactly if its rates fit as text.
`snprintf` returns how long a text would be, so `p` moves past the end of `custom` else. -/
theorem translate_scan_safe_iff (env : Env) (network : Network) (stats : Stats)
    (h : network.lengths.Ok) :
    (rtl819xTranslateScan env network stats).Within Safe ↔ ratesWidth network ≤ maxCustomLen :=
  ⟨ratesWidth_le_of_safe, safe_of_ratesWidth_le h⟩

def fastNetwork (n : Nat) : Network := { (default : Network) with ratesLen := n, rates := fun _ => 0x6d }

theorem fastNetwork_ok {n : Nat} (h : n ≤ 12) : (fastNetwork n).lengths.Ok where
  ssidLen := Nat.zero_le _
  hiddenSsidLen := Nat.zero_le _
  ratesLen := h
  ratesExLen := Nat.zero_le _
  wpaIeLen := Nat.zero_le _
  rsnIeLen := Nat.zero_le _
  wzcIeLen := Nat.zero_le _
  bdHTCapLen := Nat.zero_le _
  bdHTInfoLen := Nat.zero_le _
  countryIeLen := Nat.zero_le _

theorem translate_scan_safe_iff_nine : (fastNetwork 9).lengths.Ok ∧
    ((rtl819xTranslateScan default (fastNetwork 9) default).Within Safe ↔
      ratesWidth (fastNetwork 9) ≤ maxCustomLen) ∧ ratesWidth (fastNetwork 9) = 60 :=
  ⟨fastNetwork_ok (by decide), translate_scan_safe_iff _ _ _ (fastNetwork_ok (by decide)), by decide⟩

/-- A tenth one is one too many. -/
theorem translate_scan_not_safe : ¬ ∀ (env : Env) (network : Network) (stats : Stats),
    network.lengths.Ok → (rtl819xTranslateScan env network stats).Within Safe := by
  intro hsafe
  have hwidth := ratesWidth_le_of_safe (hsafe default (fastNetwork 10) default (fastNetwork_ok (by decide)))
  exact absurd hwidth (by decide)

theorem rateWidth_le (rate : Byte) : rateWidth rate ≤ 5 := by
  unfold rateWidth
  split <;> split <;> omega

theorem sum_rateWidth_le (rates : List Byte) : (rates.map rateWidth).sum ≤ 5 * rates.length := by
  induction rates with
  | nil => exact Nat.le_refl 0
  | cons rate rates ih =>
    have hrate := rateWidth_le rate
    rw [List.map_cons, List.sum_cons, List.length_cons]
    omega

theorem safe_of_few_rates {env : Env} {network : Network} {stats : Stats} (h : network.lengths.Ok)
    (hfew : network.ratesLen + network.ratesExLen ≤ 9) :
    (rtl819xTranslateScan env network stats).Within Safe := by
  apply safe_of_ratesWidth_le h
  have hrates := sum_rateWidth_le (copied network.rates network.ratesLen)
  have hratesEx := sum_rateWidth_le (copied network.ratesEx network.ratesExLen)
  rw [length_copied] at hrates hratesEx
  simp only [ratesWidth, maxCustomLen]
  omega

/-- The twelve rates of 802.11g fit as well. -/
example : 15 + ([2, 4, 11, 22, 12, 18, 24, 36, 48, 72, 96, 108].map rateWidth).sum = 48 := by decide

end Rtl8190.Wx.TranslateScan
