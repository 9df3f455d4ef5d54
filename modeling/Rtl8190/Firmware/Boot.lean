import Mathlib.Data.BitVec
import Mathlib.Logic.Function.Basic
import Rtl8190.Firmware.Download

/-!
# The boot of the firmware

`init_firmware` with the checks on the processor of the card (`r819xE_firmware.c`), and the attempts
of `rtl8192_adapter_start` (`rtl8192e.c`). The images come from files and are kept once they are
there. Left out are the rest of `rtl8192_adapter_start` and the release of a file that is too large.
-/

open Rtl8190.Memory

namespace Rtl8190.Firmware.Boot

def rtl8190CpuStartOffset : Nat := 0x80
def rtl8190MaxFirmwareCodeSize : Nat := 64000

def cpuGenPwrStbCpu : BitVec 32 := 0x4
def cpuGenBootRdy : BitVec 32 := 0x10
def cpuGenFirmRdy : BitVec 32 := 0x20
def cpuGenPutCodeOk : BitVec 32 := 0x80

inductive InitStep where
  | boot
  | main
  | data
  deriving DecidableEq, Repr

inductive Status where
  | init
  | moveBootCode
  | moveMainCode
  | turnonCpu
  | moveDataCode
  | ready
  deriving DecidableEq, Repr

/-- `rt_firmware`, without the threshold, which does not change -/
structure RtFirmware where
  firmwareStatus : Status
  firmwareBuf : InitStep → Nat → Byte
  firmwareBufSize : InitStep → BitVec 16

structure Attempt where
  /-- The file, if `request_firmware` finds it -/
  request : InitStep → Option (List Byte)
  /-- The ring is full before a packet of an image. -/
  full : InitStep → Nat → Bool
  nullFull : Bool
  /-- `CPU_GEN`, as often as it is read before the time is up: for the code, -/
  putCode : List (BitVec 32)
  /-- before the processor is turned on, -/
  cpuGen : BitVec 32
  /-- for the processor -/
  bootRdy : List (BitVec 32)
  /-- and for the firmware -/
  firmRdy : List (BitVec 32)

inductive Out where
  | packet (p : Packet)
  /-- `fwSendNullPacket` -/
  | nullPacket (length : Nat) (waits : Bool)
  | cpuGen (b : Byte)
  deriving DecidableEq, Repr

/-! ## The source -/

def waitFor (bit : BitVec 32) : List (BitVec 32) → BitVec 32 → BitVec 32
  | [], cpuStatus => cpuStatus
  | r :: rs, _ => if r &&& bit ≠ 0 then r else waitFor bit rs r

section
variable (e : Attempt)

/-- The result, and the write -/
def cpuCheckMaincodeokTurnonCpu : Bool × List Out :=
  if waitFor cpuGenPutCodeOk e.putCode 0 &&& cpuGenPutCodeOk ≠ 0 then
    (waitFor cpuGenBootRdy e.bootRdy e.cpuGen &&& cpuGenBootRdy ≠ 0,
      [.cpuGen ((e.cpuGen ||| cpuGenPwrStbCpu).setWidth 8)])
  else (false, [])

def cpuCheckFirmwareReady : Bool := waitFor cpuGenFirmRdy e.firmRdy 0 &&& cpuGenFirmRdy ≠ 0

/-- The result, `firmware_status` and what is handed on -/
def firmwareCheckReady : InitStep → Bool × Status × List Out
  | .boot => (true, .moveBootCode, [.nullPacket rtl8190CpuStartOffset e.nullFull])
  | .main =>
    let (ok, out) := cpuCheckMaincodeokTurnonCpu e
    (ok, if ok then .turnonCpu else .moveMainCode, out)
  | .data =>
    let ok := cpuCheckFirmwareReady e
    (ok, if ok then .ready else .moveDataCode, [])

/-- The case `FW_SOURCE_IMG_FILE`; the result is `none` when the download fails here. -/
def fetch (step : InitStep) (fw : RtFirmware) : Option RtFirmware :=
  if fw.firmwareBufSize step = 0 then
    (e.request step).bind fun image =>
      if rtl8190MaxFirmwareCodeSize < image.length then none
      else some { fw with
        firmwareBuf := Function.update fw.firmwareBuf step (place image (fw.firmwareBuf step))
        firmwareBufSize :=
          Function.update fw.firmwareBufSize step (BitVec.ofNat 16 image.length) }
  else some fw

/-- 21 rounds of `fw_download_code` are enough for an image. -/
def downloadRounds : Nat := 21

/-- A round of the loop of `init_firmware`; `rst` says that `rst_opt` is `OPT_SYSTEM_RESET`. -/
def initStep (rst : Bool) (step : InitStep) (fw : RtFirmware) :
    Option (Bool × RtFirmware × List Out) :=
  match if rst then fetch e step fw else some fw with
  | none => some (false, fw, [])
  | some fw =>
    (fwDownloadCode (fw.firmwareBuf step) ((fw.firmwareBufSize step).setWidth 32) (e.full step)
      downloadRounds).val.map fun packets =>
        let (ok, status, out) := firmwareCheckReady e step
        (ok, { fw with firmwareStatus := status }, packets.map .packet ++ out)

def initSteps (rst : Bool) : List InitStep → RtFirmware → Option (Bool × RtFirmware × List Out)
  | [], fw => some (true, fw, [])
  | step :: steps, fw =>
    (initStep e rst step fw).bind fun (ok, fw, out) =>
      if ok then (initSteps rst steps fw).map fun (ok, fw, rest) => (ok, fw, out ++ rest)
      else some (false, fw, out)

def initFirmware (fw : RtFirmware) : Option (Bool × RtFirmware × List Out) :=
  if fw.firmwareStatus = .ready then initSteps e false [.data] fw
  else initSteps e true [.boot, .main, .data] fw

end

/-- From the label `start` of `rtl8192_adapter_start` on, with so many retries left -/
def startFrom (attempts : Nat → Attempt) :
    Nat → Nat → RtFirmware → Option (Bool × RtFirmware × List (List Out))
  | 0, retryTimes, fw =>
    (initFirmware (attempts retryTimes) { fw with firmwareStatus := .init }).map
      fun (ok, fw, out) => (ok, fw, [out])
  | left + 1, retryTimes, fw =>
    (initFirmware (attempts retryTimes) { fw with firmwareStatus := .init }).bind
      fun (ok, fw, out) =>
        if ok then some (true, fw, [out])
        else (startFrom attempts left (retryTimes + 1) fw).map
          fun (ok, fw, outs) => (ok, fw, out :: outs)

/-- `rtl8192_adapter_start`, as far as the firmware goes -/
def adapterStart (attempts : Nat → Attempt) (fw : RtFirmware) :
    Option (Bool × RtFirmware × List (List Out)) :=
  startFrom attempts 10 0 fw

structure Result where
  ok : Bool
  status : Status
  /-- What each attempt has handed on -/
  outs : List (List Out)

def starts : List (Nat → Attempt) → RtFirmware → Option (RtFirmware × List Result)
  | [], fw => some (fw, [])
  | attempts :: rest, fw =>
    (adapterStart attempts fw).bind fun (ok, fw, outs) =>
      (starts rest fw).map fun (fw', results) => (fw', ⟨ok, fw.firmwareStatus, outs⟩ :: results)

/-! ## What should happen -/

abbrev Images := InitStep → Option (List Byte)

/-- What the card should get -/
inductive Sent where
  | image (bytes : List Byte)
  | null
  | turnOn (b : Byte)
  deriving DecidableEq, Repr

section
variable (e : Attempt)

def found (images : Images) (step : InitStep) : Option (List Byte) :=
  (images step).or ((e.request step).filter fun image =>
    decide (image.length ≤ rtl8190MaxFirmwareCodeSize))

def putsCode : Prop := ∃ r ∈ e.putCode, r &&& cpuGenPutCodeOk ≠ 0

/-- Without any reading in time the one before the write counts. -/
def turnsOn : Prop :=
  (∃ r ∈ e.bootRdy, r &&& cpuGenBootRdy ≠ 0) ∨ e.bootRdy = [] ∧ e.cpuGen &&& cpuGenBootRdy ≠ 0

def runsFirmware : Prop := ∃ r ∈ e.firmRdy, r &&& cpuGenFirmRdy ≠ 0

def passes : InitStep → Prop
  | .boot => True
  | .main => putsCode e ∧ turnsOn e
  | .data => runsFirmware e

def checks : InitStep → List Sent
  | .boot => [.null]
  | .main => [.turnOn ((e.cpuGen ||| cpuGenPwrStbCpu).setWidth 8)]
  | .data => []

def booted (image : InitStep → List Byte) : List Sent :=
  [.boot, .main, .data].flatMap fun step => .image (image step) :: checks e step

def answers : Prop := ∀ step, passes e step

def available : Prop :=
  ∀ step, ∃ image, e.request step = some image ∧ image.length ≤ rtl8190MaxFirmwareCodeSize

def Files : Prop := ∀ step image, e.request step = some image → 0 < image.length ∧ 4 ∣ image.length

end

def Carries (image : List Byte) (packets : List Packet) : Prop :=
  (∃ init last, packets = init ++ [last] ∧ last.Fits true ∧ ∀ p ∈ init, p.Fits false) ∧
    packets.flatMap Packet.data = wordsReversed image

def Shows : List Out → List Sent → Prop
  | out, [] => out = []
  | out, .image bytes :: sent =>
    ∃ packets rest, out = packets.map .packet ++ rest ∧ Carries bytes packets ∧ Shows rest sent
  | out, .null :: sent => ∃ waits rest, out = .nullPacket 128 waits :: rest ∧ Shows rest sent
  | out, .turnOn b :: sent => ∃ rest, out = .cpuGen b :: rest ∧ Shows rest sent

structure Stored (image : List Byte) (buf : Nat → Byte) (size : BitVec 16) : Prop where
  buf : ∃ beyond, buf = place image beyond
  size : size = BitVec.ofNat 16 image.length
  pos : 0 < image.length
  le : image.length ≤ 64000
  words : 4 ∣ image.length

/-- The buffers have the images, and no others. -/
structure Holds (images : Images) (fw : RtFirmware) : Prop where
  empty : ∀ step, images step = none → fw.firmwareBufSize step = 0
  stored : ∀ step image, images step = some image →
    Stored image (fw.firmwareBuf step) (fw.firmwareBufSize step)

def Keeps (images images' : Images) : Prop :=
  ∀ step image, images step = some image → images' step = some image

/-- What one attempt should do: it boots the card, or stops on the way. -/
structure Tried (e : Attempt) (images : Images) (ok : Bool) (fw' : RtFirmware) (out : List Out)
    (images' : Images) : Prop where
  holds : Holds images' fw'
  keeps : Keeps images images'
  status : fw'.firmwareStatus = .ready ↔ ok = true
  ok_iff : ok = true ↔ answers e ∧ ∀ step, (found e images step).isSome = true
  sends : ∃ image sent, sent <+: booted e image ∧ Shows out sent ∧
    (ok = true → sent = booted e image ∧ ∀ step, images' step = some (image step))

/-- What a start with so many tries should do -/
structure Started (attempts : Nat → Attempt) (tries : Nat) (images : Images) (r : Result) :
    Prop where
  length_le : r.outs.length ≤ tries
  sends : ∀ k out, r.outs[k]? = some out →
    ∃ image sent, sent <+: booted (attempts k) image ∧ Shows out sent
  /-- With success the last attempt boots the card, with the images that are there. -/
  boots : r.ok = true → ∃ image out, (∀ step, images step = some (image step)) ∧
    r.outs.getLast? = some out ∧ Shows out (booted (attempts (r.outs.length - 1)) image)
  gives_up : r.ok = false → r.outs.length = tries
  status : r.status = .ready ↔ r.ok = true
  ok_iff : (∀ k < tries, available (attempts k)) →
    (r.ok = true ↔ ∃ k < tries, answers (attempts k))

/-! ## The parts -/

theorem waitFor_iff (bit : BitVec 32) (rs : List (BitVec 32)) (r₀ : BitVec 32) :
    waitFor bit rs r₀ &&& bit ≠ 0 ↔
      (∃ r ∈ rs, r &&& bit ≠ 0) ∨ rs = [] ∧ r₀ &&& bit ≠ 0 := by
  induction rs generalizing r₀ with
  | nil => simp [waitFor]
  | cons r rs ih =>
    by_cases hr : r &&& bit = 0
    · rw [waitFor, if_neg (not_not.mpr hr), ih]
      cases rs <;> simp [hr]
    · rw [waitFor, if_pos hr]
      exact iff_of_true hr (.inl ⟨r, List.mem_cons_self, hr⟩)

theorem Shows.append {out out' : List Out} {sent sent' : List Sent} (h : Shows out sent)
    (h' : Shows out' sent') : Shows (out ++ out') (sent ++ sent') := by
  induction sent generalizing out with
  | nil =>
    rw [h]
    exact h'
  | cons s sent ih =>
    cases s with
    | image bytes =>
      obtain ⟨packets, rest, rfl, hcarries, hrest⟩ := h
      exact ⟨packets, rest ++ out', List.append_assoc .., hcarries, ih hrest⟩
    | null =>
      obtain ⟨waits, rest, rfl, hrest⟩ := h
      exact ⟨waits, rest ++ out', rfl, ih hrest⟩
    | turnOn b =>
      obtain ⟨rest, rfl, hrest⟩ := h
      exact ⟨rest ++ out', rfl, ih hrest⟩

section
variable {images : Images} {fw : RtFirmware} {e : Attempt} {step : InitStep}

theorem Stored.size_ne {image : List Byte} {buf : Nat → Byte} {size : BitVec 16}
    (h : Stored image buf size) : size ≠ 0 := by
  rw [h.size]
  intro h0
  have hnat : (BitVec.ofNat 16 image.length).toNat = 0 := by
    rw [h0]
    rfl
  have hpos := h.pos
  have hle := h.le
  rw [BitVec.toNat_ofNat] at hnat
  omega

theorem Stored.download {image : List Byte} {buf : Nat → Byte} {size : BitVec 16}
    (h : Stored image buf size) (full : Nat → Bool) : ∃ packets,
    (fwDownloadCode buf (size.setWidth 32) full downloadRounds).val = some packets ∧
      Carries image packets := by
  -- An image that is there is downloaded as it should be.
  obtain ⟨beyond, hbuf⟩ := h.buf
  have hpos := h.pos
  have hle := h.le
  have hsize : size.setWidth 32 = BitVec.ofNat 32 image.length := by
    rw [h.size]
    apply BitVec.eq_of_toNat_eq
    simp only [BitVec.toNat_setWidth, BitVec.toNat_ofNat]
    omega
  obtain ⟨init, last, hval, hlast, hinit⟩ :=
    @downloadLoop_ends full 0 (place image beyond) _ hle downloadRounds 0 hpos
      (by unfold downloadRounds; omega)
  have hdata := downloadLoop_data hle h.words downloadRounds 0 hpos (Nat.dvd_zero 4) hval
  refine ⟨init ++ [last], ?_, ⟨init, last, rfl, hlast, hinit⟩, hdata⟩
  rw [hbuf, hsize]
  exact hval

theorem fetch_none (h : Holds images fw) (hfound : found e images step = none) :
    fetch e step fw = none := by
  obtain ⟨himage, hfile⟩ := Option.or_eq_none_iff.mp hfound
  rw [fetch, if_pos (h.empty step himage)]
  cases hreq : e.request step with
  | none => rfl
  | some image =>
    rw [hreq] at hfile
    have hlarge : rtl8190MaxFirmwareCodeSize < image.length := by
      simpa [Option.filter] using hfile
    rw [Option.bind_some, if_pos hlarge]

theorem fetch_some {image : List Byte} (h : Holds images fw) (hfiles : Files e)
    (hfound : found e images step = some image) : ∃ fw', fetch e step fw = some fw' ∧
      Holds (Function.update images step (some image)) fw' := by
  -- The file is asked for only when there is no image, and kept.
  cases himage : images step with
  | some kept =>
    have hsame : kept = image := by simpa [found, himage] using hfound
    refine ⟨fw, by rw [fetch, if_neg (h.stored step kept himage).size_ne], ?_⟩
    rwa [← hsame, ← himage, Function.update_eq_self]
  | none =>
    have hfile : e.request step = some image ∧ image.length ≤ rtl8190MaxFirmwareCodeSize := by
      simpa [found, himage] using hfound
    obtain ⟨hreq, hle⟩ := hfile
    obtain ⟨hpos, hwords⟩ := hfiles step image hreq
    let fw' : RtFirmware :=
      { fw with
        firmwareBuf := Function.update fw.firmwareBuf step (place image (fw.firmwareBuf step))
        firmwareBufSize :=
          Function.update fw.firmwareBufSize step (BitVec.ofNat 16 image.length) }
    have hfetch : fetch e step fw = some fw' := by
      rw [fetch, if_pos (h.empty step himage), hreq, Option.bind_some, if_neg (Nat.not_lt.mpr hle)]
    refine ⟨fw', hfetch, ⟨?_, ?_⟩⟩
    · intro step' hnone
      by_cases hstep : step' = step
      · rw [hstep, Function.update_self] at hnone
        cases hnone
      · rw [Function.update_of_ne hstep] at hnone
        simpa only [fw', Function.update_of_ne hstep] using h.empty step' hnone
    · intro step' image' hsome
      by_cases hstep : step' = step
      · subst hstep
        rw [Function.update_self] at hsome
        cases hsome
        simp only [fw', Function.update_self]
        exact ⟨⟨_, rfl⟩, rfl, hpos, hle, hwords⟩
      · rw [Function.update_of_ne hstep] at hsome
        simpa only [fw', Function.update_of_ne hstep] using h.stored step' image' hsome

/-! ## One attempt -/

theorem initStep_none (h : Holds images fw) (hfound : found e images step = none) :
    initStep e true step fw = some (false, fw, []) := by
  rw [initStep, if_pos rfl, fetch_none h hfound]

theorem initStep_some {image : List Byte} (h : Holds images fw) (hfiles : Files e)
    (hfound : found e images step = some image) : ∃ (fw' : RtFirmware) (packets : List Packet),
      initStep e true step fw = some ((firmwareCheckReady e step).1, fw',
        packets.map .packet ++ (firmwareCheckReady e step).2.2) ∧
      Holds (Function.update images step (some image)) fw' ∧ Carries image packets := by
  obtain ⟨fw', hfetch, hholds⟩ := fetch_some h hfiles hfound
  obtain ⟨packets, hval, hcarries⟩ :=
    (hholds.stored step image (Function.update_self ..)).download (e.full step)
  refine ⟨{ fw' with firmwareStatus := (firmwareCheckReady e step).2.1 }, packets, ?_,
    ⟨hholds.empty, hholds.stored⟩, hcarries⟩
  rw [initStep, if_pos rfl, hfetch]
  simp only [hval, Option.map_some]

theorem firmwareCheckReady_spec (e : Attempt) (step : InitStep) :
    ((firmwareCheckReady e step).1 = true ↔ passes e step) ∧
    ∃ sent, sent <+: checks e step ∧ Shows (firmwareCheckReady e step).2.2 sent ∧
      ((firmwareCheckReady e step).1 = true → sent = checks e step) := by
  -- The checks, and what they send: all of it unless they fail.
  cases step with
  | boot =>
    exact ⟨iff_of_true rfl trivial, [.null], List.prefix_rfl, ⟨e.nullFull, [], rfl, rfl⟩,
      fun _ => rfl⟩
  | main =>
    have hput : waitFor cpuGenPutCodeOk e.putCode 0 &&& cpuGenPutCodeOk ≠ 0 ↔ putsCode e := by
      rw [waitFor_iff, putsCode]
      simp
    have hon : waitFor cpuGenBootRdy e.bootRdy e.cpuGen &&& cpuGenBootRdy ≠ 0 ↔ turnsOn e :=
      waitFor_iff ..
    unfold firmwareCheckReady cpuCheckMaincodeokTurnonCpu passes
    by_cases h : putsCode e
    · rw [if_pos (hput.mpr h)]
      refine ⟨by simp only [decide_eq_true_eq, hon, h, true_and], checks e .main, List.prefix_rfl,
        ⟨[], rfl, rfl⟩, fun _ => rfl⟩
    · rw [if_neg (mt hput.mp h)]
      refine ⟨by simp only [h, false_and, Bool.false_eq_true], [], List.nil_prefix, rfl, ?_⟩
      exact fun hok => absurd hok Bool.false_ne_true
  | data =>
    have hrun : waitFor cpuGenFirmRdy e.firmRdy 0 &&& cpuGenFirmRdy ≠ 0 ↔ runsFirmware e := by
      rw [waitFor_iff, runsFirmware]
      simp
    unfold firmwareCheckReady cpuCheckFirmwareReady passes
    exact ⟨by simp only [decide_eq_true_eq, hrun], [], List.prefix_rfl, rfl, fun _ => rfl⟩

theorem initSteps_stop {steps : List InitStep} {fw' : RtFirmware} {out : List Out}
    (h : initStep e true step fw = some (false, fw', out)) :
    initSteps e true (step :: steps) fw = some (false, fw', out) := by
  simp [initSteps, h]

theorem initSteps_go {steps : List InitStep} {fw' fw'' : RtFirmware} {out rest : List Out}
    {ok : Bool} (h : initStep e true step fw = some (true, fw', out))
    (hrest : initSteps e true steps fw' = some (ok, fw'', rest)) :
    initSteps e true (step :: steps) fw = some (ok, fw'', out ++ rest) := by
  simp [initSteps, h, hrest]

structure Went (e : Attempt) (steps : List InitStep) (images : Images) (ok : Bool)
    (fw' : RtFirmware) (out : List Out) (images' : Images) : Prop where
  holds : Holds images' fw'
  keeps : Keeps images images'
  other : ∀ step, step ∉ steps → images' step = images step
  ok_iff : ok = true ↔ ∀ step ∈ steps, passes e step ∧ (found e images step).isSome = true
  sends : ∃ (image : InitStep → List Byte) (sent : List Sent),
    sent <+: steps.flatMap (fun step => .image (image step) :: checks e step) ∧ Shows out sent ∧
    (ok = true → sent = steps.flatMap (fun step => .image (image step) :: checks e step) ∧
      ∀ step ∈ steps, images' step = some (image step))

theorem Keeps.update {image : List Byte} (hfound : found e images step = some image) :
    Keeps images (Function.update images step (some image)) := by
  intro step' image' hsome
  by_cases hstep : step' = step
  · subst hstep
    rw [Function.update_self]
    simpa [found, hsome] using hfound.symm
  · rwa [Function.update_of_ne hstep]

theorem Shows.image {image : List Byte} {packets : List Packet} {out : List Out} {sent : List Sent}
    (hcarries : Carries image packets) (h : Shows out sent) :
    Shows (packets.map .packet ++ out) (.image image :: sent) :=
  ⟨packets, out, rfl, hcarries, h⟩

theorem Went.of_missing {steps : List InitStep} (h : Holds images fw)
    (hfound : found e images step = none) : Went e (step :: steps) images false fw [] images where
  holds := h
  keeps _ _ hsome := hsome
  other _ _ := rfl
  ok_iff := by
    refine iff_of_false Bool.false_ne_true fun hall => ?_
    have hsome := (hall step List.mem_cons_self).2
    rw [hfound] at hsome
    exact Bool.false_ne_true hsome
  sends := ⟨fun _ => [], [], List.nil_prefix, rfl, fun hok => absurd hok Bool.false_ne_true⟩

section
variable {steps : List InitStep} {image : List Byte} {fw' : RtFirmware} {packets : List Packet}

theorem Went.of_stop (hfound : found e images step = some image) (hcarries : Carries image packets)
    (hholds : Holds (Function.update images step (some image)) fw')
    (hcheck : (firmwareCheckReady e step).1 = false) :
    Went e (step :: steps) images false fw'
      (packets.map .packet ++ (firmwareCheckReady e step).2.2)
      (Function.update images step (some image)) := by
  obtain ⟨hpasses, sent, hprefix, hshows, -⟩ := firmwareCheckReady_spec e step
  rw [hcheck] at hpasses
  refine ⟨hholds, Keeps.update hfound, ?_, ?_, ?_⟩
  · intro step' hout
    exact Function.update_of_ne (List.ne_of_not_mem_cons hout) ..
  · refine iff_of_false Bool.false_ne_true fun hall => ?_
    exact Bool.false_ne_true (hpasses.mpr (hall step List.mem_cons_self).1)
  · refine ⟨fun _ => image, .image image :: sent, ?_, hshows.image hcarries,
      fun hok => absurd hok Bool.false_ne_true⟩
    rw [List.flatMap_cons, List.cons_append]
    exact List.cons_prefix_cons.mpr ⟨rfl, hprefix.trans (List.prefix_append ..)⟩

/-- The check passes, and the steps that follow have no part in this one's image. -/
theorem Went.of_go (hfound : found e images step = some image) (hcarries : Carries image packets)
    (hnotin : step ∉ steps) (hcheck : (firmwareCheckReady e step).1 = true)
    {ok : Bool} {fw'' : RtFirmware} {rest : List Out} {images' : Images}
    (hwent : Went e steps (Function.update images step (some image)) ok fw'' rest images') :
    Went e (step :: steps) images ok fw''
      (packets.map .packet ++ (firmwareCheckReady e step).2.2 ++ rest) images' := by
  obtain ⟨hpasses, sent, hprefix, hshows, hall⟩ := firmwareCheckReady_spec e step
  rw [hall hcheck] at hshows
  have hne (step' : InitStep) (hin : step' ∈ steps) : step' ≠ step :=
    fun heq => hnotin (heq ▸ hin)
  refine ⟨hwent.holds, fun step' image' hsome => hwent.keeps _ _ (Keeps.update hfound _ _ hsome),
    ?_, ?_, ?_⟩
  · intro step' hout
    rw [hwent.other step' (List.not_mem_of_not_mem_cons hout)]
    exact Function.update_of_ne (List.ne_of_not_mem_cons hout) ..
  · have hsame (step' : InitStep) (hin : step' ∈ steps) :
        found e (Function.update images step (some image)) step' = found e images step' := by
      rw [found, Function.update_of_ne (hne step' hin), found]
    have hthis : passes e step ∧ (found e images step).isSome = true :=
      ⟨hpasses.mp hcheck, by rw [hfound]; rfl⟩
    rw [hwent.ok_iff, List.forall_mem_cons, and_iff_right hthis]
    constructor
    · intro hrest step' hin
      rw [← hsame step' hin]
      exact hrest step' hin
    · intro hrest step' hin
      rw [hsame step' hin]
      exact hrest step' hin
  · obtain ⟨imageRest, sentRest, hprefixRest, hshowsRest, hallRest⟩ := hwent.sends
    -- the image of this step among those of the steps that follow
    let images₁ : InitStep → List Byte := Function.update imageRest step image
    have hbooted : (step :: steps).flatMap (fun s => Sent.image (images₁ s) :: checks e s) =
        (Sent.image image :: checks e step) ++
          steps.flatMap fun s => Sent.image (imageRest s) :: checks e s := by
      rw [List.flatMap_cons]
      simp only [images₁, Function.update_self]
      congr 1
      refine List.flatMap_congr fun step' hin => ?_
      rw [Function.update_of_ne (hne step' hin)]
    refine ⟨images₁, (Sent.image image :: checks e step) ++ sentRest, ?_, ?_, ?_⟩
    · rw [hbooted]
      exact (List.prefix_append_right_inj _).mpr hprefixRest
    · exact (hshows.image hcarries).append hshowsRest
    · intro hok
      obtain ⟨hsent, himages⟩ := hallRest hok
      refine ⟨by rw [hbooted, hsent], List.forall_mem_cons.mpr ⟨?_, ?_⟩⟩
      · rw [hwent.other step hnotin, Function.update_self]
        simp only [images₁, Function.update_self]
      · intro step' hin
        rw [himages step' hin]
        simp only [images₁, Function.update_of_ne (hne step' hin)]

end

theorem initSteps_went (hfiles : Files e) (steps : List InitStep) (hsteps : steps.Nodup)
    (h : Holds images fw) : ∃ ok fw' out images',
      initSteps e true steps fw = some (ok, fw', out) ∧ Went e steps images ok fw' out images' := by
  -- The invariant of the loop: the buffers have the images, and those stay.
  induction steps generalizing images fw with
  | nil =>
    refine ⟨true, fw, [], images, rfl, h, fun _ _ h => h, fun _ _ => rfl, ?_, ?_⟩
    · simp
    · exact ⟨fun _ => [], [], List.prefix_rfl, rfl, fun _ => ⟨rfl, by simp⟩⟩
  | cons step steps ih =>
    obtain ⟨hnotin, hnodup⟩ := List.nodup_cons.mp hsteps
    cases hfound : found e images step with
    | none => exact ⟨_, _, _, _, initSteps_stop (initStep_none h hfound), .of_missing h hfound⟩
    | some image =>
      obtain ⟨fw', packets, hstep, hholds, hcarries⟩ := initStep_some h hfiles hfound
      cases hcheck : (firmwareCheckReady e step).1 with
      | false =>
        rw [hcheck] at hstep
        exact ⟨_, _, _, _, initSteps_stop hstep, .of_stop hfound hcarries hholds hcheck⟩
      | true =>
        rw [hcheck] at hstep
        obtain ⟨ok, fw'', rest, images', hrest, hwent⟩ := ih hnodup hholds
        exact ⟨_, _, _, _, initSteps_go hstep hrest, .of_go hfound hcarries hnotin hcheck hwent⟩

theorem firmwareCheckReady_status (e : Attempt) (step : InitStep) :
    (firmwareCheckReady e step).2.1 = .ready ↔
      step = .data ∧ (firmwareCheckReady e step).1 = true := by
  cases step with
  | boot => simp [firmwareCheckReady]
  | main =>
    simp only [firmwareCheckReady]
    split <;> simp
  | data =>
    simp only [firmwareCheckReady]
    split <;> simp_all

theorem initStep_status {fw' : RtFirmware} {out : List Out} {ok : Bool}
    (h : initStep e true step fw = some (ok, fw', out)) :
    (ok = false ∧ fw'.firmwareStatus = fw.firmwareStatus) ∨
      ok = (firmwareCheckReady e step).1 ∧
        fw'.firmwareStatus = (firmwareCheckReady e step).2.1 := by
  rw [initStep, if_pos rfl] at h
  cases hfetch : fetch e step fw with
  | none =>
    rw [hfetch] at h
    cases h
    exact .inl ⟨rfl, rfl⟩
  | some fw₁ =>
    rw [hfetch] at h
    obtain ⟨packets, -, hres⟩ := Option.map_eq_some_iff.mp h
    cases hres
    exact .inr ⟨rfl, rfl⟩

theorem initSteps_status {fw' : RtFirmware} {out : List Out} {ok : Bool} (steps : List InitStep)
    (hsteps : InitStep.data ∉ steps) (hfw : fw.firmwareStatus ≠ .ready)
    (h : initSteps e true (steps ++ [.data]) fw = some (ok, fw', out)) :
    fw'.firmwareStatus = .ready ↔ ok = true := by
  induction steps generalizing fw out with
  | nil =>
    obtain ⟨⟨ok₁, fw₁, out₁⟩, hstep, hrest⟩ := Option.bind_eq_some_iff.mp h
    have hstatus : fw₁.firmwareStatus = .ready ↔ ok₁ = true := by
      rcases initStep_status hstep with ⟨rfl, hsame⟩ | ⟨rfl, hcheck⟩
      · rw [hsame]
        exact iff_of_false hfw Bool.false_ne_true
      · rw [hcheck, firmwareCheckReady_status]
        exact and_iff_right rfl
    cases ok₁ <;> cases hrest <;> exact hstatus
  | cons step steps ih =>
    obtain ⟨hne, hsteps⟩ := List.ne_and_not_mem_of_not_mem_cons hsteps
    obtain ⟨⟨ok₁, fw₁, out₁⟩, hstep, hrest⟩ := Option.bind_eq_some_iff.mp h
    have hfw₁ : fw₁.firmwareStatus ≠ .ready := by
      rcases initStep_status hstep with ⟨-, hsame⟩ | ⟨-, hcheck⟩
      · rwa [hsame]
      · rw [hcheck, Ne, firmwareCheckReady_status]
        exact fun hdata => hne hdata.1.symm
    cases ok₁ with
    | false =>
      cases hrest
      exact iff_of_false hfw₁ Bool.false_ne_true
    | true =>
      obtain ⟨⟨ok₂, fw₂, out₂⟩, hsteps₂, hres⟩ := Option.map_eq_some_iff.mp hrest
      cases hres
      exact ih hsteps hfw₁ hsteps₂

theorem forall_step {p : InitStep → Prop} :
    (∀ step ∈ [InitStep.boot, .main, .data], p step) ↔ ∀ step, p step := by
  constructor
  · intro h step
    cases step <;> exact h _ (by decide)
  · exact fun h step _ => h step

theorem initFirmware_tried (hfiles : Files e) (h : Holds images fw)
    (hfw : fw.firmwareStatus = .init) : ∃ ok fw' out images',
      initFirmware e fw = some (ok, fw', out) ∧ Tried e images ok fw' out images' := by
  -- An attempt from the start does what it should.
  have hready : fw.firmwareStatus ≠ .ready := by
    rw [hfw]
    decide
  obtain ⟨ok, fw', out, images', hsteps, hwent⟩ :=
    initSteps_went hfiles [.boot, .main, .data] (by decide) h
  have hstatus := initSteps_status [.boot, .main] (by decide) hready hsteps
  refine ⟨ok, fw', out, images', by rw [initFirmware, if_neg hready, hsteps], hwent.holds,
    hwent.keeps, hstatus, ?_, ?_⟩
  · rw [hwent.ok_iff, forall_step, forall_and, answers]
  · obtain ⟨image, sent, hprefix, hshows, hall⟩ := hwent.sends
    refine ⟨image, sent, hprefix, hshows, fun hok => ?_⟩
    obtain ⟨hsent, himages⟩ := hall hok
    exact ⟨hsent, forall_step.mp himages⟩

end

/-! ## All the attempts of a start -/

section
variable {images images' : Images} {fw : RtFirmware}

theorem Keeps.trans {images'' : Images} (h : Keeps images images') (h' : Keeps images' images'') :
    Keeps images images'' :=
  fun step image hsome => h' step image (h step image hsome)

theorem found_isSome {e : Attempt} (h : available e) (step : InitStep) :
    (found e images step).isSome = true := by
  obtain ⟨image, hreq, hle⟩ := h step
  cases himage : images step with
  | none => simp [found, himage, hreq, hle]
  | some kept => simp [found, himage]

theorem Tried.answers_iff {e : Attempt} {ok : Bool} {fw' : RtFirmware} {out : List Out}
    (h : Tried e images ok fw' out images') (hfiles : available e) : ok = true ↔ answers e := by
  rw [h.ok_iff]
  exact and_iff_left (found_isSome hfiles)

theorem Started.mono {attempts : Nat → Attempt} {tries : Nat} {r : Result}
    (h : Started attempts tries images r) (hkeeps : Keeps images images') :
    Started attempts tries images' r :=
  { h with
    boots := fun hok => by
      obtain ⟨image, out, himages, hlast⟩ := h.boots hok
      exact ⟨image, out, fun step => hkeeps step _ (himages step), hlast⟩ }

theorem Tried.started {attempts : Nat → Attempt} {tries : Nat} {ok : Bool} {fw' : RtFirmware}
    {out : List Out} (h : Tried (attempts 0) images ok fw' out images') (htries : 0 < tries)
    (hlast : ok = false → tries = 1) :
    Started attempts tries images' ⟨ok, fw'.firmwareStatus, [out]⟩ where
  length_le := htries
  sends k out' hout := by
  -- The attempt after which no other is made.
    obtain ⟨rfl, rfl⟩ : k = 0 ∧ out = out' := by
      cases k with
      | zero => exact ⟨rfl, Option.some.inj hout⟩
      | succ k => cases hout
    obtain ⟨image, sent, hprefix, hshows, -⟩ := h.sends
    exact ⟨image, sent, hprefix, hshows⟩
  boots hok := by
    obtain ⟨image, sent, -, hshows, hall⟩ := h.sends
    obtain ⟨hsent, himages⟩ := hall hok
    exact ⟨image, out, himages, rfl, hsent ▸ hshows⟩
  gives_up hok := (hlast hok).symm
  status := h.status
  ok_iff hfiles := by
    have hanswers := h.answers_iff (hfiles 0 htries)
    constructor
    · exact fun hok => ⟨0, htries, hanswers.mp hok⟩
    · rintro ⟨k, hk, hk'⟩
      by_contra hok
      obtain rfl : k = 0 := by
        have hone := hlast (Bool.eq_false_of_not_eq_true hok)
        omega
      exact hok (hanswers.mpr hk')

theorem Started.cons {attempts : Nat → Attempt} {tries : Nat} {fw' : RtFirmware} {out : List Out}
    {images₀ : Images} {ok : Bool} {status : Status} {outs : List (List Out)}
    (htried : Tried (attempts 0) images₀ false fw' out images)
    (h : Started (fun k => attempts (k + 1)) tries images' ⟨ok, status, outs⟩) :
    Started attempts (tries + 1) images' ⟨ok, status, out :: outs⟩ where
  length_le := Nat.succ_le_succ h.length_le
  sends k out' hout := by
  -- An attempt that fails comes before the others.
    cases k with
    | zero =>
      cases hout
      obtain ⟨image, sent, hprefix, hshows, -⟩ := htried.sends
      exact ⟨image, sent, hprefix, hshows⟩
    | succ k => exact h.sends k out' hout
  boots hok := by
    obtain ⟨image, out', himages, hlast, hshows⟩ := h.boots hok
    have hpos : outs.length - 1 + 1 = outs.length := by
      have hne : outs ≠ [] := by
        rintro rfl
        cases hlast
      have hpos := List.length_pos_iff.mpr hne
      omega
    refine ⟨image, out', himages, ?_, ?_⟩
    · rw [List.getLast?_cons, hlast]
      rfl
    · rw [hpos] at hshows
      exact hshows
  gives_up hok := congrArg (· + 1) (h.gives_up hok)
  status := h.status
  ok_iff hfiles := by
    have hfirst : ¬ answers (attempts 0) :=
      mt (htried.answers_iff (hfiles 0 (Nat.succ_pos _))).mpr Bool.false_ne_true
    rw [h.ok_iff fun k hk => hfiles (k + 1) (Nat.succ_lt_succ hk)]
    constructor
    · rintro ⟨k, hk, hk'⟩
      exact ⟨k + 1, Nat.succ_lt_succ hk, hk'⟩
    · rintro ⟨k, hk, hk'⟩
      cases k with
      | zero => exact absurd hk' hfirst
      | succ k => exact ⟨k, Nat.lt_of_succ_lt_succ hk, hk'⟩

theorem Holds.restart (h : Holds images fw) :
    Holds images { fw with firmwareStatus := Status.init } :=
  ⟨h.empty, h.stored⟩

theorem startFrom_started {attempts : Nat → Attempt} (hfiles : ∀ k, Files (attempts k))
    (left retryTimes : Nat) (h : Holds images fw) : ∃ ok fw' outs images',
      startFrom attempts left retryTimes fw = some (ok, fw', outs) ∧
      Holds images' fw' ∧ Keeps images images' ∧
      Started (fun k => attempts (retryTimes + k)) (left + 1) images'
        ⟨ok, fw'.firmwareStatus, outs⟩ := by
  -- The invariant of the attempts: the buffers have the images, which stay.
  induction left generalizing retryTimes images fw with
  | zero =>
    obtain ⟨ok, fw', out, images', hinit, htried⟩ :=
      initFirmware_tried (hfiles retryTimes) h.restart rfl
    refine ⟨ok, fw', [out], images', by rw [startFrom, hinit]; rfl, htried.holds, htried.keeps, ?_⟩
    exact Tried.started htried Nat.one_pos fun _ => rfl
  | succ left ih =>
    obtain ⟨ok, fw', out, images', hinit, htried⟩ :=
      initFirmware_tried (hfiles retryTimes) h.restart rfl
    cases ok with
    | true =>
      refine ⟨true, fw', [out], images', by rw [startFrom, hinit]; rfl, htried.holds,
        htried.keeps, ?_⟩
      exact Tried.started htried (Nat.succ_pos _) fun hok => absurd hok.symm Bool.false_ne_true
    | false =>
      obtain ⟨ok, fw'', outs, images'', hrest, hholds, hkeeps, hstarted⟩ :=
        ih (retryTimes + 1) htried.holds
      refine ⟨ok, fw'', out :: outs, images'', by rw [startFrom, hinit]; simp [hrest], hholds,
        htried.keeps.trans hkeeps, ?_⟩
      have hshift : (fun k => attempts (retryTimes + 1 + k)) =
          fun k => attempts (retryTimes + (k + 1)) :=
        funext fun k => congrArg attempts (by omega)
      rw [hshift] at hstarted
      exact Started.cons htried hstarted

end

/-! ## All starts of the card -/

theorem starts_run (runs : List (Nat → Attempt)) {images : Images} {fw : RtFirmware}
    (hfiles : ∀ attempts ∈ runs, ∀ k, Files (attempts k)) (h : Holds images fw) :
    ∃ fw' results images', starts runs fw = some (fw', results) ∧ Holds images' fw' ∧
      Keeps images images' ∧
      List.Forall₂ (fun attempts r => Started attempts 11 images' r) runs results := by
  induction runs generalizing images fw with
  | nil => exact ⟨fw, [], images, rfl, h, fun _ _ hsome => hsome, .nil⟩
  | cons attempts runs ih =>
    obtain ⟨hfirst, hothers⟩ := List.forall_mem_cons.mp hfiles
    obtain ⟨ok, fw₁, outs, images₁, hstart, hholds₁, hkeeps₁, hstarted⟩ :=
      startFrom_started hfirst 10 0 h
    obtain ⟨fw', results, images', hrest, hholds, hkeeps, hall⟩ := ih hothers hholds₁
    have hshift : (fun k => attempts (0 + k)) = attempts :=
      funext fun k => congrArg attempts (Nat.zero_add k)
    rw [hshift] at hstarted
    refine ⟨fw', ⟨ok, fw₁.firmwareStatus, outs⟩ :: results, images', ?_, hholds,
      hkeeps₁.trans hkeeps, .cons (hstarted.mono hkeeps) hall⟩
    rw [starts, adapterStart, hstart]
    simp only [Option.bind_some, hrest, Option.map_some]

/-- However often the card is started, and whatever it answers: each start ends after at most eleven
attempts, and fails only after all of them. What an attempt hands on is the beginning of a boot, and
the last one before a success is all of it. The images are the same ones in all these boots. -/
theorem starts_boot (runs : List (Nat → Attempt)) (fw : RtFirmware)
    (hfiles : ∀ attempts ∈ runs, ∀ k, Files (attempts k))
    (hempty : ∀ step, fw.firmwareBufSize step = 0) : ∃ fw' results images,
      starts runs fw = some (fw', results) ∧ Holds images fw' ∧
      List.Forall₂ (fun attempts r => Started attempts 11 images r) runs results := by
  have hholds : Holds (fun _ => none) fw := by
    refine ⟨fun step _ => hempty step, ?_⟩
    rintro step image ⟨⟩
  obtain ⟨fw', results, images, hstarts, hholds', -, hall⟩ := starts_run runs hfiles hholds
  exact ⟨fw', results, images, hstarts, hholds', hall⟩

def oneWord (answers : Bool) : Attempt where
  request
    | .boot => some [1, 2, 3, 4]
    | .main => some [5, 6, 7, 8]
    | .data => some [9, 10, 11, 12]
  full _ _ := false
  nullFull := false
  putCode := if answers then [0, cpuGenPutCodeOk] else [0]
  cpuGen := 0
  bootRdy := [cpuGenBootRdy]
  firmRdy := [cpuGenFirmRdy]

def noImages : RtFirmware where
  firmwareStatus := .init
  firmwareBuf _ _ := 0
  firmwareBufSize _ := 0

/-- The first attempt stops before it turns on the processor. -/
theorem starts_boot_second : (adapterStart (fun k => oneWord (k == 1)) noImages).map
      (fun r => (r.1, r.2.2)) =
    some (true, [[.packet ⟨[4, 3, 2, 1], true, 4, false⟩, .nullPacket 128 false,
        .packet ⟨[8, 7, 6, 5], true, 4, false⟩],
      [.packet ⟨[4, 3, 2, 1], true, 4, false⟩, .nullPacket 128 false,
        .packet ⟨[8, 7, 6, 5], true, 4, false⟩, .cpuGen 4,
        .packet ⟨[12, 11, 10, 9], true, 4, false⟩]]) ∧
    ∃ fw' results images, starts [fun k => oneWord (k == 1)] noImages = some (fw', results) ∧
      Holds images fw' ∧ List.Forall₂ (fun attempts r => Started attempts 11 images r)
        [fun k => oneWord (k == 1)] results := by
  have hfiles : ∀ attempts ∈ [fun k => oneWord (k == 1)], ∀ k, Files (attempts k) := by
    intro attempts hmem k step image hreq
    rw [List.mem_singleton.mp hmem] at hreq
    cases step <;> cases hreq <;> decide
  exact ⟨by decide, starts_boot _ noImages hfiles fun _ => rfl⟩

end Rtl8190.Firmware.Boot
