import Rtl8190.Types

/-!
# Country information

`Dot11d_UpdateCountryIe` (`dot11d.c`). It gets the bytes of the element by a function that also says
what is read.
-/

open Rtl8190.Memory

namespace Rtl8190.Beacon

def maxChannelNumber : Nat := 161

inductive Dot11dState where
  | none
  | learned
  | done
  deriving DecidableEq, Inhabited, Repr

structure Dot11dInfo where
  bEnabled : Bool
  countryIeLen : Nat
  countryIeBuf : Nat → Byte
  countryIeSrcAddr : Addr
  countryIeWatchdog : Byte
  channelMap : Nat → Byte
  maxTxPwrDbmList : Nat → Byte
  state : Dot11dState
  deriving Inhabited

variable {π : Type}

def setChannels (info : Dot11dInfo) (first n : Nat) (power : Byte) : Dot11dInfo :=
  { info with
    channelMap := fun c => if first ≤ c ∧ c < first + n then 1 else info.channelMap c
    maxTxPwrDbmList := fun c => if first ≤ c ∧ c < first + n then power else info.maxTxPwrDbmList c }

/-- The loop over `n` triples, from byte `pTriple` on. It tells whether it came to its end. -/
def tripleLoop (ie : Nat → Reads π Byte) :
    Nat → Nat → Nat → Dot11dInfo → Reads π (Bool × Dot11dInfo)
  | 0, _, _, info => pure (true, info)
  | n + 1, pTriple, maxChnlNum, info => do
    let firstChnl ← ie pTriple
    if maxChnlNum ≥ firstChnl.toNat then pure (false, info)
    else do
      let numChnls ← ie (pTriple + 1)
      if maxChannelNumber < firstChnl.toNat + numChnls.toNat then pure (false, info)
      else if numChnls = 0 then tripleLoop ie n (pTriple + 3) maxChnlNum info
      else do
        let maxTxPowerInDbm ← ie (pTriple + 2)
        tripleLoop ie n (pTriple + 3) (firstChnl.toNat + numChnls.toNat - 1)
          (setChannels info firstChnl.toNat numChnls.toNat maxTxPowerInDbm)

/-- `NumTriples`, a `u8` from a division of `int`s: 255 for an empty element. -/
def numTriples (len : Nat) : Nat := (BitVec.ofInt 8 (Int.tdiv (len - 3) 3)).toNat

def dot11dUpdateCountryIe (ie : Nat → Reads π Byte) (pTaddr : Addr) (len : Nat)
    (info : Dot11dInfo) : Reads π Dot11dInfo := do
  let info := { info with channelMap := fun _ => 0, maxTxPwrDbmList := fun _ => 0xff }
  let r ← tripleLoop ie (numTriples len) 3 0 info
  if r.1 then do
    let buf ← copy ie r.2.countryIeBuf len
    pure { r.2 with
      countryIeSrcAddr := pTaddr, countryIeLen := len, countryIeBuf := buf, state := .learned }
  else pure r.2

theorem within_tripleLoop {P : π → Prop} {ie : Nat → Reads π Byte} {len : Nat}
    (hie : ∀ i < len, (ie i).Within P) {n p m : Nat} (h : p + 3 * n ≤ len) {info : Dot11dInfo} :
    (tripleLoop ie n p m info).Within P := by
  induction n generalizing p m info with
  | zero => simp [tripleLoop]
  | succ n ih =>
    have ih : ∀ m info, (tripleLoop ie n (p + 3) m info).Within P := fun m info => ih (by omega)
    simp only [tripleLoop, within_bind, within_ite, within_pure, hie p (by omega),
      hie (p + 1) (by omega), hie (p + 2) (by omega), ih]
    simp

theorem numTriples_of_ge {len : Nat} (h : 3 ≤ len) : numTriples len = (len - 3) / 3 % 256 := by
  have hdiv : Int.tdiv ((len : Int) - 3) 3 = ((len - 3) / 3 : Nat) := by
    rw [Int.tdiv_eq_ediv_of_nonneg (by omega)]
    omega
  unfold numTriples
  rw [hdiv, BitVec.ofInt_natCast, BitVec.toNat_ofNat]

theorem numTriples_le {len : Nat} (hlen : len ≠ 0) (h : numTriples len ≠ 0) :
    3 + 3 * numTriples len ≤ len := by
  rcases Nat.lt_or_ge len 3 with hshort | hlong
  · obtain rfl | rfl : len = 1 ∨ len = 2 := by omega
    · exact absurd (by decide) h
    · exact absurd (by decide) h
  · rw [numTriples_of_ge hlong] at h ⊢
    omega

theorem within_dot11dUpdateCountryIe {P : π → Prop} {ie : Nat → Reads π Byte} {len bound : Nat}
    (hie : ∀ i < bound, (ie i).Within P) (hlen : len ≤ bound)
    (htriples : numTriples len ≠ 0 → 3 + 3 * numTriples len ≤ bound) {pTaddr : Addr}
    {info : Dot11dInfo} : (dot11dUpdateCountryIe ie pTaddr len info).Within P := by
  simp only [dot11dUpdateCountryIe, within_bind, within_ite, within_copy, within_pure]
  refine ⟨?_, fun _ => ⟨fun i hi => hie i (by omega), trivial⟩, fun _ => trivial⟩
  rcases Nat.eq_zero_or_pos (numTriples len) with hnone | hsome
  · rw [hnone]
    exact within_pure _
  · exact within_tripleLoop hie (htriples (by omega))

end Rtl8190.Beacon
