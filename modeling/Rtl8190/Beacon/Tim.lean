import Rtl8190.Beacon.Decoders

/-!
# The bit of the station in a TIM

A TIM carries some octets of a bitmap with a bit for each association id. The parser accepts an
association id whose octet is the one behind the last, and looks at whatever follows the element.
-/

open Rtl8190.Memory

namespace Rtl8190.Beacon

variable (env : Env) (e : Elem)

/-- `N1`, the number of the first octet that a TIM carries. -/
def firstOctet : Nat := (env.mem (e.start + (2 + 2))).toNat / 2 * 2

/-- The TIM carries octet `n` of the bitmap: its octets are `N1` to `N1 + len - 4`. -/
def CarriesOctet (n : Nat) : Prop := firstOctet env e ≤ n ∧ n ≤ firstOctet env e + e.len - 4

def bitmapBit (aid : Nat) : Bool :=
  (env.mem (e.start + (2 + (3 + (aid / 8 - firstOctet env e))))).getLsbD (aid % 8)

def Network.dtimUcast (network : Network) : Bool := network.dtimData &&& rtllibDtimUcast ≠ 0

variable {env e}

theorem timFixed_dtimUcast (count period control : Byte) (network : Network) :
    (timFixed env count period control network).dtimUcast = false := by
  unfold Network.dtimUcast timFixed
  simp only
  split <;> rfl

theorem timBitmap_dtimUcast (bits count period control : Byte) (network : Network) :
    (timBitmap env bits (timFixed env count period control network)).dtimUcast =
      bits.getLsbD (env.assocId.toNat % 8) := by
  cases hbit : bits.getLsbD (env.assocId.toNat % 8) with
  | true =>
    simp only [Network.dtimUcast, timBitmap, timFixed, hbit, if_true]
    split <;> rfl
  | false =>
    have hclear := @timFixed_dtimUcast env count period control network
    simp only [Network.dtimUcast] at hclear
    simpa only [Network.dtimUcast, timBitmap, hbit, Bool.false_eq_true, if_false] using hclear

theorem parseTim_dtimUcast_iff (network : Network) (hlen : 4 ≤ e.len)
    (hlinked : env.state = .linked) :
    (parseTim env e network).val.dtimUcast = true ↔
      8 * firstOctet env e ≤ env.assocId.toNat ∧
        env.assocId.toNat ≤ 8 * (firstOctet env e + e.len - 3) ∧
        bitmapBit env e env.assocId.toNat = true := by
  -- What the parser tests.
  unfold parseTim
  rw [if_neg (by omega)]
  simp only [bind_val, data_val, ne_eq, hlinked, not_true_eq_false, if_false]
  unfold bitmapBit firstOctet
  split
  · -- The association id is out of the range that is tested.
    rename_i hout
    rw [pure_val, timFixed_dtimUcast]
    simp only [Bool.false_eq_true, false_iff]
    rintro ⟨hlow, hhigh, -⟩
    omega
  · rename_i hin
    rw [bind_val, pure_val, data_val, timBitmap_dtimUcast]
    exact ⟨fun hbit => ⟨by omega, by omega, hbit⟩, fun h => h.2.2⟩

/-- The flag is right, for every station that is linked and every TIM, unless the octet of the
station would be the one behind the last, and the bit is set in the byte that is there. -/
theorem dtim_ucast_iff (env : Env) (e : Elem) (network : Network) (hlen : 4 ≤ e.len)
    (hlinked : env.state = .linked) :
    ((parseTim env e network).val.dtimUcast = true ↔
      CarriesOctet env e (env.assocId.toNat / 8) ∧ bitmapBit env e env.assocId.toNat = true) ↔
    ¬ (env.assocId.toNat = 8 * (firstOctet env e + e.len - 3) ∧
      bitmapBit env e env.assocId.toNat = true) := by
  rw [parseTim_dtimUcast_iff network hlen hlinked]
  unfold CarriesOctet
  by_cases hbit : bitmapBit env e env.assocId.toNat = true
  · simp only [hbit, and_true]
    omega
  · simp [hbit]

/-- Station 8, and a TIM that carries the octet of the stations 0 to 7. The element behind it is one
with an odd id. -/
def tim8 : Env :=
  { (default : Env) with
    mem := fun i => ([5, 4, 0, 1, 0, 0, 7, 0] : List Byte).getD i 0
    state := .linked
    assocId := 8 }

/-- There is nothing in the TIM for the station, and the flag is set. -/
theorem dtim_ucast_of_next_element :
    (parseTim tim8 ⟨0, 5, 4⟩ default).val.dtimUcast = true ∧
      ¬ CarriesOctet tim8 ⟨0, 5, 4⟩ (tim8.assocId.toNat / 8) := by
  unfold CarriesOctet firstOctet
  decide

/-- Station 9 with the same element. -/
theorem dtim_ucast_iff_nine :
    (parseTim { tim8 with assocId := 9 } ⟨0, 5, 4⟩ default).val.dtimUcast = true ↔
      CarriesOctet { tim8 with assocId := 9 } ⟨0, 5, 4⟩ 1 ∧
        bitmapBit { tim8 with assocId := 9 } ⟨0, 5, 4⟩ 9 = true := by
  apply (dtim_ucast_iff { tim8 with assocId := 9 } ⟨0, 5, 4⟩ default (by decide) rfl).mpr
  rintro ⟨haid, -⟩
  revert haid
  decide

end Rtl8190.Beacon
