import Mathlib.Tactic.FinCases
import Rtl8190.BlockAck.Code

/-!
# Block-Ack frames, built and received

What a handler does with the frame of a builder, against what it would do with the fields that were
put in. The response comes through. The request handler looks for the starting sequence control at
byte 168, the DELBA handler for its parameter set at byte 624, and both frames end long before.
-/

open Rtl8190.Memory

namespace Rtl8190.BlockAck

/-- The station that receives: its device, the streams that `GetTs` finds, and what the stack
holds. -/
structure Receiver where
  ieee : Device
  getRxTs : Addr → BitVec 4 → Option BaRecord
  getTxTs : Addr → BitVec 4 → Option TxTsRecord
  stack : BaRecord

/-! ## The handlers, given the fields -/

def onAddbaReq (r : Receiver) (src : Addr) (sent : BaRecord) : AddbaReqResult :=
  let fail (rc : BitVec 16) : AddbaReqResult :=
    .failed { r.stack with
      baParamSet := BaParamSet.setBaPolicy sent.baParamSet baPolicyImmediate
      baTimeoutValue := sent.baTimeoutValue
      dialogToken := sent.dialogToken } rc
  if r.ieee.qosActive = false ∨ r.ieee.bCurrentHtSupport = false ∨ r.ieee.rejectAddbaReq = true then
    fail addbaStatusRefused
  else
    match r.getRxTs src (BaParamSet.tid sent.baParamSet) with
    | none => fail addbaStatusRefused
    | some pBA =>
      if BaParamSet.baPolicy sent.baParamSet = baPolicyDelayed then fail addbaStatusInvalidParam
      else
        .accepted src (BaParamSet.tid sent.baParamSet) (activateBaEntry { deActivateBaEntry pBA with
          dialogToken := sent.dialogToken
          baParamSet := BaParamSet.setBufferSize sent.baParamSet
            (if r.ieee.halfNmode ∨ r.ieee.allowPeerAggOnePkt then 1 else 32)
          baTimeoutValue := sent.baTimeoutValue
          baStartSeqCtrl := sent.baStartSeqCtrl } 0)

def onAddbaRsp (r : Receiver) (src : Addr) (sent : BaRecord) (statusCode : BitVec 16) :
    AddbaRspResult :=
  let reject (pTS : Option TxTsRecord) (reasonCode : BitVec 16) : AddbaRspResult :=
    .rejected pTS sent.baParamSet reasonCode
  if r.ieee.qosActive = false ∨ r.ieee.bCurrentHtSupport = false ∨
      r.ieee.bCurrentAmpduEnable = false then reject none delbaReasonUnknownBa
  else
    match r.getTxTs src (BaParamSet.tid sent.baParamSet) with
    | none => reject none delbaReasonUnknownBa
    | some pTS =>
      let pTS := { pTS with bAddBaReqInProgress := false }
      if pTS.txAdmittedBaRecord.bValid then .dropped pTS
      else if pTS.txPendingBaRecord.bValid = false ∨
          sent.dialogToken ≠ pTS.txPendingBaRecord.dialogToken then
        reject (some pTS) delbaReasonUnknownBa
      else
        let pTS := { pTS with txPendingBaRecord := deActivateBaEntry pTS.txPendingBaRecord }
        if statusCode = addbaStatusSuccess then
          if BaParamSet.baPolicy sent.baParamSet = baPolicyDelayed then
            reject (some { pTS with
              bAddBaReqDelayed := true
              txAdmittedBaRecord := deActivateBaEntry pTS.txAdmittedBaRecord }) delbaReasonEndBa
          else
            .admitted { pTS with
              txAdmittedBaRecord := activateBaEntry (deActivateBaEntry { pTS.txAdmittedBaRecord with
                dialogToken := sent.dialogToken
                baTimeoutValue := sent.baTimeoutValue
                baParamSet := sent.baParamSet
                baStartSeqCtrl := pTS.txPendingBaRecord.baStartSeqCtrl }) sent.baTimeoutValue }
        else
          reject (some { pTS with bAddBaReqDelayed := true, bDisableAddBa := true }) delbaReasonEndBa

def onDelba (r : Receiver) (src : Addr) (txRxSelect : TrSelect) (tid : BitVec 4) : DelbaResult :=
  if r.ieee.qosActive = false ∨ r.ieee.bCurrentHtSupport = false then .notSupported
  else
    match txRxSelect with
    | .txDir =>
      match r.getRxTs src tid with
      | none => .noTs
      | some pBa => .rxDeleted src tid (rxTsDeleteBa pBa)
    | .rxDir =>
      match r.getTxTs src tid with
      | none => .noTs
      | some pTxTs =>
        .txDeleted src tid (txTsDeleteBa { pTxTs with
          bUsingBa := false
          bAddBaReqInProgress := false
          bAddBaReqDelayed := false
          tsAddBaTimer := false })

/-! ## The frames in memory -/

section Frames

variable (ieee : Device) (heap beyond : Nat → Byte) (dst : Addr) (pBA : BaRecord)
  (statusCode reasonCode : BitVec 16) (txRxSelect : TrSelect)

@[simp] theorem addbaReq_length : (rtllibAddbaReq ieee heap dst pBA).length = 33 := rfl

@[simp] theorem addbaRsp_length : (rtllibAddbaRsp ieee heap dst pBA statusCode).length = 33 := rfl

@[simp] theorem delba_length :
    (rtllibDelba ieee heap dst pBA txRxSelect reasonCode).length = 30 := rfl

theorem readAddr2_place (tag : List Byte) :
    (readAddr2 (place (hdr3addr ieee heap dst ++ tag) beyond)).val = ieee.devAddr := by
  funext i
  fin_cases i <;> rfl

theorem readAddr2_within (mem : Nat → Byte) {n : Nat} (hn : 16 ≤ n) :
    (readAddr2 mem).Within (· < n) := by
  intro p hp
  simp only [readAddr2, List.mem_map, List.mem_range] at hp
  obtain ⟨i, hi, rfl⟩ := hp
  omega

theorem addbaReq_fields :
    let mem := place (rtllibAddbaReq ieee heap dst pBA) beyond
    mem 26 = pBA.dialogToken ∧ mem 28 ++ mem 27 = pBA.baParamSet ∧
      mem 30 ++ mem 29 = pBA.baTimeoutValue := by
  intro mem
  have htag (i : Nat) : mem (24 + i) = place ([actCatBa, actAddbareq, pBA.dialogToken] ++ le16 pBA.baParamSet ++
      le16 pBA.baTimeoutValue ++ le16 pBA.baStartSeqCtrl) (fun j => beyond (24 + j)) i := by
    simp only [mem, rtllibAddbaReq, List.append_assoc]
    exact place_append rfl beyond i
  refine ⟨htag 2, ?_, ?_⟩
  · rw [show mem 28 = _ from htag 4, show mem 27 = _ from htag 3]
    exact hi_append_lo pBA.baParamSet
  · rw [show mem 30 = _ from htag 6, show mem 29 = _ from htag 5]
    exact hi_append_lo pBA.baTimeoutValue

theorem addbaRsp_fields :
    let mem := place (rtllibAddbaRsp ieee heap dst pBA statusCode) beyond
    mem 26 = pBA.dialogToken ∧ mem 28 ++ mem 27 = statusCode ∧ mem 30 ++ mem 29 = pBA.baParamSet ∧
      mem 32 ++ mem 31 = pBA.baTimeoutValue := by
  -- The fields of the response, where the handler reads them.
  intro mem
  have htag (i : Nat) : mem (24 + i) = place ([actCatBa, actAddbarsp, pBA.dialogToken] ++ le16 statusCode ++
      le16 pBA.baParamSet ++ le16 pBA.baTimeoutValue) (fun j => beyond (24 + j)) i := by
    simp only [mem, rtllibAddbaRsp, List.append_assoc]
    exact place_append rfl beyond i
  refine ⟨htag 2, ?_, ?_, ?_⟩
  · rw [show mem 28 = _ from htag 4, show mem 27 = _ from htag 3]
    exact hi_append_lo statusCode
  · rw [show mem 30 = _ from htag 6, show mem 29 = _ from htag 5]
    exact hi_append_lo pBA.baParamSet
  · rw [show mem 32 = _ from htag 8, show mem 31 = _ from htag 7]
    exact hi_append_lo pBA.baTimeoutValue

end Frames

/-! ## The three exchanges -/

section Exchanges

variable (sender : Device) (heap beyond : Nat → Byte) (dst : Addr) (r : Receiver)
  (pBA : BaRecord) (statusCode reasonCode : BitVec 16) (txRxSelect : TrSelect)

theorem addbaRsp_recovered :
    let m := rtllibRxAddbaRsp r.ieee r.getTxTs
      (place (rtllibAddbaRsp sender heap dst pBA statusCode) beyond) 33
    m.val = onAddbaRsp r sender.devAddr pBA statusCode ∧ m.Within (· < 33) := by
  obtain ⟨h1, h2, h3, h4⟩ := addbaRsp_fields sender heap beyond dst pBA statusCode
  have hsrc : (readAddr2 (place (rtllibAddbaRsp sender heap dst pBA statusCode) beyond)).val =
      sender.devAddr := by
    simpa only [rtllibAddbaRsp, List.append_assoc] using readAddr2_place sender heap beyond dst _
  have haddr := readAddr2_within (place (rtllibAddbaRsp sender heap dst pBA statusCode) beyond)
    (n := 33) (by omega)
  generalize place (rtllibAddbaRsp sender heap dst pBA statusCode) beyond = mem at *
  simp only [rtllibRxAddbaRsp, onAddbaRsp, sizeofHdr3addr, Nat.reduceAdd, Nat.lt_irrefl, if_false,
    bind_val, within_bind, haddr, true_and, hsrc, ite_val, read16_val, h3]
  by_cases hcap : r.ieee.qosActive = false ∨ r.ieee.bCurrentHtSupport = false ∨
      r.ieee.bCurrentAmpduEnable = false
  · simp only [if_pos hcap]
    simp [h3]
  · simp only [if_neg hcap]
    cases hts : r.getTxTs sender.devAddr (BaParamSet.tid pBA.baParamSet) with
    | none => simp [h3, hts]
    | some pTS =>
      by_cases hadm : pTS.txAdmittedBaRecord.bValid = true
      · simp [h3, hts, hadm]
      · by_cases hpend : pTS.txPendingBaRecord.bValid = false ∨
            pBA.dialogToken ≠ pTS.txPendingBaRecord.dialogToken
        · simp [h1, h3, hts, hadm, if_pos hpend]
        · by_cases hst : statusCode = addbaStatusSuccess
          · by_cases hpol : BaParamSet.baPolicy pBA.baParamSet = baPolicyDelayed
            · simp [h1, h2, h3, hts, hadm, hpend, hst, hpol]
            · simp [h1, h2, h3, h4, hts, hadm, hpend, hst, hpol]
          · simp [h1, h2, h3, hts, hadm, hpend, hst]

/-- The request handler refuses before it looks at the starting sequence control. -/
def Receiver.refusesReq (src : Addr) (sent : BaRecord) : Prop :=
  r.ieee.qosActive = false ∨ r.ieee.bCurrentHtSupport = false ∨ r.ieee.rejectAddbaReq = true ∨
    r.getRxTs src (BaParamSet.tid sent.baParamSet) = none ∨
    BaParamSet.baPolicy sent.baParamSet = baPolicyDelayed

/-- The DELBA handler refuses before it looks at the parameter set. -/
def Receiver.refusesDelba : Prop :=
  r.ieee.qosActive = false ∨ r.ieee.bCurrentHtSupport = false

theorem addbaReq_recovered_iff :
    let m := rtllibRxAddbaReq r.ieee r.getRxTs r.stack
      (place (rtllibAddbaReq sender heap dst pBA) beyond) 33
    m.val = onAddbaReq r sender.devAddr pBA ∧ m.Within (· < 33) ↔
      r.refusesReq sender.devAddr pBA := by
  obtain ⟨h1, h2, h3⟩ := addbaReq_fields sender heap beyond dst pBA
  have hsrc : (readAddr2 (place (rtllibAddbaReq sender heap dst pBA) beyond)).val =
      sender.devAddr := by
    simpa only [rtllibAddbaReq, List.append_assoc] using readAddr2_place sender heap beyond dst _
  have haddr := readAddr2_within (place (rtllibAddbaReq sender heap dst pBA) beyond)
    (n := 33) (by omega)
  generalize place (rtllibAddbaReq sender heap dst pBA) beyond = mem at *
  simp only [rtllibRxAddbaReq, onAddbaReq, Receiver.refusesReq, sizeofHdr3addr, Nat.reduceAdd,
    Nat.reduceMul, Nat.lt_irrefl, if_false, bind_val, within_bind, haddr, true_and, hsrc, ite_val]
  by_cases hcap : r.ieee.qosActive = false ∨ r.ieee.bCurrentHtSupport = false ∨
      r.ieee.rejectAddbaReq = true
  · have hrefuse : r.ieee.qosActive = false ∨ r.ieee.bCurrentHtSupport = false ∨
        r.ieee.rejectAddbaReq = true ∨ r.getRxTs sender.devAddr (BaParamSet.tid pBA.baParamSet) = none ∨
        BaParamSet.baPolicy pBA.baParamSet = baPolicyDelayed := by tauto
    simp only [if_pos hcap, hrefuse]
    simp [h1, h2, h3]
  · simp only [not_or] at hcap
    cases hts : r.getRxTs sender.devAddr (BaParamSet.tid pBA.baParamSet) with
    | none => simp [h1, h2, h3, hts, hcap]
    | some ts =>
      by_cases hpol : BaParamSet.baPolicy pBA.baParamSet = baPolicyDelayed
      · simp [h1, h2, h3, hts, hcap, hpol]
      · -- The handler fills the record, and reads beyond the frame.
        simp [h2, hts, hcap, hpol]

theorem delba_recovered_iff :
    let m := rtllibRxDelba r.ieee r.getRxTs r.getTxTs
      (place (rtllibDelba sender heap dst pBA txRxSelect reasonCode) beyond) 30
    m.val = onDelba r sender.devAddr txRxSelect (BaParamSet.tid pBA.baParamSet) ∧
      m.Within (· < 30) ↔ r.refusesDelba := by
  generalize place (rtllibDelba sender heap dst pBA txRxSelect reasonCode) beyond = mem
  simp only [rtllibRxDelba, onDelba, Receiver.refusesDelba, sizeofHdr3addr, Nat.reduceAdd,
    Nat.reduceMul, Nat.lt_irrefl, if_false]
  by_cases hcap : r.ieee.qosActive = false ∨ r.ieee.bCurrentHtSupport = false
  · simp [hcap]
  · simp [hcap]

end Exchanges

/-! ## Main result -/

inductive Sent where
  | addbaReq (pBA : BaRecord)
  | addbaRsp (pBA : BaRecord) (statusCode : BitVec 16)
  | delba (pBA : BaRecord) (txRxSelect : TrSelect) (reasonCode : BitVec 16)

/-- The handler does what the fields of the sent frame ask for, and reads nothing but the frame. -/
def Recovered (sender : Device) (heap beyond : Nat → Byte) (dst : Addr) (r : Receiver) :
    Sent → Prop
  | .addbaReq pBA =>
    let frame := rtllibAddbaReq sender heap dst pBA
    let m := rtllibRxAddbaReq r.ieee r.getRxTs r.stack (place frame beyond) frame.length
    m.val = onAddbaReq r sender.devAddr pBA ∧ m.Within (· < frame.length)
  | .addbaRsp pBA statusCode =>
    let frame := rtllibAddbaRsp sender heap dst pBA statusCode
    let m := rtllibRxAddbaRsp r.ieee r.getTxTs (place frame beyond) frame.length
    m.val = onAddbaRsp r sender.devAddr pBA statusCode ∧ m.Within (· < frame.length)
  | .delba pBA txRxSelect reasonCode =>
    let frame := rtllibDelba sender heap dst pBA txRxSelect reasonCode
    let m := rtllibRxDelba r.ieee r.getRxTs r.getTxTs (place frame beyond) frame.length
    m.val = onDelba r sender.devAddr txRxSelect (BaParamSet.tid pBA.baParamSet) ∧
      m.Within (· < frame.length)

/-- Responses come through. Requests and DELBAs do only when they are refused unread. -/
theorem recovered_iff (sender : Device) (heap beyond : Nat → Byte) (dst : Addr) (r : Receiver)
    (sent : Sent) :
    Recovered sender heap beyond dst r sent ↔
      match sent with
      | .addbaReq pBA => r.refusesReq sender.devAddr pBA
      | .addbaRsp _ _ => True
      | .delba _ _ _ => r.refusesDelba := by
  cases sent with
  | addbaReq pBA => exact addbaReq_recovered_iff sender heap beyond dst r pBA
  | addbaRsp pBA statusCode =>
    exact iff_of_true (addbaRsp_recovered sender heap beyond dst r pBA statusCode) trivial
  | delba pBA txRxSelect reasonCode =>
    exact delba_recovered_iff sender heap beyond dst r pBA reasonCode txRxSelect

def station (i : Byte) : Device where
  devAddr := fun _ => i
  bssid := fun _ => 1
  qosActive := true
  bCurrentHtSupport := true
  bCurrentAmpduEnable := true
  rejectAddbaReq := false
  allowPeerAggOnePkt := false
  halfNmode := false

def peer : Receiver where
  ieee := station 2
  getRxTs := fun _ _ => some ⟨false, false, 0, 0, 0, 0⟩
  getTxTs := fun _ _ => none
  stack := ⟨false, false, 0, 0, 0, 0⟩

/-- A request for TID 5 with the starting sequence number 291 is accepted, and not recovered; nor is
the DELBA that ends the agreement. -/
theorem not_recovered :
    ¬ Recovered (station 1) (fun _ => 0) (fun _ => 0) (fun _ => 2) peer
        (.addbaReq ⟨false, true, 7, 0x0816, 0, 0x1230⟩) ∧
      ¬ Recovered (station 1) (fun _ => 0) (fun _ => 0) (fun _ => 2) peer
        (.delba ⟨false, true, 7, 0x0816, 0, 0x1230⟩ .txDir 37) := by
  refine ⟨fun h => absurd ((addbaReq_recovered_iff ..).mp h) ?_,
    fun h => absurd ((delba_recovered_iff ..).mp h) ?_⟩
  · simp [Receiver.refusesReq, peer, station, BaParamSet.baPolicy, baPolicyDelayed]
  · simp [Receiver.refusesDelba, peer, station]

end Rtl8190.BlockAck
