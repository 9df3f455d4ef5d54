import Rtl8190.Types

/-!
# Block-Ack action frames

The frame builders and the receive handlers of `rtl819x_BAProc.c`, on a little-endian host. A
handler gets the received frame as memory and its length; `GetTs` is a function from an address and
a TID to the record it finds.
-/

open Rtl8190.Memory

namespace Rtl8190.BlockAck

/-! ## Constants -/

def actCatBa : Byte := 3
def actAddbareq : Byte := 0
def actAddbarsp : Byte := 1
def actDelba : Byte := 2

def stypeManageAct : BitVec 16 := 0x00D0

def sizeofHdr3addr : Nat := 24

def baPolicyDelayed : BitVec 1 := 0
def baPolicyImmediate : BitVec 1 := 1

def addbaStatusSuccess : BitVec 16 := 0
def addbaStatusRefused : BitVec 16 := 37
def addbaStatusInvalidParam : BitVec 16 := 38

def delbaReasonEndBa : BitVec 16 := 37
def delbaReasonUnknownBa : BitVec 16 := 38

/-! ## Records -/

abbrev BaParamSet := BitVec 16

def BaParamSet.baPolicy (p : BaParamSet) : BitVec 1 := p.extractLsb' 1 1

def BaParamSet.tid (p : BaParamSet) : BitVec 4 := p.extractLsb' 2 4

def BaParamSet.setBaPolicy (p : BaParamSet) (v : BitVec 1) : BaParamSet :=
  (p &&& ~~~0x0002#16) ||| (v.setWidth 16 <<< 1)

def BaParamSet.setBufferSize (p : BaParamSet) (v : BitVec 10) : BaParamSet :=
  (p &&& 0x003f#16) ||| (v.setWidth 16 <<< 6)

abbrev DelbaParamSet := BitVec 16

def DelbaParamSet.initiator (p : DelbaParamSet) : BitVec 1 := p.extractLsb' 11 1

def DelbaParamSet.tid (p : DelbaParamSet) : BitVec 4 := p.extractLsb' 12 4

/-- The set with `Reserved` zero. -/
def DelbaParamSet.mk (initiator : BitVec 1) (tid : BitVec 4) : DelbaParamSet :=
  (initiator.setWidth 16 <<< 11) ||| (tid.setWidth 16 <<< 12)

/-- `BA_RECORD`; `timer` is whether its timer is pending. -/
structure BaRecord where
  timer : Bool
  bValid : Bool
  dialogToken : Byte
  baParamSet : BaParamSet
  baTimeoutValue : BitVec 16
  baStartSeqCtrl : BitVec 16
  deriving DecidableEq, Repr

def activateBaEntry (pBA : BaRecord) (time : BitVec 16) : BaRecord :=
  { pBA with bValid := true, timer := if time ≠ 0 then true else pBA.timer }

def deActivateBaEntry (pBA : BaRecord) : BaRecord :=
  { pBA with bValid := false, timer := false }

/-- What the Block-Ack functions use of a `TX_TS_RECORD`. -/
structure TxTsRecord where
  txPendingBaRecord : BaRecord
  txAdmittedBaRecord : BaRecord
  bAddBaReqInProgress : Bool
  bAddBaReqDelayed : Bool
  bUsingBa : Bool
  bDisableAddBa : Bool
  tsAddBaTimer : Bool
  deriving DecidableEq, Repr

def txTsDeleteBa (pTxTs : TxTsRecord) : TxTsRecord :=
  { pTxTs with
    txPendingBaRecord :=
      if pTxTs.txPendingBaRecord.bValid then deActivateBaEntry pTxTs.txPendingBaRecord
      else pTxTs.txPendingBaRecord
    txAdmittedBaRecord :=
      if pTxTs.txAdmittedBaRecord.bValid then deActivateBaEntry pTxTs.txAdmittedBaRecord
      else pTxTs.txAdmittedBaRecord }

def rxTsDeleteBa (pBa : BaRecord) : BaRecord :=
  if pBa.bValid then deActivateBaEntry pBa else pBa

/-- What the functions read of `struct rtllib_device`. -/
structure Device where
  devAddr : Addr
  bssid : Addr
  /-- `current_network.qos_data.active` -/
  qosActive : Bool
  bCurrentHtSupport : Bool
  bCurrentAmpduEnable : Bool
  /-- `IOTAction & HT_IOT_ACT_REJECT_ADDBA_REQ` -/
  rejectAddbaReq : Bool
  /-- `IOTAction & HT_IOT_ACT_ALLOW_PEER_AGG_ONE_PKT` -/
  allowPeerAggOnePkt : Bool
  /-- `GetHalfNmodeSupportByAPsHandler` -/
  halfNmode : Bool
  deriving DecidableEq

/-! ## Builders -/

/-- The header both builders write. They leave `duration_id` and `seq_ctl` as the allocator gave
them. -/
def hdr3addr (ieee : Device) (heap : Nat → Byte) (dst : Addr) : List Byte :=
  le16 stypeManageAct ++ [heap 2, heap 3] ++ Addr.bytes dst ++ Addr.bytes ieee.devAddr ++
    Addr.bytes ieee.bssid ++ [heap 22, heap 23]

/-- `rtllib_ADDBA(ACT_ADDBAREQ)`, which its caller gives the status code 0. -/
def rtllibAddbaReq (ieee : Device) (heap : Nat → Byte) (dst : Addr) (pBA : BaRecord) : List Byte :=
  hdr3addr ieee heap dst ++ [actCatBa, actAddbareq, pBA.dialogToken] ++ le16 pBA.baParamSet ++
    le16 pBA.baTimeoutValue ++ le16 pBA.baStartSeqCtrl

def rtllibAddbaRsp (ieee : Device) (heap : Nat → Byte) (dst : Addr) (pBA : BaRecord)
    (statusCode : BitVec 16) : List Byte :=
  hdr3addr ieee heap dst ++ [actCatBa, actAddbarsp, pBA.dialogToken] ++ le16 statusCode ++
    le16 pBA.baParamSet ++ le16 pBA.baTimeoutValue

def rtllibDelba (ieee : Device) (heap : Nat → Byte) (dst : Addr) (pBA : BaRecord)
    (txRxSelect : TrSelect) (reasonCode : BitVec 16) : List Byte :=
  let delbaParamSet := DelbaParamSet.mk (if txRxSelect = .txDir then 1 else 0)
    (BaParamSet.tid pBA.baParamSet)
  hdr3addr ieee heap dst ++ [actCatBa, actDelba] ++ le16 delbaParamSet ++ le16 reasonCode

/-! ## Handlers -/

/-- `addr2` of the received header. -/
def readAddr2 (mem : Nat → Byte) : Reads Nat Addr :=
  ⟨fun i => mem (10 + i), (List.range 6).map (10 + ·)⟩

inductive AddbaReqResult where
  | invalidLen
  /-- An ADDBA response with the status `rc`, built from the local record `BA`. -/
  | failed (BA : BaRecord) (rc : BitVec 16)
  /-- The admitted record of the stream `(dst, tid)`; the response says success. -/
  | accepted (dst : Addr) (tid : BitVec 4) (pBA : BaRecord)
  deriving DecidableEq

/-- `rtllib_rx_ADDBAReq`. `stack` is the uninitialised local record of the failure path. -/
def rtllibRxAddbaReq (ieee : Device) (getTs : Addr → BitVec 4 → Option BaRecord) (stack : BaRecord)
    (mem : Nat → Byte) (len : Nat) : Reads Nat AddbaReqResult :=
  if len < sizeofHdr3addr + 9 then pure .invalidLen
  else do
    let tag := sizeofHdr3addr
    let pDialogToken := tag + 2
    let pBaParamSet := tag + 3
    let pBaTimeoutVal := tag + 5
    -- `req + 7`, in units of the header.
    let pBaStartSeqCtrl := 7 * sizeofHdr3addr
    let fail (rc : BitVec 16) : Reads Nat AddbaReqResult := do
      let baParamSet ← read16 mem pBaParamSet
      let baTimeoutValue ← read16 mem pBaTimeoutVal
      let dialogToken ← read mem pDialogToken
      let baParamSet := BaParamSet.setBaPolicy baParamSet baPolicyImmediate
      pure (.failed { stack with baParamSet, baTimeoutValue, dialogToken } rc)
    let dst ← readAddr2 mem
    if ieee.qosActive = false ∨ ieee.bCurrentHtSupport = false ∨ ieee.rejectAddbaReq = true then
      fail addbaStatusRefused
    else do
      let baParamSet ← read16 mem pBaParamSet
      let tid := BaParamSet.tid baParamSet
      match getTs dst tid with
      | none => fail addbaStatusRefused
      | some pBA =>
        if BaParamSet.baPolicy baParamSet = baPolicyDelayed then fail addbaStatusInvalidParam
        else do
          let pBA := deActivateBaEntry pBA
          let dialogToken ← read mem pDialogToken
          let baTimeoutValue ← read16 mem pBaTimeoutVal
          let baStartSeqCtrl ← read16 mem pBaStartSeqCtrl
          let bufferSize : BitVec 10 := if ieee.halfNmode ∨ ieee.allowPeerAggOnePkt then 1 else 32
          let baParamSet := BaParamSet.setBufferSize baParamSet bufferSize
          let pBA := { pBA with dialogToken, baParamSet, baTimeoutValue, baStartSeqCtrl }
          pure (.accepted dst tid (activateBaEntry pBA 0))

inductive AddbaRspResult where
  | invalidLen
  /-- A DELBA with the reason, built from the parameter set. `pTS` is the stream, when there is one. -/
  | rejected (pTS : Option TxTsRecord) (baParamSet : BaParamSet) (reasonCode : BitVec 16)
  /-- The agreement was there already. -/
  | dropped (pTS : TxTsRecord)
  | admitted (pTS : TxTsRecord)
  deriving DecidableEq

def rtllibRxAddbaRsp (ieee : Device) (getTs : Addr → BitVec 4 → Option TxTsRecord)
    (mem : Nat → Byte) (len : Nat) : Reads Nat AddbaRspResult :=
  if len < sizeofHdr3addr + 9 then pure .invalidLen
  else do
    let tag := sizeofHdr3addr
    let pDialogToken := tag + 2
    let pStatusCode := tag + 3
    let pBaParamSet := tag + 5
    let pBaTimeoutVal := tag + 7
    let reject (pTS : Option TxTsRecord) (reasonCode : BitVec 16) : Reads Nat AddbaRspResult := do
      let baParamSet ← read16 mem pBaParamSet
      pure (.rejected pTS baParamSet reasonCode)
    let dst ← readAddr2 mem
    if ieee.qosActive = false ∨ ieee.bCurrentHtSupport = false ∨ ieee.bCurrentAmpduEnable = false then
      reject none delbaReasonUnknownBa
    else do
      let baParamSet ← read16 mem pBaParamSet
      match getTs dst (BaParamSet.tid baParamSet) with
      | none => reject none delbaReasonUnknownBa
      | some pTS =>
        let pTS := { pTS with bAddBaReqInProgress := false }
        if pTS.txAdmittedBaRecord.bValid then pure (.dropped pTS)
        else do
          let dialogToken ← read mem pDialogToken
          if pTS.txPendingBaRecord.bValid = false ∨ dialogToken ≠ pTS.txPendingBaRecord.dialogToken then
            reject (some pTS) delbaReasonUnknownBa
          else do
            let pTS := { pTS with txPendingBaRecord := deActivateBaEntry pTS.txPendingBaRecord }
            let statusCode ← read16 mem pStatusCode
            if statusCode = addbaStatusSuccess then
              if BaParamSet.baPolicy baParamSet = baPolicyDelayed then
                reject (some { pTS with
                  bAddBaReqDelayed := true
                  txAdmittedBaRecord := deActivateBaEntry pTS.txAdmittedBaRecord }) delbaReasonEndBa
              else do
                let baTimeoutValue ← read16 mem pBaTimeoutVal
                let pAdmittedBA := deActivateBaEntry { pTS.txAdmittedBaRecord with
                  dialogToken, baTimeoutValue, baParamSet
                  baStartSeqCtrl := pTS.txPendingBaRecord.baStartSeqCtrl }
                pure (.admitted { pTS with
                  txAdmittedBaRecord := activateBaEntry pAdmittedBA baTimeoutValue })
            else
              reject (some { pTS with bAddBaReqDelayed := true, bDisableAddBa := true })
                delbaReasonEndBa

inductive DelbaResult where
  | invalidLen
  | notSupported
  | noTs
  /-- The receive record of `(dst, tid)`. -/
  | rxDeleted (dst : Addr) (tid : BitVec 4) (pBa : BaRecord)
  /-- The transmit stream of `(dst, tid)`. -/
  | txDeleted (dst : Addr) (tid : BitVec 4) (pTxTs : TxTsRecord)
  deriving DecidableEq

/-- `rtllib_rx_DELBA`. It never reads through `pReasonCode`. -/
def rtllibRxDelba (ieee : Device) (getRxTs : Addr → BitVec 4 → Option BaRecord)
    (getTxTs : Addr → BitVec 4 → Option TxTsRecord) (mem : Nat → Byte) (len : Nat) :
    Reads Nat DelbaResult :=
  if len < sizeofHdr3addr + 6 then pure .invalidLen
  else if ieee.qosActive = false ∨ ieee.bCurrentHtSupport = false then pure .notSupported
  else do
    let dst ← readAddr2 mem
    -- `delba += sizeof(..)` and `delba + 2`, in units of the header.
    let pDelBaParamSet := (sizeofHdr3addr + 2) * sizeofHdr3addr
    let delbaParamSet ← read16 mem pDelBaParamSet
    let tid := DelbaParamSet.tid delbaParamSet
    if DelbaParamSet.initiator delbaParamSet = 1 then
      match getRxTs dst tid with
      | none => pure .noTs
      | some pBa => pure (.rxDeleted dst tid (rxTsDeleteBa pBa))
    else
      match getTxTs dst tid with
      | none => pure .noTs
      | some pTxTs =>
        pure (.txDeleted dst tid (txTsDeleteBa { pTxTs with
          bUsingBa := false
          bAddBaReqInProgress := false
          bAddBaReqDelayed := false
          tsAddBaTimer := false }))

end Rtl8190.BlockAck
