import Rtl8190.BlockAck.Code
import Rtl8190.Lib.Run
import Rtl8190.Reorder.Code

/-!
# One transmit stream and its three timers

`TsAddBaTimer` starts a request, the timer of the pending record gives it up, and the timer of the
admitted record ends an agreement that is not used. A timer's handler runs only while its timer is
pending. Each handler is one step here: no lock makes it so, and `Interleaved` takes them apart.
-/

open Rtl8190.Memory Rtl8190.Run

namespace Rtl8190.BlockAck.Negotiation

/-! ## The stream -/

/-- `TX_TS_RECORD`, with what the transmit path uses of it. -/
structure TxTs extends TxTsRecord where
  txCurSeq : BitVec 16
  /-- `TsCommonInfo.TSpec.f.TSInfo.field.ucTSID` -/
  ucTsid : BitVec 4
  deriving DecidableEq, Repr

/-- `ResetBaEntry`, on a record whose timer is not pending. -/
def resetBaEntry : BaRecord := ⟨false, false, 0, 0, 0, 0⟩

/-- A stream as `GetTs` adds it: `ResetTxTsEntry`, then `MakeTSEntry`. -/
def TxTs.added (ucTsid : BitVec 4) : TxTs where
  txPendingBaRecord := resetBaEntry
  txAdmittedBaRecord := resetBaEntry
  bAddBaReqInProgress := false
  bAddBaReqDelayed := false
  bUsingBa := false
  bDisableAddBa := false
  tsAddBaTimer := false
  txCurSeq := 0
  ucTsid := ucTsid

/-- A frame given to `softmac_mgmt_xmit`. -/
inductive Frame where
  | addbaReq (pBA : BaRecord)
  | delba (baParamSet : BaParamSet) (reasonCode : BitVec 16)
  deriving DecidableEq, Repr

/-- A frame and whether there was an agreement when it was sent. -/
structure Sent where
  frame : Frame
  admitted : Bool
  deriving DecidableEq, Repr

structure State where
  pTxTs : TxTs
  /-- Newest first. -/
  sent : List Sent
  deriving DecidableEq, Repr

def State.added (ucTsid : BitVec 4) : State := ⟨TxTs.added ucTsid, []⟩

/-- `rtllib_send_ADDBAReq` and `rtllib_send_DELBA`, which send nothing without a buffer. -/
def State.send (s : State) (skb : Bool) (frame : Frame) : State :=
  if skb then { s with sent := ⟨frame, s.pTxTs.txAdmittedBaRecord.bValid⟩ :: s.sent } else s

/-! ## The transmit path -/

def tsStartAddBaProcess (pTxTS : TxTs) : TxTs :=
  if pTxTS.bAddBaReqInProgress = false then
    -- `mod_timer` with one delay or the other, as `bAddBaReqDelayed` says.
    { pTxTS with bAddBaReqInProgress := true, tsAddBaTimer := true }
  else pTxTS

/-- What `rtllib_tx_query_agg_cap` reads besides the stream. -/
structure AggCapEnv where
  bCurrentHtSupport : Bool
  bEnableHt : Bool
  isQosDataFrame : Bool
  /-- `is_multicast_ether_addr || is_broadcast_ether_addr` -/
  isMulticast : Bool
  /-- `IOTAction & HT_IOT_ACT_TX_NO_AGGREGATION` -/
  txNoAggregation : Bool
  nmodeSupportBySecCfg : Bool
  bCurrentAmpduEnable : Bool
  /-- `GetTs` finds the stream. -/
  getTs : Bool
  wpaIeLen : Nat
  /-- `pairwise_key_type == KEY_TYPE_NA` -/
  pairwiseKeyTypeNa : Bool
  bdhcp : Bool
  deriving DecidableEq, Repr

/-- `SN_LESS(BaStartSeqCtrl.field.SeqNum, (TxCurSeq+1)%4096)`, of the admitted record. -/
def TxTs.startReached (pTxTs : TxTs) : Bool :=
  Reorder.snLess (pTxTs.txAdmittedBaRecord.baStartSeqCtrl.extractLsb' 4 12).toNat
    ((pTxTs.txCurSeq.toNat + 1) % 4096)

/-- The returns of `rtllib_tx_query_agg_cap` before it looks at the stream. -/
def AggCapEnv.returnsEarly (env : AggCapEnv) : Bool :=
  !env.bCurrentHtSupport || !env.bEnableHt || !env.isQosDataFrame || env.isMulticast ||
    env.txNoAggregation || !env.nmodeSupportBySecCfg || !env.bCurrentAmpduEnable || !env.getTs

/-- `rtllib_tx_query_agg_cap`, the one caller of `TsStartAddBaProcess`: its effect on the stream. -/
def rtllibTxQueryAggCap (env : AggCapEnv) (pTxTs : TxTs) : TxTs :=
  if env.returnsEarly then pTxTs
  else if pTxTs.txAdmittedBaRecord.bValid = false then
    if env.wpaIeLen ≠ 0 ∧ env.pairwiseKeyTypeNa = true then pTxTs
    else if env.bdhcp then pTxTs
    else if pTxTs.bDisableAddBa = false then tsStartAddBaProcess pTxTs
    else pTxTs
  else if pTxTs.bUsingBa = false ∧ pTxTs.startReached = true then { pTxTs with bUsingBa := true }
  else pTxTs

/-- `rtllib_query_seqnum`: its effect on the stream. -/
def rtllibQuerySeqnum (pTS : TxTs) : TxTs :=
  { pTS with txCurSeq := BitVec.ofNat 16 ((pTS.txCurSeq.toNat + 1) % 4096) }

/-! ## The timers -/

def BaParamSet.setAmsduSupport (p : BaParamSet) (v : BitVec 1) : BaParamSet :=
  (p &&& ~~~0x0001#16) ||| v.setWidth 16

def BaParamSet.setTid (p : BaParamSet) (v : BitVec 4) : BaParamSet :=
  (p &&& ~~~0x003c#16) ||| (v.setWidth 16 <<< 2)

def baSetupTimeout : BitVec 16 := 200

def delbaReasonTimeout : BitVec 16 := 39

/-- The pending record as `TsInitAddBA` fills it, with the setup timer running. -/
def initPending (pTS : TxTs) (policy : BitVec 1) : BaRecord :=
  let pBA := deActivateBaEntry pTS.txPendingBaRecord
  let baParamSet := BaParamSet.setAmsduSupport pBA.baParamSet 0
  let baParamSet := BaParamSet.setBaPolicy baParamSet policy
  let baParamSet := BaParamSet.setTid baParamSet pTS.ucTsid
  let baParamSet := BaParamSet.setBufferSize baParamSet 32
  let seqNum := BitVec.ofNat 16 ((pTS.txCurSeq.toNat + 3) % 4096)
  activateBaEntry { pBA with
    dialogToken := pBA.dialogToken + 1
    baParamSet
    baTimeoutValue := 0
    baStartSeqCtrl := (pBA.baStartSeqCtrl &&& 0x000f#16) ||| (seqNum <<< 4) } baSetupTimeout

def tsInitAddBa (skb : Bool) (policy : BitVec 1) (bOverwritePending : Bool) (s : State) : State :=
  if s.pTxTs.txPendingBaRecord.bValid = true ∧ bOverwritePending = false then s
  else
    let pBA := initPending s.pTxTs policy
    State.send { s with pTxTs := { s.pTxTs with txPendingBaRecord := pBA } } skb (.addbaReq pBA)

def tsAddBaProcess (skb : Bool) (s : State) : State :=
  tsInitAddBa skb baPolicyImmediate false
    { s with pTxTs := { s.pTxTs with tsAddBaTimer := false } }

def baSetupTimeOut (s : State) : State :=
  { s with pTxTs := { s.pTxTs with
      bAddBaReqInProgress := false
      bAddBaReqDelayed := true
      txPendingBaRecord := { s.pTxTs.txPendingBaRecord with bValid := false, timer := false } } }

def txBaInactTimeout (skb : Bool) (s : State) : State :=
  let pTxTs := txTsDeleteBa { s.pTxTs.toTxTsRecord with
    txAdmittedBaRecord := { s.pTxTs.txAdmittedBaRecord with timer := false } }
  State.send { s with pTxTs := { s.pTxTs with toTxTsRecord := pTxTs } } skb
    (.delba pTxTs.txAdmittedBaRecord.baParamSet delbaReasonTimeout)

/-! ## The peer's frames -/

/-- A received action frame, with what its handler reads of the device. -/
structure Action where
  ieee : Device
  /-- Whether `GetTs` finds this stream under an address and a TID. -/
  finds : Addr → BitVec 4 → Bool
  mem : Nat → Byte
  len : Nat

/-- `GetTs(.., TX_DIR, false)`, as far as this stream goes. -/
def Action.getTs (a : Action) (pTxTs : TxTs) (dst : Addr) (tid : BitVec 4) : Option TxTsRecord :=
  if a.finds dst tid then some pTxTs.toTxTsRecord else none

def State.put (s : State) (pTS : TxTsRecord) : State :=
  { s with pTxTs := { s.pTxTs with toTxTsRecord := pTS } }

def rxAddbaRsp (a : Action) (skb : Bool) (s : State) : State :=
  match (rtllibRxAddbaRsp a.ieee (a.getTs s.pTxTs) a.mem a.len).val with
  | .invalidLen => s
  | .rejected none baParamSet reasonCode => s.send skb (.delba baParamSet reasonCode)
  | .rejected (some pTS) baParamSet reasonCode =>
    State.send (s.put pTS) skb (.delba baParamSet reasonCode)
  | .dropped pTS => s.put pTS
  | .admitted pTS => s.put pTS

def rxDelba (a : Action) (s : State) : State :=
  match (rtllibRxDelba a.ieee (fun _ _ => none) (a.getTs s.pTxTs) a.mem a.len).val with
  | .txDeleted _ _ pTxTs => s.put pTxTs
  | _ => s

/-! ## Runs -/

inductive Event where
  /-- The transmit path asks what the stream may do with a frame. -/
  | txQueryAggCap (env : AggCapEnv)
  | querySeqnum
  | tsAddBaProcess (skb : Bool)
  | baSetupTimeOut
  | txBaInactTimeout (skb : Bool)
  | rxAddbaRsp (a : Action) (skb : Bool)
  | rxDelba (a : Action)

def step (s : State) : Event → State
  | .txQueryAggCap env => { s with pTxTs := rtllibTxQueryAggCap env s.pTxTs }
  | .querySeqnum => { s with pTxTs := rtllibQuerySeqnum s.pTxTs }
  | .tsAddBaProcess skb => if s.pTxTs.tsAddBaTimer then tsAddBaProcess skb s else s
  | .baSetupTimeOut => if s.pTxTs.txPendingBaRecord.timer then baSetupTimeOut s else s
  | .txBaInactTimeout skb =>
    if s.pTxTs.txAdmittedBaRecord.timer then txBaInactTimeout skb s else s
  | .rxAddbaRsp a skb => rxAddbaRsp a skb s
  | .rxDelba a => rxDelba a s

end Rtl8190.BlockAck.Negotiation
