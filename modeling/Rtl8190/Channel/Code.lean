import Rtl8190.Beacon.Dot11d
import Rtl8190.Rf.Paging

/-!
# Switching the channel

`rtl8192_phy_SwChnl` and the interpreter of its command tables (`r819xE_phy.c`), with the legal
channels of `dot11d.c`. The registers of the RF chip are the map that its pages refine. What other
parts of the driver do to `priv->up` during a switch comes as a list, one entry for each look at it.
-/

open Function
open Rtl8190.Beacon (maxChannelNumber)
open Rtl8190.Memory (Byte)
open Rtl8190.Phy (Path paths)
open Rtl8190.Power (RfType)
open Rtl8190.Rf (Registers rtl8192PhyCheckIsLegalRFPath bMask12Bits)

namespace Rtl8190.Channel

inductive WirelessMode where
  | unknown
  | a
  | b
  | g
  | auto
  | n24G
  | n5G
  deriving DecidableEq, Repr

/-- `RT_RF_TYPE_819xU` -/
inductive RfChip where
  | rf8225
  | rf8256
  | rf8258
  | rf6052
  | rfPseudo11N
  deriving DecidableEq, Repr

inductive SwChnlCmdID where
  | end
  | setTxPowerLevel
  | bbRegWrite10
  | writePortUlong
  | writePortUshort
  | writePortUchar
  | rfWriteReg
  deriving DecidableEq, Repr

structure SwChnlCmd where
  cmdID : SwChnlCmdID
  para1 : BitVec 32
  para2 : BitVec 32
  msDelay : Nat
  deriving DecidableEq, Repr

structure RfWrite where
  eRFPath : Path
  regAddr : BitVec 32
  data : BitVec 32
  deriving DecidableEq, Repr

structure State where
  up : Bool
  mode : WirelessMode
  rfChip : RfChip
  rfType : RfType
  icCut : Nat
  channelMap : Nat → Byte
  swChnlInProgress : Bool
  swChnlStage : Nat
  swChnlStep : Nat
  /-- A `short` -/
  chan : BitVec 16
  rf : Registers
  /-- The writes to the RF chip, oldest first; the driver does not keep them. -/
  rfWrites : List RfWrite
  /-- The calls of `rtl8192_SetTxPowerLevel` -/
  powerCalls : List Byte
  /-- The writes of the commands for a port, by their width -/
  portWrites : List SwChnlCmd

def version8190BD : Nat := 3

def rZebra1Channel : BitVec 32 := 0x7

def rfChannelTableZebra : List (BitVec 32) :=
  [0, 0x085c, 0x08dc, 0x095c, 0x09dc, 0x0a5c, 0x0adc, 0x0b5c, 0x0bdc, 0x0c5c, 0x0cdc, 0x0d5c, 0x0ddc,
    0x0e5c, 0x0f72]

/-! ## Legal channels -/

/-- `ChannelPlan`, by the country codes 0 .. 12 -/
def channelPlan : List (List Nat) :=
  let to11 := [1, 2, 3, 4, 5, 6, 7, 8, 9, 10, 11]
  let low := [36, 40, 44, 48, 52, 56, 60, 64]
  [to11 ++ low ++ [149, 153, 157, 161, 165], to11, to11 ++ [12, 13] ++ low, to11 ++ [12, 13],
    to11 ++ [12, 13], to11 ++ [12, 13, 14] ++ low, to11 ++ [12, 13, 14] ++ low, to11 ++ [12, 13],
    to11 ++ [12, 13, 14] ++ low, to11 ++ [12, 13, 14] ++ low, to11 ++ [12, 13, 14], to11 ++ [12, 13],
    to11 ++ [12, 13] ++ low]

def dot11dChannelmap (plan : Nat) (channelMap : Nat → Byte) : Nat → Byte :=
  let channels := channelPlan.getD plan []
  let listed := channels.takeWhile fun c => 1 ≤ c ∧ c ≤ 14
  let channelMap := if channels ≠ [] then fun c => if c ∈ listed then 1 else 0 else channelMap
  if plan = 10 then fun c => if 12 ≤ c ∧ c ≤ 14 then 2 else channelMap c
  else if plan = 11 then fun c => if 12 ≤ c ∧ c ≤ 13 then 2 else channelMap c
  else channelMap

def dot11dReset : Nat → Byte := fun c =>
  if 1 ≤ c ∧ c ≤ 11 then 1 else if 12 ≤ c ∧ c ≤ 14 then 2 else 0

def isLegalChannel (channelMap : Nat → Byte) (channel : Byte) : Bool :=
  if maxChannelNumber < channel.toNat then false else channelMap channel.toNat > 0

/-! ## The tables -/

/-- A table on the stack; an entry that is not set has no content of its own. -/
abbrev CmdTable := Nat → Option SwChnlCmd

/-- `MAX_PRECMD_CNT`, `MAX_RFDEPENDCMD_CNT` and `MAX_POSTCMD_CNT` -/
def maxCmdCnt : Nat := 16

/-- `rtl8192_phy_SetSwChnlCmdArray` -/
def setSwChnlCmdArray (cmdTable : CmdTable) (cmdTableIdx cmdTableSz : Nat) (cmd : SwChnlCmd) : CmdTable :=
  if cmdTableIdx ≥ cmdTableSz then cmdTable else update cmdTable cmdTableIdx (some cmd)

def fill (cmds : List SwChnlCmd) : CmdTable :=
  (cmds.zipIdx.foldl fun t c => setSwChnlCmdArray t c.2 maxCmdCnt c.1) fun _ => none

def cmdEnd : SwChnlCmd := ⟨.end, 0, 0, 0⟩

def preCommonCmd : CmdTable := fill [⟨.setTxPowerLevel, 0, 0, 0⟩, cmdEnd]

def postCommonCmd : CmdTable := fill [cmdEnd]

def rfDependCmd (rfChip : RfChip) (channel : Byte) : Option CmdTable :=
  match rfChip with
  | .rf8225 =>
    if 1 ≤ channel.toNat ∧ channel.toNat ≤ 14 then
      some (fill [⟨.rfWriteReg, rZebra1Channel, rfChannelTableZebra.getD channel.toNat 0, 10⟩, cmdEnd])
    else none
  | .rf8256 =>
    if 1 ≤ channel.toNat ∧ channel.toNat ≤ 14 then
      some (fill [⟨.rfWriteReg, rZebra1Channel, channel.setWidth 32, 10⟩, cmdEnd])
    else none
  | .rf8258 => some (fill [])
  | .rf6052 | .rfPseudo11N => none

/-! ## The interpreter -/

def cmdAt (rfTable : CmdTable) (stage step : Nat) : Option SwChnlCmd :=
  match stage with
  | 0 => preCommonCmd step
  | 1 => rfTable step
  | 2 => postCommonCmd step
  | _ => none

inductive Found where
  /-- The end of the last table -/
  | finished (step : Nat)
  | cmd (stage step : Nat) (cmd : SwChnlCmd)
  /-- An index outside the commands that are set -/
  | outside
  deriving DecidableEq

/-- The turns of the loop that look for a command: each table can end once. -/
def findCmd (rfTable : CmdTable) : Nat → Nat → Nat → Found
  | 0, _, _ => .outside
  | turns + 1, stage, step =>
    match cmdAt rfTable stage step with
    | none => .outside
    | some cmd =>
      if cmd.cmdID = .end then
        if stage = 2 then .finished step else findCmd rfTable turns (stage + 1) 0
      else .cmd stage step cmd

def setRFReg (s : State) (eRFPath : Path) (regAddr data : BitVec 32) : State :=
  if rtl8192PhyCheckIsLegalRFPath s.rfType eRFPath then
    { s with
      rf := (Rf.flatStep (s.rf, []) (.setRFReg eRFPath regAddr bMask12Bits data)).1
      rfWrites := s.rfWrites ++ [⟨eRFPath, regAddr, data⟩] }
  else s

def execute (s : State) (channel : Byte) (cmd : SwChnlCmd) : State :=
  match cmd.cmdID with
  | .setTxPowerLevel =>
    if s.icCut > version8190BD then { s with powerCalls := s.powerCalls ++ [channel] } else s
  | .writePortUlong | .writePortUshort | .writePortUchar =>
    { s with portWrites := s.portWrites ++ [cmd] }
  | .rfWriteReg => paths.foldl (fun s p => setRFReg s p cmd.para1 (cmd.para2 <<< 7)) s
  | .end | .bbRegWrite10 => s

/-- What `rtl8192_phy_SwChnlStepByStep` returns, with `*delay` -/
inductive StepResult where
  | finished
  | again (delay : Option Nat)
  | outside
  deriving DecidableEq

/-- `rtl8192_phy_SwChnlStepByStep` -/
def swChnlStepByStep (s : State) (channel : Byte) : State × StepResult :=
  if isLegalChannel s.channelMap channel = false then (s, .finished)
  else
    match rfDependCmd s.rfChip channel with
    | none => (s, .again none)
    | some rfTable =>
      match findCmd rfTable 3 s.swChnlStage s.swChnlStep with
      | .finished step => ({ s with swChnlStage := 2, swChnlStep := step }, .finished)
      | .outside => (s, .outside)
      | .cmd stage step cmd =>
        ({ execute s channel cmd with swChnlStage := stage, swChnlStep := step + 1 },
          .again (some cmd.msDelay))

/-- How far a loop has come -/
inductive Progress (α : Type) where
  | returned (a : α)
  | running (s : State)
  | outside

/-- `rtl8192_phy_FinishSwChnlNow`, with what `priv->up` is after each turn -/
def finishSwChnlNow (channel : Byte) : List Bool → State → Progress State
  | [], s => .running s
  | up :: ups, s =>
    match swChnlStepByStep s channel with
    | (s, .finished) => .returned s
    | (_, .outside) => .outside
    | (s, .again _) => if up then finishSwChnlNow channel ups s else .returned { s with up := false }

def modeRefuses (mode : WirelessMode) (channel : Byte) : Bool :=
  match mode with
  | .a | .n5G => channel.toNat ≤ 14
  | .b | .g | .n24G => channel.toNat > 14
  | .unknown | .auto => false

/-- `rtl8192_phy_SwChnl`, with what `priv->up` is before the work item and after each turn -/
def rtl8192PhySwChnl (s : State) (channel : Byte) (ups : List Bool) : Progress (State × Bool) :=
  if s.up = false then .returned (s, false)
  else if s.swChnlInProgress then .returned (s, false)
  else if modeRefuses s.mode channel then .returned (s, false)
  else
    let channel := if channel = 0 then 1 else channel
    let s := { s with
      swChnlInProgress := true, chan := channel.setWidth 16, swChnlStage := 0, swChnlStep := 0 }
    match ups with
    | [] => .running s
    | false :: _ => .returned ({ s with up := false, swChnlInProgress := false }, true)
    | true :: ups =>
      match finishSwChnlNow channel ups s with
      | .returned s => .returned ({ s with swChnlInProgress := false }, true)
      | .running s => .running s
      | .outside => .outside

end Rtl8190.Channel
