import Mathlib.Data.List.Basic
import OwlsRan.Adt.BoundedBitset
import OwlsRan.Adt.FlatMap
import OwlsRan.Adt.MovingAverager
import OwlsRan.Adt.SoaTable
import OwlsRan.Lib.Outcome
import OwlsRan.Ran.MacPduFormat
import OwlsRan.Ran.SlotPoint

/-!
# The logical channels of a UE

What `logical_channel_system` does to the bearers of one UE. These functions see the channels and LCGs of that UE
and the tables they share with other UEs (`LcScope`), and nothing else.
-/

namespace OwlsRan.Sched

def LCID_SRB0 : Nat := 0

def LCID_SRB1 : Nat := 1

def LCID_SRB3 : Nat := 3

def MAX_NOF_RB_LCIDS : Nat := 33

lemma MAX_NOF_RB_LCIDS_lt : MAX_NOF_RB_LCIDS < 64 := by decide

def INVALID_LCID : Nat := 64

def MAX_NOF_LCGS : Nat := 8

def isSrb (lcid : Nat) : Bool := lcid ≤ LCID_SRB3

/-- The fields of `qos_info` that the scheduler of the logical channels reads. -/
structure QosInfo where
  priority : Fin 128
  arpPriority : Fin 16
  /-- Whether `gbr_qos_info` has a value. -/
  isGbr : Bool
  averageWindowMs : Option Nat
deriving DecidableEq

structure LogicalChannelConfig where
  lcid : Nat
  lcGroup : Nat
  qos : Option QosInfo
deriving DecidableEq

/-- `logical_channel_config_list`: the channels sorted by LCID. Nothing in it keeps an LCID from being listed
twice; a lookup then finds the last one. -/
structure LogicalChannelConfigList where
  lcList : List LogicalChannelConfig
  sorted : lcList.Pairwise fun a b => a.lcid ≤ b.lcid

namespace LogicalChannelConfigList

def lookup? (cfgs : LogicalChannelConfigList) (lcid : Nat) : Option LogicalChannelConfig :=
  cfgs.lcList.reverse.find? fun c => c.lcid = lcid

def contains (cfgs : LogicalChannelConfigList) (lcid : Nat) : Bool := (cfgs.lookup? lcid).isSome

end LogicalChannelConfigList

def getLcPrio (cfg : LogicalChannelConfig) : Nat :=
  if isSrb cfg.lcid then (if cfg.lcid ≤ LCID_SRB1 then 0 else 1)
  else match cfg.qos with
    | some qos => qos.priority * qos.arpPriority
    | none => 127 * 15

def qosIsTracked (cfg : LogicalChannelConfig) : Bool :=
  !isSrb cfg.lcid && (match cfg.qos with | some qos => qos.isGbr | none => false)

namespace LogicalChannelConfigList

variable {cfgs : LogicalChannelConfigList} {lcid : Nat}

lemma lookup?_lcid {c : LogicalChannelConfig} (h : cfgs.lookup? lcid = some c) : c ∈ cfgs.lcList ∧ c.lcid = lcid := by
  unfold lookup? at h
  exact ⟨List.mem_reverse.mp (List.mem_of_find?_eq_some h), by simpa using List.find?_some h⟩

lemma contains_iff : cfgs.contains lcid = true ↔ ∃ c ∈ cfgs.lcList, c.lcid = lcid := by
  unfold contains lookup?
  rw [List.find?_isSome]
  simp

end LogicalChannelConfigList

open OwlsRan.Lib OwlsRan.Adt OwlsRan.Ran

def MAX_NOF_DU_UES : Nat := 1024

def MAX_RAN_SLICES_PER_UE : Nat := 8

/-- The ways in which the code stops: a failed assertion, an exception or a lookup that finds nothing. -/
inductive LcAbort where
  | table (a : TableAbort)
  | bitset (a : BitsetAbort)
  | averager (a : AveragerAbort)
  | duplicateUeIndex
  | keyNotFound
  | capacityExceeded
  | sliceNotTracked
  | invalidDlSlicePendingBytes
  | invalidUlSlicePendingBytes
  | lcidNotConfigured
  | lcgNotConfigured
  | lcidTooLarge
  | lcidsStillInLcg
  | badOptionalAccess
  | endlessList
deriving DecidableEq

structure QosContext where
  dlAvgBytesPerSlot : MovingAverager
  dlLastSchedBytes : Nat

structure LcgQosContext where
  ulLastSchedBytes : Nat
  schedBytesAccum : Nat
  ulAvgBytesPerSlot : MovingAverager

structure DlLogicalChannelContext where
  active : Bool
  bufSt : Nat
  holToa : SlotPoint
  qosRow : Option Nat
  sliceId : Option Nat

structure UlLogicalChannelGroupContext where
  active : Bool
  lcCount : Nat
  bufSt : Nat
  qosRow : Option Nat
  sliceId : Option Nat

structure RanSliceContext where
  pendingDlUes : BoundedBitset MAX_NOF_DU_UES
  pendingUlUes : BoundedBitset MAX_NOF_DU_UES

structure UeLcState where
  channelConfigs : Option LogicalChannelConfigList
  sortedChannels : List Nat
  channels : FlatMap DlLogicalChannelContext
  lcgs : FlatMap UlLogicalChannelGroupContext
  dlPendingBytesPerSlice : FlatMap Nat
  ulPendingBytesPerSlice : FlatMap Nat

structure LcScope where
  lc : UeLcState
  slices : FlatMap RanSliceContext
  qosChannels : SoaTable QosContext
  qosLcgs : SoaTable LcgQosContext

structure UeView where
  ueIndex : Nat
  slotsPerMsec : Nat
  fallbackState : Bool

def QosContext.init : QosContext := ⟨MovingAverager.new, 0⟩

def LcgQosContext.init : LcgQosContext := ⟨0, 0, MovingAverager.new⟩

def DlLogicalChannelContext.init : DlLogicalChannelContext := ⟨false, 0, SlotPoint.invalid, none, none⟩

def UlLogicalChannelGroupContext.init : UlLogicalChannelGroupContext := ⟨false, 0, 0, none, none⟩

def UeLcState.init : UeLcState := ⟨none, [], FlatMap.empty, FlatMap.empty, FlatMap.empty, FlatMap.empty⟩

/-- Values of `unsigned`. -/
def wrap32 (n : Nat) : Nat := n % 4294967296

/-- Values of `uint8_t`. -/
def wrap8 (n : Nat) : Nat := n % 256

/-- `map.at(key)` -/
def atKey {α : Type} (m : FlatMap α) (key : Nat) : Except LcAbort α :=
  match m.find? key with
  | some v => .ok v
  | none => .error .keyNotFound

/-- `emplace` in a map of bounded capacity. -/
def emplaceWithin {α : Type} (capacity : Nat) (m : FlatMap α) (key : Nat) (v : α) : Except LcAbort (FlatMap α) :=
  if m.contains key then .ok m
  else if m.size < capacity then .ok (m.emplace key v)
  else .error .capacityExceeded

/-- `table.erase(row)` for the row that a context holds, if it holds one. -/
def eraseRow {α : Type} (table : SoaTable α) (row : Option Nat) : Except LcAbort (SoaTable α) :=
  match row with
  | none => .ok table
  | some rid => do
    let (table, _) ← (table.erase rid).mapError .table
    .ok table

/-- `table.at(row)` -/
def rowAt {α : Type} (table : SoaTable α) (rid : Nat) : Except LcAbort α :=
  match table.row? rid with
  | some a => .ok a
  | none => .error (.table .invalidRowId)

def setPendingDlUe (slices : FlatMap RanSliceContext) (sliceId ueIndex : Nat) (val : Bool) :
    Except LcAbort (FlatMap RanSliceContext) := do
  let ctx ← atKey slices sliceId
  let bits ← (ctx.pendingDlUes.set ueIndex val).mapError .bitset
  .ok (slices.modify sliceId fun c => { c with pendingDlUes := bits })

def setPendingUlUe (slices : FlatMap RanSliceContext) (sliceId ueIndex : Nat) (val : Bool) :
    Except LcAbort (FlatMap RanSliceContext) := do
  let ctx ← atKey slices sliceId
  let bits ← (ctx.pendingUlUes.set ueIndex val).mapError .bitset
  .ok (slices.modify sliceId fun c => { c with pendingUlUes := bits })

def addUpperLayerHeaderBytes (lcgid payloadBytes : Nat) : Nat :=
  if payloadBytes = 0 ∨ lcgid = 0 then payloadBytes else payloadBytes + 3

def pendingBytesOfChannel (ch : DlLogicalChannelContext) : Nat :=
  if ch.active then getMacSduRequiredBytes ch.bufSt else 0

def maxBufferStatus : Nat := 16777216

namespace LcScope

def onSingleChannelBufStUpdate (ue : UeView) (channelActive : Bool) (sliceId : Option Nat) (newBufSt prevBufSt : Nat)
    (x : LcScope) : Except LcAbort LcScope :=
  match sliceId with
  | none => .ok x
  | some s =>
    if !channelActive then .ok x
    else if ue.fallbackState then .ok x
    else
      match x.lc.dlPendingBytesPerSlice.find? s with
      | none => .error .sliceNotTracked
      | some slicePendingBytes =>
        let prevBufStInclSubhdr := getMacSduRequiredBytes prevBufSt
        let newBufStInclSubhdr := getMacSduRequiredBytes newBufSt
        if wrap32 (slicePendingBytes + newBufStInclSubhdr) < prevBufStInclSubhdr then
          .error .invalidDlSlicePendingBytes
        else
          let updated := wrap32 (slicePendingBytes + wrap32 (newBufStInclSubhdr + (4294967296 - prevBufStInclSubhdr)))
          let x := { x with lc.dlPendingBytesPerSlice := x.lc.dlPendingBytesPerSlice.modify s fun _ => updated }
          if decide (slicePendingBytes > 0) ≠ decide (updated > 0) then do
            -- zero crossing detected
            let slices ← setPendingDlUe x.slices s ue.ueIndex (updated > 0)
            .ok { x with slices := slices }
          else .ok x

def onSingleLcgBufStUpdate (ue : UeView) (channelActive : Bool) (lcgid : Nat) (sliceId : Option Nat)
    (newBufSt prevBufSt : Nat) (x : LcScope) : Except LcAbort LcScope :=
  match sliceId with
  | none => .ok x
  | some s =>
    if !channelActive then .ok x
    else if ue.fallbackState then .ok x
    else
      match x.lc.ulPendingBytesPerSlice.find? s with
      | none => .error .sliceNotTracked
      | some slicePendingBytes =>
        let prevBufStInclSubhdr := getMacSduRequiredBytes (addUpperLayerHeaderBytes lcgid prevBufSt)
        let newBufStInclSubhdr := getMacSduRequiredBytes (addUpperLayerHeaderBytes lcgid newBufSt)
        if wrap32 (slicePendingBytes + newBufStInclSubhdr) < prevBufStInclSubhdr then
          .error .invalidUlSlicePendingBytes
        else
          let updated := wrap32 (slicePendingBytes + wrap32 (newBufStInclSubhdr + (4294967296 - prevBufStInclSubhdr)))
          let x := { x with lc.ulPendingBytesPerSlice := x.lc.ulPendingBytesPerSlice.modify s fun _ => updated }
          if decide (slicePendingBytes > 0) ≠ decide (updated > 0) then do
            let slices ← setPendingUlUe x.slices s ue.ueIndex (updated > 0)
            .ok { x with slices := slices }
          else .ok x

/-- Removes the slice `prev` from the UE if no channel is attached to it any more. -/
def dropDlSlice (prev : Nat) (x : LcScope) : LcScope :=
  if x.lc.channels.entries.any fun e => e.2.sliceId = some prev then x
  else { x with lc.dlPendingBytesPerSlice := x.lc.dlPendingBytesPerSlice.erase prev }

def deregisterLcRanSlice (ue : UeView) (lcid : Nat) (x : LcScope) : Except LcAbort LcScope :=
  match x.lc.channels.find? lcid with
  | none => .ok x
  | some ch => do
    let x ← onSingleChannelBufStUpdate ue ch.active ch.sliceId 0 ch.bufSt x
    match ch.sliceId with
    | none => .ok x
    | some prev =>
      let x := { x with lc.channels := x.lc.channels.modify lcid fun c => { c with sliceId := none } }
      .ok (x.dropDlSlice prev)

/-- The slice of the last LCG that leaves it is erased from the map of the DL, as in the source. -/
def deregisterLcgRanSlice (ue : UeView) (lcgid : Nat) (x : LcScope) : Except LcAbort LcScope :=
  match x.lc.lcgs.find? lcgid with
  | none => .ok x
  | some lcg => do
    let x ← onSingleLcgBufStUpdate ue lcg.active lcgid lcg.sliceId 0 lcg.bufSt x
    match lcg.sliceId with
    | none => .ok x
    | some prev =>
      let x := { x with lc.lcgs := x.lc.lcgs.modify lcgid fun c => { c with sliceId := none } }
      .ok (if x.lc.lcgs.entries.any fun e => e.2.sliceId = some prev then x
        else { x with lc.dlPendingBytesPerSlice := x.lc.dlPendingBytesPerSlice.erase prev })

/-- Creates the slice if it does not exist yet, for `configuredUes` UEs. -/
def createSlice (configuredUes : BoundedBitset MAX_NOF_DU_UES) (sliceId : Nat) (slices : FlatMap RanSliceContext) :
    FlatMap RanSliceContext :=
  if slices.contains sliceId then slices
  else slices.emplace sliceId ⟨configuredUes.zerosLike, configuredUes.zerosLike⟩

def addDlSlice (configuredUes : BoundedBitset MAX_NOF_DU_UES) (sliceId : Nat) (x : LcScope) : Except LcAbort LcScope :=
  if x.lc.dlPendingBytesPerSlice.contains sliceId then .ok x
  else do
    let pending ← emplaceWithin MAX_RAN_SLICES_PER_UE x.lc.dlPendingBytesPerSlice sliceId 0
    .ok { x with slices := createSlice configuredUes sliceId x.slices, lc.dlPendingBytesPerSlice := pending }

def addUlSlice (configuredUes : BoundedBitset MAX_NOF_DU_UES) (sliceId : Nat) (x : LcScope) : Except LcAbort LcScope :=
  if x.lc.ulPendingBytesPerSlice.contains sliceId then .ok x
  else do
    let pending ← emplaceWithin MAX_RAN_SLICES_PER_UE x.lc.ulPendingBytesPerSlice sliceId 0
    .ok { x with slices := createSlice configuredUes sliceId x.slices, lc.ulPendingBytesPerSlice := pending }

def setLcidRanSlice (ue : UeView) (configuredUes : BoundedBitset MAX_NOF_DU_UES) (lcid sliceId : Nat) (x : LcScope) :
    Except LcAbort LcScope :=
  match x.lc.channels.find? lcid with
  | none => .error .lcidNotConfigured
  | some ch =>
    if ch.sliceId = some sliceId then .ok x
    else do
      let x ← deregisterLcRanSlice ue lcid x
      let x ← addDlSlice configuredUes sliceId x
      let x := { x with lc.channels := x.lc.channels.modify lcid fun c => { c with sliceId := some sliceId } }
      onSingleChannelBufStUpdate ue ch.active (some sliceId) ch.bufSt 0 x

def setLcgRanSlice (ue : UeView) (configuredUes : BoundedBitset MAX_NOF_DU_UES) (lcgid sliceId : Nat) (x : LcScope) :
    Except LcAbort LcScope :=
  match x.lc.lcgs.find? lcgid with
  | none => .error .lcgNotConfigured
  | some lcg =>
    if lcg.sliceId = some sliceId then .ok x
    else do
      let x ← deregisterLcgRanSlice ue lcgid x
      let x ← addUlSlice configuredUes sliceId x
      let x := { x with lc.lcgs := x.lc.lcgs.modify lcgid fun c => { c with sliceId := some sliceId } }
      onSingleLcgBufStUpdate ue lcg.active lcgid (some sliceId) lcg.bufSt 0 x

def handleDlBufferStatusIndication (ue : UeView) (lcid bufferStatus : Nat) (holToa : SlotPoint) (x : LcScope) :
    Except LcAbort LcScope :=
  if MAX_NOF_RB_LCIDS ≤ lcid then .error .lcidTooLarge
  else
    match x.lc.channels.find? lcid with
    | none => .ok x
    | some ch =>
      let bufSt := min bufferStatus maxBufferStatus
      let x := { x with lc.channels := x.lc.channels.modify lcid fun c => { c with bufSt := bufSt, holToa := holToa } }
      onSingleChannelBufStUpdate ue ch.active ch.sliceId bufSt ch.bufSt x

/-- Removes the LCG `lcgid`; `ueLcg` is the id of the LCG whose context the caller passes along. -/
def removeLcg (ue : UeView) (lcgid ueLcg : Nat) (x : LcScope) : Except LcAbort LcScope := do
  let lcg ← atKey x.lc.lcgs ueLcg
  if lcg.lcCount ≠ 0 then .error .lcidsStillInLcg
  else
    let qosLcgs ← eraseRow x.qosLcgs lcg.qosRow
    let x ← deregisterLcgRanSlice ue lcgid { x with qosLcgs := qosLcgs }
    .ok { x with lc.lcgs := x.lc.lcgs.erase lcgid }

def removeLc (ue : UeView) (oldLc : LogicalChannelConfig) (x : LcScope) : Except LcAbort LcScope := do
  let ch ← atKey x.lc.channels oldLc.lcid
  let qosChannels ← eraseRow x.qosChannels ch.qosRow
  let x ← deregisterLcRanSlice ue oldLc.lcid { x with qosChannels := qosChannels }
  let x := { x with lc.channels := x.lc.channels.erase oldLc.lcid }
  let lcg ← atKey x.lc.lcgs oldLc.lcGroup
  let count := wrap8 (lcg.lcCount + 255)
  let x := { x with lc.lcgs := x.lc.lcgs.modify oldLc.lcGroup fun c => { c with lcCount := count } }
  if count = 0 then removeLcg ue oldLc.lcGroup oldLc.lcGroup x else .ok x

def removeOldLcs (ue : UeView) (oldCfgs : Option LogicalChannelConfigList) (cfgs : LogicalChannelConfigList)
    (x : LcScope) : Except LcAbort LcScope :=
  match oldCfgs with
  | none => .ok x
  | some old =>
    old.lcList.foldlM (fun x oldLc => if cfgs.contains oldLc.lcid then .ok x else removeLc ue oldLc x) x

/-- Creates the channel, the LCG or both, and keeps `lc_count`. -/
def attachLcg (ue : UeView) (oldCfgs : Option LogicalChannelConfigList) (chCfg : LogicalChannelConfig) (x : LcScope) :
    Except LcAbort LcScope := do
  let newCh := !x.lc.channels.contains chCfg.lcid
  let channels ← emplaceWithin MAX_NOF_RB_LCIDS x.lc.channels chCfg.lcid DlLogicalChannelContext.init
  let x := { x with lc.channels := channels }
  if !x.lc.lcgs.contains chCfg.lcGroup then
    let lcgs ← emplaceWithin MAX_NOF_LCGS x.lc.lcgs chCfg.lcGroup { UlLogicalChannelGroupContext.init with lcCount := 1 }
    .ok { x with lc.lcgs := lcgs }
  else
    let joined := x.lc.lcgs.modify chCfg.lcGroup fun c => { c with lcCount := wrap8 (c.lcCount + 1) }
    if newCh then .ok { x with lc.lcgs := joined }
    else
      match oldCfgs with
      | none => .ok x
      | some old =>
        match old.lookup? chCfg.lcid with
        | none => .error .keyNotFound
        | some oldLc =>
          if oldLc.lcGroup = chCfg.lcGroup then .ok x
          else do
            let x := { x with lc.lcgs := joined }
            let oldLcg ← atKey x.lc.lcgs oldLc.lcGroup
            let count := wrap8 (oldLcg.lcCount + 255)
            let x := { x with lc.lcgs := x.lc.lcgs.modify oldLc.lcGroup fun c => { c with lcCount := count } }
            if count = 0 then removeLcg ue chCfg.lcGroup oldLc.lcGroup x else .ok x

def activate (ue : UeView) (chCfg : LogicalChannelConfig) (x : LcScope) : Except LcAbort LcScope := do
  let lcg ← atKey x.lc.lcgs chCfg.lcGroup
  let ch ← atKey x.lc.channels chCfg.lcid
  let x ← (if !ch.active then onSingleChannelBufStUpdate ue true ch.sliceId ch.bufSt 0 x else .ok x)
  let x := { x with lc.channels := x.lc.channels.modify chCfg.lcid fun c => { c with active := true } }
  let x ← (if !lcg.active then onSingleLcgBufStUpdate ue true chCfg.lcGroup lcg.sliceId lcg.bufSt 0 x else .ok x)
  .ok { x with lc.lcgs := x.lc.lcgs.modify chCfg.lcGroup fun c => { c with active := true } }

def ensureRow {α : Type} (table : SoaTable α) (row : Option Nat) (init : α) : SoaTable α × Nat :=
  match row with
  | some rid => (table, rid)
  | none => table.insert init

def trackQos (ue : UeView) (chCfg : LogicalChannelConfig) (x : LcScope) : Except LcAbort LcScope := do
  let ch ← atKey x.lc.channels chCfg.lcid
  let lcg ← atKey x.lc.lcgs chCfg.lcGroup
  if qosIsTracked chCfg then
    match chCfg.qos.bind fun qos => qos.averageWindowMs with
    | none => .error .badOptionalAccess
    | some winSizeMsec =>
      let window := winSizeMsec * ue.slotsPerMsec
      let (qosChannels, chRow) := ensureRow x.qosChannels ch.qosRow QosContext.init
      let _ ← rowAt qosChannels chRow
      let (qosLcgs, lcgRow) := ensureRow x.qosLcgs lcg.qosRow LcgQosContext.init
      let _ ← rowAt qosLcgs lcgRow
      .ok { x with
        lc.channels := x.lc.channels.modify chCfg.lcid fun c => { c with qosRow := some chRow }
        lc.lcgs := x.lc.lcgs.modify chCfg.lcGroup fun c => { c with qosRow := some lcgRow }
        qosChannels := qosChannels.modify chRow fun q =>
          { q with dlAvgBytesPerSlot := q.dlAvgBytesPerSlot.resize window }
        qosLcgs := qosLcgs.modify lcgRow fun q =>
          { q with ulAvgBytesPerSlot := q.ulAvgBytesPerSlot.resize window } }
  else do
    let qosChannels ← eraseRow x.qosChannels ch.qosRow
    let qosLcgs ← eraseRow x.qosLcgs lcg.qosRow
    .ok { x with
      lc.channels := x.lc.channels.modify chCfg.lcid fun c => { c with qosRow := none }
      lc.lcgs := x.lc.lcgs.modify chCfg.lcGroup fun c => { c with qosRow := none }
      qosChannels := qosChannels
      qosLcgs := qosLcgs }

def applyLc (ue : UeView) (oldCfgs : Option LogicalChannelConfigList) (x : LcScope) (chCfg : LogicalChannelConfig) :
    Except LcAbort LcScope := do
  let x ← attachLcg ue oldCfgs chCfg x
  let x ← activate ue chCfg x
  trackQos ue chCfg x

/-- Inserts an LCID behind those of the same priority. (`std::sort` leaves the order among equal ones open.) -/
def insertByPrio (prio : Nat → Nat) (lcid : Nat) : List Nat → List Nat
  | [] => [lcid]
  | l :: ls => if prio lcid < prio l then lcid :: l :: ls else l :: insertByPrio prio lcid ls

def sortByPrio (cfgs : LogicalChannelConfigList) : List Nat :=
  let prio := fun lcid => match cfgs.lookup? lcid with
    | some cfg => getLcPrio cfg
    | none => 0
  (cfgs.lcList.map LogicalChannelConfig.lcid).foldl (fun sorted lcid => insertByPrio prio lcid sorted) []

def configure (ue : UeView) (cfgs : LogicalChannelConfigList) (x : LcScope) : Except LcAbort LcScope := do
  let oldCfgs := x.lc.channelConfigs
  let x ← removeOldLcs ue oldCfgs cfgs { x with lc.channelConfigs := some cfgs }
  let x ← cfgs.lcList.foldlM (applyLc ue oldCfgs) x
  if MAX_NOF_RB_LCIDS < cfgs.lcList.length then .error .capacityExceeded
  else .ok { x with lc.sortedChannels := sortByPrio cfgs }

def resetPendingUe (setBit : FlatMap RanSliceContext → Nat → Nat → Bool → Except LcAbort (FlatMap RanSliceContext))
    (ueIndex : Nat) (pending : FlatMap Nat) (slices : FlatMap RanSliceContext) :
    Except LcAbort (FlatMap RanSliceContext) :=
  pending.entries.foldlM (fun slices e => if e.2 > 0 then setBit slices e.1 ueIndex false else .ok slices) slices

/-- The part of `deactivate` that concerns the bearers. The contexts keep the ids of the rows it erases. -/
def deactivateBearers (ue : UeView) (x : LcScope) : Except LcAbort LcScope := do
  let qosChannels ← x.lc.channels.entries.foldlM (fun t e => eraseRow t e.2.qosRow) x.qosChannels
  let qosLcgs ← x.lc.lcgs.entries.foldlM (fun t e => eraseRow t e.2.qosRow) x.qosLcgs
  let slices ← resetPendingUe setPendingDlUe ue.ueIndex x.lc.dlPendingBytesPerSlice x.slices
  let slices ← resetPendingUe setPendingUlUe ue.ueIndex x.lc.ulPendingBytesPerSlice slices
  .ok {
    lc := { x.lc with
      channels := x.lc.channels.mapValues fun c => { c with sliceId := none, active := false }
      lcgs := x.lc.lcgs.mapValues fun c => { c with sliceId := none, active := false }
      dlPendingBytesPerSlice := FlatMap.empty
      ulPendingBytesPerSlice := FlatMap.empty
      sortedChannels := [] }
    slices := slices
    qosChannels := qosChannels
    qosLcgs := qosLcgs }

def enterFallback (ue : UeView) (x : LcScope) : Except LcAbort LcScope := do
  let slices ← resetPendingUe setPendingDlUe ue.ueIndex x.lc.dlPendingBytesPerSlice x.slices
  let slices ← resetPendingUe setPendingUlUe ue.ueIndex x.lc.ulPendingBytesPerSlice slices
  .ok { x with
    slices := slices
    lc.dlPendingBytesPerSlice := x.lc.dlPendingBytesPerSlice.mapValues fun _ => 0
    lc.ulPendingBytesPerSlice := x.lc.ulPendingBytesPerSlice.mapValues fun _ => 0 }

def exitFallback (ue : UeView) (x : LcScope) : Except LcAbort LcScope := do
  let x ← x.lc.channels.entries.foldlM
    (fun x e => onSingleChannelBufStUpdate ue e.2.active e.2.sliceId e.2.bufSt 0 x) x
  x.lc.lcgs.entries.foldlM
    (fun x e => onSingleLcgBufStUpdate ue e.2.active e.1 e.2.sliceId e.2.bufSt 0 x) x

end LcScope

end OwlsRan.Sched
