import OwlsRan.Sched.LogicalChannelScope

namespace OwlsRan.Sched
open OwlsRan.Lib OwlsRan.Adt OwlsRan.Ran

inductive CePayload where
  | taCmd (tagId taCmd : Nat)
  | dummy (payload : Nat)
deriving DecidableEq

structure MacCeInfo where
  ceLcid : LcidDlSch
  cePayload : CePayload
deriving DecidableEq

structure MacCeContext where
  info : MacCeInfo
  nextUeCe : Option Nat

/-- `dl_msg_lc_info`: a subPDU to be scheduled. -/
structure DlMsgLcInfo where
  lcid : LcidDlSch
  schedBytes : Nat
  cePayload : CePayload
deriving DecidableEq

inductive BsrFormat where
  | shortBsr
  | longBsr
  | shortTruncBsr
  | longTruncBsr
deriving DecidableEq

structure UlBsrLcgReport where
  lcgId : Nat
  nofBytes : Nat

structure UlBsrIndicationMessage where
  type : BsrFormat
  reportedLcgs : List UlBsrLcgReport

structure UeRow where
  ueIndex : Nat
  slotsPerMsec : Nat
  fallbackState : Bool
  pendingConResId : Bool
  pendingCeBytes : Nat
  pendingCes : Option Nat
  lc : UeLcState

def UeRow.view (u : UeRow) : UeView := ⟨u.ueIndex, u.slotsPerMsec, u.fallbackState⟩

/-- The contexts of a UE that is created, with the number of slots that its numerology has in a millisecond. -/
def UeRow.create (ueIndex scsCommon : Nat) (startsInFallback : Bool) : UeRow where
  ueIndex := ueIndex
  slotsPerMsec := 2 ^ scsCommon
  fallbackState := startsInFallback
  pendingConResId := false
  pendingCeBytes := 0
  pendingCes := none
  lc := .init

structure LogicalChannelSystem where
  configuredUes : BoundedBitset MAX_NOF_DU_UES
  uesWithPendingCes : BoundedBitset MAX_NOF_DU_UES
  uesWithPendingSr : BoundedBitset MAX_NOF_DU_UES
  slices : FlatMap RanSliceContext
  pendingCes : SoaTable MacCeContext
  qosChannels : SoaTable QosContext
  qosLcgs : SoaTable LcgQosContext
  ues : SoaTable UeRow

structure SubpduAlloc where
  allocBytes : Nat
  subpdu : DlMsgLcInfo
deriving DecidableEq

def RLC_SEGMENTATION_OVERHEAD : Nat := 3

def getMacSduWithSubhdrAndRlcHdrEstim (lcid payload : Nat) : Nat :=
  let rlcOvh := if lcid ≠ LCID_SRB0 ∧ payload > 0 then RLC_SEGMENTATION_OVERHEAD else 0
  getMacSduRequiredBytes (payload + rlcOvh)

def getMacSduSize (sduAndSubheaderBytes : Nat) : Nat :=
  if sduAndSubheaderBytes = 0 then 0
  else
    let sduSize := sduAndSubheaderBytes - MIN_MAC_SDU_SUBHEADER_SIZE
    if sduSize < MAC_SDU_SUBHEADER_LENGTH_THRES then sduSize else sduSize - 1

/-- The number of bytes that a MAC SDU of a channel with `pending` bytes gets out of `remBytes`. -/
def macSduAllocBytes (minBytesNeeded pending remBytes : Nat) : Nat :=
  let allocBytes := min remBytes (max pending minBytesNeeded)
  let leftoverBytes := remBytes - allocBytes
  let allocBytes := if leftoverBytes > 0 ∧ leftoverBytes ≤ 5 then allocBytes + leftoverBytes else allocBytes
  if allocBytes = MAC_SDU_SUBHEADER_LENGTH_THRES + MIN_MAC_SDU_SUBHEADER_SIZE then allocBytes - 1 else allocBytes

namespace LcScope

def getMaxPrioLcid (x : LcScope) : Nat :=
  match x.lc.sortedChannels.find? fun lcid =>
    match x.lc.channels.find? lcid with
    | some ch => ch.active && decide (ch.bufSt > 0)
    | none => false with
  | some lcid => lcid
  | none => INVALID_LCID

/-- Buffer status left after `lastSchedBytes` of the channel have been scheduled. -/
def bufStAfterSched (lcid bufSt lastSchedBytes : Nat) : Nat :=
  let newBufSt := bufSt - lastSchedBytes
  if lcid ≠ LCID_SRB0 ∧ newBufSt > 0 then newBufSt + RLC_SEGMENTATION_OVERHEAD else newBufSt

def allocateMacSduOf (ue : UeView) (subpdu : DlMsgLcInfo) (lcid remBytes : Nat) (x : LcScope) :
    Except LcAbort (SubpduAlloc × LcScope) :=
  if h : lcid < MAX_NOF_RB_LCIDS then
    let minBytesNeeded := getMacSduWithSubhdrAndRlcHdrEstim lcid 1
    if remBytes < minBytesNeeded then .ok (⟨0, subpdu⟩, x)
    else
      match x.lc.channels.find? lcid with
      | none => .ok (⟨0, subpdu⟩, x)
      | some ch =>
        let pending := pendingBytesOfChannel ch
        if pending = 0 then .ok (⟨0, subpdu⟩, x)
        else do
          let allocBytes := macSduAllocBytes minBytesNeeded pending remBytes
          let sduSize := getMacSduSize allocBytes
          let lastSchedBytes := min sduSize ch.bufSt
          let newBufSt := bufStAfterSched lcid ch.bufSt lastSchedBytes
          let x := { x with lc.channels := x.lc.channels.modify lcid fun c => { c with bufSt := newBufSt } }
          let x ← onSingleChannelBufStUpdate ue ch.active ch.sliceId newBufSt ch.bufSt x
          let subpdu := { subpdu with
            lcid := ⟨lcid, h.trans MAX_NOF_RB_LCIDS_lt⟩, schedBytes := sduSize }
          match ch.qosRow with
          | none => .ok (⟨allocBytes, subpdu⟩, x)
          | some rid =>
            let _ ← rowAt x.qosChannels rid
            .ok (⟨allocBytes, subpdu⟩,
              { x with qosChannels := x.qosChannels.modify rid fun q => { q with dlLastSchedBytes := lastSchedBytes } })
  else .error .lcidTooLarge

def allocateMacSdu (ue : UeView) (subpdu : DlMsgLcInfo) (remBytes lcid : Nat) (x : LcScope) :
    Except LcAbort (SubpduAlloc × LcScope) :=
  let subpdu := { subpdu with lcid := LcidDlSch.MIN_RESERVED, schedBytes := 0 }
  let lcidWithPrio := if lcid = INVALID_LCID then x.getMaxPrioLcid else lcid
  if lcidWithPrio = INVALID_LCID then .ok (⟨0, subpdu⟩, x)
  else allocateMacSduOf ue subpdu lcidWithPrio remBytes x

def maxShortBsr : Nat := 150000

def handleLcgReport (ue : UeView) (type : BsrFormat) (x : LcScope) (report : UlBsrLcgReport) :
    Except LcAbort LcScope :=
  match x.lc.lcgs.find? report.lcgId with
  | none => .ok x
  | some lcg =>
    if type = .longBsr ∨ type = .longTruncBsr ∨ lcg.bufSt ≤ maxShortBsr ∨ report.nofBytes ≤ maxShortBsr then do
      let bufSt := min report.nofBytes maxBufferStatus
      let x := { x with lc.lcgs := x.lc.lcgs.modify report.lcgId fun c => { c with bufSt := bufSt } }
      let x ← (match lcg.qosRow with
        | none => .ok x
        | some rid => do
          let _ ← rowAt x.qosLcgs rid
          .ok { x with qosLcgs := x.qosLcgs.modify rid fun q => { q with schedBytesAccum := 0 } })
      onSingleLcgBufStUpdate ue lcg.active report.lcgId lcg.sliceId bufSt lcg.bufSt x
    else .ok x

def handleBsrIndication (ue : UeView) (msg : UlBsrIndicationMessage) (x : LcScope) : Except LcAbort LcScope :=
  msg.reportedLcgs.foldlM (handleLcgReport ue msg.type) x

/-- One round of the loop over the LCGs in `handle_ul_grant`, on what is left of the grant. -/
def attributeGrant (s : Nat × SoaTable LcgQosContext) (lcg : UlLogicalChannelGroupContext) :
    Except LcAbort (Nat × SoaTable LcgQosContext) :=
  if s.1 = 0 then .ok s
  else
    match lcg.qosRow with
    | none => .ok s
    | some rid =>
      if lcg.active && decide (lcg.bufSt > 0) then do
        let qos ← rowAt s.2 rid
        if lcg.bufSt > qos.schedBytesAccum then
          let bytesSched := min (lcg.bufSt - qos.schedBytesAccum) s.1
          .ok (s.1 - bytesSched, s.2.modify rid fun q =>
            { q with
              ulLastSchedBytes := q.ulLastSchedBytes + bytesSched
              schedBytesAccum := q.schedBytesAccum + bytesSched })
        else .ok s
      else .ok s

def handleUlGrant (grantSize : Nat) (x : LcScope) : Except LcAbort LcScope := do
  let (_, qosLcgs) ← x.lc.lcgs.entries.foldlM (fun s e => attributeGrant s e.2) (grantSize, x.qosLcgs)
  .ok { x with qosLcgs := qosLcgs }

end LcScope

def ceRequiredBytes (lcid : LcidDlSch) : Nat :=
  if lcid.isVarLenCe then getMacSduRequiredBytes lcid.sizeofCe
  else FIXED_SIZED_MAC_CE_SUBHEADER_SIZE + lcid.sizeofCe

/-- Where a new CE goes: onto a CE that it overwrites, or behind the last CE of the list. -/
inductive CeSlot where
  | overwrite (rid : Nat)
  | append (prev : Option Nat)
deriving DecidableEq

/-- The walk along the CEs of a UE. A list that is longer than the table has rows never ends. -/
def findCeSlot (table : SoaTable MacCeContext) (ceLcid : LcidDlSch) :
    Nat → Option Nat → Option Nat → Except LcAbort CeSlot
  | _, prev, none => .ok (.append prev)
  | 0, _, some _ => .error .endlessList
  | fuel + 1, _, some rid => do
    let ctx ← rowAt table rid
    if ceLcid = LcidDlSch.TA_CMD ∧ ctx.info.ceLcid = LcidDlSch.TA_CMD then .ok (.overwrite rid)
    else findCeSlot table ceLcid fuel (some rid) ctx.nextUeCe

/-- Erases the CEs of a UE. Each round erases a row, so a table with no row left ends the walk. -/
def eraseCes : Nat → SoaTable MacCeContext → Option Nat → Except LcAbort (SoaTable MacCeContext)
  | _, table, none => .ok table
  | 0, _, some _ => .error (.table .invalidRowId)
  | fuel + 1, table, some rid => do
    let ctx ← rowAt table rid
    let (table, _) ← (table.erase rid).mapError .table
    eraseCes fuel table ctx.nextUeCe

namespace LogicalChannelSystem

def init : LogicalChannelSystem where
  configuredUes := .empty
  uesWithPendingCes := .empty
  uesWithPendingSr := .empty
  slices := .empty
  pendingCes := .empty
  qosChannels := .empty
  qosLcgs := .empty
  ues := .empty

def getUe (st : LogicalChannelSystem) (rid : Nat) : Except LcAbort UeRow := rowAt st.ues rid

def modifyUe (st : LogicalChannelSystem) (rid : Nat) (f : UeRow → UeRow) : LogicalChannelSystem :=
  { st with ues := st.ues.modify rid f }

def scope (st : LogicalChannelSystem) (u : UeRow) : LcScope := ⟨u.lc, st.slices, st.qosChannels, st.qosLcgs⟩

/-- The system after the logical channels of the UE `rid` have become those of `x`. -/
def withScope (st : LogicalChannelSystem) (rid : Nat) (x : LcScope) : LogicalChannelSystem :=
  { st with
    slices := x.slices, qosChannels := x.qosChannels, qosLcgs := x.qosLcgs,
    ues := st.ues.modify rid fun u => { u with lc := x.lc } }

def updateLcs (st : LogicalChannelSystem) (rid : Nat) (f : UeView → LcScope → Except LcAbort LcScope) :
    Except LcAbort LogicalChannelSystem := do
  let u ← st.getUe rid
  let x ← f u.view (st.scope u)
  .ok (st.withScope rid x)

def slotIndication (st : LogicalChannelSystem) : Except LcAbort LogicalChannelSystem := do
  let qosChannels ← st.qosChannels.mapRows fun item => do
    let avg ← (item.dlAvgBytesPerSlot.push item.dlLastSchedBytes).mapError LcAbort.averager
    .ok { dlAvgBytesPerSlot := avg, dlLastSchedBytes := 0 }
  .ok { st with qosChannels := qosChannels }

def resizeUes (st : LogicalChannelSystem) (newSize : Nat) : Except LcAbort LogicalChannelSystem := do
  let configuredUes ← (st.configuredUes.resize newSize).mapError .bitset
  let uesWithPendingCes ← (st.uesWithPendingCes.resize newSize).mapError .bitset
  let uesWithPendingSr ← (st.uesWithPendingSr.resize newSize).mapError .bitset
  let slices ← st.slices.mapValuesM fun ctx => do
    let dl ← (ctx.pendingDlUes.resize newSize).mapError LcAbort.bitset
    let ul ← (ctx.pendingUlUes.resize newSize).mapError LcAbort.bitset
    .ok { pendingDlUes := dl, pendingUlUes := ul }
  .ok { st with
    configuredUes := configuredUes, uesWithPendingCes := uesWithPendingCes
    uesWithPendingSr := uesWithPendingSr, slices := slices }

def configure (st : LogicalChannelSystem) (rid : Nat) (cfgs : LogicalChannelConfigList) :
    Except LcAbort LogicalChannelSystem :=
  st.updateLcs rid fun ue x => x.configure ue cfgs

def addUeRow (st : LogicalChannelSystem) (u : UeRow) : LogicalChannelSystem := { st with ues := (st.ues.insert u).1 }

/-- `create_ue`; the handle that it returns holds `ueIndex` and the id of the new row. -/
def createUe (st : LogicalChannelSystem) (ueIndex scsCommon : Nat) (startsInFallback : Bool)
    (logChannelsConfigs : Option LogicalChannelConfigList) : Except LcAbort LogicalChannelSystem :=
  if st.configuredUes.bit ueIndex then .error .duplicateUeIndex
  else do
    let ueRid := st.ues.nextRowId
    let st := st.addUeRow (.create ueIndex scsCommon startsInFallback)
    let st ← (if st.configuredUes.size ≤ ueIndex then st.resizeUes (ueIndex + 1) else .ok st)
    let configuredUes ← (st.configuredUes.set ueIndex true).mapError .bitset
    let st := { st with configuredUes := configuredUes }
    match logChannelsConfigs with
    | none => .ok st
    | some cfgs => st.configure ueRid cfgs

def clearCes (st : LogicalChannelSystem) (rid : Nat) : Except LcAbort LogicalChannelSystem := do
  let u ← st.getUe rid
  let pendingCes ← eraseCes st.pendingCes.size st.pendingCes u.pendingCes
  let uesWithPendingCes ← (st.uesWithPendingCes.reset u.ueIndex).mapError .bitset
  .ok { st with
    pendingCes := pendingCes, uesWithPendingCes := uesWithPendingCes
    ues := st.ues.modify rid fun u => { u with pendingConResId := false, pendingCes := none, pendingCeBytes := 0 } }

def resetSrIndication (st : LogicalChannelSystem) (rid : Nat) : Except LcAbort LogicalChannelSystem := do
  let u ← st.getUe rid
  let bits ← (st.uesWithPendingSr.set u.ueIndex false).mapError .bitset
  .ok { st with uesWithPendingSr := bits }

def handleSrIndication (st : LogicalChannelSystem) (rid : Nat) : Except LcAbort LogicalChannelSystem := do
  let u ← st.getUe rid
  let bits ← (st.uesWithPendingSr.set u.ueIndex true).mapError .bitset
  .ok { st with uesWithPendingSr := bits }

def deactivate (st : LogicalChannelSystem) (rid : Nat) : Except LcAbort LogicalChannelSystem := do
  let st ← st.clearCes rid
  let st ← st.resetSrIndication rid
  st.updateLcs rid fun ue x => x.deactivateBearers ue

def stripUes (st : LogicalChannelSystem) : Except LcAbort LogicalChannelSystem :=
  let newSize := match st.configuredUes.findHighest with
    | none => 0
    | some highest => highest + 1
  if st.configuredUes.size ≠ newSize then st.resizeUes newSize else .ok st

def removeUe (st : LogicalChannelSystem) (rid : Nat) : Except LcAbort LogicalChannelSystem := do
  let u ← st.getUe rid
  if !st.configuredUes.bit u.ueIndex then .error .duplicateUeIndex
  else
    let st ← st.deactivate rid
    let (ues, _) ← (st.ues.erase rid).mapError .table
    let configuredUes ← (st.configuredUes.reset u.ueIndex).mapError .bitset
    { st with ues := ues, configuredUes := configuredUes }.stripUes

def setFallbackState (st : LogicalChannelSystem) (rid : Nat) (enterFallback : Bool) :
    Except LcAbort LogicalChannelSystem := do
  let u ← st.getUe rid
  if u.fallbackState = enterFallback then .ok st
  else
    let st := st.modifyUe rid fun u => { u with fallbackState := enterFallback }
    if enterFallback then
      let st ← st.updateLcs rid fun ue x => x.enterFallback ue
      let bits ← (st.uesWithPendingCes.reset u.ueIndex).mapError .bitset
      .ok { st with uesWithPendingCes := bits }
    else
      let st ← st.updateLcs rid fun ue x => x.exitFallback ue
      if u.pendingCes.isSome then
        let bits ← (st.uesWithPendingCes.set u.ueIndex true).mapError .bitset
        .ok { st with uesWithPendingCes := bits }
      else .ok st

/-- Puts the CE behind `prev`, or at the head of the list of the UE. -/
def appendCe (st : LogicalChannelSystem) (rid : Nat) (ce : MacCeInfo) (prev : Option Nat) : LogicalChannelSystem :=
  let ceRid := st.pendingCes.nextRowId
  let table := (st.pendingCes.insert ⟨ce, none⟩).1
  match prev with
  | some prevRid => { st with pendingCes := table.modify prevRid fun c => { c with nextUeCe := some ceRid } }
  | none => { st with pendingCes := table }.modifyUe rid fun u => { u with pendingCes := some ceRid }

def handleMacCeIndication (st : LogicalChannelSystem) (rid : Nat) (ce : MacCeInfo) :
    Except LcAbort LogicalChannelSystem := do
  let u ← st.getUe rid
  if ce.ceLcid = LcidDlSch.UE_CON_RES_ID then
    .ok (st.modifyUe rid fun u => { u with pendingConResId := true })
  else
    match ← findCeSlot st.pendingCes ce.ceLcid st.pendingCes.size none u.pendingCes with
    | .overwrite ceRid =>
      .ok { st with
        pendingCes := st.pendingCes.modify ceRid fun c => { c with info.cePayload := ce.cePayload } }
    | .append prev =>
      let st := st.appendCe rid ce prev
      let st := st.modifyUe rid fun u => { u with
        pendingCeBytes := wrap32 (u.pendingCeBytes + ceRequiredBytes ce.ceLcid) }
      let bits ← (st.uesWithPendingCes.set u.ueIndex true).mapError .bitset
      .ok { st with uesWithPendingCes := bits }

def allocateUeConResIdMacCe (st : LogicalChannelSystem) (rid : Nat) (subpdu : DlMsgLcInfo) (remBytes : Nat) :
    Except LcAbort (SubpduAlloc × LogicalChannelSystem) := do
  let u ← st.getUe rid
  if !u.pendingConResId then .ok (⟨0, subpdu⟩, st)
  else
    let ceSize := LcidDlSch.UE_CON_RES_ID.sizeofCe
    let allocBytes := ceSize + FIXED_SIZED_MAC_CE_SUBHEADER_SIZE
    if remBytes < allocBytes then
      .ok (⟨0, { subpdu with lcid := LcidDlSch.MIN_RESERVED, schedBytes := 0 }⟩, st)
    else
      .ok (⟨allocBytes, { subpdu with lcid := LcidDlSch.UE_CON_RES_ID, schedBytes := ceSize }⟩,
        st.modifyUe rid fun u => { u with pendingConResId := false })

/-- Takes the first CE `ceRid` of the UE out of the list. -/
def popCe (st : LogicalChannelSystem) (rid ceRid : Nat) (ctx : MacCeContext) : Except LcAbort LogicalChannelSystem := do
  let u ← st.getUe rid
  let (table, _) ← (st.pendingCes.erase ceRid).mapError .table
  let st := { st with pendingCes := table }.modifyUe rid fun u =>
    { u with
      pendingCes := ctx.nextUeCe
      pendingCeBytes := wrap32 (u.pendingCeBytes + (4294967296 - ceRequiredBytes ctx.info.ceLcid)) }
  if ctx.nextUeCe.isNone then
    let bits ← (st.uesWithPendingCes.set u.ueIndex false).mapError .bitset
    .ok { st with uesWithPendingCes := bits }
  else .ok st

def allocateMacCe (st : LogicalChannelSystem) (rid : Nat) (subpdu : DlMsgLcInfo) (remBytes : Nat) :
    Except LcAbort (SubpduAlloc × LogicalChannelSystem) := do
  let subpdu := { subpdu with lcid := LcidDlSch.MIN_RESERVED, schedBytes := 0 }
  let (conRes, st) ← st.allocateUeConResIdMacCe rid subpdu remBytes
  if conRes.allocBytes > 0 then .ok (conRes, st)
  else
    let u ← st.getUe rid
    match u.pendingCes with
    | none => .ok (conRes, st)
    | some ceRid =>
      let ctx ← rowAt st.pendingCes ceRid
      let allocBytes := ceRequiredBytes ctx.info.ceLcid
      if remBytes < allocBytes then .ok (conRes, st)
      else
        let st ← st.popCe rid ceRid ctx
        .ok (⟨allocBytes, ⟨ctx.info.ceLcid, ctx.info.ceLcid.sizeofCe, ctx.info.cePayload⟩⟩, st)

def allocateMacSdu (st : LogicalChannelSystem) (rid : Nat) (subpdu : DlMsgLcInfo) (remBytes lcid : Nat) :
    Except LcAbort (SubpduAlloc × LogicalChannelSystem) := do
  let u ← st.getUe rid
  let (alloc, x) ← (st.scope u).allocateMacSdu u.view subpdu remBytes lcid
  .ok (alloc, st.withScope rid x)

def handleUlGrant (st : LogicalChannelSystem) (rid grantSize : Nat) : Except LcAbort LogicalChannelSystem := do
  let st ← st.resetSrIndication rid
  st.updateLcs rid fun _ x => x.handleUlGrant grantSize

end LogicalChannelSystem

/-- The calls into the system. Those of a UE go through its handle, which holds the row `rid`. -/
inductive LcEvent where
  | slotIndication
  | createUe (ueIndex scsCommon : Nat) (startsInFallback : Bool) (cfgs : Option LogicalChannelConfigList)
  | removeUe (rid : Nat)
  | configure (rid : Nat) (cfgs : LogicalChannelConfigList)
  | deactivate (rid : Nat)
  | setFallbackState (rid : Nat) (enterFallback : Bool)
  | setLcidRanSlice (rid lcid sliceId : Nat)
  | setLcgRanSlice (rid lcgid sliceId : Nat)
  | resetLcidRanSlice (rid lcid : Nat)
  | resetLcgRanSlice (rid lcgid : Nat)
  | handleDlBufferStatusIndication (rid lcid bufferStatus : Nat) (holToa : SlotPoint)
  | handleMacCeIndication (rid : Nat) (ce : MacCeInfo)
  | handleBsrIndication (rid : Nat) (msg : UlBsrIndicationMessage)
  | handleSrIndication (rid : Nat)
  | resetSrIndication (rid : Nat)
  | allocateMacSdu (rid : Nat) (subpdu : DlMsgLcInfo) (remBytes lcid : Nat)
  | allocateMacCe (rid : Nat) (subpdu : DlMsgLcInfo) (remBytes : Nat)
  | allocateUeConResIdMacCe (rid : Nat) (subpdu : DlMsgLcInfo) (remBytes : Nat)
  | handleUlGrant (rid grantSize : Nat)

namespace LogicalChannelSystem

def step (st : LogicalChannelSystem) : LcEvent → Except LcAbort LogicalChannelSystem
  | .slotIndication => st.slotIndication
  | .createUe ueIndex scsCommon startsInFallback cfgs => st.createUe ueIndex scsCommon startsInFallback cfgs
  | .removeUe rid => st.removeUe rid
  | .configure rid cfgs => st.configure rid cfgs
  | .deactivate rid => st.deactivate rid
  | .setFallbackState rid enterFallback => st.setFallbackState rid enterFallback
  | .setLcidRanSlice rid lcid sliceId =>
    st.updateLcs rid fun ue x => x.setLcidRanSlice ue st.configuredUes lcid sliceId
  | .setLcgRanSlice rid lcgid sliceId =>
    st.updateLcs rid fun ue x => x.setLcgRanSlice ue st.configuredUes lcgid sliceId
  | .resetLcidRanSlice rid lcid => st.updateLcs rid fun ue x => x.deregisterLcRanSlice ue lcid
  | .resetLcgRanSlice rid lcgid => st.updateLcs rid fun ue x => x.deregisterLcgRanSlice ue lcgid
  | .handleDlBufferStatusIndication rid lcid bufferStatus holToa =>
    st.updateLcs rid fun ue x => x.handleDlBufferStatusIndication ue lcid bufferStatus holToa
  | .handleMacCeIndication rid ce => st.handleMacCeIndication rid ce
  | .handleBsrIndication rid msg => st.updateLcs rid fun ue x => x.handleBsrIndication ue msg
  | .handleSrIndication rid => st.handleSrIndication rid
  | .resetSrIndication rid => st.resetSrIndication rid
  | .allocateMacSdu rid subpdu remBytes lcid => do
    let (_, st) ← st.allocateMacSdu rid subpdu remBytes lcid
    .ok st
  | .allocateMacCe rid subpdu remBytes => do
    let (_, st) ← st.allocateMacCe rid subpdu remBytes
    .ok st
  | .allocateUeConResIdMacCe rid subpdu remBytes => do
    let (_, st) ← st.allocateUeConResIdMacCe rid subpdu remBytes
    .ok st
  | .handleUlGrant rid grantSize => st.handleUlGrant rid grantSize

def run (es : List LcEvent) : Except LcAbort LogicalChannelSystem := runEvents step init es

end LogicalChannelSystem

end OwlsRan.Sched
