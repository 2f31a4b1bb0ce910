import OwlsRan.Sched.LogicalChannelSystem

/-!
# Transport blocks of the DL

The functions that fill a TB with the CEs and the SDUs of a UE. They see the logical channels through the handle of
the UE, which holds its row `rid`.
-/

namespace OwlsRan.Sched
open OwlsRan.Lib OwlsRan.Adt OwlsRan.Ran

def MAX_LC_PER_TB : Nat := 4

structure DlMsgTbInfo where
  lcChsToSched : List DlMsgLcInfo
  bounded : lcChsToSched.length ≤ MAX_LC_PER_TB

namespace DlMsgTbInfo

def empty : DlMsgTbInfo := ⟨[], Nat.zero_le _⟩

def full (tbInfo : DlMsgTbInfo) : Bool := tbInfo.lcChsToSched.length == MAX_LC_PER_TB

def pushBack (tbInfo : DlMsgTbInfo) (subpdu : DlMsgLcInfo) : Except LcAbort DlMsgTbInfo :=
  if h : tbInfo.lcChsToSched.length < MAX_LC_PER_TB then
    .ok ⟨tbInfo.lcChsToSched ++ [subpdu], List.length_append.le.trans h⟩
  else .error .capacityExceeded

lemma lt_of_not_full {tbInfo : DlMsgTbInfo} (h : ¬tbInfo.full = true) : tbInfo.lcChsToSched.length < MAX_LC_PER_TB := by
  have hle := tbInfo.bounded
  unfold full at h
  rw [beq_iff_eq] at h
  omega

end DlMsgTbInfo

def DlMsgLcInfo.fresh : DlMsgLcInfo := ⟨LcidDlSch.PADDING, 0, .taCmd 0 0⟩

def isSdu (lcid : LcidDlSch) : Bool := lcid.val < MAX_NOF_RB_LCIDS

def UeRow.getSliceId (u : UeRow) (lcid : Nat) : Option Nat := (u.lc.channels.find? lcid).bind fun ch => ch.sliceId

def UeRow.hasPendingBytes (u : UeRow) (lcid : Nat) : Bool :=
  match u.lc.channels.find? lcid with
  | some ch => ch.active && decide (ch.bufSt > 0)
  | none => false

def UeRow.pendingBytes (u : UeRow) (lcid : Nat) : Nat :=
  match u.lc.channels.find? lcid with
  | some ch => pendingBytesOfChannel ch
  | none => 0

def LogicalChannelSystem.hasPendingCes (st : LogicalChannelSystem) (rid : Nat) : Except LcAbort Bool := do
  let u ← st.getUe rid
  let bit ← (st.uesWithPendingCes.test u.ueIndex).mapError .bitset
  .ok (bit || u.pendingConResId)

/-- A TB of which `remTbs` bytes are left, and the logical channels at that moment. -/
structure TbRest where
  remTbs : Nat
  tbInfo : DlMsgTbInfo
  lcs : LogicalChannelSystem

/-- What the functions that fill a TB leave behind, and the number of bytes that they have taken. -/
structure TbAlloc where
  bytes : Nat
  tbInfo : DlMsgTbInfo
  lcs : LogicalChannelSystem

/-- The loop of `allocate_mac_sdus` and `allocate_mac_ces`. Each round but the last adds a subPDU, so the TB is full
before the rounds are used up. -/
def fillTb (wanted : LogicalChannelSystem → Nat → Except LcAbort Bool)
    (allocate : LogicalChannelSystem → Nat → Except LcAbort (SubpduAlloc × LogicalChannelSystem)) :
    Nat → TbRest → Except LcAbort TbRest
  | 0, _ => .error .endlessList
  | rounds + 1, tb => do
    let more ← wanted tb.lcs tb.remTbs
    if !more || tb.tbInfo.full then .ok tb
    else
      let (alloc, lcs) ← allocate tb.lcs tb.remTbs
      if alloc.allocBytes = 0 then .ok { tb with lcs := lcs }
      else
        let tbInfo ← tb.tbInfo.pushBack alloc.subpdu
        fillTb wanted allocate rounds ⟨tb.remTbs - alloc.allocBytes, tbInfo, lcs⟩

/-- Runs the loop on a TB with `totalTbs` bytes. -/
def fillWith (wanted : LogicalChannelSystem → Nat → Except LcAbort Bool)
    (allocate : LogicalChannelSystem → Nat → Except LcAbort (SubpduAlloc × LogicalChannelSystem))
    (tbInfo : DlMsgTbInfo) (lcs : LogicalChannelSystem) (totalTbs : Nat) : Except LcAbort TbAlloc := do
  let tb ← fillTb wanted allocate (MAX_LC_PER_TB + 1) ⟨totalTbs, tbInfo, lcs⟩
  .ok ⟨totalTbs - tb.remTbs, tb.tbInfo, tb.lcs⟩

def minMacSduSpace : Nat := 4

def allocateMacSdus (tbInfo : DlMsgTbInfo) (lcs : LogicalChannelSystem) (rid totalTbs lcid : Nat) :
    Except LcAbort TbAlloc :=
  fillWith (fun _ remTbs => .ok (decide (remTbs > minMacSduSpace)))
    (fun lcs remTbs => lcs.allocateMacSdu rid .fresh remTbs lcid) tbInfo lcs totalTbs

def allocateMacCes (tbInfo : DlMsgTbInfo) (lcs : LogicalChannelSystem) (rid totalTbs : Nat) : Except LcAbort TbAlloc :=
  fillWith (fun lcs _ => lcs.hasPendingCes rid) (fun lcs remTbs => lcs.allocateMacCe rid .fresh remTbs)
    tbInfo lcs totalTbs

def allocateUeConResIdMacCe (tbInfo : DlMsgTbInfo) (lcs : LogicalChannelSystem) (rid totalTbs : Nat) :
    Except LcAbort TbAlloc :=
  if tbInfo.full then .ok ⟨0, tbInfo, lcs⟩
  else do
    let (alloc, lcs) ← lcs.allocateUeConResIdMacCe rid .fresh totalTbs
    if alloc.allocBytes = 0 then .ok ⟨0, tbInfo, lcs⟩
    else
      let tbInfo ← tbInfo.pushBack alloc.subpdu
      .ok ⟨totalTbs - (totalTbs - alloc.allocBytes), tbInfo, lcs⟩

/-- Continues a TB of `tbSizeBytes` bytes with the SDUs of a channel. -/
def TbAlloc.addMacSdus (tb : TbAlloc) (rid tbSizeBytes lcid : Nat) : Except LcAbort TbAlloc := do
  let sdus ← allocateMacSdus tb.tbInfo tb.lcs rid (tbSizeBytes - tb.bytes) lcid
  .ok { sdus with bytes := tb.bytes + sdus.bytes }

def buildDlFallbackTransportBlockInfo (tbInfo : DlMsgTbInfo) (lcs : LogicalChannelSystem) (rid tbSizeBytes : Nat) :
    Except LcAbort TbAlloc := do
  let tb ← allocateUeConResIdMacCe tbInfo lcs rid tbSizeBytes
  let u ← tb.lcs.getUe rid
  -- Since SRB0 PDU cannot be segmented, SRB0 is skipped if the rest of the TB does not fit the entire PDU.
  if u.hasPendingBytes LCID_SRB0 && decide (tbSizeBytes - tb.bytes ≥ u.pendingBytes LCID_SRB0) then
    tb.addMacSdus rid tbSizeBytes LCID_SRB0
  else tb.addMacSdus rid tbSizeBytes LCID_SRB1

def buildDlTransportBlockInfo (tbInfo : DlMsgTbInfo) (lcs : LogicalChannelSystem) (rid tbSizeBytes sliceId : Nat) :
    Except LcAbort TbAlloc := do
  let tb ← allocateMacCes tbInfo lcs rid tbSizeBytes
  let u ← tb.lcs.getUe rid
  u.lc.sortedChannels.foldlM (fun tb lcid => do
    let u ← tb.lcs.getUe rid
    if u.getSliceId lcid = some sliceId then tb.addMacSdus rid tbSizeBytes lcid else .ok tb) tb

end OwlsRan.Sched
