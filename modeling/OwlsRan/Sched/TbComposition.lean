import OwlsRan.Lib.MarkedLog
import OwlsRan.Sched.CeBookkeeping
import OwlsRan.Sched.DlConsistency
import OwlsRan.Sched.DlTransportBlock
import OwlsRan.Sched.QosRowOwnership

/-!
# The composition of transport blocks

A TB is filled one subPDU at a time, each with a size that a MAC PDU can encode, out of the bytes that are left.
-/

namespace OwlsRan.Sched
open OwlsRan.Lib OwlsRan.Adt OwlsRan.Ran

section Sizes

variable {lcid remBytes : Nat}

lemma minSduBytes_eq (lcid : Nat) :
    getMacSduWithSubhdrAndRlcHdrEstim lcid 1 = if lcid = LCID_SRB0 then 3 else 6 := by
  unfold getMacSduWithSubhdrAndRlcHdrEstim
  by_cases h : lcid = LCID_SRB0
  · rw [if_neg fun hne => hne.1 h, if_pos h]
    rfl
  · rw [if_pos ⟨h, Nat.one_pos⟩, if_neg h]
    rfl

lemma macSduAllocBytes_spec (pending : Nat) {minBytes : Nat} (hmin : minBytes ≤ 6) (hrem : minBytes ≤ remBytes) :
    minBytes ≤ macSduAllocBytes minBytes pending remBytes ∧ macSduAllocBytes minBytes pending remBytes ≤ remBytes ∧
      macSduAllocBytes minBytes pending remBytes ≠ 258 := by
  unfold macSduAllocBytes MAC_SDU_SUBHEADER_LENGTH_THRES MIN_MAC_SDU_SUBHEADER_SIZE
  dsimp only
  split <;> split <;> omega

lemma getMacSduRequiredBytes_ne (payload : Nat) : getMacSduRequiredBytes payload ≠ 258 := by
  unfold getMacSduRequiredBytes getMacSduSubheaderSize MAC_SDU_SUBHEADER_LENGTH_THRES MAX_MAC_SDU_SUBHEADER_SIZE
    MIN_MAC_SDU_SUBHEADER_SIZE
  split
  · omega
  · split <;> omega

lemma getMacSduRequiredBytes_getMacSduSize {allocBytes : Nat} (hpos : 2 < allocBytes) (hne : allocBytes ≠ 258) :
    getMacSduRequiredBytes (getMacSduSize allocBytes) = allocBytes := by
  unfold getMacSduRequiredBytes getMacSduSubheaderSize getMacSduSize MAC_SDU_SUBHEADER_LENGTH_THRES
    MAX_MAC_SDU_SUBHEADER_SIZE MIN_MAC_SDU_SUBHEADER_SIZE
  rw [if_neg (by omega)]
  dsimp only
  by_cases hsmall : allocBytes - 2 < 256
  · rw [if_pos hsmall, if_neg (by omega), if_neg (by omega)]
    omega
  · rw [if_neg hsmall, if_neg (by omega), if_pos (by omega)]
    omega

lemma four_le_getMacSduSize {allocBytes : Nat} (h : 6 ≤ allocBytes) : 4 ≤ getMacSduSize allocBytes := by
  unfold getMacSduSize MAC_SDU_SUBHEADER_LENGTH_THRES MIN_MAC_SDU_SUBHEADER_SIZE
  rw [if_neg (by omega)]
  dsimp only
  split <;> omega

lemma bufStAfterSched_lt {bufSt sduSize : Nat} (hbuf : 0 < bufSt) (hsize : 0 < sduSize)
    (hdrb : lcid ≠ LCID_SRB0 → 4 ≤ sduSize) :
    LcScope.bufStAfterSched lcid bufSt (min sduSize bufSt) < bufSt := by
  unfold LcScope.bufStAfterSched RLC_SEGMENTATION_OVERHEAD
  dsimp only
  by_cases hcond : lcid ≠ LCID_SRB0 ∧ bufSt - min sduSize bufSt > 0
  · have := hdrb hcond.1
    rw [if_pos hcond]
    omega
  · rw [if_neg hcond]
    omega

end Sizes

section Channels

variable {ue : UeView} {x : LcScope} {lcid remBytes : Nat}

structure DlTracked (ue : UeView) (x : LcScope) : Prop where
  attached : ∀ lcid ch s, x.lc.channels.find? lcid = some ch → ch.sliceId = some s →
    x.lc.dlPendingBytesPerSlice.contains s = true
  pending : PendingMatches ue.ueIndex x.lc.dlPendingBytesPerSlice x.slices (dlTotal ue x.lc.channels)
  bufSt : ∀ lcid ch, x.lc.channels.find? lcid = some ch → ch.bufSt ≤ maxBufferStatus
  few : x.lc.channels.size ≤ MAX_NOF_RB_LCIDS
  qosRow : ∀ lcid ch r, x.lc.channels.find? lcid = some ch → ch.qosRow = some r → ∃ q, x.qosChannels.row? r = some q

lemma setPendingDlUe_ok {slices : FlatMap RanSliceContext} {s idx : Nat} (hbit : dlBit slices s idx = true)
    (val : Bool) : ∃ slices', setPendingDlUe slices s idx val = .ok slices' := by
  unfold dlBit at hbit
  cases hctx : slices.find? s with
  | none =>
    rw [hctx] at hbit
    cases hbit
  | some ctx =>
    rw [hctx] at hbit
    have hlt : idx < ctx.pendingDlUes.size := by
      by_contra hge
      have hoff := BoundedBitset.bit_of_size_le (Nat.le_of_not_lt hge)
      rw [show ctx.pendingDlUes.bit idx = true from hbit] at hoff
      cases hoff
    obtain ⟨bits, hbits⟩ := BoundedBitset.set_of_lt hlt val
    unfold setPendingDlUe atKey
    rw [hctx]
    exact ⟨_, bind_eq_ok.mpr ⟨ctx, rfl, bind_eq_ok.mpr ⟨bits, mapError_eq_ok.mpr hbits, rfl⟩⟩⟩

lemma onSingleChannelBufStUpdate_ok {active : Bool} {sliceId : Option Nat} {newBufSt prevBufSt : Nat}
    {total : Nat → Nat} (h : PendingMatches ue.ueIndex x.lc.dlPendingBytesPerSlice x.slices total)
    (hslice : ∀ s, sliceId = some s → x.lc.dlPendingBytesPerSlice.contains s = true)
    (hprev : ∀ s, countedBytes ue active sliceId prevBufSt s ≤ total s) (hpos : 0 < prevBufSt)
    (hbound : ∀ s, total s + countedBytes ue active sliceId newBufSt s < 4294967296) :
    ∃ x', x.onSingleChannelBufStUpdate ue active sliceId newBufSt prevBufSt = .ok x' := by
  unfold LcScope.onSingleChannelBufStUpdate
  cases sliceId with
  | none => exact ⟨x, rfl⟩
  | some s =>
    by_cases hactive : (!active) = true
    · exact ⟨x, if_pos hactive⟩
    by_cases hfallback : ue.fallbackState = true
    · exact ⟨x, (if_neg hactive).trans (if_pos hfallback)⟩
    obtain ⟨v, hv⟩ := FlatMap.contains_iff.mp (hslice s rfl)
    have hcounted : ∀ b, countedBytes ue active (some s) b s = getMacSduRequiredBytes b := by
      intro b
      unfold countedBytes
      rw [if_pos ⟨by simpa using hactive, rfl, by simpa using hfallback⟩]
    have hvs := h.value s v hv
    have hle := hprev s
    have hb := hbound s
    rw [hcounted] at hle hb
    have hrequired := le_getMacSduRequiredBytes prevBufSt
    have hsafe : ¬wrap32 (v + getMacSduRequiredBytes newBufSt) < getMacSduRequiredBytes prevBufSt := by
      unfold wrap32
      omega
    have hbit : dlBit x.slices s ue.ueIndex = true := by
      rw [h.bit s, hv]
      exact decide_eq_true (show 0 < v by omega)
    dsimp only
    rw [if_neg hactive, if_neg hfallback, hv]
    dsimp only
    rw [if_neg hsafe]
    split
    case isFalse => exact ⟨_, rfl⟩
    case isTrue =>
      obtain ⟨slices, hslices⟩ := setPendingDlUe_ok hbit
        (decide (wrap32 (v + wrap32 (getMacSduRequiredBytes newBufSt +
          (4294967296 - getMacSduRequiredBytes prevBufSt))) > 0))
      exact ⟨_, bind_eq_ok.mpr ⟨slices, hslices, rfl⟩⟩

/-- The buffer status of the channel `lcid` becomes `bufSt`. -/
def LcScope.withBufSt (x : LcScope) (lcid bufSt : Nat) : LcScope :=
  { x with lc.channels := x.lc.channels.modify lcid fun c => { c with bufSt := bufSt } }

lemma find?_withBufSt {bufSt l : Nat} {c : DlLogicalChannelContext}
    (hc : (x.withBufSt lcid bufSt).lc.channels.find? l = some c) :
    ∃ c', x.lc.channels.find? l = some c' ∧ c.sliceId = c'.sliceId ∧ c.qosRow = c'.qosRow ∧
      (c.bufSt = bufSt ∨ c.bufSt = c'.bufSt) := by
  unfold LcScope.withBufSt at hc
  dsimp only at hc
  rw [FlatMap.find?_modify] at hc
  split at hc
  case isTrue =>
    obtain ⟨c', hc', rfl⟩ := Option.map_eq_some_iff.mp hc
    exact ⟨c', hc', rfl, rfl, Or.inl rfl⟩
  case isFalse => exact ⟨c, hc, rfl, rfl, Or.inr rfl⟩

lemma DlTracked.lowerBufSt (h : DlTracked ue x) {ch : DlLogicalChannelContext}
    (hch : x.lc.channels.find? lcid = some ch) {bufSt : Nat} (hlt : bufSt < ch.bufSt) :
    ∃ pending slices,
      (x.withBufSt lcid bufSt).onSingleChannelBufStUpdate ue ch.active ch.sliceId bufSt ch.bufSt =
        .ok { x.withBufSt lcid bufSt with lc.dlPendingBytesPerSlice := pending, slices := slices } ∧
      DlTracked ue { x.withBufSt lcid bufSt with lc.dlPendingBytesPerSlice := pending, slices := slices } := by
  have hmax := h.bufSt lcid ch hch
  have hbound : ∀ s, dlTotal ue x.lc.channels s + countedBytes ue ch.active ch.sliceId bufSt s < 4294967296 := by
    intro s
    have := dlTotal_le ue h.bufSt h.few s
    have := countedBytes_le ue ch.active ch.sliceId bufSt s
    unfold maxBufferStatus at hmax
    omega
  have hslice : ∀ s, ch.sliceId = some s → x.lc.dlPendingBytesPerSlice.contains s = true :=
    fun s hs => h.attached lcid ch s hch hs
  have hpending : PendingMatches ue.ueIndex (x.withBufSt lcid bufSt).lc.dlPendingBytesPerSlice
      (x.withBufSt lcid bufSt).slices (dlTotal ue x.lc.channels) := h.pending
  obtain ⟨x', hx'⟩ := onSingleChannelBufStUpdate_ok hpending hslice
    (fun s => FlatMap.le_weight (f := fun _ c => countedBytes ue c.active c.sliceId c.bufSt s) hch)
    (Nat.zero_lt_of_lt hlt) hbound
  have hspec := onSingleChannelBufStUpdate_spec (dlTotal ue x.lc.channels)
    (dlTotal ue (x.withBufSt lcid bufSt).lc.channels) hpending hslice (fun s => dlTotal_modify ue hch _ s) hbound
  obtain ⟨pending, slices, rfl, hmatch, hcont, -⟩ := hspec.of_ok hx'
  refine ⟨pending, slices, hx', fun l c s hc hs => ?_, hmatch, fun l c hc => ?_, ?_, fun l c r hc hr => ?_⟩
  · obtain ⟨c', hc', hslice', -⟩ := find?_withBufSt hc
    exact (hcont s).trans (h.attached l c' s hc' (hslice'.symm.trans hs))
  · obtain ⟨c', hc', -, -, hbuf⟩ := find?_withBufSt hc
    rcases hbuf with hbuf | hbuf
    · rw [hbuf]
      exact hlt.le.trans hmax
    · rw [hbuf]
      exact h.bufSt l c' hc'
  · exact (FlatMap.size_modify _).le.trans h.few
  · obtain ⟨c', hc', -, hqos, -⟩ := find?_withBufSt hc
    exact h.qosRow l c' r hc' (hqos.symm.trans hr)

/-- An SDU of the channel `lcid` has been taken out of `remBytes` bytes. -/
structure SduTaken (ue : UeView) (x : LcScope) (remBytes lcid : Nat) (alloc : SubpduAlloc) (x' : LcScope) : Prop where
  pos : 0 < alloc.allocBytes
  fits : alloc.allocBytes ≤ remBytes
  encoded : alloc.allocBytes = getMacSduRequiredBytes alloc.subpdu.schedBytes
  subpduLcid : alloc.subpdu.lcid.val = lcid
  channel : ∃ ch bufSt, x.lc.channels.find? lcid = some ch ∧ bufSt < ch.bufSt ∧
    x'.lc.channels = x.lc.channels.modify lcid fun c => { c with bufSt := bufSt }
  sorted : x'.lc.sortedChannels = x.lc.sortedChannels
  tracked : DlTracked ue x'

lemma allocateMacSduOf_spec (h : DlTracked ue x) (hlcid : lcid < MAX_NOF_RB_LCIDS) (subpdu : DlMsgLcInfo)
    (remBytes : Nat) : ∃ alloc x', x.allocateMacSduOf ue subpdu lcid remBytes = .ok (alloc, x') ∧
      (alloc.allocBytes = 0 ∧ x' = x ∨ SduTaken ue x remBytes lcid alloc x') := by
  unfold LcScope.allocateMacSduOf
  rw [dif_pos hlcid]
  dsimp only
  by_cases hrem : remBytes < getMacSduWithSubhdrAndRlcHdrEstim lcid 1
  · rw [if_pos hrem]
    exact ⟨_, _, rfl, Or.inl ⟨rfl, rfl⟩⟩
  rw [if_neg hrem]
  cases hch : x.lc.channels.find? lcid with
  | none => exact ⟨_, _, rfl, Or.inl ⟨rfl, rfl⟩⟩
  | some ch =>
    dsimp only
    by_cases hpending : pendingBytesOfChannel ch = 0
    · rw [if_pos hpending]
      exact ⟨_, _, rfl, Or.inl ⟨rfl, rfl⟩⟩
    rw [if_neg hpending]
    have hbuf : 0 < ch.bufSt := by
      by_contra hzero
      apply hpending
      unfold pendingBytesOfChannel
      rw [Nat.eq_zero_of_not_pos hzero]
      split <;> rfl
    have hmin := minSduBytes_eq lcid
    obtain ⟨hle, hfits, hne⟩ := macSduAllocBytes_spec (pendingBytesOfChannel ch)
      (show getMacSduWithSubhdrAndRlcHdrEstim lcid 1 ≤ 6 by rw [hmin]; split <;> omega) (Nat.le_of_not_lt hrem)
    generalize macSduAllocBytes (getMacSduWithSubhdrAndRlcHdrEstim lcid 1) (pendingBytesOfChannel ch) remBytes =
      allocBytes at hle hfits hne ⊢
    rw [hmin] at hle
    have hthree : 3 ≤ allocBytes := by
      split at hle <;> omega
    have hencoded := getMacSduRequiredBytes_getMacSduSize hthree hne
    have hsize : 0 < getMacSduSize allocBytes := by
      rw [Nat.pos_iff_ne_zero]
      intro hzero
      rw [hzero, getMacSduRequiredBytes_zero] at hencoded
      omega
    have hdrb : lcid ≠ LCID_SRB0 → 4 ≤ getMacSduSize allocBytes := by
      intro hne
      rw [if_neg hne] at hle
      exact four_le_getMacSduSize hle
    have hlt := bufStAfterSched_lt hbuf hsize hdrb
    generalize LcScope.bufStAfterSched lcid ch.bufSt _ = bufSt at hlt ⊢
    obtain ⟨pending, slices, hupdate, htracked⟩ := h.lowerBufSt hch hlt
    unfold LcScope.withBufSt at hupdate htracked
    rw [hupdate]
    cases hqos : ch.qosRow with
    | none =>
      refine ⟨_, _, rfl, Or.inr ⟨?_, hfits, hencoded.symm, rfl, ⟨ch, bufSt, hch, hlt, rfl⟩, rfl, htracked⟩⟩
      exact Nat.zero_lt_of_lt hthree
    | some rid =>
      obtain ⟨q, hq⟩ := h.qosRow lcid ch rid hch hqos
      have hrow : rowAt x.qosChannels rid = .ok q := by
        unfold rowAt
        rw [hq]
      refine ⟨_, _, bind_eq_ok.mpr ⟨_, rfl, bind_eq_ok.mpr ⟨q, hrow, rfl⟩⟩, Or.inr ⟨Nat.zero_lt_of_lt hthree, hfits,
        hencoded.symm, rfl, ⟨ch, bufSt, hch, hlt, rfl⟩, rfl, ?_⟩⟩
      refine ⟨htracked.attached, htracked.pending, htracked.bufSt, htracked.few, fun l c r hc hr => ?_⟩
      obtain ⟨q', hq'⟩ := htracked.qosRow l c r hc hr
      dsimp only
      rw [SoaTable.row?_modify, hq']
      split
      case isTrue => exact ⟨_, rfl⟩
      case isFalse => exact ⟨_, rfl⟩

end Channels

def encodedBytes (subpdu : DlMsgLcInfo) : Nat :=
  if isSdu subpdu.lcid then getMacSduRequiredBytes subpdu.schedBytes
  else if subpdu.lcid.isVarLenCe then getMacSduRequiredBytes subpdu.schedBytes
  else FIXED_SIZED_MAC_CE_SUBHEADER_SIZE + subpdu.schedBytes

structure UeSound (st : LogicalChannelSystem) (u : UeRow) : Prop where
  tracked : DlTracked u.view (st.scope u)
  lcids : ∀ lcid ∈ u.lc.sortedChannels, lcid < MAX_NOF_RB_LCIDS
  ces : ∃ l, Linked MacCeContext.nextUeCe st.pendingCes u.pendingCes l ∧ l.Nodup ∧
    ∀ c ∈ ceInfos st.pendingCes l, isSdu c.ceLcid = false
  index : u.ueIndex < st.uesWithPendingCes.size

/-- A subPDU is taken for the UE: a CE, or an SDU of a channel that `allowed` admits with its slice. The buffer status
of that channel goes down. -/
inductive Emitted (rid : Nat) (allowed : Nat → Option Nat → Prop) (st : LogicalChannelSystem) (subpdu : DlMsgLcInfo)
    (st' : LogicalChannelSystem) : Prop
  | ce (hce : isSdu subpdu.lcid = false) (hsize : subpdu.schedBytes = subpdu.lcid.sizeofCe)
  | sdu {u u' : UeRow} {ch ch' : DlLogicalChannelContext} (hsdu : isSdu subpdu.lcid = true)
    (hu : st.ues.row? rid = some u) (hch : u.lc.channels.find? subpdu.lcid = some ch)
    (hallowed : allowed subpdu.lcid ch.sliceId) (hu' : st'.ues.row? rid = some u')
    (hch' : u'.lc.channels.find? subpdu.lcid = some ch') (hlt : ch'.bufSt < ch.bufSt)

/-- What a function that fills a TB has added to `tbInfo` with at most `limit` bytes. -/
structure TbComposed (rid : Nat) (allowed : Nat → Option Nat → Prop) (tbInfo : DlMsgTbInfo) (st : LogicalChannelSystem)
    (limit : Nat) (tb : TbAlloc) : Prop where
  within : tb.bytes ≤ limit
  subpdus : ∃ subpdus, tb.tbInfo.lcChsToSched = tbInfo.lcChsToSched ++ subpdus ∧
    ItemTrace (Emitted rid allowed) st subpdus tb.lcs ∧ tb.bytes = (subpdus.map encodedBytes).sum ∧
    ∀ subpdu ∈ subpdus, isSdu subpdu.lcid = true → encodedBytes subpdu ≠ 258

section Filling

variable {rid limit : Nat} {allowed : Nat → Option Nat → Prop} {tbInfo : DlMsgTbInfo} {st : LogicalChannelSystem}

lemma encodedBytes_ne {subpdu : DlMsgLcInfo} (h : isSdu subpdu.lcid = true) : encodedBytes subpdu ≠ 258 := by
  unfold encodedBytes
  rw [if_pos h]
  exact getMacSduRequiredBytes_ne _

lemma TbComposed.nothing (rid : Nat) (allowed : Nat → Option Nat → Prop) (tbInfo : DlMsgTbInfo)
    (st : LogicalChannelSystem) (limit : Nat) : TbComposed rid allowed tbInfo st limit ⟨0, tbInfo, st⟩ :=
  ⟨Nat.zero_le _, [], (List.append_nil _).symm, ItemTrace.nil st, rfl, fun _ h => absurd h List.not_mem_nil⟩

lemma TbComposed.single (tbInfo : DlMsgTbInfo) (hlt : tbInfo.lcChsToSched.length < MAX_LC_PER_TB) {subpdu : DlMsgLcInfo}
    {st' : LogicalChannelSystem} (hfits : encodedBytes subpdu ≤ limit) (h : Emitted rid allowed st subpdu st') :
    TbComposed rid allowed tbInfo st limit ⟨encodedBytes subpdu,
      ⟨tbInfo.lcChsToSched ++ [subpdu], List.length_append.le.trans hlt⟩, st'⟩ := by
  refine ⟨hfits, [subpdu], rfl, ItemTrace.single h, (List.sum_singleton).symm, fun s hs hsdu => ?_⟩
  rw [List.mem_singleton.mp hs] at hsdu ⊢
  exact encodedBytes_ne hsdu

lemma TbComposed.continued {tb tb' : TbAlloc} (h : TbComposed rid allowed tbInfo st limit tb)
    (h' : TbComposed rid allowed tb.tbInfo tb.lcs (limit - tb.bytes) tb') :
    TbComposed rid allowed tbInfo st limit { tb' with bytes := tb.bytes + tb'.bytes } := by
  have hwithin := h.within
  have hwithin' := h'.within
  obtain ⟨subpdus, hinfo, htrace, hbytes, hne⟩ := h.subpdus
  obtain ⟨subpdus', hinfo', htrace', hbytes', hne'⟩ := h'.subpdus
  refine ⟨?_, subpdus ++ subpdus', ?_, htrace.append htrace', ?_, ?_⟩
  · dsimp only
    omega
  · dsimp only
    rw [hinfo', hinfo, List.append_assoc]
  · dsimp only
    rw [List.map_append, List.sum_append, hbytes, hbytes']
  · intro subpdu hmem
    rcases List.mem_append.mp hmem with hmem | hmem
    · exact hne subpdu hmem
    · exact hne' subpdu hmem

/-- What one allocation out of `remBytes` bytes does: nothing, or it takes a subPDU. -/
def Allocated (rid : Nat) (allowed : Nat → Option Nat → Prop) (st : LogicalChannelSystem) (remBytes : Nat)
    (alloc : SubpduAlloc) (st' : LogicalChannelSystem) : Prop :=
  alloc.allocBytes = 0 ∧ st' = st ∨
    0 < alloc.allocBytes ∧ alloc.allocBytes ≤ remBytes ∧ alloc.allocBytes = encodedBytes alloc.subpdu ∧
      Emitted rid allowed st alloc.subpdu st'

variable {wanted : LogicalChannelSystem → Nat → Except LcAbort Bool}
  {allocate : LogicalChannelSystem → Nat → Except LcAbort (SubpduAlloc × LogicalChannelSystem)}

lemma fillTb_spec (Inv : LogicalChannelSystem → Prop)
    (hwanted : ∀ st remBytes, Inv st → ∃ more, wanted st remBytes = .ok more)
    (hallocate : ∀ st remBytes, Inv st → ∃ alloc st', allocate st remBytes = .ok (alloc, st') ∧ Inv st' ∧
      Allocated rid allowed st remBytes alloc st')
    (rounds : Nat) (tb : TbRest) (hrounds : MAX_LC_PER_TB < rounds + tb.tbInfo.lcChsToSched.length)
    (hinv : Inv tb.lcs) :
    ∃ tb', fillTb wanted allocate rounds tb = .ok tb' ∧ Inv tb'.lcs ∧ tb'.remTbs ≤ tb.remTbs ∧
      TbComposed rid allowed tb.tbInfo tb.lcs tb.remTbs ⟨tb.remTbs - tb'.remTbs, tb'.tbInfo, tb'.lcs⟩ := by
  induction rounds generalizing tb with
  | zero =>
    have := tb.tbInfo.bounded
    omega
  | succ rounds ih =>
    have hstop : TbComposed rid allowed tb.tbInfo tb.lcs tb.remTbs ⟨tb.remTbs - tb.remTbs, tb.tbInfo, tb.lcs⟩ := by
      rw [Nat.sub_self]
      exact TbComposed.nothing _ _ _ _ _
    obtain ⟨more, hmore⟩ := hwanted tb.lcs tb.remTbs hinv
    unfold fillTb
    rw [hmore]
    by_cases hend : (!more || tb.tbInfo.full) = true
    · exact ⟨tb, if_pos hend, hinv, le_rfl, hstop⟩
    obtain ⟨alloc, st', halloc, hinv', hcase⟩ := hallocate tb.lcs tb.remTbs hinv
    have hlt := DlMsgTbInfo.lt_of_not_full fun hfull => hend (by rw [hfull, Bool.or_true])
    change ∃ tb', (if (!more || tb.tbInfo.full) = true then _ else _) = _ ∧ _
    rw [if_neg hend, halloc]
    rcases hcase with ⟨hzero, rfl⟩ | ⟨hpos, hfits, hencoded, hemitted⟩
    · exact ⟨tb, if_pos hzero, hinv, le_rfl, hstop⟩
    · rw [hencoded] at hpos hfits
      have hpush : tb.tbInfo.pushBack alloc.subpdu =
          .ok ⟨tb.tbInfo.lcChsToSched ++ [alloc.subpdu], List.length_append.le.trans hlt⟩ := dif_pos hlt
      have hone := TbComposed.single tb.tbInfo hlt hfits hemitted
      obtain ⟨tb', hfill, hinv'', hle, hrest⟩ := ih ⟨tb.remTbs - encodedBytes alloc.subpdu,
        ⟨tb.tbInfo.lcChsToSched ++ [alloc.subpdu], List.length_append.le.trans hlt⟩, st'⟩
        (by rw [List.length_append, List.length_singleton]; omega) hinv'
      dsimp only at hle hrest
      have htotal : tb.remTbs - tb'.remTbs =
          encodedBytes alloc.subpdu + (tb.remTbs - encodedBytes alloc.subpdu - tb'.remTbs) := by
        omega
      refine ⟨tb', ?_, hinv'', by omega, ?_⟩
      · change (if alloc.allocBytes = 0 then _ else _) = _
        rw [hencoded, if_neg (Nat.pos_iff_ne_zero.mp hpos), hpush]
        exact hfill
      · rw [htotal]
        exact hone.continued hrest

lemma fillWith_spec (Inv : LogicalChannelSystem → Prop)
    (hwanted : ∀ st remBytes, Inv st → ∃ more, wanted st remBytes = .ok more)
    (hallocate : ∀ st remBytes, Inv st → ∃ alloc st', allocate st remBytes = .ok (alloc, st') ∧ Inv st' ∧
      Allocated rid allowed st remBytes alloc st')
    (tbInfo : DlMsgTbInfo) (hinv : Inv st) (totalTbs : Nat) :
    ∃ tb, fillWith wanted allocate tbInfo st totalTbs = .ok tb ∧ Inv tb.lcs ∧
      TbComposed rid allowed tbInfo st totalTbs tb := by
  obtain ⟨tb', hfill, hinv', -, hcomposed⟩ := fillTb_spec Inv hwanted hallocate (MAX_LC_PER_TB + 1)
    ⟨totalTbs, tbInfo, st⟩ (by dsimp only; omega) hinv
  exact ⟨_, bind_eq_ok.mpr ⟨tb', hfill, rfl⟩, hinv', hcomposed⟩

end Filling

section Allocations

variable {rid : Nat} {sliceOf : Nat → Option Nat} {sorted : List Nat} {allowed : Nat → Option Nat → Prop}
  {st : LogicalChannelSystem}

/-- The UE is sound, with these slices of its channels and these channels in the order of their priority. -/
def SoundWith (rid : Nat) (sliceOf : Nat → Option Nat) (sorted : List Nat) (st : LogicalChannelSystem) : Prop :=
  ∃ u, st.ues.row? rid = some u ∧ UeSound st u ∧ u.getSliceId = sliceOf ∧ u.lc.sortedChannels = sorted

lemma getUe_ok {u : UeRow} (hu : st.ues.row? rid = some u) : st.getUe rid = .ok u := by
  unfold LogicalChannelSystem.getUe rowAt
  rw [hu]

lemma hasPendingCes_ok (h : SoundWith rid sliceOf sorted st) : ∃ more, st.hasPendingCes rid = .ok more := by
  obtain ⟨u, hu, hsound, -⟩ := h
  exact ⟨_, bind_eq_ok.mpr ⟨u, getUe_ok hu, bind_eq_ok.mpr
    ⟨_, mapError_eq_ok.mpr (BoundedBitset.test_of_lt hsound.index), rfl⟩⟩⟩

lemma withScope_self {u : UeRow} (hu : st.ues.row? rid = some u) : st.withScope rid (st.scope u) = st := by
  have hues : st.ues.modify rid (fun v => { v with lc := u.lc }) = st.ues := by
    apply SoaTable.modify_eq_self
    intro v hv
    obtain rfl := Option.some.inj (hu.symm.trans hv)
    rfl
  change { st with ues := st.ues.modify rid fun v => { v with lc := u.lc } } = st
  rw [hues]

lemma allocateMacSdu_allocated (h : SoundWith rid sliceOf sorted st) {lcid : Nat} (hlcid : lcid < MAX_NOF_RB_LCIDS)
    (hallowed : allowed lcid (sliceOf lcid)) (subpdu : DlMsgLcInfo) (remBytes : Nat) :
    ∃ alloc st', st.allocateMacSdu rid subpdu remBytes lcid = .ok (alloc, st') ∧ SoundWith rid sliceOf sorted st' ∧
      Allocated rid allowed st remBytes alloc st' := by
  obtain ⟨u, hu, hsound, rfl, rfl⟩ := h
  have hvalid : lcid ≠ INVALID_LCID := by
    unfold MAX_NOF_RB_LCIDS at hlcid
    unfold INVALID_LCID
    omega
  obtain ⟨alloc, x, halloc, hcase⟩ := allocateMacSduOf_spec hsound.tracked hlcid
    { subpdu with lcid := LcidDlSch.MIN_RESERVED, schedBytes := 0 } remBytes
  have hscope : (st.scope u).allocateMacSdu u.view subpdu remBytes lcid = .ok (alloc, x) := by
    unfold LcScope.allocateMacSdu
    dsimp only
    rw [if_neg hvalid, if_neg hvalid]
    exact halloc
  have hst : st.allocateMacSdu rid subpdu remBytes lcid = .ok (alloc, st.withScope rid x) :=
    bind_eq_ok.mpr ⟨u, getUe_ok hu, bind_eq_ok.mpr ⟨_, hscope, rfl⟩⟩
  rcases hcase with ⟨hzero, rfl⟩ | htaken
  · rw [withScope_self hu] at hst
    exact ⟨alloc, st, hst, ⟨u, hu, hsound, rfl, rfl⟩, Or.inl ⟨hzero, rfl⟩⟩
  · obtain ⟨ch, bufSt, hch, hlt, hchannels⟩ := htaken.channel
    have hrow : (st.withScope rid x).ues.row? rid = some { u with lc := x.lc } := by
      rw [LogicalChannelSystem.row?_withScope, if_pos rfl, hu]
      rfl
    have hslices : UeRow.getSliceId { u with lc := x.lc } = u.getSliceId := by
      funext l
      unfold UeRow.getSliceId
      dsimp only
      rw [hchannels, FlatMap.find?_modify]
      split
      case isTrue =>
        rw [Option.bind_map]
        rfl
      case isFalse => rfl
    have hsdu : isSdu alloc.subpdu.lcid = true := by
      unfold isSdu
      rw [htaken.subpduLcid]
      exact decide_eq_true hlcid
    have hencoded : alloc.allocBytes = encodedBytes alloc.subpdu := by
      unfold encodedBytes
      rw [if_pos hsdu]
      exact htaken.encoded
    have hlcids : ∀ l ∈ x.lc.sortedChannels, l < MAX_NOF_RB_LCIDS := by
      rw [htaken.sorted]
      exact hsound.lcids
    have hafter : x.lc.channels.find? alloc.subpdu.lcid = some { ch with bufSt := bufSt } := by
      rw [htaken.subpduLcid, hchannels, FlatMap.find?_modify_self, hch]
      rfl
    refine ⟨alloc, _, hst, ⟨_, hrow, ⟨htaken.tracked, hlcids, hsound.ces, hsound.index⟩, hslices, htaken.sorted⟩,
      Or.inr ⟨htaken.pos, htaken.fits, hencoded, ?_⟩⟩
    refine Emitted.sdu hsdu hu ?_ ?_ hrow hafter hlt
    · rw [htaken.subpduLcid]
      exact hch
    · rw [htaken.subpduLcid]
      unfold UeRow.getSliceId at hallowed
      rw [show u.lc.channels.find? lcid = some ch from hch] at hallowed
      exact hallowed

lemma UeSound.ceRow {u : UeRow} (h : UeSound st u) {ceRid : Nat} (hhead : u.pendingCes = some ceRid) :
    ∃ ctx, st.pendingCes.row? ceRid = some ctx := by
  obtain ⟨l, hlinked, -⟩ := h.ces
  rw [hhead] at hlinked
  cases l with
  | nil => cases hlinked
  | cons r rs =>
    obtain ⟨hr, ctx, hctx, -⟩ := hlinked
    obtain rfl := Option.some.inj hr
    exact ⟨ctx, hctx⟩

lemma popCe_sound {u : UeRow} (hu : st.ues.row? rid = some u) (h : UeSound st u) {ceRid : Nat} {ctx : MacCeContext}
    (hhead : u.pendingCes = some ceRid) (hctx : st.pendingCes.row? ceRid = some ctx) :
    ∃ st' u', st.popCe rid ceRid ctx = .ok st' ∧ st'.ues.row? rid = some u' ∧ UeSound st' u' ∧ u'.lc = u.lc ∧
      isSdu ctx.info.ceLcid = false := by
  obtain ⟨l, hlinked, hnodup, hkinds⟩ := h.ces
  rw [hhead] at hlinked
  cases l with
  | nil => cases hlinked
  | cons r rs =>
    obtain ⟨hr, ctx', hctx', hrest⟩ := hlinked
    obtain rfl := Option.some.inj hr
    obtain rfl := Option.some.inj (hctx.symm.trans hctx')
    rw [ceInfos_cons hctx] at hkinds
    rw [List.nodup_cons] at hnodup
    obtain ⟨table, herase⟩ := SoaTable.erase_of_row? hctx
    have hrows : ∀ r ∈ rs, table.row? r = st.pendingCes.row? r := by
      intro r' hr'
      rw [SoaTable.row?_erase herase, if_neg]
      rintro rfl
      exact hnodup.1 hr'
    have hces : ∃ l, Linked MacCeContext.nextUeCe table ctx.nextUeCe l ∧ l.Nodup ∧
        ∀ c ∈ ceInfos table l, isSdu c.ceLcid = false := by
      refine ⟨rs, hrest.congr hrows, hnodup.2, ?_⟩
      rw [ceInfos_congr hrows]
      exact fun c hc => hkinds c (List.mem_cons_of_mem _ hc)
    have hkind := hkinds ctx.info List.mem_cons_self
    have hrow := LogicalChannelSystem.row?_modify_of_some (f := fun u => { u with
      pendingCes := ctx.nextUeCe
      pendingCeBytes := wrap32 (u.pendingCeBytes + (4294967296 - ceRequiredBytes ctx.info.ceLcid)) }) hu rid
    rw [if_pos rfl] at hrow
    have hpop : ∀ {st'}, (if ctx.nextUeCe.isNone then do
          let bits ← (st.uesWithPendingCes.set u.ueIndex false).mapError LcAbort.bitset
          .ok { { st with pendingCes := table }.modifyUe rid fun u => { u with
                  pendingCes := ctx.nextUeCe
                  pendingCeBytes := wrap32 (u.pendingCeBytes + (4294967296 - ceRequiredBytes ctx.info.ceLcid)) } with
                uesWithPendingCes := bits }
        else .ok ({ st with pendingCes := table }.modifyUe rid fun u => { u with
          pendingCes := ctx.nextUeCe
          pendingCeBytes := wrap32 (u.pendingCeBytes + (4294967296 - ceRequiredBytes ctx.info.ceLcid)) })) = .ok st' →
        st.popCe rid ceRid ctx = .ok st' :=
      fun h => bind_eq_ok.mpr ⟨u, getUe_ok hu, bind_eq_ok.mpr ⟨(table, true), mapError_eq_ok.mpr herase, h⟩⟩
    by_cases hlast : ctx.nextUeCe.isNone = true
    · obtain ⟨bits, hbits⟩ := BoundedBitset.set_of_lt h.index false
      refine ⟨_, _, hpop ((if_pos hlast).trans (bind_eq_ok.mpr ⟨bits, mapError_eq_ok.mpr hbits, rfl⟩)), hrow,
        ⟨h.tracked, h.lcids, hces, ?_⟩, rfl, hkind⟩
      exact h.index.trans_eq (BoundedBitset.size_set hbits).symm
    · exact ⟨_, _, hpop (if_neg hlast), hrow, ⟨h.tracked, h.lcids, hces, h.index⟩, rfl, hkind⟩

lemma allocateUeConResIdMacCe_allocated (allowed : Nat → Option Nat → Prop)
    (h : SoundWith rid sliceOf sorted st) (subpdu : DlMsgLcInfo) (remBytes : Nat) :
    ∃ alloc st', st.allocateUeConResIdMacCe rid subpdu remBytes = .ok (alloc, st') ∧
      SoundWith rid sliceOf sorted st' ∧ Allocated rid allowed st remBytes alloc st' := by
  obtain ⟨u, hu, hsound, rfl, rfl⟩ := h
  unfold LogicalChannelSystem.allocateUeConResIdMacCe
  rw [getUe_ok hu]
  by_cases hnone : (!u.pendingConResId) = true
  · exact ⟨_, _, if_pos hnone, ⟨u, hu, hsound, rfl, rfl⟩, Or.inl ⟨rfl, rfl⟩⟩
  by_cases hrem : remBytes < LcidDlSch.UE_CON_RES_ID.sizeofCe + FIXED_SIZED_MAC_CE_SUBHEADER_SIZE
  · exact ⟨_, _, (if_neg hnone).trans (if_pos hrem), ⟨u, hu, hsound, rfl, rfl⟩, Or.inl ⟨rfl, rfl⟩⟩
  · have hrow := (LogicalChannelSystem.row?_modify_of_some (f := fun u => { u with pendingConResId := false })
      hu rid).trans (if_pos rfl)
    exact ⟨_, _, (if_neg hnone).trans (if_neg hrem),
      ⟨_, hrow, ⟨hsound.tracked, hsound.lcids, hsound.ces, hsound.index⟩, rfl, rfl⟩,
      Or.inr ⟨Nat.succ_pos _, Nat.le_of_not_lt hrem, rfl, Emitted.ce rfl rfl⟩⟩

lemma allocateMacCe_allocated (allowed : Nat → Option Nat → Prop) (h : SoundWith rid sliceOf sorted st) (subpdu : DlMsgLcInfo) (remBytes : Nat) :
    ∃ alloc st', st.allocateMacCe rid subpdu remBytes = .ok (alloc, st') ∧
      SoundWith rid sliceOf sorted st' ∧ Allocated rid allowed st remBytes alloc st' := by
  obtain ⟨conRes, st₁, hconRes, h₁, hcase⟩ := allocateUeConResIdMacCe_allocated allowed h
    { subpdu with lcid := LcidDlSch.MIN_RESERVED, schedBytes := 0 } remBytes
  unfold LogicalChannelSystem.allocateMacCe
  dsimp only
  rw [hconRes]
  by_cases hpos : conRes.allocBytes > 0
  · exact ⟨conRes, st₁, if_pos hpos, h₁, hcase⟩
  have hzero : conRes.allocBytes = 0 ∧ st₁ = st := hcase.resolve_right fun hsome => hpos hsome.1
  obtain ⟨hzero, rfl⟩ := hzero
  obtain ⟨u, hu, hsound, rfl, rfl⟩ := h₁
  cases hhead : u.pendingCes with
  | none =>
    refine ⟨conRes, st₁, (if_neg hpos).trans ?_, ⟨u, hu, hsound, rfl, rfl⟩, Or.inl ⟨hzero, rfl⟩⟩
    refine bind_eq_ok.mpr ⟨u, getUe_ok hu, ?_⟩
    dsimp only
    rw [hhead]
  | some ceRid =>
    obtain ⟨ctx, hctx⟩ := hsound.ceRow hhead
    have hrow : rowAt st₁.pendingCes ceRid = .ok ctx := by
      unfold rowAt
      rw [hctx]
    by_cases hrem : remBytes < ceRequiredBytes ctx.info.ceLcid
    · refine ⟨conRes, st₁, (if_neg hpos).trans ?_, ⟨u, hu, hsound, rfl, rfl⟩, Or.inl ⟨hzero, rfl⟩⟩
      refine bind_eq_ok.mpr ⟨u, getUe_ok hu, ?_⟩
      dsimp only
      rw [hhead]
      exact bind_eq_ok.mpr ⟨ctx, hrow, if_pos hrem⟩
    · obtain ⟨st', u', hpop, hu', hsound', hlc, hkind⟩ := popCe_sound hu hsound hhead hctx
      refine ⟨⟨ceRequiredBytes ctx.info.ceLcid, ⟨ctx.info.ceLcid, ctx.info.ceLcid.sizeofCe, ctx.info.cePayload⟩⟩, st',
        (if_neg hpos).trans ?_, ⟨u', hu', hsound', ?_, ?_⟩,
        Or.inr ⟨ceRequiredBytes_pos _, Nat.le_of_not_lt hrem, ?_, Emitted.ce hkind rfl⟩⟩
      · refine bind_eq_ok.mpr ⟨u, getUe_ok hu, ?_⟩
        dsimp only
        rw [hhead]
        exact bind_eq_ok.mpr ⟨ctx, hrow, (if_neg hrem).trans (bind_eq_ok.mpr ⟨st', hpop, rfl⟩)⟩
      · unfold UeRow.getSliceId
        rw [hlc]
      · rw [hlc]
      · unfold encodedBytes
        rw [if_neg (by rw [hkind]; exact Bool.false_ne_true)]
        rfl

end Allocations

section Soundness

open LogicalChannelSystem

variable {st : LogicalChannelSystem}

/-- A call under which the books of the DL slices, of the CEs and of the QoS rows stay in order. -/
def KeepsBooks (st : LogicalChannelSystem) (e : LcEvent) : Prop :=
  setsLcgSlice e = false ∧ CeTimely st e ∧ DeactivatesUntracked st e

instance (st : LogicalChannelSystem) (e : LcEvent) : Decidable (KeepsBooks st e) :=
  inferInstanceAs (Decidable (_ ∧ _ ∧ _))

lemma books_of_run {es : List LcEvent} (hes : RunsWithin step KeepsBooks init es) (hrun : run es = .ok st) :
    DlConsistent st ∧ (∃ L logs, CeConsistent st L logs) ∧ QosRowsOwned st := by
  refine runsWithin_invariant (fun st => DlConsistent st ∧ (∃ L logs, CeConsistent st L logs) ∧ QosRowsOwned st) ?_
    ⟨init_dlConsistent, ⟨_, _, init_ceConsistent⟩, init_qosRowsOwned⟩ hes hrun
  rintro st e st' ⟨hdl, ⟨L, logs, hces⟩, hqos⟩ ⟨hslice, htimely, huntracked⟩ hs
  obtain ⟨L', hces'⟩ := step_ceConsistent hces htimely hs
  exact ⟨(step_dlConsistent e hslice hdl).of_ok hs, ⟨L', _, hces'⟩, (step_owned hqos huntracked).of_ok hs⟩

lemma ueSound_of_run (es : List LcEvent) (rid : Nat) (hes : RunsWithin step KeepsBooks init es)
    (hrun : run es = .ok st) {u : UeRow} (hu : st.ues.row? rid = some u) (hlcids : ∀ lcid ∈ u.lc.sortedChannels, lcid < MAX_NOF_RB_LCIDS)
    (hkinds : ∀ c ∈ queuedCes st u, isSdu c.ceLcid = false) : UeSound st u := by
  obtain ⟨hdl, ⟨L, logs, hces⟩, hqos⟩ := books_of_run hes hrun
  have hacc := hdl.accounted rid u hu
  have hqueue := hces.queue rid u hu
  refine ⟨⟨hacc.attached, hacc.pending, hacc.bufSt, hacc.few, fun lcid ch r hch hr => ?_⟩, hlcids,
    ⟨L rid, hqueue.linked, hqueue.nodup, fun c hc => hkinds c ?_⟩, ?_⟩
  · refine hqos.channels.row (rid, lcid) r ?_
    unfold heldChannelRow channelRow rowOf
    rw [hu, Option.bind_some, show u.lc.channels.find? lcid = some ch from hch]
    exact hr
  · unfold queuedCes
    rw [hces.ceRows_eq hu]
    exact hc
  · rw [hces.size]
    exact DlConsistent.lt_size (hces.configured rid u hu)

end Soundness

section Blocks

variable {rid limit : Nat} {sliceOf : Nat → Option Nat} {sorted : List Nat} {allowed : Nat → Option Nat → Prop}
  {tbInfo : DlMsgTbInfo} {st : LogicalChannelSystem}

def FillsSound (rid : Nat) (sliceOf : Nat → Option Nat) (sorted : List Nat) (allowed : Nat → Option Nat → Prop)
    (tbInfo : DlMsgTbInfo) (st : LogicalChannelSystem) (limit : Nat) (r : Except LcAbort TbAlloc) : Prop :=
  ∃ tb, r = .ok tb ∧ SoundWith rid sliceOf sorted tb.lcs ∧ TbComposed rid allowed tbInfo st limit tb

lemma allocateMacCes_fills (allowed : Nat → Option Nat → Prop) (h : SoundWith rid sliceOf sorted st) (tbInfo : DlMsgTbInfo) (limit : Nat) :
    FillsSound rid sliceOf sorted allowed tbInfo st limit (allocateMacCes tbInfo st rid limit) :=
  fillWith_spec (SoundWith rid sliceOf sorted) (fun _ _ h => hasPendingCes_ok h)
    (fun _ remBytes h => allocateMacCe_allocated allowed h _ remBytes) tbInfo h limit

lemma allocateMacSdus_fills (h : SoundWith rid sliceOf sorted st) {lcid : Nat} (hlcid : lcid < MAX_NOF_RB_LCIDS)
    (hallowed : allowed lcid (sliceOf lcid)) (tbInfo : DlMsgTbInfo) (limit : Nat) :
    FillsSound rid sliceOf sorted allowed tbInfo st limit (allocateMacSdus tbInfo st rid limit lcid) :=
  fillWith_spec (SoundWith rid sliceOf sorted) (fun _ _ _ => ⟨_, rfl⟩)
    (fun _ remBytes h => allocateMacSdu_allocated h hlcid hallowed _ remBytes) tbInfo h limit

lemma allocateUeConResIdMacCe_fills (allowed : Nat → Option Nat → Prop)
    (h : SoundWith rid sliceOf sorted st) (tbInfo : DlMsgTbInfo) (limit : Nat) :
    FillsSound rid sliceOf sorted allowed tbInfo st limit (allocateUeConResIdMacCe tbInfo st rid limit) := by
  unfold allocateUeConResIdMacCe
  by_cases hfull : tbInfo.full = true
  · exact ⟨_, if_pos hfull, h, TbComposed.nothing _ _ _ _ _⟩
  obtain ⟨alloc, st', halloc, h', hcase⟩ := allocateUeConResIdMacCe_allocated allowed h .fresh limit
  rw [if_neg hfull, halloc]
  rcases hcase with ⟨hzero, rfl⟩ | ⟨hpos, hfits, hencoded, hemitted⟩
  · exact ⟨_, if_pos hzero, h', TbComposed.nothing _ _ _ _ _⟩
  · have hlt := DlMsgTbInfo.lt_of_not_full hfull
    rw [hencoded] at hpos hfits
    have hpush : tbInfo.pushBack alloc.subpdu =
        .ok ⟨tbInfo.lcChsToSched ++ [alloc.subpdu], List.length_append.le.trans hlt⟩ := dif_pos hlt
    refine ⟨_, ?_, h', TbComposed.single tbInfo hlt hfits hemitted⟩
    change (if alloc.allocBytes = 0 then _ else _) = _
    rw [hencoded, if_neg (Nat.pos_iff_ne_zero.mp hpos), hpush]
    have hbytes : limit - (limit - encodedBytes alloc.subpdu) = encodedBytes alloc.subpdu := by
      omega
    change Except.ok (TbAlloc.mk (limit - (limit - encodedBytes alloc.subpdu)) _ _) = _
    rw [hbytes]

lemma addMacSdus_fills {tb : TbAlloc} (h : SoundWith rid sliceOf sorted tb.lcs)
    (hcomposed : TbComposed rid allowed tbInfo st limit tb) {lcid : Nat} (hlcid : lcid < MAX_NOF_RB_LCIDS)
    (hallowed : allowed lcid (sliceOf lcid)) :
    FillsSound rid sliceOf sorted allowed tbInfo st limit (tb.addMacSdus rid limit lcid) := by
  obtain ⟨sdus, hsdus, hsound, hmore⟩ := allocateMacSdus_fills h hlcid hallowed tb.tbInfo (limit - tb.bytes)
  exact ⟨_, bind_eq_ok.mpr ⟨sdus, hsdus, rfl⟩, hsound, hcomposed.continued hmore⟩

lemma addSliceSdus_fills {sliceId : Nat} {lcids : List Nat} (hlcids : ∀ lcid ∈ lcids, lcid < MAX_NOF_RB_LCIDS)
    {tb : TbAlloc} (h : SoundWith rid sliceOf sorted tb.lcs)
    (hcomposed : TbComposed rid (fun _ slice => slice = some sliceId) tbInfo st limit tb) :
    FillsSound rid sliceOf sorted (fun _ slice => slice = some sliceId) tbInfo st limit
      (lcids.foldlM (fun tb lcid => do
        let u ← tb.lcs.getUe rid
        if u.getSliceId lcid = some sliceId then tb.addMacSdus rid limit lcid else .ok tb) tb) := by
  induction lcids generalizing tb with
  | nil => exact ⟨tb, rfl, h, hcomposed⟩
  | cons lcid lcids ih =>
    rw [List.forall_mem_cons] at hlcids
    obtain ⟨u, hu, -, hslices, -⟩ := id h
    rw [List.foldlM_cons]
    by_cases hin : u.getSliceId lcid = some sliceId
    · obtain ⟨tb', htb', h', hcomposed'⟩ := addMacSdus_fills h hcomposed hlcids.1 (by rw [← hslices]; exact hin)
      obtain ⟨tb'', hrest, h'', hcomposed''⟩ := ih hlcids.2 h' hcomposed'
      refine ⟨tb'', bind_eq_ok.mpr ⟨tb', ?_, hrest⟩, h'', hcomposed''⟩
      exact bind_eq_ok.mpr ⟨u, getUe_ok hu, (if_pos hin).trans htb'⟩
    · obtain ⟨tb'', hrest, h'', hcomposed''⟩ := ih hlcids.2 h hcomposed
      refine ⟨tb'', bind_eq_ok.mpr ⟨tb, ?_, hrest⟩, h'', hcomposed''⟩
      exact bind_eq_ok.mpr ⟨u, getUe_ok hu, if_neg hin⟩

/-- A TB for a slice, and one in fallback, are always built. They are composed of CEs and of SDUs, of the slice in the
one and of SRB0 and SRB1 in the other. -/
theorem transport_block_composed {u : UeRow} (hu : st.ues.row? rid = some u) (h : UeSound st u) (tbInfo : DlMsgTbInfo)
    (tbSizeBytes : Nat) :
    (∀ sliceId, ∃ tb, buildDlTransportBlockInfo tbInfo st rid tbSizeBytes sliceId = .ok tb ∧
      TbComposed rid (fun _ slice => slice = some sliceId) tbInfo st tbSizeBytes tb) ∧
    ∃ tb, buildDlFallbackTransportBlockInfo tbInfo st rid tbSizeBytes = .ok tb ∧
      TbComposed rid (fun lcid _ => lcid = LCID_SRB0 ∨ lcid = LCID_SRB1) tbInfo st tbSizeBytes tb := by
  have hsound : SoundWith rid u.getSliceId u.lc.sortedChannels st := ⟨u, hu, h, rfl, rfl⟩
  constructor
  · intro sliceId
    obtain ⟨tb, htb, hsound', hcomposed⟩ := allocateMacCes_fills (fun _ slice => slice = some sliceId) hsound tbInfo
      tbSizeBytes
    obtain ⟨u', hu', hue, -, hsorted⟩ := id hsound'
    obtain ⟨tb', htb', -, hcomposed'⟩ := addSliceSdus_fills hue.lcids hsound' hcomposed
    exact ⟨tb', bind_eq_ok.mpr ⟨tb, htb, bind_eq_ok.mpr ⟨u', getUe_ok hu', htb'⟩⟩, hcomposed'⟩
  · obtain ⟨tb, htb, hsound', hcomposed⟩ := allocateUeConResIdMacCe_fills
      (fun lcid _ => lcid = LCID_SRB0 ∨ lcid = LCID_SRB1) hsound tbInfo tbSizeBytes
    obtain ⟨u', hu', -⟩ := id hsound'
    obtain ⟨tb₀, htb₀, -, hcomposed₀⟩ := addMacSdus_fills hsound' hcomposed
      (show LCID_SRB0 < MAX_NOF_RB_LCIDS by decide) (Or.inl rfl)
    obtain ⟨tb₁, htb₁, -, hcomposed₁⟩ := addMacSdus_fills hsound' hcomposed
      (show LCID_SRB1 < MAX_NOF_RB_LCIDS by decide) (Or.inr rfl)
    by_cases hsrb0 : (u'.hasPendingBytes LCID_SRB0 && decide (tbSizeBytes - tb.bytes ≥ u'.pendingBytes LCID_SRB0)) = true
    · exact ⟨tb₀, bind_eq_ok.mpr ⟨tb, htb, bind_eq_ok.mpr ⟨u', getUe_ok hu', (if_pos hsrb0).trans htb₀⟩⟩, hcomposed₀⟩
    · exact ⟨tb₁, bind_eq_ok.mpr ⟨tb, htb, bind_eq_ok.mpr ⟨u', getUe_ok hu', (if_neg hsrb0).trans htb₁⟩⟩, hcomposed₁⟩

def twoSlicesRun : List LcEvent :=
  [.createUe 3 1 false (some ⟨[⟨0, 0, none⟩, ⟨1, 0, none⟩, ⟨4, 1, none⟩, ⟨5, 1, none⟩], by simp⟩),
    .setLcidRanSlice 0 1 0, .setLcidRanSlice 0 4 1, .setLcidRanSlice 0 5 2,
    .handleDlBufferStatusIndication 0 0 100 .invalid, .handleDlBufferStatusIndication 0 4 1000 .invalid,
    .handleDlBufferStatusIndication 0 5 1000 .invalid,
    .handleMacCeIndication 0 ⟨LcidDlSch.TA_CMD, .taCmd 0 31⟩,
    .handleMacCeIndication 0 ⟨LcidDlSch.UE_CON_RES_ID, .taCmd 0 0⟩]

theorem transport_block_composed_two_slices :
    ∃ st u, LogicalChannelSystem.run twoSlicesRun = .ok st ∧ st.ues.row? 0 = some u ∧ UeSound st u ∧
      (∀ sliceId, ∃ tb, buildDlTransportBlockInfo .empty st 0 267 sliceId = .ok tb ∧
        TbComposed 0 (fun _ slice => slice = some sliceId) .empty st 267 tb) ∧
      ∃ tb, buildDlFallbackTransportBlockInfo .empty st 0 267 = .ok tb ∧
        TbComposed 0 (fun lcid _ => lcid = LCID_SRB0 ∨ lcid = LCID_SRB1) .empty st 267 tb := by
  have hsound := ueSound_of_run twoSlicesRun 0 (by decide) rfl rfl (by decide) (by decide)
  exact ⟨_, _, rfl, rfl, hsound, transport_block_composed rfl hsound .empty 267⟩

end Blocks

end OwlsRan.Sched
