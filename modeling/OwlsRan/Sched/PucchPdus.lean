import OwlsRan.Sched.PucchMultiplexing

/-!
# PUCCH PDUs

The PDUs of a UE are recycled when its grants change: `pucch_existing_pdus_handler` finds them in the list of the
slot by what they carry.
-/

namespace OwlsRan.Sched

open OwlsRan.Lib

def MAX_PUCCH_PDUS_PER_SLOT : Nat := 128

/-- `format_params` of a PDU. -/
inductive PucchFormatParams where
  | format0 (initialCyclicShift : Nat)
  | format1 (initialCyclicShift timeDomainOcc : Nat)
  | format2
  | format3
  | format4 (orthogSeqIdx nSfPucchF4 : Nat)
deriving DecidableEq

def PucchFormatParams.format : PucchFormatParams → PucchFormat
  | .format0 _ => .format0
  | .format1 _ _ => .format1
  | .format2 => .format2
  | .format3 => .format3
  | .format4 _ _ => .format4

def PucchFormatCfg.toParams : PucchFormatCfg → PucchFormatParams
  | .format0 cs => .format0 cs
  | .format1 cs occ => .format1 cs occ
  | .format2 _ => .format2
  | .format3 _ => .format3
  | .format4 occLength occIndex => .format4 occIndex occLength

/-- `pucch_info`, with its `pdu_context`. -/
structure PucchInfo where
  crnti : Nat
  prbs : Interval
  secondHopPrbs : Interval
  symbols : Interval
  formatParams : PucchFormatParams
  uciBits : PucchUciBits
  id : Nat
  isCommon : Bool
deriving DecidableEq

namespace PucchInfo

def fresh : PucchInfo := ⟨0, ⟨0, 0⟩, ⟨0, 0⟩, ⟨0, 0⟩, .format0 0, ⟨0, .noSr, 0⟩, MAX_PUCCH_PDUS_PER_SLOT, false⟩

def format (p : PucchInfo) : PucchFormat := p.formatParams.format

def isDedicatedOf (rnti : Nat) (p : PucchInfo) : Bool := p.crnti == rnti && !p.isCommon

/-- `fill_common_pdu`, of a new element. -/
def fillCommonPdu (cell : PucchCellConfiguration) (rPucch rnti : Nat) : PucchInfo where
  crnti := rnti
  prbs := cell.initUlBwp.crbToPrb (cell.initUlBwp.prbToCrb (cell.commonPrbs rPucch).1)
  secondHopPrbs := cell.initUlBwp.crbToPrb (cell.initUlBwp.prbToCrb (cell.commonPrbs rPucch).2)
  symbols := cell.commonSymbols
  formatParams :=
    if cell.defaultResource.format = .format0 then .format0 (cell.commonCyclicShift rPucch)
    else .format1 (cell.commonCyclicShift rPucch) 0
  uciBits := ⟨1, .noSr, 0⟩
  id := fresh.id
  isCommon := true

variable {cell : PucchCellConfiguration} (ue : UePucchConfig cell)

def dedNofPrbs (r : PucchResource) (bits : PucchUciBits) (adjustPrbs : Bool) : Nat :=
  if adjustPrbs ∧ (r.format = .format2 ∨ r.format = .format3) then ue.harqNofPrbs r bits.getTotalBits
  else r.formatParams.nofPrbs

/-- The PDU on the resource. The PRBs of the second hop stay as they are when the resource has none. -/
def onResource (p : PucchInfo) (r : PucchResource) (nofPrbs : Nat) : PucchInfo :=
  { p with prbs := r.prbs nofPrbs, secondHopPrbs := (r.secondHopPrbs nofPrbs).getD p.secondHopPrbs }

/-- `fill_ded_pdu`. The assertions look at the bits that the PDU had before. -/
def fillDedPdu (p : PucchInfo) (r : PucchResource) (bits : PucchUciBits) (rnti : Nat) (adjustPrbs : Bool) :
    Except PucchAbort PucchInfo :=
  if r.format.isFormat0Or1 ∧
      ¬(p.uciBits.harqAckNofBits ≤ 2 ∧ (p.uciBits.srBits = .noSr ∨ p.uciBits.srBits = .one) ∧
        p.uciBits.csiPart1NofBits = 0) then
    .error .invalidUciBits
  else
    .ok { p.onResource r (dedNofPrbs ue r bits adjustPrbs) with
      crnti := rnti
      symbols := r.symbols
      formatParams := r.formatParams.toParams
      uciBits := bits }

/-- `sr_id_match`. A second hop at PRB 0 never matches. -/
def srIdMatch (r : PucchResource) (p : PucchInfo) : Bool :=
  (r.startingPrb == p.prbs.start &&
    (match r.secondHopPrb with
    | none => p.secondHopPrbs.isEmpty
    | some prb => prb != 0 && prb == p.secondHopPrbs.start)) &&
  (r.startingSymIdx == p.symbols.start && r.nofSymbols == p.symbols.length) &&
  (match r.formatParams, p.formatParams with
  | .format1 cs occ, .format1 cs' occ' => cs == cs' && occ == occ'
  | _, _ => false)

def existingType (p : PucchInfo) : Option PucchGrantType :=
  match p.format with
  | .format0 =>
    if p.uciBits.srBits ≠ .noSr ∧ p.uciBits.harqAckNofBits = 0 then some .sr
    else if p.uciBits.harqAckNofBits ≠ 0 ∧ p.uciBits.harqAckNofBits ≤ 2 then some .harqAck
    else none
  | .format1 => if p.uciBits.srBits = .one ∧ srIdMatch ue.srRes p then some .sr else some .harqAck
  | _ => if p.uciBits.csiPart1NofBits ≠ 0 ∧ p.uciBits.harqAckNofBits = 0 then some .csi else some .harqAck

def resetId (p : PucchInfo) : PucchInfo := { p with id := MAX_PUCCH_PDUS_PER_SLOT }

end PucchInfo

/-- The place of the last element with `P`. -/
def lastIdx? {α : Type*} (P : α → Bool) : List α → Option Nat
  | [] => none
  | a :: l => ((lastIdx? P l).map (· + 1)).or (if P a then some 0 else none)

/-- `pucch_existing_pdus_handler`, with places in the list for the pointers. -/
structure PucchExistingPdus where
  srPdu : Option Nat
  harqPdu : Option Nat
  csiPdu : Option Nat
  pdusCnt : Nat
  pduId : Nat
deriving DecidableEq

namespace PucchExistingPdus

section Handler

variable {cell : PucchCellConfiguration} (ue : UePucchConfig cell) (rnti : Nat)

def pduOfType (type : PucchGrantType) (p : PucchInfo) : Bool :=
  p.isDedicatedOf rnti && p.existingType ue == some type

def resetIds (pucchs : List PucchInfo) : List PucchInfo :=
  pucchs.map fun p => if p.isDedicatedOf rnti then p.resetId else p

def create (pucchs : List PucchInfo) : Except PucchAbort PucchExistingPdus :=
  if pucchs.any fun p => p.isDedicatedOf rnti && (p.existingType ue).isNone then .error .invalidUciBits
  else .ok ⟨lastIdx? (pduOfType ue rnti .sr) pucchs, lastIdx? (pduOfType ue rnti .harqAck) pucchs,
    lastIdx? (pduOfType ue rnti .csi) pucchs, pucchs.countP (PucchInfo.isDedicatedOf rnti), 0⟩

end Handler

variable (h : PucchExistingPdus) (pucchs : List PucchInfo)

def setBits (bits : PucchUciBits → PucchUciBits) (i : Nat) : List PucchInfo :=
  pucchs.modify i fun p => { p with uciBits := bits p.uciBits, id := h.pduId }

/-- `get_next_pdu`: the place of the PDU. The pointer to a PDU that is given out is not cleared. -/
def getNextPdu : Except PucchAbort (Nat × List PucchInfo × PucchExistingPdus) :=
  if h.pdusCnt = 0 then
    if pucchs.length < MAX_PUCCH_PDUS_PER_SLOT then
      .ok (pucchs.length, pucchs ++ [{ PucchInfo.fresh with id := h.pduId }], { h with pduId := h.pduId + 1 })
    else .error .pucchListFull
  else
    match (h.csiPdu.or h.srPdu).or h.harqPdu with
    | some i =>
      .ok (i, h.setBits pucchs id i, { h with pdusCnt := h.pdusCnt - 1, pduId := h.pduId + 1 })
    | none => .error .nullResource

def removeUnusedPdus (rnti : Nat) : List PucchInfo :=
  if h.pdusCnt = 0 then pucchs
  else pucchs.filter fun p => !(p.isDedicatedOf rnti && decide (MAX_PUCCH_PDUS_PER_SLOT ≤ p.id))

def updateSrPduBits (srBits : SrNofBits) (harqAckBits : Nat) : List PucchInfo × PucchExistingPdus :=
  match h.srPdu with
  | none => (pucchs, h)
  | some i =>
    (h.setBits pucchs (fun b => ⟨harqAckBits, srBits, b.csiPart1NofBits⟩) i,
      { h with srPdu := none, pdusCnt := h.pdusCnt - 1, pduId := h.pduId + 1 })

/-- `update_csi_pdu_bits`, of the PDU at place `i`. -/
def updateCsiPduBits (i : Nat) (csiPart1Bits : Nat) (srBits : SrNofBits) : List PucchInfo × PucchExistingPdus :=
  (h.setBits pucchs (fun b => ⟨b.harqAckNofBits, srBits, csiPart1Bits⟩) i,
    { h with csiPdu := none, pdusCnt := h.pdusCnt - 1, pduId := h.pduId + 1 })

/-- `update_harq_pdu_bits`, of the PDU at place `i`. -/
def updateHarqPduBits {cell : PucchCellConfiguration} (ue : UePucchConfig cell) (i : Nat) (bits : PucchUciBits)
    (r : PucchResource) : List PucchInfo × PucchExistingPdus :=
  let update (p : PucchInfo) : PucchInfo :=
    match p.format with
    | .format2 => { p.onResource r (ue.harqNofPrbs r bits.getTotalBits) with uciBits := bits }
    | .format3 => { p.onResource r (ue.harqNofPrbs r bits.getTotalBits) with uciBits := bits }
    | .format4 => { p with uciBits := bits }
    | _ => { p with uciBits := ⟨bits.harqAckNofBits, bits.srBits, p.uciBits.csiPart1NofBits⟩ }
  (pucchs.modify i fun p => { update p with id := h.pduId },
    { h with harqPdu := none, pdusCnt := h.pdusCnt - 1, pduId := h.pduId + 1 })

end PucchExistingPdus

section Allocation

variable {cell : PucchCellConfiguration} (ue : UePucchConfig cell) (rnti : Nat)

/-- The first part of `allocate_grants`: an existing CSI or else SR grant keeps its PDU. -/
inductive ReusedPdu where
  | none
  | csi
  | sr
deriving DecidableEq

def reusedPdu (h : PucchExistingPdus) (existing grantsToTx : PucchGrantList) : ReusedPdu :=
  if grantsToTx.csiResource.isSome ∧ existing.csiResource.isSome ∧ h.csiPdu.isSome then .csi
  else if grantsToTx.srResource.isSome ∧ existing.srResource.isSome ∧ h.srPdu.isSome then .sr
  else .none

def PucchGrant.checkFormat (r : PucchGrant) : Except PucchAbort Unit :=
  match r.type with
  | .csi => if r.format.isFormat0Or1 then .error .invalidFormat else .ok ()
  | .sr => if r.format.isFormat0Or1 then .ok () else .error .invalidFormat
  | .harqAck => .ok ()

def updateReusedPdu (pucchs : List PucchInfo) (h : PucchExistingPdus) (grantsToTx : PucchGrantList) :
    ReusedPdu → Except PucchAbort (List PucchInfo × PucchExistingPdus)
  | .none => .ok (pucchs, h)
  | .csi =>
    match grantsToTx.csiResource, h.csiPdu with
    | some r, some i => do
      r.checkFormat
      pure (h.updateCsiPduBits pucchs i r.bits.csiPart1NofBits r.bits.srBits)
    | _, _ => .error .nullResource
  | .sr =>
    match grantsToTx.srResource with
    | some r => do
      r.checkFormat
      pure (h.updateSrPduBits pucchs r.bits.srBits r.bits.harqAckNofBits)
    | none => .error .nullResource

def grantsToFill (grantsToTx : PucchGrantList) (reused : ReusedPdu) : List PucchGrant :=
  (if reused = .csi then [] else grantsToTx.csiResource.toList) ++
    (if reused = .sr then [] else grantsToTx.srResource.toList) ++ grantsToTx.harqResource.toList

def fillNextPdu (p : List PucchInfo × PucchExistingPdus) (r : PucchGrant) :
    Except PucchAbort (List PucchInfo × PucchExistingPdus) := do
  r.checkFormat
  if r.type = .csi ∧ r.bits.harqAckNofBits ≠ 0 then .error .invalidUciBits
  else
    let next ← p.2.getNextPdu p.1
    match next.2.1[next.1]? with
    | none => .error .nullResource
    | some pdu =>
      let filled ← pdu.fillDedPdu ue r.pucchResCfg r.bits rnti (r.type = .harqAck)
      pure (next.2.1.set next.1 filled, next.2.2)

def allocatePdus (pucchs : List PucchInfo) (h : PucchExistingPdus) (existing grantsToTx : PucchGrantList) :
    Except PucchAbort (List PucchInfo) := do
  let updated ← updateReusedPdu pucchs h grantsToTx (reusedPdu h existing grantsToTx)
  let filled ← (grantsToFill grantsToTx (reusedPdu h existing grantsToTx)).foldlM (fillNextPdu ue rnti) updated
  pure (filled.2.removeUnusedPdus filled.1 rnti)

end Allocation

section Pdus

variable {cell : PucchCellConfiguration} {ue : UePucchConfig cell} {rnti : Nat}

lemma PucchExistingPdus.create_eq_ok {pucchs : List PucchInfo} {h : PucchExistingPdus}
    (hc : PucchExistingPdus.create ue rnti pucchs = .ok h) :
    h = ⟨lastIdx? (pduOfType ue rnti .sr) pucchs, lastIdx? (pduOfType ue rnti .harqAck) pucchs,
      lastIdx? (pduOfType ue rnti .csi) pucchs, pucchs.countP (PucchInfo.isDedicatedOf rnti), 0⟩ := by
  unfold create at hc
  split at hc
  · cases hc
  · exact (Except.ok.inj hc).symm

@[simp] lemma PucchExistingPdus.length_resetIds (pucchs : List PucchInfo) :
    (resetIds rnti pucchs).length = pucchs.length := by
  simp [resetIds]

lemma PucchExistingPdus.length_removeUnusedPdus (h : PucchExistingPdus) (pucchs : List PucchInfo) :
    (h.removeUnusedPdus pucchs rnti).length ≤ pucchs.length := by
  unfold removeUnusedPdus
  split
  · exact Nat.le_refl _
  · exact List.length_filter_le _ _

lemma PucchExistingPdus.getNextPdu_length {h : PucchExistingPdus} {pucchs : List PucchInfo}
    {next : Nat × List PucchInfo × PucchExistingPdus} (hn : h.getNextPdu pucchs = .ok next) :
    next.2.1.length - pucchs.length = 1 - h.pdusCnt ∧ next.2.2.pdusCnt = h.pdusCnt - 1 := by
  unfold getNextPdu at hn
  split at hn
  case isTrue hcnt =>
    split at hn
    · obtain rfl := Except.ok.inj hn
      simp [hcnt]
    · cases hn
  case isFalse hcnt =>
    split at hn
    · obtain rfl := Except.ok.inj hn
      simp only [setBits, List.length_modify, Nat.sub_self, and_true]
      omega
    · cases hn

lemma fillNextPdu_length {p q : List PucchInfo × PucchExistingPdus} {r : PucchGrant}
    (hf : fillNextPdu ue rnti p r = .ok q) :
    q.1.length ≤ p.1.length + (1 - p.2.pdusCnt) ∧ q.2.pdusCnt = p.2.pdusCnt - 1 := by
  obtain ⟨_, -, hf⟩ := bind_eq_ok.mp hf
  split at hf
  · cases hf
  obtain ⟨next, hn, hf⟩ := bind_eq_ok.mp hf
  obtain ⟨hlen, hcnt⟩ := PucchExistingPdus.getNextPdu_length hn
  split at hf
  · cases hf
  obtain ⟨filled, -, hf⟩ := bind_eq_ok.mp hf
  obtain rfl := Except.ok.inj hf
  refine ⟨?_, hcnt⟩
  rw [List.length_set]
  omega

lemma foldlM_fillNextPdu_length {l : List PucchGrant} {p q : List PucchInfo × PucchExistingPdus}
    (hf : l.foldlM (fillNextPdu ue rnti) p = .ok q) : q.1.length ≤ p.1.length + (l.length - p.2.pdusCnt) := by
  induction l generalizing p with
  | nil =>
    obtain rfl := Except.ok.inj hf
    simp
  | cons r l ih =>
    rw [List.foldlM_cons] at hf
    obtain ⟨p', hp', hf⟩ := bind_eq_ok.mp hf
    obtain ⟨hlen, hcnt⟩ := fillNextPdu_length hp'
    have hrest := ih hf
    rw [List.length_cons]
    omega

variable {existing grantsToTx : PucchGrantList}

lemma reusedPdu_eq_csi {h : PucchExistingPdus} (hr : reusedPdu h existing grantsToTx = .csi) :
    grantsToTx.csiResource.isSome ∧ existing.csiResource.isSome ∧ h.csiPdu.isSome := by
  unfold reusedPdu at hr
  split at hr
  case isTrue hc => exact hc
  case isFalse => split at hr <;> cases hr

lemma reusedPdu_eq_sr {h : PucchExistingPdus} (hr : reusedPdu h existing grantsToTx = .sr) :
    grantsToTx.srResource.isSome ∧ existing.srResource.isSome ∧ h.srPdu.isSome := by
  unfold reusedPdu at hr
  split at hr
  case isTrue => cases hr
  case isFalse =>
    split at hr
    case isTrue hs => exact hs
    case isFalse => cases hr

lemma length_grantsToFill (grantsToTx : PucchGrantList) (reused : ReusedPdu) :
    (grantsToFill grantsToTx reused).length = grantsToTx.getNofGrants -
      (if reused = .csi ∧ grantsToTx.csiResource.isSome ∨ reused = .sr ∧ grantsToTx.srResource.isSome then 1 else 0) := by
  obtain ⟨harq, sr, csi⟩ := grantsToTx
  cases reused <;> cases harq <;> cases sr <;> cases csi <;>
    simp [grantsToFill, PucchGrantList.getNofGrants, PucchGrantList.toList]

lemma updateReusedPdu_length {pucchs : List PucchInfo} {h : PucchExistingPdus}
    {updated : List PucchInfo × PucchExistingPdus}
    (hu : updateReusedPdu pucchs h grantsToTx (reusedPdu h existing grantsToTx) = .ok updated) :
    updated.1.length = pucchs.length ∧
      (grantsToFill grantsToTx (reusedPdu h existing grantsToTx)).length - updated.2.pdusCnt ≤
        grantsToTx.getNofGrants - h.pdusCnt := by
  have hfill := length_grantsToFill grantsToTx (reusedPdu h existing grantsToTx)
  cases hr : reusedPdu h existing grantsToTx with
  | none =>
    rw [hr] at hu hfill
    obtain rfl := Except.ok.inj hu
    simp only [reduceCtorEq, false_and, or_self, if_false] at hfill
    refine ⟨rfl, ?_⟩
    dsimp only
    omega
  | csi =>
    obtain ⟨hcsi, -, hpdu⟩ := reusedPdu_eq_csi hr
    rw [hr] at hu hfill
    obtain ⟨r, hr'⟩ := Option.isSome_iff_exists.mp hcsi
    obtain ⟨i, hi⟩ := Option.isSome_iff_exists.mp hpdu
    simp only [updateReusedPdu, hr', hi] at hu
    obtain ⟨_, -, hu⟩ := bind_eq_ok.mp hu
    obtain rfl := Except.ok.inj hu
    simp only [hcsi, true_and, true_or, if_true] at hfill
    simp only [PucchExistingPdus.updateCsiPduBits, PucchExistingPdus.setBits, List.length_modify, true_and]
    omega
  | sr =>
    obtain ⟨hsr, -, hpdu⟩ := reusedPdu_eq_sr hr
    rw [hr] at hu hfill
    obtain ⟨r, hr'⟩ := Option.isSome_iff_exists.mp hsr
    obtain ⟨i, hi⟩ := Option.isSome_iff_exists.mp hpdu
    simp only [updateReusedPdu, hr', PucchExistingPdus.updateSrPduBits, hi] at hu
    obtain ⟨_, -, hu⟩ := bind_eq_ok.mp hu
    obtain rfl := Except.ok.inj hu
    simp only [hsr, and_true, or_true, if_true] at hfill
    simp only [PucchExistingPdus.setBits, List.length_modify, true_and]
    omega

/-- No more PDUs are added than the grants need beyond those of the UE. -/
theorem allocatePdus_length {pucchs pdus : List PucchInfo} {h : PucchExistingPdus}
    (ha : allocatePdus ue rnti pucchs h existing grantsToTx = .ok pdus) :
    pdus.length ≤ pucchs.length + (grantsToTx.getNofGrants - h.pdusCnt) := by
  obtain ⟨updated, hu, ha⟩ := bind_eq_ok.mp ha
  obtain ⟨filled, hf, ha⟩ := bind_eq_ok.mp ha
  obtain rfl := Except.ok.inj ha
  obtain ⟨hlen, hleft⟩ := updateReusedPdu_length hu
  have hfill := foldlM_fillNextPdu_length hf
  have hremove := @PucchExistingPdus.length_removeUnusedPdus rnti filled.2 filled.1
  omega

end Pdus

end OwlsRan.Sched
