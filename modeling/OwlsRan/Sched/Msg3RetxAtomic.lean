import Mathlib.Order.CompleteBooleanAlgebra
import Mathlib.Order.CompletePartialOrder
import OwlsRan.Sched.Msg3Retx
import OwlsRan.Sched.PdcchAllocation

/-!
# All or nothing in the retransmission of Msg3

A resource that can be used decides the outcome: a PDCCH with a free candidate is followed by the check of the DL
symbols, which leaves it behind; and a PDCCH without one is searched for, which may leave marks in the grid.
-/

namespace OwlsRan.Sched

open OwlsRan.Adt OwlsRan.Lib OwlsRan.Ran

namespace PdcchSlot

structure Treed (s : PdcchSlot) : Prop where
  length_eq : s.dfsTree.length = s.records.length
  candidates : ∀ r ∈ s.records, 0 < r.nofCandidates
  crbs : ∀ r ∈ s.records, ∀ k < r.nofCandidates, r.crbs k ≠ []

def HasFree (s : PdcchSlot) (request : PdcchRequest) : Prop :=
  ∃ k < request.pdcchCandidates.length,
    Disjoint ((⟨.ul s.ulPdcchs.length, request⟩ : AllocRecord).elements k) s.dlResGrid

def IsStuck (s : PdcchSlot) : Prop := DfsState.Stuck s.records ⟨s.dlResGrid, s.dfsTree⟩

def withGrid (s : PdcchSlot) (grid : Finset ResourceElement) : PdcchSlot := { s with dlResGrid := grid }

section Helper

variable {s : PdcchSlot} {request : PdcchRequest}

lemma Treed.elements_nonempty (h : s.Treed) : ∀ r ∈ s.records, ∀ k < r.nofCandidates, (r.elements k).Nonempty := by
  intro r hr k hk
  obtain ⟨crb, hcrb⟩ := List.exists_mem_of_ne_nil _ (h.crbs r hr k hk)
  refine ⟨⟨r.request.numerology, 0, crb⟩, Finset.mem_image.mpr ⟨(0, crb), ?_, rfl⟩⟩
  exact Finset.mem_product.mpr ⟨Finset.mem_range.mpr r.request.duration_pos, List.mem_toFinset.mpr hcrb⟩

lemma allocUlPdcchHelper_of_free (hroom : s.ulPdcchs.length < MAX_UL_PDCCH_PDUS_PER_SLOT) (hfree : s.HasFree request) :
    ∃ s' ncce, s.allocUlPdcchHelper request = .ok (true, s') ∧ s'.ulPdcchs = s.ulPdcchs ++ [ncce] ∧
      s'.dlPdcchs = s.dlPdcchs ∧ s'.records = s.records ++ [⟨.ul s.ulPdcchs.length, request⟩] := by
  let s₁ : PdcchSlot := { s with ulPdcchs := s.ulPdcchs ++ [0] }
  obtain ⟨k, hk, hdisj, halloc⟩ := allocPdcch_of_free (s := s₁) (.ul s.ulPdcchs.length) hfree
  unfold allocUlPdcchHelper
  rw [if_pos hroom, halloc]
  exact ⟨_, request.pdcchCandidates.getD k 0, rfl, by simp [s₁, setNcce], rfl, rfl⟩

lemma allocUlPdcchHelper_of_stuck (hroom : s.ulPdcchs.length < MAX_UL_PDCCH_PDUS_PER_SLOT) (htree : s.Treed)
    (hfree : ¬ s.HasFree request) (hstuck : s.IsStuck) : s.allocUlPdcchHelper request = .ok (false, s) := by
  let s₁ : PdcchSlot := { s with ulPdcchs := s.ulPdcchs ++ [0] }
  have hnone : ∀ k < request.pdcchCandidates.length,
      ¬Disjoint ((⟨.ul s.ulPdcchs.length, request⟩ : AllocRecord).elements k) s₁.dlResGrid :=
    fun k hk hdisj => hfree ⟨k, hk, hdisj⟩
  have halloc := allocPdcch_of_stuck (s := s₁) (.ul s.ulPdcchs.length) htree.length_eq htree.candidates hstuck hnone
  unfold allocUlPdcchHelper
  rw [if_pos hroom, halloc]
  simp [s₁]

lemma allocUlPdcchHelper_of_none (hroom : s.ulPdcchs.length < MAX_UL_PDCCH_PDUS_PER_SLOT) (htree : s.Treed)
    (hfree : ¬ s.HasFree request) :
    ∃ grid, s.allocUlPdcchHelper request = .ok (false, s.withGrid grid) ∧ s.dlResGrid ⊆ grid ∧
      (¬ s.IsStuck → ¬ grid ⊆ s.dlResGrid) := by
  let r : AllocRecord := ⟨.ul s.ulPdcchs.length, request⟩
  let d : DfsState := ⟨s.dlResGrid, s.dfsTree⟩
  have hnone : ∀ k < r.nofCandidates, ¬Disjoint (r.elements k) d.dlResGrid := fun k hk hdisj => hfree ⟨k, hk, hdisj⟩
  obtain ⟨hfalse, hsub⟩ := @DfsState.allocLoop_of_none s.records r d (dfsBound s.records + 1) false hnone
  refine ⟨(d.allocLoop s.records r (dfsBound s.records + 1) false).2.2.dlResGrid, ?_, hsub, fun hmove hback => ?_⟩
  · unfold allocUlPdcchHelper
    rw [if_pos hroom]
    unfold allocPdcch
    dsimp only
    cases hloop : d.allocLoop s.records r (dfsBound s.records + 1) false with
    | mk found p =>
      rw [hloop] at hfalse
      obtain rfl : found = false := hfalse
      dsimp only
      rw [List.dropLast_concat]
      rfl
  · have hbound := length_lt_dfsBound htree.candidates
    have hlen := htree.length_eq
    have hgrows := @DfsState.getNextDfs_grows s.records d (dfsBound s.records) hmove (by simp only [d]; omega)
      (by simp only [d]; omega) htree.elements_nonempty
    apply hgrows
    refine Finset.Subset.trans ?_ hback
    have halloc : d.allocDfsNode r 0 = none := DfsState.allocDfsNode_eq_none.mpr fun k _ hk => hnone k hk
    have hnext := @DfsState.getNextDfs_subset s.records d (dfsBound s.records)
    rw [DfsState.allocLoop, halloc]
    cases hd' : d.getNextDfs s.records (dfsBound s.records) with
    | mk found d' =>
      rw [hd'] at hnext
      cases found with
      | false => exact Finset.Subset.refl _
      | true =>
        have hnone' : ∀ k < r.nofCandidates, ¬Disjoint (r.elements k) d'.dlResGrid :=
          fun k hk hdisj => hnone k hk (Finset.disjoint_of_subset_right hnext hdisj)
        exact (DfsState.allocLoop_of_none (dfsBound s.records) true hnone').2

end Helper

end PdcchSlot

namespace CellHarqRepository

lemma handleNewRetx_progress {cfg : HarqConfig} {s : CellHarqRepository Unit} {h : HarqRef} (slTx slAck : SlotPoint)
    (hI : s.HarqInv cfg) (hh : s.hasHarq h) (hst : (s.harq h).status = .pendingRetx) :
    ∃ t, s.handleNewRetx cfg h slTx slAck = .ok (t, true) := by
  obtain ⟨s₁, hpop⟩ := popPendingRetx_progress ((hI.linked h).pending.mpr ⟨hh, hst⟩)
  have h₁ := popPendingRetx_spec hI.nodup.pending hpop
  have hwheel : h ∈ s₁.harqTimeoutWheel (cfg.wheelIdx (s₁.harq h).slotTimeout) := by
    rw [h₁.wheel, harq_congr h₁.ues]
    exact hI.in_wheel hh (by rw [hst]; exact HarqState.noConfusion)
  obtain ⟨s₂, htimeout⟩ := popTimeout_progress hwheel
  refine ⟨s₂.startRetx cfg h slTx slAck, ?_⟩
  unfold handleNewRetx
  rw [if_pos hst, hpop]
  change (s₁.popTimeout cfg h >>= fun s => pure (s.startRetx cfg h slTx slAck, true)) = _
  rw [htimeout]
  rfl

end CellHarqRepository

namespace Msg3Resources

variable (cfg : Msg3Config) (slot : SlotPoint) (tcRnti : Nat) (h : HarqRef)

/-- The HARQ process has a pending retransmission of a Msg3, in containers that are consistent. -/
structure Pending (s : Msg3Resources) : Prop where
  harqInv : s.harqs.HarqInv cfg.harq
  hasHarq : s.harqs.hasHarq h
  status : (s.harqs.harq h).status = .pendingRetx
  dciType : (s.grantParams h).dciCfgType = .tcRntiF00
  treed : s.pdcch.Treed
  ulPdcchs : s.ulPdcchs.length = s.pdcch.ulPdcchs.length

/-- One complete retransmission, on a resource that can be used. -/
structure Retransmitted (s s' : Msg3Resources) (td : PuschTimeDomainResourceAllocation) (i : Nat) : Prop where
  mem : cfg.puschTdAllocList[i]? = some td
  canUse : s.canUse cfg slot h td = true
  pdcch : ∃ ncce, s'.pdcch.ulPdcchs = s.pdcch.ulPdcchs ++ [ncce]
  dlPdcchs : s'.pdcch.dlPdcchs = s.pdcch.dlPdcchs
  dci : s'.ulPdcchs = s.ulPdcchs ++
    [⟨tcRnti, some (cfg.buildDciF00TcRnti (cfg.msg3VrbToCrb (s.grantParams h).rbs) i (s.grantParams h).mcs MSG3_RV)⟩]
  pusch : ∃ info : Msg3SchedInfo, info.puschCfg.rnti = tcRnti ∧ info.puschCfg.rbs = (s.grantParams h).rbs ∧
    info.puschCfg.symbols = td.symbols ∧ td.symbols.length = (s.grantParams h).nofSymbols ∧
    info.puschCfg.newData = false ∧ info.k2 = td.k2 ∧
    s'.ulSlots = Function.update s.ulSlots (cfg.puschDelay td)
      ⟨(s.ulSlot cfg td).puschs ++ [info], (s.ulSlot cfg td).ulResGrid ∪ s.grantOf cfg h td⟩
  harq : (s'.harqs.harq h).status = .waitingAck ∧ (s'.harqs.harq h).slotTx = slot.add (cfg.puschDelay td) ∧
    (s'.harqs.harq h).slotAck = slot.add (cfg.puschDelay td)
  otherHarqs : CellHarqRepository.OnlyMoves h s.harqs s'.harqs

def firstUsable (s : Msg3Resources) : Option (PuschTimeDomainResourceAllocation × Nat) :=
  cfg.puschTdAllocList.zipIdx.find? fun p => s.canUse cfg slot h p.1

/-- The condition on the resources. When an attempt gets as far as the PDCCH, one of its candidates is free, the CORESET
has DL symbols, and the TBS is the one of the first transmission; or no candidate is free and no PDCCH can be moved. -/
def Condition (s : Msg3Resources) : Prop :=
  cfg.isDlEnabled slot = true → s.pdcch.ulPdcchs.length < MAX_UL_PDCCH_PDUS_PER_SLOT →
    cfg.isPdcchMonitoringActive slot = true → ∀ td i, s.firstUsable cfg slot h = some (td, i) →
      (s.pdcch.HasFree cfg.pdcchRequest →
        cfg.raFirstSymbolIndex + cfg.pdcchRequest.duration ≤ cfg.nofDlSymbolPerSlot slot ∧
          (s.grantParams h).tbsBytes = (cfg.msg3Pusch i).tbSizeBytes) ∧
      (¬ s.pdcch.HasFree cfg.pdcchRequest → s.pdcch.IsStuck)

section Attempts

variable {cfg slot tcRnti h} {s : Msg3Resources} {td : PuschTimeDomainResourceAllocation} {i : Nat}
  {l rest : List (PuschTimeDomainResourceAllocation × Nat)}

def withDlGrid (s : Msg3Resources) (grid : Finset ResourceElement) : Msg3Resources :=
  { s with pdcch := s.pdcch.withGrid grid }

lemma retxLoop_of_false {s' : Msg3Resources} (huse : s.canUse cfg slot h td = true)
    (halloc : s.allocUlPdcchCommon cfg slot tcRnti = .ok (false, s')) :
    retxLoop cfg slot tcRnti h ((td, i) :: rest) s = retxLoop cfg slot tcRnti h rest s' := by
  rw [retxLoop, if_neg (by rw [huse]; exact Bool.noConfusion), halloc]

lemma retxLoop_of_unusable (huse : s.canUse cfg slot h td = false) :
    retxLoop cfg slot tcRnti h ((td, i) :: rest) s = retxLoop cfg slot tcRnti h rest s := by
  rw [retxLoop, if_pos huse]

lemma retxLoop_append (hall : ∀ p ∈ l, s.canUse cfg slot h p.1 = false) :
    retxLoop cfg slot tcRnti h (l ++ rest) s = retxLoop cfg slot tcRnti h rest s := by
  induction l with
  | nil => rfl
  | cons p l ih =>
    obtain ⟨td, i⟩ := p
    rw [List.cons_append, retxLoop_of_unusable (hall (td, i) List.mem_cons_self)]
    exact ih fun p hp => hall p (List.mem_cons_of_mem _ hp)

lemma retxLoop_unchanged (halloc : s.allocUlPdcchCommon cfg slot tcRnti = .ok (false, s)) :
    retxLoop cfg slot tcRnti h l s = .ok s := by
  induction l with
  | nil => rfl
  | cons p l ih =>
    obtain ⟨td, i⟩ := p
    cases huse : s.canUse cfg slot h td with
    | false => rw [retxLoop_of_unusable huse, ih]
    | true => rw [retxLoop_of_false huse halloc, ih]

lemma allocUlPdcchCommon_of_none (hroom : s.pdcch.ulPdcchs.length < MAX_UL_PDCCH_PDUS_PER_SLOT)
    (htree : s.pdcch.Treed) (hfree : ¬ s.pdcch.HasFree cfg.pdcchRequest) :
    ∃ grid, s.allocUlPdcchCommon cfg slot tcRnti = .ok (false, s.withDlGrid grid) ∧ s.pdcch.dlResGrid ⊆ grid ∧
      (cfg.isPdcchMonitoringActive slot = true → ¬ s.pdcch.IsStuck → ¬ grid ⊆ s.pdcch.dlResGrid) := by
  unfold allocUlPdcchCommon
  cases hmon : cfg.isPdcchMonitoringActive slot with
  | false => exact ⟨s.pdcch.dlResGrid, rfl, Finset.Subset.refl _, fun htrue => absurd htrue Bool.false_ne_true⟩
  | true =>
    obtain ⟨grid, hhelper, hsub, hgrows⟩ := PdcchSlot.allocUlPdcchHelper_of_none hroom htree hfree
    rw [hhelper]
    exact ⟨grid, rfl, hsub, fun _ => hgrows⟩

lemma retxLoop_of_none (hroom : s.pdcch.ulPdcchs.length < MAX_UL_PDCCH_PDUS_PER_SLOT) (htree : s.pdcch.Treed)
    (hfree : ¬ s.pdcch.HasFree cfg.pdcchRequest) :
    ∃ grid, retxLoop cfg slot tcRnti h l s = .ok (s.withDlGrid grid) ∧ s.pdcch.dlResGrid ⊆ grid := by
  induction l generalizing s with
  | nil => exact ⟨s.pdcch.dlResGrid, rfl, Finset.Subset.refl _⟩
  | cons p l ih =>
    obtain ⟨td, i⟩ := p
    cases huse : s.canUse cfg slot h td with
    | false =>
      rw [retxLoop_of_unusable huse]
      exact ih hroom htree hfree
    | true =>
      obtain ⟨grid, halloc, hsub, -⟩ :=
        @allocUlPdcchCommon_of_none cfg slot tcRnti s hroom htree hfree
      have hfree' : ¬ (s.withDlGrid grid).pdcch.HasFree cfg.pdcchRequest := by
        rintro ⟨k, hk, hdisj⟩
        exact hfree ⟨k, hk, Finset.disjoint_of_subset_right hsub hdisj⟩
      have htree' : (s.withDlGrid grid).pdcch.Treed := ⟨htree.length_eq, htree.candidates, htree.crbs⟩
      obtain ⟨grid', hloop, hsub'⟩ := ih (s := s.withDlGrid grid) hroom htree' hfree'
      rw [retxLoop_of_false huse halloc, hloop]
      exact ⟨grid', rfl, hsub.trans hsub'⟩

lemma modify_length_append {α : Type} (l : List α) (a : α) (f : α → α) :
    (l ++ [a]).modify ((l ++ [a]).length - 1) f = l ++ [f a] := by
  rw [List.length_append, List.length_singleton, Nat.add_sub_cancel]
  induction l with
  | nil => rfl
  | cons b l ih => exact congrArg (b :: ·) ih

lemma allocUlPdcchCommon_of_free (hmon : cfg.isPdcchMonitoringActive slot = true)
    (hroom : s.pdcch.ulPdcchs.length < MAX_UL_PDCCH_PDUS_PER_SLOT) (hfree : s.pdcch.HasFree cfg.pdcchRequest) :
    ∃ pdcch ncce, s.allocUlPdcchCommon cfg slot tcRnti =
        .ok (true, { s with pdcch, ulPdcchs := s.ulPdcchs ++ [⟨tcRnti, none⟩] }) ∧
      pdcch.ulPdcchs = s.pdcch.ulPdcchs ++ [ncce] ∧ pdcch.dlPdcchs = s.pdcch.dlPdcchs := by
  obtain ⟨pdcch, ncce, hhelper, hul, hdl, -⟩ := PdcchSlot.allocUlPdcchHelper_of_free hroom hfree
  refine ⟨pdcch, ncce, ?_, hul, hdl⟩
  unfold allocUlPdcchCommon
  rw [if_pos hmon, hhelper]

section Allocated

variable {pdcch : PdcchSlot}

lemma retxLoop_of_short (huse : s.canUse cfg slot h td = true)
    (halloc : s.allocUlPdcchCommon cfg slot tcRnti =
      .ok (true, { s with pdcch, ulPdcchs := s.ulPdcchs ++ [⟨tcRnti, none⟩] }))
    (hshort : cfg.nofDlSymbolPerSlot slot < cfg.raFirstSymbolIndex + cfg.pdcchRequest.duration) :
    retxLoop cfg slot tcRnti h ((td, i) :: rest) s =
      .ok { s with pdcch, ulPdcchs := s.ulPdcchs ++ [⟨tcRnti, none⟩] } := by
  rw [retxLoop, if_neg (by rw [huse]; exact Bool.noConfusion), halloc]
  dsimp only
  rw [if_pos hshort]

def taken (cfg : Msg3Config) (tcRnti : Nat) (h : HarqRef) (s : Msg3Resources) (td : PuschTimeDomainResourceAllocation)
    (pdcch : PdcchSlot) (harqs : CellHarqRepository Unit) : Msg3Resources where
  pdcch := pdcch
  ulPdcchs := s.ulPdcchs ++ [⟨tcRnti, none⟩]
  ulSlots := fun d =>
    if d = cfg.puschDelay td then { s.ulSlot cfg td with ulResGrid := (s.ulSlot cfg td).ulResGrid ∪ s.grantOf cfg h td }
    else s.ulSlots d
  harqs := harqs
  grantParams := s.grantParams

def retxDci (cfg : Msg3Config) (h : HarqRef) (s : Msg3Resources) (i : Nat) : DciF00TcRnti :=
  cfg.buildDciF00TcRnti (cfg.msg3VrbToCrb (s.grantParams h).rbs) i (s.grantParams h).mcs MSG3_RV

def filled (cfg : Msg3Config) (tcRnti : Nat) (h : HarqRef) (s : Msg3Resources) (td : PuschTimeDomainResourceAllocation)
    (i : Nat) (pdcch : PdcchSlot) (harqs : CellHarqRepository Unit) : Msg3Resources where
  pdcch := pdcch
  ulPdcchs := s.ulPdcchs ++ [⟨tcRnti, some (s.retxDci cfg h i)⟩]
  ulSlots := Function.update s.ulSlots (cfg.puschDelay td)
    ⟨(s.ulSlot cfg td).puschs ++
      [⟨cfg.raSearchSpaceId, td.k2, (harqs.harq h).nofRetxs, s.retxPusch cfg tcRnti h i⟩],
      (s.ulSlot cfg td).ulResGrid ∪ s.grantOf cfg h td⟩
  harqs := harqs
  grantParams := s.grantParams

variable {harqs : CellHarqRepository Unit}

lemma retxLoop_of_long (huse : s.canUse cfg slot h td = true)
    (halloc : s.allocUlPdcchCommon cfg slot tcRnti =
      .ok (true, { s with pdcch, ulPdcchs := s.ulPdcchs ++ [⟨tcRnti, none⟩] }))
    (hlong : cfg.raFirstSymbolIndex + cfg.pdcchRequest.duration ≤ cfg.nofDlSymbolPerSlot slot)
    (hretx : s.harqs.handleNewRetx cfg.harq h (slot.add (cfg.puschDelay td)) (slot.add (cfg.puschDelay td)) =
      .ok (harqs, true)) :
    retxLoop cfg slot tcRnti h ((td, i) :: rest) s = (s.taken cfg tcRnti h td pdcch harqs).fillRetx cfg tcRnti h i td := by
  rw [retxLoop, if_neg (by rw [huse]; exact Bool.noConfusion), halloc]
  dsimp only
  rw [if_neg (Nat.not_lt.mpr hlong)]
  erw [hretx]
  rfl

lemma fillRetx_taken :
    (s.taken cfg tcRnti h td pdcch harqs).fillRetx cfg tcRnti h i td =
      (s.filled cfg tcRnti h td i pdcch harqs).saveGrantParams h (s.retxPusch cfg tcRnti h i) := by
  let info : Msg3SchedInfo := ⟨cfg.raSearchSpaceId, td.k2, (harqs.harq h).nofRetxs, s.retxPusch cfg tcRnti h i⟩
  let t := (s.taken cfg tcRnti h td pdcch harqs).setDci (s.retxDci cfg h i)
  have hul : t.ulSlot cfg td = ⟨(s.ulSlot cfg td).puschs, (s.ulSlot cfg td).ulResGrid ∪ s.grantOf cfg h td⟩ := if_pos rfl
  have hfilled : t.setUlSlot (cfg.puschDelay td) { t.ulSlot cfg td with puschs := (t.ulSlot cfg td).puschs ++ [info] } =
      s.filled cfg tcRnti h td i pdcch harqs := by
    rw [hul]
    unfold setUlSlot filled
    rw [Msg3Resources.mk.injEq]
    refine ⟨rfl, modify_length_append _ _ _, ?_, rfl, rfl⟩
    funext d
    rw [Function.update_apply]
    split
    case isTrue => rfl
    case isFalse hd => exact if_neg hd
  rw [← hfilled]
  rfl

lemma saveGrantParams_eq_ok {pusch : Msg3PuschInformation} (htype : (s.grantParams h).dciCfgType = .tcRntiF00)
    (htbs : (s.grantParams h).tbsBytes = pusch.tbSizeBytes) :
    ∃ grantParams, s.saveGrantParams h pusch = .ok { s with grantParams } := by
  unfold saveGrantParams
  dsimp only
  rw [if_neg (not_not.mpr htype), if_neg (not_not.mpr htbs)]
  exact ⟨_, rfl⟩

lemma saveGrantParams_eq_error {pusch : Msg3PuschInformation} (htype : (s.grantParams h).dciCfgType = .tcRntiF00)
    (htbs : (s.grantParams h).tbsBytes ≠ pusch.tbSizeBytes) : s.saveGrantParams h pusch = .error .tbsChanged := by
  unfold saveGrantParams
  dsimp only
  rw [if_neg (not_not.mpr htype), if_pos htbs]

lemma retxLoop_retransmits {ncce : Nat} (hs : s.Pending cfg h) (hmem : cfg.puschTdAllocList[i]? = some td)
    (huse : s.canUse cfg slot h td = true)
    (halloc : s.allocUlPdcchCommon cfg slot tcRnti =
      .ok (true, { s with pdcch, ulPdcchs := s.ulPdcchs ++ [⟨tcRnti, none⟩] }))
    (hul : pdcch.ulPdcchs = s.pdcch.ulPdcchs ++ [ncce]) (hdl : pdcch.dlPdcchs = s.pdcch.dlPdcchs)
    (hlong : cfg.raFirstSymbolIndex + cfg.pdcchRequest.duration ≤ cfg.nofDlSymbolPerSlot slot)
    (htbs : (s.grantParams h).tbsBytes = (cfg.msg3Pusch i).tbSizeBytes) :
    ∃ s', retxLoop cfg slot tcRnti h ((td, i) :: rest) s = .ok s' ∧ s.Retransmitted cfg slot tcRnti h s' td i := by
  obtain ⟨harqs, hretx⟩ := CellHarqRepository.handleNewRetx_progress (slot.add (cfg.puschDelay td))
    (slot.add (cfg.puschDelay td)) hs.harqInv hs.hasHarq hs.status
  obtain ⟨-, -, hrearmed, -⟩ := CellHarqRepository.startRetx_spec hs.harqInv hs.hasHarq hretx
  have hsymbols := cfg.msg3Pusch_symbols i td hmem
  have hlength : td.symbols.length = (s.grantParams h).nofSymbols := by
    unfold canUse at huse
    simp only [Bool.and_eq_true, decide_eq_true_eq] at huse
    exact huse.1.1.2
  obtain ⟨grantParams, hsave⟩ : ∃ grantParams,
      (s.filled cfg tcRnti h td i pdcch harqs).saveGrantParams h (s.retxPusch cfg tcRnti h i) =
        .ok { s.filled cfg tcRnti h td i pdcch harqs with grantParams } := saveGrantParams_eq_ok hs.dciType htbs
  rw [retxLoop_of_long huse halloc hlong hretx, fillRetx_taken, hsave]
  refine ⟨_, rfl, ⟨hmem, huse, ⟨ncce, hul⟩, hdl, rfl, ?_, ?_, hrearmed.moves⟩⟩
  · exact ⟨_, rfl, rfl, hsymbols, hlength, rfl, rfl, rfl⟩
  · change (harqs.harq h).status = _ ∧ (harqs.harq h).slotTx = _ ∧ (harqs.harq h).slotAck = _
    rw [hrearmed.proc]
    exact ⟨rfl, rfl, rfl⟩

lemma retxLoop_aborts (hs : s.Pending cfg h) (huse : s.canUse cfg slot h td = true)
    (halloc : s.allocUlPdcchCommon cfg slot tcRnti =
      .ok (true, { s with pdcch, ulPdcchs := s.ulPdcchs ++ [⟨tcRnti, none⟩] }))
    (hlong : cfg.raFirstSymbolIndex + cfg.pdcchRequest.duration ≤ cfg.nofDlSymbolPerSlot slot)
    (htbs : (s.grantParams h).tbsBytes ≠ (cfg.msg3Pusch i).tbSizeBytes) :
    retxLoop cfg slot tcRnti h ((td, i) :: rest) s = .error .tbsChanged := by
  obtain ⟨harqs, hretx⟩ := CellHarqRepository.handleNewRetx_progress (slot.add (cfg.puschDelay td))
    (slot.add (cfg.puschDelay td)) hs.harqInv hs.hasHarq hs.status
  rw [retxLoop_of_long huse halloc hlong hretx, fillRetx_taken]
  exact saveGrantParams_eq_error hs.dciType htbs

end Allocated

end Attempts

section Outcome

variable {cfg slot tcRnti h} {s : Msg3Resources} {td : PuschTimeDomainResourceAllocation} {i : Nat}

lemma retxLoop_firstUsable (hfirst : s.firstUsable cfg slot h = some (td, i)) :
    s.canUse cfg slot h td = true ∧ cfg.puschTdAllocList[i]? = some td ∧
      ∃ rest, retxLoop cfg slot tcRnti h cfg.puschTdAllocList.zipIdx s =
        retxLoop cfg slot tcRnti h ((td, i) :: rest) s := by
  obtain ⟨huse, pre, rest, hsplit, hpre⟩ := List.find?_eq_some_iff_append.mp hfirst
  have hmem : (td, i) ∈ cfg.puschTdAllocList.zipIdx := by
    rw [hsplit]
    exact List.mem_append_right _ List.mem_cons_self
  refine ⟨huse, List.mem_zipIdx_iff_getElem?.mp hmem, rest, ?_⟩
  rw [hsplit]
  apply retxLoop_append
  intro p hp
  simpa using hpre p hp

lemma retxLoop_noneUsable (hfirst : s.firstUsable cfg slot h = none) :
    retxLoop cfg slot tcRnti h cfg.puschTdAllocList.zipIdx s = .ok s := by
  have hall : ∀ p ∈ cfg.puschTdAllocList.zipIdx, s.canUse cfg slot h p.1 = false := by
    intro p hp
    exact Bool.eq_false_of_not_eq_true (List.find?_eq_none.mp hfirst p hp)
  rw [← List.append_nil cfg.puschTdAllocList.zipIdx, retxLoop_append hall]
  rfl

def AllOrNothing (cfg : Msg3Config) (slot : SlotPoint) (tcRnti : Nat) (h : HarqRef) (s : Msg3Resources)
    (r : Except Msg3Abort Msg3Resources) : Prop :=
  ∃ s', r = .ok s' ∧ (s' = s ∨ ∃ td i, s.Retransmitted cfg slot tcRnti h s' td i)

lemma AllOrNothing.same {r : Except Msg3Abort Msg3Resources} (hr : r = .ok s) : AllOrNothing cfg slot tcRnti h s r :=
  ⟨s, hr, .inl rfl⟩

lemma not_allOrNothing {s' : Msg3Resources} {r : Except Msg3Abort Msg3Resources} (hr : r = .ok s') (hne : s' ≠ s)
    (hno : ∀ td i, ¬ s.Retransmitted cfg slot tcRnti h s' td i) : ¬ AllOrNothing cfg slot tcRnti h s r := by
  rintro ⟨s'', hs'', hsame | ⟨td, i, hretx⟩⟩
  · exact hne ((Except.ok.inj (hr.symm.trans hs'')).trans hsame)
  · rw [← Except.ok.inj (hr.symm.trans hs'')] at hretx
    exact hno td i hretx

lemma allOrNothing_of_free (hs : s.Pending cfg h) (hmon : cfg.isPdcchMonitoringActive slot = true)
    (hroom : s.pdcch.ulPdcchs.length < MAX_UL_PDCCH_PDUS_PER_SLOT)
    (hfirst : s.firstUsable cfg slot h = some (td, i)) (hfree : s.pdcch.HasFree cfg.pdcchRequest) :
    AllOrNothing cfg slot tcRnti h s (retxLoop cfg slot tcRnti h cfg.puschTdAllocList.zipIdx s) ↔
      cfg.raFirstSymbolIndex + cfg.pdcchRequest.duration ≤ cfg.nofDlSymbolPerSlot slot ∧
        (s.grantParams h).tbsBytes = (cfg.msg3Pusch i).tbSizeBytes := by
  obtain ⟨huse, hmem, rest, hloop⟩ := @retxLoop_firstUsable cfg slot tcRnti h s td i hfirst
  obtain ⟨pdcch, ncce, halloc, hul, hdl⟩ := @allocUlPdcchCommon_of_free cfg slot tcRnti s hmon hroom hfree
  rw [hloop]
  by_cases hlong : cfg.raFirstSymbolIndex + cfg.pdcchRequest.duration ≤ cfg.nofDlSymbolPerSlot slot
  · by_cases htbs : (s.grantParams h).tbsBytes = (cfg.msg3Pusch i).tbSizeBytes
    · refine iff_of_true ?_ ⟨hlong, htbs⟩
      obtain ⟨s', hs', hretx⟩ := retxLoop_retransmits hs hmem huse halloc hul hdl hlong htbs
      exact ⟨s', hs', .inr ⟨td, i, hretx⟩⟩
    · refine iff_of_false ?_ fun hand => htbs hand.2
      rintro ⟨s', hs', -⟩
      rw [retxLoop_aborts hs huse halloc hlong htbs] at hs'
      cases hs'
  · refine iff_of_false ?_ fun hand => hlong hand.1
    apply not_allOrNothing (retxLoop_of_short huse halloc (Nat.not_le.mp hlong))
    · intro hsame
      have hlen := congrArg (fun t : Msg3Resources => t.ulPdcchs.length) hsame
      simp at hlen
    · intro td' i' hretx
      have hstatus := hretx.harq.1
      rw [hs.status] at hstatus
      cases hstatus

lemma allOrNothing_of_none (hs : s.Pending cfg h) (hmon : cfg.isPdcchMonitoringActive slot = true)
    (hroom : s.pdcch.ulPdcchs.length < MAX_UL_PDCCH_PDUS_PER_SLOT)
    (hfirst : s.firstUsable cfg slot h = some (td, i)) (hfree : ¬ s.pdcch.HasFree cfg.pdcchRequest) :
    AllOrNothing cfg slot tcRnti h s (retxLoop cfg slot tcRnti h cfg.puschTdAllocList.zipIdx s) ↔ s.pdcch.IsStuck := by
  obtain ⟨huse, -, rest, hloop⟩ := @retxLoop_firstUsable cfg slot tcRnti h s td i hfirst
  by_cases hstuck : s.pdcch.IsStuck
  · refine iff_of_true (.same ?_) hstuck
    apply retxLoop_unchanged
    unfold allocUlPdcchCommon
    rw [if_pos hmon, PdcchSlot.allocUlPdcchHelper_of_stuck hroom hs.treed hfree hstuck]
  · refine iff_of_false ?_ hstuck
    obtain ⟨grid, halloc, hsub, hgrows⟩ := @allocUlPdcchCommon_of_none cfg slot tcRnti s hroom hs.treed hfree
    have hfree' : ¬ (s.withDlGrid grid).pdcch.HasFree cfg.pdcchRequest := by
      rintro ⟨k, hk, hdisj⟩
      exact hfree ⟨k, hk, Finset.disjoint_of_subset_right hsub hdisj⟩
    have htree' : (s.withDlGrid grid).pdcch.Treed := ⟨hs.treed.length_eq, hs.treed.candidates, hs.treed.crbs⟩
    obtain ⟨grid', hrest, hsub'⟩ :=
      @retxLoop_of_none cfg slot tcRnti h (s.withDlGrid grid) rest hroom htree' hfree'
    rw [hloop, retxLoop_of_false huse halloc]
    apply not_allOrNothing hrest
    · intro hsame
      have hgrid : grid' = s.pdcch.dlResGrid := congrArg (fun t : Msg3Resources => t.pdcch.dlResGrid) hsame
      exact hgrows hmon hstuck (hsub'.trans hgrid.subset)
    · intro td' i' hretx
      obtain ⟨ncce, hul⟩ := hretx.pdcch
      have hlen := congrArg List.length hul
      simp [withDlGrid, PdcchSlot.withGrid] at hlen

end Outcome

/-- A retransmission is complete or changes nothing, exactly under the condition. -/
theorem msg3_retx_all_or_nothing {s : Msg3Resources} (hs : s.Pending cfg h) :
    (∃ s', s.scheduleMsg3Retx cfg slot tcRnti h = .ok s' ∧
      (s' = s ∨ ∃ td i, s.Retransmitted cfg slot tcRnti h s' td i)) ↔ s.Condition cfg slot h := by
  change AllOrNothing cfg slot tcRnti h s _ ↔ _
  unfold scheduleMsg3Retx Condition
  by_cases hdl : cfg.isDlEnabled slot = true
  swap
  · rw [if_pos (Bool.eq_false_of_not_eq_true hdl)]
    exact iff_of_true (.same rfl) fun htrue => absurd htrue hdl
  by_cases hroom : s.pdcch.ulPdcchs.length < MAX_UL_PDCCH_PDUS_PER_SLOT
  swap
  · rw [if_neg (by rw [hdl]; exact Bool.noConfusion), if_pos (Nat.not_lt.mp hroom)]
    exact iff_of_true (.same rfl) fun _ htrue => absurd htrue hroom
  rw [if_neg (by rw [hdl]; exact Bool.noConfusion), if_neg (Nat.not_le.mpr hroom)]
  by_cases hmon : cfg.isPdcchMonitoringActive slot = true
  swap
  · refine iff_of_true (.same ?_) fun _ _ htrue => absurd htrue hmon
    apply retxLoop_unchanged
    unfold allocUlPdcchCommon
    rw [if_neg hmon]
  cases hfirst : s.firstUsable cfg slot h with
  | none => exact iff_of_true (.same (retxLoop_noneUsable hfirst)) fun _ _ _ _ _ hsome => (nomatch hsome)
  | some p =>
    obtain ⟨td, i⟩ := p
    have hcond : (∀ (td' : PuschTimeDomainResourceAllocation) (i' : Nat), some (td, i) = some (td', i') →
        (s.pdcch.HasFree cfg.pdcchRequest →
          cfg.raFirstSymbolIndex + cfg.pdcchRequest.duration ≤ cfg.nofDlSymbolPerSlot slot ∧
            (s.grantParams h).tbsBytes = (cfg.msg3Pusch i').tbSizeBytes) ∧
        (¬ s.pdcch.HasFree cfg.pdcchRequest → s.pdcch.IsStuck)) ↔
        (s.pdcch.HasFree cfg.pdcchRequest →
          cfg.raFirstSymbolIndex + cfg.pdcchRequest.duration ≤ cfg.nofDlSymbolPerSlot slot ∧
            (s.grantParams h).tbsBytes = (cfg.msg3Pusch i).tbSizeBytes) ∧
        (¬ s.pdcch.HasFree cfg.pdcchRequest → s.pdcch.IsStuck) := by
      constructor
      · exact fun hall => hall td i rfl
      · rintro hone td' i' ⟨⟩
        exact hone
    rw [imp_iff_right hdl, imp_iff_right hroom, imp_iff_right hmon, hcond]
    by_cases hfree : s.pdcch.HasFree cfg.pdcchRequest
    · rw [allOrNothing_of_free hs hmon hroom hfirst hfree, imp_iff_right hfree]
      exact (and_iff_left fun hnot => absurd hfree hnot).symm
    · rw [allOrNothing_of_none hs hmon hroom hfirst hfree, imp_iff_right hfree]
      exact (and_iff_right fun htrue => absurd htrue hfree).symm

section Example

/-- A TDD pattern of ten slots with six DL symbols in slot 7, and a RA search space that starts at symbol 6. -/
def specialSlotCell : Msg3Config where
  nofDlSymbolPerSlot sl := if sl.count % 10 < 7 then 14 else if sl.count % 10 = 7 then 6 else 0
  nofUlSymbolPerSlot sl := if sl.count % 10 < 7 then 0 else if sl.count % 10 = 7 then 4 else 14
  ntnCsKoffset := 0
  initUlBwpNumerology := 1
  initUlBwpCrbs := .ofStartAndLen 0 51
  dciPayloadSize := 39
  puschTdAllocList := [⟨2, .ofStartAndLen 0 14⟩]
  msg3Pusch _ := ⟨0, .ofStartAndLen 0 3, .ofStartAndLen 0 14, 0, 0, 0, true, 11⟩
  raSearchSpaceId := 1
  raFirstSymbolIndex := 6
  isPdcchMonitoringActive _ := true
  pdcchRequest := PdcchSlot.firstCandidate
  harq := ⟨1024, 256, 100, 1, 0⟩
  msg3Pusch_symbols i td htd := by
    cases i with
    | zero => exact congrArg PuschTimeDomainResourceAllocation.symbols (Option.some.inj htd)
    | succ i => cases htd

def nackedMsg3 : List (HarqEvent Unit) :=
  [.reserveUeHarqs 17 17 1, .slotIndication ⟨1, 0⟩, .allocHarq 17 ⟨1, 4⟩ ⟨1, 4⟩ 4, .handleAck ⟨17, 0⟩ false]

def msg3Pending : Msg3Resources where
  pdcch := .start ∅
  ulPdcchs := []
  ulSlots _ := ⟨[], ∅⟩
  harqs := (runEvents (CellHarqRepository.step specialSlotCell.harq) (.init Unit) nackedMsg3).toOption.getD (.init Unit)
  grantParams _ := ⟨.tcRntiF00, 11, 0, .ofStartAndLen 0 3, 14⟩

lemma nackedMsg3_run :
    runEvents (CellHarqRepository.step specialSlotCell.harq) (.init Unit) nackedMsg3 = .ok msg3Pending.harqs := rfl

lemma msg3Pending_pending : msg3Pending.Pending specialSlotCell ⟨17, 0⟩ where
  harqInv := CellHarqRepository.run_inv nackedMsg3_run
  hasHarq := by decide
  status := by decide
  dciType := rfl
  treed := ⟨rfl, fun _ hr => (nomatch hr), fun _ hr => (nomatch hr)⟩
  ulPdcchs := rfl

/-- In slot 6 there are enough DL symbols. -/
theorem msg3_retx_all_or_nothing_granted :
    ∃ s', msg3Pending.scheduleMsg3Retx specialSlotCell ⟨1, 6⟩ 17 ⟨17, 0⟩ = .ok s' ∧
      (s' = msg3Pending ∨ ∃ td i, msg3Pending.Retransmitted specialSlotCell ⟨1, 6⟩ 17 ⟨17, 0⟩ s' td i) := by
  have hfree : msg3Pending.pdcch.HasFree specialSlotCell.pdcchRequest := ⟨0, by decide, by decide⟩
  apply (msg3_retx_all_or_nothing specialSlotCell ⟨1, 6⟩ 17 ⟨17, 0⟩ msg3Pending_pending).mpr
  intro _ _ _ td i _
  exact ⟨fun _ => ⟨by decide, rfl⟩, fun hnone => absurd hfree hnone⟩

/-- In the slot with six DL symbols, the PDCCH stays without a DCI. -/
theorem msg3_retx_not_all_or_nothing :
    msg3Pending.Pending specialSlotCell ⟨17, 0⟩ ∧
      ∃ s', msg3Pending.scheduleMsg3Retx specialSlotCell ⟨1, 7⟩ 17 ⟨17, 0⟩ = .ok s' ∧ s'.ulPdcchs = [⟨17, none⟩] ∧
        s'.pdcch.ulPdcchs = [0] ∧ s'.pdcch.dlResGrid ≠ msg3Pending.pdcch.dlResGrid ∧
        (s'.harqs.harq ⟨17, 0⟩).status = .pendingRetx ∧ (s'.ulSlots 2).puschs = [] :=
  ⟨msg3Pending_pending, _, rfl, by decide +kernel, by decide +kernel, by decide +kernel, by decide +kernel,
    by decide +kernel⟩

end Example

end Msg3Resources

end OwlsRan.Sched
