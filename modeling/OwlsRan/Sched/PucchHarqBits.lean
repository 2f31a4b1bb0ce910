import OwlsRan.Sched.PucchAllocator
import OwlsRan.Sched.PucchMultiplexed

/-!
# HARQ-ACK bits on PUCCH

Multiplexing keeps the UCI bits, so that a call for HARQ-ACK adds its bit to those that a UE has in the slot, and no
other allocation takes one away.
-/

namespace OwlsRan.Sched

open OwlsRan.Lib Relation

section Multiplexed

variable {cell : PucchCellConfiguration} {ue : UePucchConfig cell} {rnti : Nat} {preserve : Option Nat}
  {g : UeReservationGuard} {current : PucchGrantList} {bits : PucchUciBits}

def PucchGrantList.harqGrantBits (l : PucchGrantList) : Nat := l.harqResource.elim 0 fun h => h.bits.harqAckNofBits

lemma PucchGrantList.harqGrantBits_le (l : PucchGrantList) : l.harqGrantBits ≤ l.getHarqAckNofBits := by
  unfold harqGrantBits getHarqAckNofBits
  cases l.harqResource with
  | none => exact Nat.zero_le _
  | some h => exact Nat.le_refl _

lemma placed_candidates {harq : Option PucchGrant}
    (hharq : ∀ h ∈ harq, h.type = .harqAck ∧ h.pucchResCfg ∈ ue.pucchResSet h.harqId.pucchSetIdx) :
    PucchGrantList.Placed ue ⟨harq, srCandidate ue bits, csiCandidate ue bits⟩ := by
  refine ⟨hharq, ?_, ?_⟩
  · intro s hs
    obtain ⟨-, heq⟩ := Option.ite_none_right_eq_some.mp hs
    rw [← Option.some.inj heq]
    exact ⟨rfl, rfl⟩
  · intro c hc
    obtain ⟨-, heq⟩ := Option.ite_none_right_eq_some.mp hc
    obtain ⟨r, hr, rfl⟩ := Option.map_eq_some_iff.mp heq
    exact ⟨rfl, hr⟩

variable {g' : UeReservationGuard}

lemma mem_pucchResSet_of_reserveNext {set : PucchResSetIdx} {a : PucchHarqResourceAllocRecord}
    (h : g.reserveNextHarqResAvailable ue rnti set = (some a, g')) : a.resource ∈ ue.pucchResSet set := by
  rcases UeReservationGuard.reserveNextHarqResAvailable_cases ue rnti g set with hn | ⟨rPucch, r, hr, hs⟩
  · rw [hn] at h
    obtain ⟨hnone, -⟩ := Prod.mk.inj h
    cases hnone
  · rw [hs] at h
    obtain ⟨ha, -⟩ := Prod.mk.inj h
    obtain ⟨r', hr', rfl⟩ := Option.map_eq_some_iff.mp ha
    rw [UeReservationGuard.reserve_fst hr']
    have hmem := List.mem_of_getElem? hr
    unfold UePucchConfig.eligibleResources PucchCellConfiguration.eligibleResources at hmem
    split at hmem
    · exact List.mem_of_mem_take hmem
    · exact hmem

lemma getPucchResPreMultiplexing_spreads {l : PucchGrantList}
    (h : getPucchResPreMultiplexing ue rnti g current bits = .ok (some l, g')) : l.Placed ue ∧ l.Spreads bits := by
  obtain ⟨hcsi, hcases⟩ := getPucchResPreMultiplexing_cases h
  rcases hcases with ⟨hzero, hout⟩ | ⟨hpos, harq, hharq, hout⟩
  · obtain ⟨hl, -⟩ := Prod.mk.inj hout
    rw [Option.some.inj hl]
    have hnone : ∀ {P : PucchGrant → Prop}, ∀ h ∈ (none : Option PucchGrant), P h := by
      intro P h hh
      cases hh
    refine ⟨placed_candidates hnone, spreads_candidates hcsi hnone ?_⟩
    rw [hzero]
    simp
  · obtain ⟨hl, -⟩ := Prod.mk.inj hout
    obtain ⟨r, hr, hl⟩ := Option.map_eq_some_iff.mp hl.symm
    rw [← hl]
    rcases harqCandidate_cases hharq with ⟨-, hnone, -⟩ | ⟨ind, res, hsome, hreserved⟩
    · rw [hnone] at hr
      cases hr
    · obtain rfl := Option.some.inj (hr.symm.trans hsome)
      have hmem : res ∈ ue.pucchResSet (harqResSetIdx bits) := by
        rcases hreserved with ⟨-, hres⟩ | ⟨-, hres⟩
        · exact List.mem_of_getElem?
            (UeReservationGuard.getElem?_of_reserveHarqResourceByResIndicator (congrArg Prod.fst hres))
        · exact mem_pucchResSet_of_reserveNext hres
      refine ⟨placed_candidates ?_, spreads_candidates hcsi ?_ ?_⟩
      · rintro h ⟨rfl⟩
        exact ⟨rfl, hmem⟩
      · rintro h ⟨rfl⟩
        rfl
      · simp [hpos]

def PucchGrantList.HasHarqBits (bits : PucchUciBits) (l : PucchGrantList) : Prop :=
  l.getHarqAckNofBits = bits.harqAckNofBits ∧ l.harqGrantBits = bits.harqAckNofBits

lemma PucchGrantList.Spreads.hasHarqBits {l : PucchGrantList} (h : l.Spreads bits) : l.HasHarqBits bits := by
  refine ⟨congrArg PucchUciBits.harqAckNofBits h.getUciBits, ?_⟩
  unfold harqGrantBits
  cases hh : l.harqResource with
  | some r => exact h.harq r hh
  | none =>
    have hsome := h.harq_isSome
    rw [hh] at hsome
    have hzero : ¬0 < bits.harqAckNofBits := fun hpos => Bool.false_ne_true (hsome.mpr hpos)
    exact (Nat.eq_zero_of_not_pos hzero).symm

lemma SrAdded.hasHarqBits {l l' : PucchGrantList} {g : UeReservationGuard} {h : PucchGrant} (hl : l.HasHarqBits bits)
    (hadded : SrAdded ue rnti l g l' g' h) : l'.HasHarqBits bits := by
  obtain ⟨rfl, -, -, -, -, rfl⟩ := hadded
  exact hl

lemma multiplexResources_hasHarqBits {l : PucchGrantList} {out : PucchGrantList × UeReservationGuard}
    (hplaced : l.Placed ue) (hbits : l.Spreads bits) (h : multiplexResources ue rnti preserve g l = .ok out)
    (hne : out.1.isEmpty = false) : out.1.HasHarqBits bits := by
  obtain ⟨looped, hloop, h⟩ := bind_eq_ok.mp h
  obtain ⟨l', g', hmerges, hplaced', hout⟩ := multiplexLoop_merges hplaced (sortResSetQ_perm _) hloop
  have hspreads : l'.Spreads bits :=
    @merges_keep cell ue rnti preserve (fun p => p.1.Spreads bits) (fun _ _ hm hp => Merged.spreads hm hp) _ _ hmerges hbits
  rcases hout with ⟨q, rfl, hq⟩ | ⟨hnone, -⟩
  · obtain ⟨p, hp, h⟩ := bind_eq_ok.mp h
    obtain rfl := Except.ok.inj h
    rcases addSrGrantF1_cases hplaced' hspreads hq hp with ⟨heq, -⟩ | ⟨h₁, hadded⟩
    · dsimp only
      rw [heq]
      exact hspreads.hasHarqBits
    · exact hadded.hasHarqBits hspreads.hasHarqBits
  · rw [hnone] at h
    obtain rfl := Except.ok.inj h
    cases hne

lemma multiplexGrants_hasHarqBits {ul : UlSlotContext} {common : Option PucchGrants} {l : PucchGrantList}
    (h : multiplexGrants ue rnti preserve g ul current bits common = .ok (some l, g')) :
    l.HasHarqBits bits := by
  obtain ⟨⟨candidates, g₁⟩, hcandidates, h⟩ := bind_eq_ok.mp h
  cases candidates with
  | none => cases h
  | some c =>
    obtain ⟨hplaced, hspreads⟩ := getPucchResPreMultiplexing_spreads hcandidates
    obtain ⟨multiplexed, hmultiplexed, h⟩ := bind_eq_ok.mp h
    split at h
    case isTrue => cases h
    case isFalse hne =>
      have hbits := multiplexResources_hasHarqBits hplaced hspreads hmultiplexed (Bool.eq_false_iff.mpr hne)
      dsimp only at h
      split at h
      case isTrue => cases h
      case isFalse =>
        obtain ⟨csi, -, h⟩ := bind_eq_ok.mp h
        split at h
        case isTrue => cases h
        case isFalse =>
          split at h
          case isTrue => cases h
          case isFalse =>
            obtain ⟨hl, -⟩ := Prod.mk.inj (Except.ok.inj h)
            rw [← Option.some.inj hl]
            exact hbits

end Multiplexed

namespace PucchSlot

section Lookup

variable {s s' : PucchSlot} {rnti r : Nat} {e : UeGrants} {grants grants' : PucchGrantList} {l : List UeGrants}

def harqBits (s : PucchSlot) (rnti : Nat) : Nat := (s.findUeGrants rnti).elim 0 fun e => e.pucchGrants.harqGrantBits

def regrant (rnti : Nat) (grants : PucchGrantList) (l : List UeGrants) : List UeGrants :=
  modifyUeGrants rnti (fun e => { e with pucchGrants := grants }) l

lemma harqBits_congr (h : s'.ueGrantsList = s.ueGrantsList) (r : Nat) : s'.harqBits r = s.harqBits r := by
  rw [harqBits, harqBits, findUeGrants, findUeGrants, h]

lemma harqBits_of_find (h : s.findUeGrants rnti = some e) : s.harqBits rnti = e.pucchGrants.harqGrantBits := by
  rw [harqBits, h, Option.elim_some]

lemma harqBits_of_none (h : s.findUeGrants rnti = none) : s.harqBits rnti = 0 := by
  rw [harqBits, h, Option.elim_none]

lemma find?_modifyUeGrants {f : UeGrants → UeGrants} (hf : ∀ e, (f e).rnti = e.rnti) (rnti r : Nat) (l : List UeGrants) :
    (modifyUeGrants rnti f l).find? (fun e => e.rnti == r) =
      if r = rnti then (l.find? fun e => e.rnti == r).map f else l.find? fun e => e.rnti == r := by
  induction l with
  | nil => simp [modifyUeGrants]
  | cons e l ih =>
    rw [modifyUeGrants]
    by_cases he : e.rnti = rnti
    · rw [if_pos he]
      by_cases hr : r = rnti
      · simp [hr, hf, he]
      · have hne : e.rnti ≠ r := fun h => hr (h.symm.trans he)
        simp [hr, hf, hne]
    · rw [if_neg he, List.find?_cons, List.find?_cons]
      by_cases hr : e.rnti = r
      · have hne : r ≠ rnti := fun h => he (hr.trans h)
        simp [hr, hne]
      · simp only [beq_eq_false_iff_ne.mpr hr]
        exact ih

lemma harqBits_regrant (h : s'.ueGrantsList = regrant rnti grants s.ueGrantsList) (hfind : s.findUeGrants rnti = some e)
    (r : Nat) : s'.harqBits r = if r = rnti then grants.harqGrantBits else s.harqBits r := by
  have hmodify := find?_modifyUeGrants (f := fun e => { e with pucchGrants := grants }) (fun _ => rfl) rnti r s.ueGrantsList
  rw [harqBits, findUeGrants, h, regrant, hmodify]
  by_cases hr : r = rnti
  · subst hr
    have hfind' : s.ueGrantsList.find? (fun e => e.rnti == r) = some e := hfind
    rw [if_pos rfl, if_pos rfl, hfind', Option.map_some, Option.elim_some]
  · rw [if_neg hr, if_neg hr]
    rfl

lemma harqBits_setCommon (h : s'.ueGrantsList = (s.setCommon rnti).ueGrantsList) (r : Nat) :
    s'.harqBits r = s.harqBits r := by
  have hmodify := find?_modifyUeGrants (f := fun e => { e with hasCommonPucch := true }) (fun _ => rfl) rnti r s.ueGrantsList
  have hlist : s'.ueGrantsList = modifyUeGrants rnti (fun e => { e with hasCommonPucch := true }) s.ueGrantsList := h
  rw [harqBits, findUeGrants, hlist, hmodify]
  unfold harqBits findUeGrants
  split
  · cases s.ueGrantsList.find? fun e => e.rnti == r <;> rfl
  · rfl

lemma harqBits_emplace (h : s'.ueGrantsList = s.ueGrantsList ++ [e]) (hnone : s.findUeGrants e.rnti = none) (r : Nat) :
    s'.harqBits r = if r = e.rnti then e.pucchGrants.harqGrantBits else s.harqBits r := by
  rw [harqBits, findUeGrants, h, List.find?_append]
  by_cases hr : r = e.rnti
  · subst hr
    have hnone' : s.ueGrantsList.find? (fun e' => e'.rnti == e.rnti) = none := hnone
    rw [if_pos rfl, hnone', Option.none_or]
    simp
  · have hne : e.rnti ≠ r := fun he => hr he.symm
    rw [if_neg hr, harqBits, findUeGrants]
    simp [hne]

lemma regrant_regrant (l : List UeGrants) : regrant rnti grants' (regrant rnti grants l) = regrant rnti grants' l := by
  induction l with
  | nil => rfl
  | cons e l ih =>
    unfold regrant at ih ⊢
    rw [modifyUeGrants]
    by_cases he : e.rnti = rnti
    · rw [if_pos he, modifyUeGrants, modifyUeGrants, if_pos he, if_pos he]
    · rw [if_neg he, modifyUeGrants, modifyUeGrants, if_neg he, if_neg he, ih]

lemma dropLast_regrant (hnone : l.find? (fun e => e.rnti == rnti) = none) (he : e.rnti = rnti) :
    (regrant rnti grants (l ++ [e])).dropLast = l := by
  have hregrant : regrant rnti grants (l ++ [e]) = l ++ [{ e with pucchGrants := grants }] := by
    induction l with
    | nil => simp [regrant, modifyUeGrants, he]
    | cons e' l ih =>
      have hne : e'.rnti ≠ rnti := by
        have hno := List.find?_eq_none.mp hnone e' List.mem_cons_self
        simpa using hno
      have hrest : l.find? (fun e => e.rnti == rnti) = none := by
        rw [List.find?_cons_of_neg (by simpa using hne)] at hnone
        exact hnone
      unfold regrant at ih ⊢
      rw [List.cons_append, modifyUeGrants, if_neg hne, ih hrest]
      rfl
  rw [hregrant, List.dropLast_concat]

end Lookup

section Calls

variable {cell : PucchCellConfiguration} {ul : UlSlotContext} {s s' : PucchSlot} {ue : UePucchConfig cell} {rnti : Nat}
  {g : UeReservationGuard} {grantsToTx : PucchGrantList} {bits : PucchUciBits} {out : Option Nat × PucchSlot}

def HarqBitsKept (s s' : PucchSlot) : Prop := ∀ r, s.harqBits r ≤ s'.harqBits r

lemma harqBitsKept_of_eq (h : s'.ueGrantsList = s.ueGrantsList) : HarqBitsKept s s' :=
  fun r => Nat.le_of_eq (harqBits_congr h r).symm

lemma allocateGrants_ueGrants (h : allocateGrants ul s ue rnti g grantsToTx = .ok out) :
    (out.1 = none ∧ out.2.ueGrantsList = s.ueGrantsList) ∨
      out.2.ueGrantsList = regrant rnti grantsToTx s.ueGrantsList := by
  unfold allocateGrants at h
  split at h
  case h_1 => cases h
  case h_2 e he =>
    obtain ⟨existingPdus, -, h⟩ := bind_eq_ok.mp h
    dsimp only at h
    split at h
    case isTrue =>
      obtain rfl := Except.ok.inj h
      exact .inl ⟨rfl, rfl⟩
    case isFalse =>
      obtain ⟨pdus, -, h⟩ := bind_eq_ok.mp h
      obtain rfl := Except.ok.inj h
      exact .inr rfl

lemma multiplexAndAllocatePucch_ueGrants {preserve : Option Nat} {common : Option PucchGrants}
    (h : multiplexAndAllocatePucch ul s ue rnti bits preserve common = .ok out) :
    (out.1 = none ∧ out.2.ueGrantsList = s.ueGrantsList) ∨
      ∃ grants e, grants.HasHarqBits bits ∧ s.findUeGrants rnti = some e ∧
        out.2.ueGrantsList = regrant rnti grants s.ueGrantsList := by
  unfold multiplexAndAllocatePucch at h
  split at h
  case h_1 => cases h
  case h_2 e he =>
    obtain ⟨⟨grants, g⟩, hm, h⟩ := bind_eq_ok.mp h
    cases grants with
    | none =>
      obtain rfl := Except.ok.inj h
      exact .inl ⟨rfl, rfl⟩
    | some grants =>
      rcases allocateGrants_ueGrants h with hnone | hlist
      · exact .inl hnone
      · exact .inr ⟨grants, e, multiplexGrants_hasHarqBits hm, he, hlist⟩

lemma emplacePdu_ueGrants {p : PucchInfo} (h : s.emplacePdu p = .ok s') : s'.ueGrantsList = s.ueGrantsList := by
  unfold emplacePdu at h
  split at h
  · obtain rfl := Except.ok.inj h
    rfl
  · cases h

lemma kept_of_regrant {grants : PucchGrantList} {e : UeGrants} (hfind : s.findUeGrants rnti = some e)
    (hlist : s'.ueGrantsList = regrant rnti grants s.ueGrantsList) (hle : s.harqBits rnti ≤ grants.harqGrantBits) :
    HarqBitsKept s s' := by
  intro r
  rw [harqBits_regrant hlist hfind]
  by_cases hr : r = rnti
  · rw [if_pos hr, hr]
    exact hle
  · rw [if_neg hr]

lemma kept_of_emplace {e : UeGrants} (hlist : s'.ueGrantsList = s.ueGrantsList ++ [e])
    (hnone : s.findUeGrants e.rnti = none) : HarqBitsKept s s' := by
  intro r
  rw [harqBits_emplace hlist hnone]
  by_cases hr : r = e.rnti
  · rw [if_pos hr, hr, harqBits_of_none hnone]
    exact Nat.zero_le _
  · rw [if_neg hr]

lemma allocateHarqGrant_ueGrants (h : allocateHarqGrant ul s ue rnti = .ok out) :
    (out.1 = none ∧ out.2.ueGrantsList = s.ueGrantsList) ∨
      ∃ e, out.2.ueGrantsList = s.ueGrantsList ++ [e] ∧ e.rnti = rnti ∧ e.pucchGrants.harqGrantBits = 1 := by
  unfold allocateHarqGrant at h
  split at h
  case isTrue =>
    obtain rfl := Except.ok.inj h
    exact .inl ⟨rfl, rfl⟩
  case isFalse =>
    split at h
    case h_1 =>
      obtain rfl := Except.ok.inj h
      exact .inl ⟨rfl, rfl⟩
    case h_2 a g _ =>
      obtain ⟨pdu, -, h⟩ := bind_eq_ok.mp h
      obtain ⟨s', hs', h⟩ := bind_eq_ok.mp h
      have hlist := emplacePdu_ueGrants hs'
      obtain rfl := Except.ok.inj h
      exact .inr ⟨_, congrArg (· ++ [_]) hlist, rfl, rfl⟩

lemma allocateWithoutMultiplexing_ueGrants {nofBits : Nat} {e : UeGrants}
    (h : allocateWithoutMultiplexing s ue rnti nofBits e = .ok out) :
    (out.1 = none ∧ out.2.ueGrantsList = s.ueGrantsList) ∨
      ∃ grants, grants.harqGrantBits = nofBits ∧ out.2.ueGrantsList = regrant rnti grants s.ueGrantsList := by
  obtain ⟨existingPdus, -, h⟩ := bind_eq_ok.mp h
  dsimp only at h
  split at h
  case h_2 => cases h
  case h_1 i hharq _ _ =>
    split at h
    case h_1 => cases h
    case h_2 pdu _ =>
      split at h
      case isTrue =>
        obtain rfl := Except.ok.inj h
        exact .inl ⟨rfl, rfl⟩
      case isFalse =>
        split at h
        case h_1 => cases h
        case h_2 =>
          split at h
          case isTrue => cases h
          case isFalse =>
            obtain rfl := Except.ok.inj h
            exact .inr ⟨_, rfl, rfl⟩

lemma allocDedHarqAck_harqBits (h : allocDedHarqAck ul s ue rnti = .ok out) :
    HarqBitsKept s out.2 ∧ (out.1 ≠ none → s.harqBits rnti + 1 ≤ out.2.harqBits rnti) := by
  have hunchanged (hout : out.1 = none ∧ out.2.ueGrantsList = s.ueGrantsList) :
      HarqBitsKept s out.2 ∧ (out.1 ≠ none → s.harqBits rnti + 1 ≤ out.2.harqBits rnti) :=
    ⟨harqBitsKept_of_eq hout.2, fun hne => absurd hout.1 hne⟩
  unfold allocDedHarqAck at h
  split at h
  case isTrue =>
    obtain rfl := Except.ok.inj h
    exact hunchanged ⟨rfl, rfl⟩
  case isFalse =>
    split at h
    case h_1 hnone =>
      rcases allocateHarqGrant_ueGrants h with hout | ⟨e, hlist, rfl, hbits⟩
      · exact hunchanged hout
      · refine ⟨kept_of_emplace hlist hnone, fun _ => ?_⟩
        rw [harqBits_emplace hlist hnone, if_pos rfl, hbits, harqBits_of_none hnone]
    case h_2 e he =>
      have hbefore : s.harqBits rnti ≤ e.pucchGrants.getUciBits.harqAckNofBits := by
        rw [harqBits_of_find he]
        exact e.pucchGrants.harqGrantBits_le
      have hregrant {grants : PucchGrantList} (hlist : out.2.ueGrantsList = regrant rnti grants s.ueGrantsList)
          (hbits : grants.harqGrantBits = e.pucchGrants.getUciBits.harqAckNofBits + 1) :
          HarqBitsKept s out.2 ∧ (out.1 ≠ none → s.harqBits rnti + 1 ≤ out.2.harqBits rnti) := by
        refine ⟨kept_of_regrant he hlist (by omega), fun _ => ?_⟩
        rw [harqBits_regrant hlist he, if_pos rfl]
        omega
      split at h
      case isTrue =>
        obtain rfl := Except.ok.inj h
        exact hunchanged ⟨rfl, rfl⟩
      case isFalse =>
        split at h
        case isTrue =>
          rcases multiplexAndAllocatePucch_ueGrants h with hout | ⟨grants, -, hbits, -, hlist⟩
          · exact hunchanged hout
          · exact hregrant hlist hbits.2
        case isFalse =>
          rcases allocateWithoutMultiplexing_ueGrants h with hout | ⟨grants, hbits, hlist⟩
          · exact hunchanged hout
          · exact hregrant hlist hbits

lemma allocSrOpportunity_kept (h : allocSrOpportunity ul s ue rnti = .ok s') : HarqBitsKept s s' := by
  unfold allocSrOpportunity at h
  split at h
  case isTrue =>
    obtain rfl := Except.ok.inj h
    exact harqBitsKept_of_eq rfl
  case isFalse hnot =>
    have hnone : s.findUeGrants rnti = none := by
      rw [← Option.not_isSome_iff_eq_none]
      exact fun hsome => hnot (.inr (.inr hsome))
    split at h
    case h_1 =>
      obtain rfl := Except.ok.inj h
      exact harqBitsKept_of_eq rfl
    case h_2 =>
      obtain ⟨pdu, -, h⟩ := bind_eq_ok.mp h
      obtain ⟨s₁, hs₁, h⟩ := bind_eq_ok.mp h
      have hlist := emplacePdu_ueGrants hs₁
      obtain rfl := Except.ok.inj h
      exact kept_of_emplace (congrArg (· ++ [_]) hlist) hnone

lemma allocateCsiGrant_kept {csiPart1Bits : Nat} (hnone : s.findUeGrants rnti = none)
    (h : allocateCsiGrant ul s ue rnti csiPart1Bits = .ok s') : HarqBitsKept s s' := by
  unfold allocateCsiGrant at h
  split at h
  case isTrue => cases h
  case isFalse =>
    split at h
    case isTrue =>
      obtain rfl := Except.ok.inj h
      exact harqBitsKept_of_eq rfl
    case isFalse =>
      split at h
      case h_1 => cases h
      case h_2 =>
        split at h
        case h_1 =>
          obtain rfl := Except.ok.inj h
          exact harqBitsKept_of_eq rfl
        case h_2 =>
          split at h
          case isTrue => cases h
          case isFalse =>
            obtain ⟨pdu, -, h⟩ := bind_eq_ok.mp h
            obtain ⟨s₁, hs₁, h⟩ := bind_eq_ok.mp h
            have hlist := emplacePdu_ueGrants hs₁
            obtain rfl := Except.ok.inj h
            exact kept_of_emplace (congrArg (· ++ [_]) hlist) hnone

lemma allocCsiOpportunity_kept {csiPart1Bits : Nat} (h : allocCsiOpportunity ul s ue rnti csiPart1Bits = .ok s') :
    HarqBitsKept s s' := by
  unfold allocCsiOpportunity at h
  split at h
  case isTrue =>
    obtain rfl := Except.ok.inj h
    exact harqBitsKept_of_eq rfl
  case isFalse =>
    split at h
    case h_1 hnone => exact allocateCsiGrant_kept hnone h
    case h_2 e he =>
      split at h
      case isTrue =>
        obtain rfl := Except.ok.inj h
        exact harqBitsKept_of_eq rfl
      case isFalse =>
        split at h
        case isTrue => cases h
        case isFalse =>
          obtain ⟨out, hout, h⟩ := bind_eq_ok.mp h
          obtain rfl := Except.ok.inj h
          rcases multiplexAndAllocatePucch_ueGrants hout with ⟨-, hlist⟩ | ⟨grants, -, hbits, -, hlist⟩
          · exact harqBitsKept_of_eq hlist
          · apply kept_of_regrant he hlist
            rw [hbits.2, harqBits_of_find he]
            exact e.pucchGrants.harqGrantBits_le

lemma allocCommonHarqAck_kept {dci : PucchDciContext} (h : allocCommonHarqAck cell ul s dci rnti = .ok out) :
    HarqBitsKept s out.2 := by
  unfold allocCommonHarqAck at h
  split at h
  case isTrue =>
    obtain rfl := Except.ok.inj h
    exact harqBitsKept_of_eq rfl
  case isFalse =>
    obtain ⟨fallback, -, h⟩ := bind_eq_ok.mp h
    split at h
    case isTrue =>
      obtain rfl := Except.ok.inj h
      exact harqBitsKept_of_eq rfl
    case isFalse =>
      obtain ⟨found, -, h⟩ := bind_eq_ok.mp h
      split at h
      case h_1 =>
        obtain rfl := Except.ok.inj h
        exact harqBitsKept_of_eq rfl
      case h_2 dPri =>
        obtain ⟨s₁, hs₁, h⟩ := bind_eq_ok.mp h
        obtain rfl := Except.ok.inj h
        have hlist := emplacePdu_ueGrants hs₁
        dsimp only at hlist ⊢
        by_cases hsome : (s.findUeGrants rnti).isSome = true
        · rw [if_pos hsome]
          intro r
          have hset : (s₁.setCommon rnti).ueGrantsList = (s.setCommon rnti).ueGrantsList := by
            unfold setCommon updateUeGrants
            rw [hlist]
          rw [harqBits_setCommon hset]
        · rw [if_neg hsome]
          exact kept_of_emplace (congrArg (· ++ [_]) hlist) (Option.not_isSome_iff_eq_none.mp hsome)

def Attempted (rnti : Nat) (l l' : List UeGrants) : Prop :=
  l' = l ∨ ∃ grants : PucchGrantList, grants.harqGrantBits = 1 ∧ l' = regrant rnti grants l

lemma Attempted.trans {l l' l'' : List UeGrants} (h : Attempted rnti l l') (h' : Attempted rnti l' l'') :
    Attempted rnti l l'' := by
  rcases h with rfl | ⟨grants, hbits, rfl⟩
  · exact h'
  · rcases h' with rfl | ⟨grants', hbits', rfl⟩
    · exact .inr ⟨grants, hbits, rfl⟩
    · exact .inr ⟨grants', hbits', regrant_regrant l⟩

section CommonAndDedicated

variable {dci : PucchDciContext}

lemma attemptCommonAndDed_attempted {dPri : Nat} (h : attemptCommonAndDed ul ue rnti dci s dPri = .ok out) :
    Attempted rnti s.ueGrantsList out.2.ueGrantsList := by
  unfold attemptCommonAndDed at h
  split at h
  case isTrue => cases h
  case isFalse =>
    split at h
    case isTrue =>
      obtain rfl := Except.ok.inj h
      exact .inl rfl
    case isFalse =>
      split at h
      case h_1 =>
        obtain rfl := Except.ok.inj h
        exact .inl rfl
      case h_2 =>
        split at h
        case h_1 => cases h
        case h_2 e _ =>
          obtain ⟨inner, hinner, h⟩ := bind_eq_ok.mp h
          have hattempted : Attempted rnti s.ueGrantsList inner.2.ueGrantsList := by
            rcases multiplexAndAllocatePucch_ueGrants hinner with ⟨-, hlist⟩ | ⟨grants, -, hbits, -, hlist⟩
            · exact .inl hlist
            · exact .inr ⟨grants, hbits.2, hlist⟩
          split at h
          case h_1 =>
            obtain rfl := Except.ok.inj h
            exact hattempted
          case h_2 =>
            split at h
            case isTrue =>
              obtain rfl := Except.ok.inj h
              exact hattempted
            case isFalse =>
              split at h
              · obtain rfl := Except.ok.inj h
                exact hattempted
              · cases h

lemma findCommonAndDed_attempted {dPris : List Nat}
    (h : findCommonAndDedHarqResAvailable ul ue rnti dci s dPris = .ok out) :
    Attempted rnti s.ueGrantsList out.2.ueGrantsList := by
  induction dPris generalizing s with
  | nil =>
    obtain rfl := Except.ok.inj h
    exact .inl rfl
  | cons dPri rest ih =>
    obtain ⟨attempt, hattempt, h⟩ := bind_eq_ok.mp h
    have hfirst := attemptCommonAndDed_attempted hattempt
    split at h
    case h_1 =>
      obtain rfl := Except.ok.inj h
      exact hfirst
    case h_2 => exact hfirst.trans (ih h)

lemma canAllocateFallbackPucch_harqBits (h : canAllocateFallbackPucch ul s rnti = .ok true) : s.harqBits rnti = 0 := by
  unfold canAllocateFallbackPucch at h
  split at h
  case isTrue => cases h
  case isFalse =>
    split at h
    case h_1 hnone => exact harqBits_of_none hnone
    case h_2 e he =>
      split at h
      case isTrue => cases h
      case isFalse hnot =>
        rw [harqBits_of_find he]
        unfold PucchGrantList.harqGrantBits
        cases hharq : e.pucchGrants.harqResource with
        | none => rfl
        | some r => exact absurd (.inr (congrArg Option.isSome hharq)) hnot

lemma kept_of_attempted (hzero : s.harqBits rnti = 0) (h : Attempted rnti s.ueGrantsList s'.ueGrantsList) :
    HarqBitsKept s s' := by
  rcases h with hlist | ⟨grants, hbits, hlist⟩
  · exact harqBitsKept_of_eq hlist
  · cases hfind : s.findUeGrants rnti with
    | some e =>
      apply kept_of_regrant hfind hlist
      rw [hzero]
      exact Nat.zero_le _
    | none =>
      intro r
      by_cases hr : r = rnti
      · rw [hr, hzero]
        exact Nat.zero_le _
      · have hmodify := find?_modifyUeGrants (f := fun e => { e with pucchGrants := grants }) (fun _ => rfl) rnti r
          s.ueGrantsList
        rw [if_neg hr] at hmodify
        apply Nat.le_of_eq
        rw [harqBits, harqBits, findUeGrants, findUeGrants, hlist, regrant, hmodify]

lemma allocCommonAndDedHarqAck_kept (h : allocCommonAndDedHarqAck ul s ue rnti dci = .ok out) :
    HarqBitsKept s out.2 := by
  unfold allocCommonAndDedHarqAck at h
  split at h
  case isTrue =>
    obtain rfl := Except.ok.inj h
    exact harqBitsKept_of_eq rfl
  case isFalse =>
    obtain ⟨fallback, hfallback, h⟩ := bind_eq_ok.mp h
    split at h
    case isTrue =>
      obtain rfl := Except.ok.inj h
      exact harqBitsKept_of_eq rfl
    case isFalse htrue =>
      rw [Bool.eq_true_of_not_eq_false htrue] at hfallback
      have hzero := canAllocateFallbackPucch_harqBits hfallback
      obtain ⟨found, hfound, h⟩ := bind_eq_ok.mp h
      have hattempted := findCommonAndDed_attempted hfound
      have hwith : HarqBitsKept s (s.withUeGrants rnti) ∧ (s.withUeGrants rnti).harqBits rnti = 0 := by
        unfold withUeGrants
        split
        case isTrue => exact ⟨harqBitsKept_of_eq rfl, hzero⟩
        case isFalse hnone =>
          have hnone' := Option.not_isSome_iff_eq_none.mp hnone
          refine ⟨kept_of_emplace rfl hnone', ?_⟩
          rw [harqBits_emplace rfl hnone', if_pos rfl]
          rfl
      have hkept : HarqBitsKept s found.2 := fun r => (hwith.1 r).trans (kept_of_attempted hwith.2 hattempted r)
      split at h
      case h_1 dPri _ =>
        obtain ⟨s₁, hs₁, h⟩ := bind_eq_ok.mp h
        obtain rfl := Except.ok.inj h
        obtain ⟨s₂, hs₂, hs₁⟩ := bind_eq_ok.mp hs₁
        split at hs₁
        case isTrue => cases hs₁
        case isFalse =>
          obtain rfl := Except.ok.inj hs₁
          intro r
          have hset : (s₂.setCommon rnti).ueGrantsList = (found.2.setCommon rnti).ueGrantsList := by
            unfold setCommon updateUeGrants
            rw [emplacePdu_ueGrants hs₂]
          rw [harqBits_setCommon hset]
          exact hkept r
      case h_2 =>
        obtain rfl := Except.ok.inj h
        dsimp only
        split
        case isTrue => exact hkept
        case isFalse hnone =>
          -- The grants that were added for the attempts are taken away.
          have hlist : (s.withUeGrants rnti).ueGrantsList = s.ueGrantsList ++ [⟨rnti, false, .empty⟩] := by
            rw [withUeGrants, if_neg hnone]
            rfl
          apply harqBitsKept_of_eq
          dsimp only
          rw [hlist] at hattempted
          rcases hattempted with heq | ⟨grants, -, heq⟩
          · rw [heq, List.dropLast_concat]
          · rw [heq, dropLast_regrant (Option.not_isSome_iff_eq_none.mp hnone) rfl]

end CommonAndDedicated

lemma removeUeUciFromPucch_harqBits (s : PucchSlot) (ue : UePucchConfig cell) (rnti : Nat) :
    s.harqBits rnti ≤ (removeUeUciFromPucch s ue rnti).1.harqAckNofBits ∧
      ∀ r, r ≠ rnti → (removeUeUciFromPucch s ue rnti).2.harqBits r = s.harqBits r := by
  unfold removeUeUciFromPucch
  cases hfind : s.findUeGrants rnti with
  | none =>
    refine ⟨?_, fun r _ => harqBits_congr rfl r⟩
    rw [harqBits_of_none hfind]
  | some e =>
    refine ⟨?_, ?_⟩
    · rw [harqBits_of_find hfind]
      exact e.pucchGrants.harqGrantBits_le
    · intro r hr
      have herase : ∀ l : List UeGrants, (l.eraseP fun e => e.rnti == rnti).find? (fun e => e.rnti == r) =
          l.find? fun e => e.rnti == r := by
        intro l
        induction l with
        | nil => rfl
        | cons e' l ih =>
          by_cases he : e'.rnti = rnti
          · have hne : e'.rnti ≠ r := fun h => hr (h.symm.trans he)
            simp [he, Ne.symm hr]
          · simp [he, List.find?_cons, ih]
      rw [harqBits, harqBits, findUeGrants, findUeGrants]
      dsimp only
      rw [herase]

end Calls

end PucchSlot

end OwlsRan.Sched
