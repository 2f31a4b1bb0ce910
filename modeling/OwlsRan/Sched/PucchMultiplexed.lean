import OwlsRan.Sched.PucchMerging

/-!
# The grants after multiplexing

A run of the multiplexing loop is a sequence of merges.
-/

namespace OwlsRan.Sched

open OwlsRan.Lib Relation

section Candidates

variable {cell : PucchCellConfiguration} {ue : UePucchConfig cell} {rnti : Nat} {g g' : UeReservationGuard}
  {current : PucchGrantList} {bits : PucchUciBits}

def srCandidate (ue : UePucchConfig cell) (bits : PucchUciBits) : Option PucchGrant :=
  if bits.srBits ≠ .noSr then some (.onResource .sr ⟨0, bits.srBits, 0⟩ ue.srRes) else none

def csiCandidate (ue : UePucchConfig cell) (bits : PucchUciBits) : Option PucchGrant :=
  if bits.csiPart1NofBits ≠ 0 then
    ue.csiRes.map fun r => .onResource .csi ⟨0, .noSr, bits.csiPart1NofBits⟩ r
  else none

lemma harqCandidate_cases {out : Option PucchGrant × UeReservationGuard}
    (h : harqCandidate ue rnti g current bits = .ok out) :
    (determinedHarqResInd ue current bits = none ∧ out.1 = none ∧
        out.2 = (g.reserveNextHarqResAvailable ue rnti (harqResSetIdx bits)).2) ∨
      ∃ ind r, out.1 = some ⟨.harqAck, ⟨harqResSetIdx bits, ind⟩, ⟨bits.harqAckNofBits, .noSr, 0⟩, r⟩ ∧
        (determinedHarqResInd ue current bits = some ind ∧
            g.reserveHarqResourceByResIndicator ue rnti ind (harqResSetIdx bits) = (some r, out.2) ∨
          determinedHarqResInd ue current bits = none ∧
            g.reserveNextHarqResAvailable ue rnti (harqResSetIdx bits) = (some ⟨r, ind⟩, out.2)) := by
  unfold harqCandidate at h
  split at h
  case h_1 ind hind =>
    split at h
    case h_1 r g' hr =>
      obtain rfl := Except.ok.inj h
      exact .inr ⟨ind, r, rfl, .inl ⟨hind, hr⟩⟩
    case h_2 => cases h
  case h_2 hnone =>
    split at h
    case h_1 a g' ha =>
      obtain rfl := Except.ok.inj h
      exact .inr ⟨a.pucchResIndicator, a.resource, rfl, .inr ⟨hnone, ha⟩⟩
    case h_2 g' ha =>
      obtain rfl := Except.ok.inj h
      exact .inl ⟨hnone, rfl, by rw [ha]⟩

lemma getPucchResPreMultiplexing_cases {out : Option PucchGrantList × UeReservationGuard}
    (h : getPucchResPreMultiplexing ue rnti g current bits = .ok out) :
    (bits.csiPart1NofBits ≠ 0 → (csiCandidate ue bits).isSome = true) ∧
      ((bits.harqAckNofBits = 0 ∧ out = (some ⟨none, srCandidate ue bits, csiCandidate ue bits⟩, g)) ∨
        0 < bits.harqAckNofBits ∧ ∃ harq, harqCandidate ue rnti g current bits = .ok harq ∧
          out = (harq.1.map fun h => ⟨some h, srCandidate ue bits, csiCandidate ue bits⟩, harq.2)) := by
  have hharq {csi : Option PucchGrant}
      (h : (if 0 < bits.harqAckNofBits then do
          let harq ← harqCandidate ue rnti g current bits
          pure (harq.1.map fun h => ⟨some h, srCandidate ue bits, csi⟩, harq.2)
        else pure (some ⟨none, srCandidate ue bits, csi⟩, g)) = Except.ok out) :
      (bits.harqAckNofBits = 0 ∧ out = (some ⟨none, srCandidate ue bits, csi⟩, g)) ∨
        0 < bits.harqAckNofBits ∧ ∃ harq, harqCandidate ue rnti g current bits = .ok harq ∧
          out = (harq.1.map fun h => ⟨some h, srCandidate ue bits, csi⟩, harq.2) := by
    split at h
    case isTrue hpos =>
      obtain ⟨harq, hharq, h⟩ := bind_eq_ok.mp h
      exact .inr ⟨hpos, harq, hharq, (Except.ok.inj h).symm⟩
    case isFalse hzero => exact .inl ⟨by omega, (Except.ok.inj h).symm⟩
  unfold getPucchResPreMultiplexing at h
  dsimp only at h
  unfold csiCandidate
  split at h
  case isTrue hne =>
    rw [if_pos hne]
    cases hr : ue.csiRes with
    | none =>
      rw [hr] at h
      cases h
    | some r =>
      rw [hr] at h
      exact ⟨fun _ => rfl, hharq h⟩
  case isFalse heq =>
    rw [if_neg heq]
    exact ⟨fun hne => absurd hne heq, hharq h⟩

end Candidates

section Spreads

structure PucchGrantList.Spreads (bits : PucchUciBits) (l : PucchGrantList) : Prop where
  harq : ∀ h ∈ l.harqResource, h.bits.harqAckNofBits = bits.harqAckNofBits
  harq_isSome : l.harqResource.isSome = true ↔ 0 < bits.harqAckNofBits
  sr : ∀ s ∈ l.srResource, s.bits = ⟨0, bits.srBits, 0⟩
  csi : ∀ c ∈ l.csiResource, c.bits.harqAckNofBits = 0
  noSr : l.srResource ≠ none →
    (∀ h ∈ l.harqResource, h.bits.srBits = .noSr) ∧ ∀ c ∈ l.csiResource, c.bits.srBits = .noSr
  srBits : l.getSrBits = bits.srBits
  csiBits : l.getCsiPart1NofBits = bits.csiPart1NofBits

variable {cell : PucchCellConfiguration} {ue : UePucchConfig cell} {rnti : Nat} {preserve : Option Nat}
  {bits : PucchUciBits} {l : PucchGrantList}

lemma PucchGrantList.Spreads.getUciBits (h : l.Spreads bits) : l.getUciBits = bits := by
  have hharq : l.getHarqAckNofBits = bits.harqAckNofBits := by
    unfold getHarqAckNofBits
    cases hh : l.harqResource with
    | some r => exact h.harq r hh
    | none =>
      have hzero : bits.harqAckNofBits = 0 := by
        have hsome := h.harq_isSome
        rw [hh] at hsome
        simpa using hsome
      cases hs : l.srResource with
      | none =>
        cases hc : l.csiResource with
        | none => simp [hzero]
        | some c => simp [hzero, h.csi c hc]
      | some s =>
        cases hc : l.csiResource with
        | none => simp [hzero, h.sr s hs]
        | some c => simp [hzero, h.sr s hs, h.csi c hc]
  unfold PucchGrantList.getUciBits
  rw [hharq, h.srBits, h.csiBits]

lemma spreads_candidates (hcsi : bits.csiPart1NofBits ≠ 0 → (csiCandidate ue bits).isSome = true)
    {harq : Option PucchGrant} (hharq : ∀ h ∈ harq, h.bits = ⟨bits.harqAckNofBits, .noSr, 0⟩)
    (hsome : harq.isSome = true ↔ 0 < bits.harqAckNofBits) :
    PucchGrantList.Spreads bits ⟨harq, srCandidate ue bits, csiCandidate ue bits⟩ := by
  have hsr : ∀ s ∈ srCandidate ue bits, s.bits = ⟨0, bits.srBits, 0⟩ := by
    intro s hs
    unfold srCandidate at hs
    split at hs
    · obtain rfl := Option.some.inj hs
      rfl
    · cases hs
  have hcsi' : ∀ c ∈ csiCandidate ue bits, c.bits = ⟨0, .noSr, bits.csiPart1NofBits⟩ := by
    intro c hc
    unfold csiCandidate at hc
    split at hc
    · obtain ⟨r, -, rfl⟩ := Option.map_eq_some_iff.mp hc
      rfl
    · cases hc
  refine ⟨fun h hh => by rw [hharq h hh], hsome, hsr, fun c hc => by rw [hcsi' c hc],
    fun _ => ⟨fun h hh => by rw [hharq h hh], fun c hc => by rw [hcsi' c hc]⟩, ?_, ?_⟩
  · unfold PucchGrantList.getSrBits
    cases hs : srCandidate ue bits with
    | some s => simp [hsr s hs]
    | none =>
      have hno : bits.srBits = .noSr := by
        unfold srCandidate at hs
        split at hs
        · cases hs
        · simpa using ‹¬bits.srBits ≠ .noSr›
      cases hh : harq with
      | none =>
        cases hc : csiCandidate ue bits with
        | none => simp [hno]
        | some c => simp [hno, hcsi' c hc]
      | some h =>
        cases hc : csiCandidate ue bits with
        | none => simp [hno, hharq h hh]
        | some c => simp [hno, hharq h hh, hcsi' c hc]
  · unfold PucchGrantList.getCsiPart1NofBits
    cases hc : csiCandidate ue bits with
    | some c => simp [hcsi' c hc]
    | none =>
      have hzero : bits.csiPart1NofBits = 0 := by
        by_contra hne
        have hex := hcsi hne
        rw [hc] at hex
        cases hex
      cases hh : harq with
      | none => simp [hzero]
      | some h => simp [hzero, hharq h hh]

lemma elim_eq_noSr {o : Option PucchGrant} (h : ∀ r ∈ o, r.bits.srBits = .noSr) :
    (o.elim .noSr fun r => r.bits.srBits) = .noSr := by
  cases o with
  | none => rfl
  | some r => exact h r rfl

lemma spreads_of_harq {r : PucchGrant} {sr : Option PucchGrant} (hpos : 0 < bits.harqAckNofBits)
    (hr : r.bits = ⟨bits.harqAckNofBits, if sr.isSome then .noSr else bits.srBits, bits.csiPart1NofBits⟩)
    (hsr : ∀ s ∈ sr, s.bits = ⟨0, bits.srBits, 0⟩) : PucchGrantList.Spreads bits ⟨some r, sr, none⟩ := by
  cases sr with
  | none => constructor <;> simp_all [PucchGrantList.getSrBits, PucchGrantList.getCsiPart1NofBits]
  | some s => constructor <;> simp_all [PucchGrantList.getSrBits, PucchGrantList.getCsiPart1NofBits]

lemma PucchGrantList.Spreads.harqCsiBits {h c : PucchGrant} {sr : Option PucchGrant}
    (hl : PucchGrantList.Spreads bits ⟨some h, sr, some c⟩) :
    harqCsiBits h c =
      ⟨bits.harqAckNofBits, if sr.isSome then .noSr else bits.srBits, bits.csiPart1NofBits⟩ := by
  obtain ⟨hharq, -, -, -, hno, hsrBits, hcsiBits⟩ := hl
  by_cases hh : h.bits.srBits = .noSr <;> cases sr <;>
    simp_all [OwlsRan.Sched.harqCsiBits, getSrBits, getCsiPart1NofBits]

lemma PucchGrantList.Spreads.harqSrCsiBits {h s c : PucchGrant}
    (hl : PucchGrantList.Spreads bits ⟨some h, some s, some c⟩) : harqSrCsiBits h s c = bits := by
  obtain ⟨hharq, -, hsr, -, -, -, hcsiBits⟩ := hl
  simp_all [OwlsRan.Sched.harqSrCsiBits, getCsiPart1NofBits]

lemma Merged.spreads {l' : PucchGrantList} {g g' : UeReservationGuard}
    (hm : Merged ue rnti preserve (l, g) (l', g')) (h : l.Spreads bits) : l'.Spreads bits := by
  cases hm with
  | srHarq h₁ s c =>
    obtain ⟨hharq, hsome, hsr, hcsi, hno, hsrBits, hcsiBits⟩ := h
    have hcsr := elim_eq_noSr (hno (Option.some_ne_none s)).2
    constructor <;> simp_all [PucchGrantList.getSrBits, PucchGrantList.getCsiPart1NofBits, PucchGrant.setSrBits]
  | srCsi h₁ s c =>
    obtain ⟨hharq, hsome, hsr, hcsi, hno, hsrBits, hcsiBits⟩ := h
    have hhsr := elim_eq_noSr (hno (Option.some_ne_none s)).1
    constructor <;> simp_all [PucchGrantList.getSrBits, PucchGrantList.getCsiPart1NofBits, PucchGrant.setSrBits]
  | harqCsi h₁ c s => exact spreads_of_harq (h.harq_isSome.mp rfl) h.harqCsiBits h.sr
  | harqCsiMoved h₁ c s => exact spreads_of_harq (h.harq_isSome.mp rfl) h.harqCsiBits h.sr
  | harqSrCsi h₁ s c => exact spreads_of_harq (h.harq_isSome.mp rfl) h.harqSrCsiBits (by simp)
  | harqSrCsiMoved h₁ s c => exact spreads_of_harq (h.harq_isSome.mp rfl) h.harqSrCsiBits (by simp)

end Spreads

section Loop

variable {cell : PucchCellConfiguration} {ue : UePucchConfig cell} {rnti : Nat} {preserve : Option Nat}
  {l l' : PucchGrantList} {g g' : UeReservationGuard}

lemma Merged.placed (hm : Merged ue rnti preserve (l, g) (l', g')) (h : l.Placed ue) : l'.Placed ue := by
  cases hm with
  | srHarq h₁ s c => exact ⟨by simpa [PucchGrant.setSrBits] using h.harq h₁ rfl, by simp, h.csi⟩
  | srCsi h₁ s c => exact ⟨h.harq, by simp, by simpa [PucchGrant.setSrBits] using h.csi c rfl⟩
  | harqCsi h₁ c s => exact ⟨by simpa [PucchGrant.setBits] using h.harq h₁ rfl, h.sr, by simp⟩
  | harqCsiMoved h₁ c s _ _ r hset hr =>
    have hget := UeReservationGuard.getElem?_of_reserveHarqResourceByResIndicator (congrArg Prod.fst hr)
    exact ⟨by simpa using List.mem_of_getElem? hget, h.sr, by simp⟩
  | harqSrCsi h₁ s c => exact ⟨by simpa [PucchGrant.setBits] using h.harq h₁ rfl, by simp, by simp⟩
  | harqSrCsiMoved h₁ s c _ _ r hset hr =>
    have hget := UeReservationGuard.getElem?_of_reserveHarqResourceByResIndicator (congrArg Prod.fst hr)
    exact ⟨by simpa using List.mem_of_getElem? hget, by simp, by simp⟩

lemma multiplexLoop_merges {fuel : Nat} {q : List PucchGrant} {out : Option (List PucchGrant) × UeReservationGuard}
    (hl : l.Placed ue) (hq : q.Perm l.toList) (hm : multiplexLoop ue rnti preserve fuel g q = .ok out) :
    ∃ l' g', ReflTransGen (Merged ue rnti preserve) (l, g) (l', g') ∧ l'.Placed ue ∧
      ((∃ q', out = (some q', g') ∧ q'.Perm l'.toList) ∨ out.1 = none ∧ MergeFails ue rnti l' g' out.2) := by
  induction fuel generalizing l g q with
  | zero =>
    obtain rfl := Except.ok.inj hm
    exact ⟨l, g, .refl, hl, .inl ⟨q, rfl, hq⟩⟩
  | succ fuel ih =>
    rw [multiplexLoop] at hm
    split at hm
    case h_1 =>
      obtain rfl := Except.ok.inj hm
      exact ⟨l, g, .refl, hl, .inl ⟨q, rfl, hq⟩⟩
    case h_2 pre group rest hover =>
      obtain ⟨rfl, -⟩ := firstOverlap_eq_some hover
      obtain ⟨merged, hmerged, hm⟩ := bind_eq_ok.mp hm
      rcases mergePucchResources_mergesTo hl hq hmerged with ⟨r, l₁, hr, hstep, hperm⟩ | ⟨hnone, hfails⟩
      · simp only [hr] at hm
        obtain ⟨l', g', hrest, hl', hout⟩ := ih (hstep.placed hl) ((sortResSetQ_perm _).trans hperm) hm
        exact ⟨l', g', .head hstep hrest, hl', hout⟩
      · simp only [hnone] at hm
        obtain rfl := Except.ok.inj hm
        exact ⟨l, g, .refl, hl, .inr ⟨rfl, hfails⟩⟩

variable {m : PucchSlotResources}

lemma merges_keep {P : PucchGrantList × UeReservationGuard → Prop}
    (hP : ∀ p p', Merged ue rnti preserve p p' → P p → P p') {p p' : PucchGrantList × UeReservationGuard}
    (h : ReflTransGen (Merged ue rnti preserve) p p') (hp : P p) : P p' := by
  induction h with
  | refl => exact hp
  | tail _ hstep ih => exact hP _ _ hstep ih

structure SrAdded (ue : UePucchConfig cell) (rnti : Nat) (l : PucchGrantList) (g : UeReservationGuard)
    (l' : PucchGrantList) (g' : UeReservationGuard) (h : PucchGrant) : Prop where
  single : l = ⟨some h, none, none⟩
  format : h.format = .format1
  harqAck : h.bits.harqAckNofBits ≠ 0
  sr : h.bits.srBits ≠ .noSr
  reserved : g.reserveSrResource ue rnti = (some ue.srRes, g')
  grants : l' = ⟨some (h.setSrBits .noSr),
    some (.onResource .sr ⟨h.bits.harqAckNofBits, h.bits.srBits, 0⟩ ue.srRes), none⟩

lemma addSrGrantF1_cases {q : List PucchGrant} {bits : PucchUciBits} {out : List PucchGrant × UeReservationGuard}
    (hl : l.Placed ue) (hbits : l.Spreads bits) (hq : q.Perm l.toList) (h : addSrGrantF1 ue rnti g q = .ok out) :
    (toGrantList out.1 = l ∧ out.2 = g) ∨ ∃ h₁, SrAdded ue rnti l g (toGrantList out.1) out.2 h₁ := by
  unfold addSrGrantF1 at h
  split at h
  case h_2 =>
    obtain rfl := Except.ok.inj h
    exact .inl ⟨toGrantList_eq hl hq, rfl⟩
  case h_1 r =>
    split at h
    case isFalse =>
      obtain rfl := Except.ok.inj h
      exact .inl ⟨toGrantList_eq hl hq, rfl⟩
    case isTrue hf1 =>
      obtain ⟨hformat, hharq, hsr⟩ := hf1
      split at h
      case h_2 => cases h
      case h_1 srRes g' hres =>
        obtain rfl := Except.ok.inj h
        have hlist : l.toList = [r] := (List.perm_singleton.mp hq.symm)
        have hmem : r ∈ l.toList := by simp [hlist]
        -- Only the HARQ-ACK grant has HARQ-ACK bits before this.
        have hh : l.harqResource = some r := by
          rcases PucchGrantList.mem_toList.mp hmem with hh | hs | hc
          · exact hh
          · exact absurd (by rw [hbits.sr r hs]) hharq
          · exact absurd (hbits.csi r hc) hharq
        have htype := (hl.harq r hh).1
        have hsingle : l = ⟨some r, none, none⟩ := by
          obtain ⟨harq, sr, csi⟩ := l
          dsimp only at hh
          subst hh
          cases sr <;> cases csi <;> simp_all [PucchGrantList.toList]
        have hsrRes : srRes = ue.srRes := UeReservationGuard.reserve_fst (congrArg Prod.fst hres)
        subst hsrRes
        refine .inr ⟨r, hsingle, hformat, hharq, hsr, hres, ?_⟩
        simp [toGrantList, grantOfType, PucchGrant.setSrBits, PucchGrant.onResource, htype]

end Loop

end OwlsRan.Sched
