import OwlsRan.Sched.PucchAllocator

/-!
# Limits on the PUCCHs of a slot

Each path checks the room for its PDUs before it adds them.
-/

namespace OwlsRan.Sched

open OwlsRan.Lib

namespace PucchSlot

variable {cell : PucchCellConfiguration} {ul : UlSlotContext} {s s' s'' : PucchSlot} {ue : UePucchConfig cell}
  {rnti : Nat}

def WithinLimits (cell : PucchCellConfiguration) (ul : UlSlotContext) (s : PucchSlot) : Prop :=
  (s.pucchs.length : Int) ≤ maxNofPucchGrants cell ul

def AddsWithinLimits (cell : PucchCellConfiguration) (ul : UlSlotContext) (s s' : PucchSlot) : Prop :=
  s'.pucchs.length ≤ s.pucchs.length ∨ s'.WithinLimits cell ul

lemma addsWithinLimits_of_eq (h : s'.pucchs.length = s.pucchs.length) : AddsWithinLimits cell ul s s' :=
  .inl (Nat.le_of_eq h)

lemma AddsWithinLimits.trans (h : AddsWithinLimits cell ul s s') (h' : AddsWithinLimits cell ul s' s'') :
    AddsWithinLimits cell ul s s'' := by
  rcases h' with hle' | hin'
  · rcases h with hle | hin
    · exact .inl (hle'.trans hle)
    · refine .inr (le_trans ?_ hin)
      exact_mod_cast hle'
  · exact .inr hin'

lemma withinLimits_of_space {n : Nat} (h : isThereSpaceForNewPucchGrants cell ul s n = true)
    (hlen : s'.pucchs.length ≤ s.pucchs.length + n) : s'.WithinLimits cell ul := by
  simp only [isThereSpaceForNewPucchGrants, decide_eq_true_eq] at h
  unfold WithinLimits
  omega

lemma emplacePdu_eq_ok {p : PucchInfo} (h : s.emplacePdu p = .ok s') :
    s' = { s with pucchs := s.pucchs ++ [p] } ∧ s.pucchs.length < MAX_PUCCH_PDUS_PER_SLOT := by
  unfold emplacePdu at h
  split at h
  case isTrue hlt => exact ⟨(Except.ok.inj h).symm, hlt⟩
  case isFalse => cases h

lemma length_emplacePdu {p : PucchInfo} (h : s.emplacePdu p = .ok s') : s'.pucchs.length = s.pucchs.length + 1 := by
  rw [(emplacePdu_eq_ok h).1]
  simp

section Multiplexing

variable {g : UeReservationGuard} {grantsToTx : PucchGrantList} {out : Option Nat × PucchSlot}

lemma allocateGrants_length (h : allocateGrants ul s ue rnti g grantsToTx = .ok out) :
    (out.1 = none → out.2.pucchs.length = s.pucchs.length) ∧
      (out.1 ≠ none → isThereSpaceForNewPucchGrants cell ul s (nofExtraGrants s rnti grantsToTx) = true ∧
        out.2.pucchs.length ≤ s.pucchs.length + nofExtraGrants s rnti grantsToTx) := by
  unfold allocateGrants at h
  split at h
  case h_1 => cases h
  case h_2 e he =>
    obtain ⟨existingPdus, hc, h⟩ := bind_eq_ok.mp h
    dsimp only at h
    split at h
    case isTrue =>
      obtain rfl := Except.ok.inj h
      simp
    case isFalse hspace =>
      obtain ⟨pdus, hp, h⟩ := bind_eq_ok.mp h
      obtain rfl := Except.ok.inj h
      have hlen := allocatePdus_length hp
      rw [PucchExistingPdus.create_eq_ok hc, PucchExistingPdus.length_resetIds] at hlen
      refine ⟨fun hn => by simp at hn, fun _ => ⟨by simpa using hspace, ?_⟩⟩
      simpa [setGrants, updateUeGrants, nofExtraGrants] using hlen

lemma multiplexAndAllocatePucch_length {bits : PucchUciBits} {preserve : Option Nat} {common : Option PucchGrants}
    (h : multiplexAndAllocatePucch ul s ue rnti bits preserve common = .ok out) :
    (out.1 = none → out.2.pucchs.length = s.pucchs.length) ∧
      (out.1 ≠ none → ∃ e g grants, s.findUeGrants rnti = some e ∧
        multiplexGrants ue rnti preserve (.create s.resources) ul e.pucchGrants bits common = .ok (some grants, g) ∧
        isThereSpaceForNewPucchGrants cell ul s (nofExtraGrants s rnti grants) = true ∧
        out.2.pucchs.length ≤ s.pucchs.length + nofExtraGrants s rnti grants) := by
  unfold multiplexAndAllocatePucch at h
  split at h
  case h_1 => cases h
  case h_2 e he =>
    obtain ⟨⟨grants, g⟩, hm, h⟩ := bind_eq_ok.mp h
    dsimp only at h
    split at h
    case h_1 =>
      obtain rfl := Except.ok.inj h
      simp
    case h_2 grantsToTx =>
      obtain ⟨hnone, hsome⟩ := allocateGrants_length h
      exact ⟨hnone, fun hout => ⟨e, g, grantsToTx, he, hm, hsome hout⟩⟩

lemma multiplexAndAllocatePucch_adds {bits : PucchUciBits} {preserve : Option Nat} {common : Option PucchGrants}
    (h : multiplexAndAllocatePucch ul s ue rnti bits preserve common = .ok out) :
    AddsWithinLimits cell ul s out.2 := by
  obtain ⟨hnone, hsome⟩ := multiplexAndAllocatePucch_length h
  by_cases hout : out.1 = none
  · exact addsWithinLimits_of_eq (hnone hout)
  · obtain ⟨e, g, grants, -, -, hspace, hlen⟩ := hsome hout
    exact .inr (withinLimits_of_space hspace hlen)

lemma allocateHarqGrant_adds (h : allocateHarqGrant ul s ue rnti = .ok out) : AddsWithinLimits cell ul s out.2 := by
  unfold allocateHarqGrant at h
  split at h
  case isTrue =>
    obtain rfl := Except.ok.inj h
    exact addsWithinLimits_of_eq rfl
  case isFalse hspace =>
    split at h
    case h_1 =>
      obtain rfl := Except.ok.inj h
      exact addsWithinLimits_of_eq rfl
    case h_2 a g _ =>
      obtain ⟨pdu, -, h⟩ := bind_eq_ok.mp h
      obtain ⟨s', hs', h⟩ := bind_eq_ok.mp h
      obtain rfl := Except.ok.inj h
      exact .inr (withinLimits_of_space (by simpa using hspace) (length_emplacePdu hs').le)

lemma allocateCsiGrant_adds {csiPart1Bits : Nat} (h : allocateCsiGrant ul s ue rnti csiPart1Bits = .ok s') :
    AddsWithinLimits cell ul s s' := by
  unfold allocateCsiGrant at h
  split at h
  case isTrue => cases h
  case isFalse =>
    split at h
    case isTrue =>
      obtain rfl := Except.ok.inj h
      exact addsWithinLimits_of_eq rfl
    case isFalse hspace =>
      split at h
      case h_1 => cases h
      case h_2 r hr =>
        split at h
        case h_1 =>
          obtain rfl := Except.ok.inj h
          exact addsWithinLimits_of_eq rfl
        case h_2 =>
          split at h
          · cases h
          obtain ⟨pdu, -, h⟩ := bind_eq_ok.mp h
          obtain ⟨s₁, hs₁, h⟩ := bind_eq_ok.mp h
          obtain rfl := Except.ok.inj h
          exact .inr (withinLimits_of_space (by simpa using hspace) (length_emplacePdu hs₁).le)

lemma allocSrOpportunity_adds (h : allocSrOpportunity ul s ue rnti = .ok s') : AddsWithinLimits cell ul s s' := by
  unfold allocSrOpportunity at h
  split at h
  case isTrue =>
    obtain rfl := Except.ok.inj h
    exact addsWithinLimits_of_eq rfl
  case isFalse hc =>
    split at h
    case h_1 =>
      obtain rfl := Except.ok.inj h
      exact addsWithinLimits_of_eq rfl
    case h_2 =>
      obtain ⟨pdu, -, h⟩ := bind_eq_ok.mp h
      obtain ⟨s₁, hs₁, h⟩ := bind_eq_ok.mp h
      obtain rfl := Except.ok.inj h
      have hspace : isThereSpaceForNewPucchGrants cell ul s 1 = true := by
        by_contra hno
        exact hc (.inr (.inl (by simpa using hno)))
      exact .inr (withinLimits_of_space hspace (length_emplacePdu hs₁).le)

lemma allocCsiOpportunity_adds {csiPart1Bits : Nat} (h : allocCsiOpportunity ul s ue rnti csiPart1Bits = .ok s') :
    AddsWithinLimits cell ul s s' := by
  unfold allocCsiOpportunity at h
  split at h
  case isTrue =>
    obtain rfl := Except.ok.inj h
    exact addsWithinLimits_of_eq rfl
  case isFalse =>
    split at h
    case h_1 => exact allocateCsiGrant_adds h
    case h_2 e he =>
      split at h
      case isTrue =>
        obtain rfl := Except.ok.inj h
        exact addsWithinLimits_of_eq rfl
      case isFalse =>
        split at h
        · cases h
        obtain ⟨out, hout, h⟩ := bind_eq_ok.mp h
        obtain rfl := Except.ok.inj h
        exact multiplexAndAllocatePucch_adds hout

lemma length_updatePdusWithoutMultiplexing {existingPdus : PucchExistingPdus} {pucchs : List PucchInfo}
    {format : PucchFormat} {i : Nat} {h : PucchGrant} {r : PucchResource} {srBits : SrNofBits} {nofBits : Nat} :
    (updatePdusWithoutMultiplexing ue existingPdus pucchs format i h r srBits nofBits).length = pucchs.length := by
  simp only [updatePdusWithoutMultiplexing, PucchExistingPdus.updateHarqPduBits, PucchExistingPdus.updateSrPduBits]
  split
  · cases existingPdus.srPdu with
    | none => simp
    | some j => simp [PucchExistingPdus.setBits]
  · simp

lemma allocateWithoutMultiplexing_length {nofBits : Nat} {e : UeGrants}
    (h : allocateWithoutMultiplexing s ue rnti nofBits e = .ok out) : out.2.pucchs.length = s.pucchs.length := by
  obtain ⟨existingPdus, -, h⟩ := bind_eq_ok.mp h
  dsimp only at h
  split at h
  case h_2 => cases h
  case h_1 i g _ hg =>
    split at h
    case h_1 => cases h
    case h_2 pdu _ =>
      split at h
      case isTrue =>
        obtain rfl := Except.ok.inj h
        simp
      case isFalse =>
        split at h
        case h_1 => cases h
        case h_2 =>
          split at h
          · cases h
          obtain rfl := Except.ok.inj h
          simp [setGrants, updateUeGrants, length_updatePdusWithoutMultiplexing]

lemma allocDedHarqAck_adds (h : allocDedHarqAck ul s ue rnti = .ok out) : AddsWithinLimits cell ul s out.2 := by
  unfold allocDedHarqAck at h
  split at h
  case isTrue =>
    obtain rfl := Except.ok.inj h
    exact addsWithinLimits_of_eq rfl
  case isFalse =>
    split at h
    case h_1 => exact allocateHarqGrant_adds h
    case h_2 e he =>
      split at h
      case isTrue =>
        obtain rfl := Except.ok.inj h
        exact addsWithinLimits_of_eq rfl
      case isFalse =>
        split at h
        · exact multiplexAndAllocatePucch_adds h
        · exact addsWithinLimits_of_eq (allocateWithoutMultiplexing_length h)

end Multiplexing

section Common

variable {dci : PucchDciContext} {out : Option Nat × PucchSlot}

lemma allocCommonHarqAck_adds (h : allocCommonHarqAck cell ul s dci rnti = .ok out) :
    AddsWithinLimits cell ul s out.2 := by
  unfold allocCommonHarqAck at h
  split at h
  case isTrue =>
    obtain rfl := Except.ok.inj h
    exact addsWithinLimits_of_eq rfl
  case isFalse =>
    obtain ⟨fallback, -, h⟩ := bind_eq_ok.mp h
    split at h
    case isTrue =>
      obtain rfl := Except.ok.inj h
      exact addsWithinLimits_of_eq rfl
    case isFalse hc =>
      obtain ⟨found, -, h⟩ := bind_eq_ok.mp h
      split at h
      case h_1 =>
        obtain rfl := Except.ok.inj h
        exact addsWithinLimits_of_eq rfl
      case h_2 dPri =>
        obtain ⟨s₁, hs₁, h⟩ := bind_eq_ok.mp h
        obtain rfl := Except.ok.inj h
        have hspace : isThereSpaceForNewPucchGrants cell ul s 1 = true := by
          by_contra hno
          exact hc (.inr (by simpa using hno))
        have hlen := length_emplacePdu hs₁
        refine .inr (withinLimits_of_space hspace ?_)
        dsimp only at hlen ⊢
        split
        · exact hlen.le
        · exact hlen.le

def attemptGrants (ul : UlSlotContext) (ue : UePucchConfig cell) (rnti : Nat) (dci : PucchDciContext) (s : PucchSlot)
    (dPri : Nat) : Option PucchGrantList :=
  match (UeReservationGuard.create s.resources).reserveHarqResourceByResIndicator ue rnti dPri .set0,
    s.findUeGrants rnti with
  | (some _, g), some e =>
    match multiplexGrants ue rnti (some dPri) (.create g.mgr) ul e.pucchGrants (commonAndDedBits e.pucchGrants)
      (some (cell.commonGrants (rPucchOf dci dPri))) with
    | .ok (grants, _) => grants
    | .error _ => none
  | _, _ => none

def roomForCommonPdu (ul : UlSlotContext) (ue : UePucchConfig cell) (rnti : Nat) (dci : PucchDciContext) :
    PucchSlot → List Nat → Bool
  | _, [] => true
  | s, dPri :: rest =>
    match attemptCommonAndDed ul ue rnti dci s dPri with
    | .ok (some _, _) => (attemptGrants ul ue rnti dci s dPri).all fun grants =>
        isThereSpaceForNewPucchGrants cell ul s (nofExtraGrants s rnti grants + 1)
    | .ok (none, s') => roomForCommonPdu ul ue rnti dci s' rest
    | .error _ => true

lemma attemptCommonAndDed_length {dPri : Nat} (h : attemptCommonAndDed ul ue rnti dci s dPri = .ok out) :
    (out.1 = none → AddsWithinLimits cell ul s out.2) ∧
      (out.1 ≠ none → ∃ grants ∈ attemptGrants ul ue rnti dci s dPri,
        out.2.pucchs.length ≤ s.pucchs.length + nofExtraGrants s rnti grants) := by
  unfold attemptCommonAndDed at h
  split at h
  case isTrue => cases h
  case isFalse =>
    split at h
    case isTrue =>
      obtain rfl := Except.ok.inj h
      exact ⟨fun _ => addsWithinLimits_of_eq rfl, fun hn => absurd rfl hn⟩
    case isFalse =>
      split at h
      case h_1 =>
        obtain rfl := Except.ok.inj h
        exact ⟨fun _ => addsWithinLimits_of_eq rfl, fun hn => absurd rfl hn⟩
      case h_2 r g hg =>
        split at h
        case h_1 => cases h
        case h_2 e he =>
          obtain ⟨inner, hinner, h⟩ := bind_eq_ok.mp h
          have hadds := multiplexAndAllocatePucch_adds hinner
          split at h
          case h_1 =>
            obtain rfl := Except.ok.inj h
            exact ⟨fun _ => hadds, fun hn => absurd rfl hn⟩
          case h_2 ind hind =>
            split at h
            case isTrue =>
              obtain rfl := Except.ok.inj h
              refine ⟨fun hn => absurd hn (Option.some_ne_none dPri), fun _ => ?_⟩
              obtain ⟨e', g', grants, he', hm, -, hlen⟩ :=
                (multiplexAndAllocatePucch_length hinner).2 (by rw [hind]; exact Option.some_ne_none ind)
              have hee : e' = e := Option.some.inj (he'.symm.trans he)
              subst hee
              refine ⟨grants, ?_, hlen⟩
              simp only [attemptGrants, hg, he, hm, Option.mem_def]
            case isFalse =>
              split at h
              · obtain rfl := Except.ok.inj h
                exact ⟨fun _ => hadds, fun hn => absurd rfl hn⟩
              · cases h

lemma findCommonAndDed_length {dPris : List Nat} (h : findCommonAndDedHarqResAvailable ul ue rnti dci s dPris = .ok out)
    (hroom : roomForCommonPdu ul ue rnti dci s dPris = true) :
    (out.1 = none → AddsWithinLimits cell ul s out.2) ∧
      (out.1 ≠ none → (out.2.pucchs.length + 1 : Int) ≤ maxNofPucchGrants cell ul) := by
  induction dPris generalizing s with
  | nil =>
    obtain rfl := Except.ok.inj h
    exact ⟨fun _ => addsWithinLimits_of_eq rfl, fun hn => absurd rfl hn⟩
  | cons dPri rest ih =>
    obtain ⟨attempt, hattempt, h⟩ := bind_eq_ok.mp h
    obtain ⟨hnone, hsome⟩ := attemptCommonAndDed_length hattempt
    obtain ⟨found, s₁⟩ := attempt
    cases found with
    | none =>
      simp only [roomForCommonPdu, hattempt] at hroom
      obtain ⟨hrest, hfound⟩ := ih h hroom
      exact ⟨fun hn => (hnone rfl).trans (hrest hn), hfound⟩
    | some d =>
      obtain rfl := Except.ok.inj h
      simp only [roomForCommonPdu, hattempt] at hroom
      refine ⟨fun hn => absurd hn (Option.some_ne_none d), fun _ => ?_⟩
      obtain ⟨grants, hgrants, hlen⟩ := hsome (Option.some_ne_none d)
      rw [Option.mem_def.mp hgrants] at hroom
      have hspace : isThereSpaceForNewPucchGrants cell ul s (nofExtraGrants s rnti grants + 1) = true := hroom
      simp only [isThereSpaceForNewPucchGrants, decide_eq_true_eq] at hspace
      dsimp only at hlen ⊢
      omega

lemma allocCommonAndDedHarqAck_adds (h : allocCommonAndDedHarqAck ul s ue rnti dci = .ok out)
    (hroom : roomForCommonPdu ul ue rnti dci (s.withUeGrants rnti) dPris = true) : AddsWithinLimits cell ul s out.2 := by
  unfold allocCommonAndDedHarqAck at h
  have hwith : (s.withUeGrants rnti).pucchs = s.pucchs := by
    unfold withUeGrants
    split <;> rfl
  split at h
  case isTrue =>
    obtain rfl := Except.ok.inj h
    exact addsWithinLimits_of_eq rfl
  case isFalse =>
    obtain ⟨fallback, -, h⟩ := bind_eq_ok.mp h
    split at h
    case isTrue =>
      obtain rfl := Except.ok.inj h
      exact addsWithinLimits_of_eq rfl
    case isFalse =>
      obtain ⟨found, hfound, h⟩ := bind_eq_ok.mp h
      obtain ⟨hnone, hsome⟩ := findCommonAndDed_length hfound hroom
      split at h
      case h_1 dPri hd =>
        obtain ⟨s₁, hs₁, h⟩ := bind_eq_ok.mp h
        obtain rfl := Except.ok.inj h
        obtain ⟨s₂, hs₂, hs₁⟩ := bind_eq_ok.mp hs₁
        have hlen := length_emplacePdu hs₂
        have hmax := hsome (by rw [hd]; exact Option.some_ne_none dPri)
        split at hs₁
        · cases hs₁
        obtain rfl := Except.ok.inj hs₁
        refine .inr ?_
        simp only [WithinLimits, setCommon, updateUeGrants]
        omega
      case h_2 hd =>
        obtain rfl := Except.ok.inj h
        have hadds := hnone hd
        unfold AddsWithinLimits WithinLimits at hadds ⊢
        rw [hwith] at hadds
        dsimp only
        split
        · exact hadds
        · exact hadds

end Common

end PucchSlot

namespace PucchEvent

variable {cell : PucchCellConfiguration} {ues : Nat → UePucchConfig cell}

def ul : PucchEvent → UlSlotContext
  | .allocSrOpportunity _ ul _ => ul
  | .allocCsiOpportunity _ ul _ _ => ul
  | .allocDedHarqAck _ ul _ => ul
  | .allocCommonHarqAck _ ul _ _ => ul
  | .allocCommonAndDedHarqAck _ ul _ _ => ul
  | .removeUeUciFromPucch _ _ => ⟨true, [], [], false⟩
  | .slotIndication _ => ⟨true, [], [], false⟩

def HasRoom (ues : Nat → UePucchConfig cell) (ring : PucchRing) : PucchEvent → Prop
  | .allocCommonAndDedHarqAck slot ul rnti dci =>
    PucchSlot.roomForCommonPdu ul (ues rnti) rnti dci ((ring (slot % cell.ringAllocatorSize)).withUeGrants rnti) dPris =
      true
  | _ => True

lemma apply_adds {ring : PucchRing} {e : PucchEvent} {out : Option Nat × PucchSlot}
    (h : e.apply ues (ring (e.entry cell.ringAllocatorSize)) = .ok out) (hroom : e.HasRoom ues ring) :
    PucchSlot.AddsWithinLimits cell e.ul (ring (e.entry cell.ringAllocatorSize)) out.2 := by
  cases e with
  | allocSrOpportunity slot ul rnti =>
    obtain ⟨s', hs', rfl⟩ := map_eq_ok.mp h
    exact PucchSlot.allocSrOpportunity_adds hs'
  | allocCsiOpportunity slot ul rnti csiPart1Bits =>
    obtain ⟨s', hs', rfl⟩ := map_eq_ok.mp h
    exact PucchSlot.allocCsiOpportunity_adds hs'
  | allocDedHarqAck slot ul rnti => exact PucchSlot.allocDedHarqAck_adds h
  | allocCommonHarqAck slot ul rnti dci => exact PucchSlot.allocCommonHarqAck_adds h
  | allocCommonAndDedHarqAck slot ul rnti dci => exact PucchSlot.allocCommonAndDedHarqAck_adds h hroom
  | removeUeUciFromPucch slot rnti =>
    obtain rfl := Except.ok.inj h
    refine .inl ?_
    dsimp only [PucchSlot.removeUeUciFromPucch]
    split
    · exact List.length_filter_le _ _
    · exact List.length_filter_le _ _
  | slotIndication slTx =>
    obtain rfl := Except.ok.inj h
    exact .inl (Nat.zero_le _)

def KeepsLimits (ues : Nat → UePucchConfig cell) (ring : PucchRing) (e : PucchEvent) : Prop :=
  ∀ ring', ring.step ues e = .ok ring' → ∀ slot, (ring slot).pucchs.length < (ring' slot).pucchs.length →
    ((ring' slot).pucchs.length : Int) ≤ PucchSlot.maxNofPucchGrants cell e.ul

lemma keepsLimits_of_hasRoom {ring : PucchRing} {e : PucchEvent} (hroom : e.HasRoom ues ring) :
    e.KeepsLimits ues ring := by
  intro ring' hstep slot hadds
  obtain ⟨out, hout, rfl⟩ := PucchRing.step_eq_ok hstep
  by_cases hslot : slot = e.entry cell.ringAllocatorSize
  · subst hslot
    rw [Function.update_self] at hadds ⊢
    rcases apply_adds hout hroom with hle | hin
    · omega
    · exact hin
  · rw [Function.update_of_ne hslot] at hadds
    omega

end PucchEvent

namespace PucchRing

variable {cell : PucchCellConfiguration} {ues : Nat → UePucchConfig cell}

/-- The limits hold after every call of a run, when the calls for common and dedicated resources find room for the
common PDU. -/
theorem pucchs_within_limits {es : List PucchEvent}
    (hroom : RunsWithin (PucchRing.step ues) (fun ring e => e.HasRoom ues ring) PucchRing.start es) :
    RunsWithin (PucchRing.step ues) (fun ring e => e.KeepsLimits ues ring) PucchRing.start es :=
  runsWithin_mono (fun _ _ h => PucchEvent.keepsLimits_of_hasRoom h) hroom

open PucchExample in
theorem pucchs_within_limits_of_two :
    RunsWithin (PucchRing.step fun _ => ue 2) (fun ring e => e.KeepsLimits (fun _ => ue 2) ring) PucchRing.start
      [.allocCommonAndDedHarqAck 3 ul 100 dci] := by
  apply pucchs_within_limits
  refine ⟨?_, fun _ _ => trivial⟩
  change PucchSlot.roomForCommonPdu ul (ue 2) 100 dci (PucchSlot.empty.withUeGrants 100) dPris = true
  decide +kernel

open PucchExample in
/-- With a limit of one PUCCH, the dedicated PDU takes the last place and the common one is added to it. -/
theorem pucchs_exceed_limits :
    ¬∀ es, RunsWithin (PucchRing.step fun _ => ue 1) (fun ring e => e.KeepsLimits (fun _ => ue 1) ring) PucchRing.start
      es := by
  intro h
  have hrun : (PucchRing.start.step (fun _ => ue 1) (.allocCommonAndDedHarqAck 3 ul 100 dci)).toOption.any
      (fun ring => (ring 3).pucchs.length == 2) = true := by decide +kernel
  cases hs : PucchRing.start.step (fun _ => ue 1) (.allocCommonAndDedHarqAck 3 ul 100 dci) with
  | error a =>
    rw [hs] at hrun
    cases hrun
  | ok ring =>
    rw [hs] at hrun
    have hlen : (ring 3).pucchs.length = 2 := by simpa [Except.toOption] using hrun
    have hlimit := (h [.allocCommonAndDedHarqAck 3 ul 100 dci]).1 ring hs 3 (by rw [hlen]; decide)
    rw [hlen] at hlimit
    revert hlimit
    decide

end PucchRing

end OwlsRan.Sched
