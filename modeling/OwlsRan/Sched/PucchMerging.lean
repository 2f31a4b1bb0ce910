import OwlsRan.Sched.PucchMultiplexing
import Mathlib.Data.List.TakeDrop
import Mathlib.Logic.Relation

/-!
# What multiplexing does to the grants

The set Q always holds at most one grant of each type, so that it stands for a list of grants.
-/

namespace OwlsRan.Sched

open OwlsRan.Lib

section Merged

variable {cell : PucchCellConfiguration} (ue : UePucchConfig cell) (rnti : Nat) (preserve : Option Nat)

structure PucchGrantList.Placed (l : PucchGrantList) : Prop where
  harq : ∀ h ∈ l.harqResource, h.type = .harqAck ∧ h.pucchResCfg ∈ ue.pucchResSet h.harqId.pucchSetIdx
  sr : ∀ s ∈ l.srResource, s.type = .sr ∧ s.pucchResCfg = ue.srRes
  csi : ∀ c ∈ l.csiResource, c.type = .csi ∧ ue.csiRes = some c.pucchResCfg

/-- A successful merge. -/
inductive Merged : PucchGrantList × UeReservationGuard → PucchGrantList × UeReservationGuard → Prop where
  | srHarq (h s : PucchGrant) (c : Option PucchGrant) (g : UeReservationGuard) :
      Merged (⟨some h, some s, c⟩, g) (⟨some (h.setSrBits s.bits.srBits), none, c⟩, g)
  | srCsi (h : Option PucchGrant) (s c : PucchGrant) (g : UeReservationGuard) :
      Merged (⟨h, some s, some c⟩, g) (⟨h, none, some (c.setSrBits s.bits.srBits)⟩, g)
  | harqCsi (h c : PucchGrant) (s : Option PucchGrant) (g : UeReservationGuard) (hset : h.harqId.pucchSetIdx = .set1) :
      Merged (⟨some h, s, some c⟩, g) (⟨some (h.setBits (harqCsiBits h c)), s, none⟩, g)
  | harqCsiMoved (h c : PucchGrant) (s : Option PucchGrant) (g g' : UeReservationGuard) (r : PucchResource)
      (hset : h.harqId.pucchSetIdx = .set0)
      (hr : g.reserveHarqResourceByResIndicator ue rnti (preserve.getD h.harqId.pucchResInd) .set1 = (some r, g')) :
      Merged (⟨some h, s, some c⟩, g)
        (⟨some ⟨.harqAck, ⟨.set1, h.harqId.pucchResInd⟩, harqCsiBits h c, r⟩, s, none⟩, g')
  | harqSrCsi (h s c : PucchGrant) (g : UeReservationGuard) (hset : h.harqId.pucchSetIdx = .set1) :
      Merged (⟨some h, some s, some c⟩, g) (⟨some (h.setBits (harqSrCsiBits h s c)), none, none⟩, g)
  | harqSrCsiMoved (h s c : PucchGrant) (g g' : UeReservationGuard) (r : PucchResource)
      (hset : h.harqId.pucchSetIdx = .set0)
      (hr : g.reserveHarqResourceByResIndicator ue rnti h.harqId.pucchResInd .set1 = (some r, g')) :
      Merged (⟨some h, some s, some c⟩, g)
        (⟨some ⟨.harqAck, ⟨.set1, h.harqId.pucchResInd⟩, harqSrCsiBits h s c, r⟩, none, none⟩, g')

def MergeFails (l : PucchGrantList) (g g' : UeReservationGuard) : Prop :=
  g' = g ∨ ∃ h ∈ l.harqResource, h.harqId.pucchSetIdx = .set0 ∧
    ∃ dPri, g' = (g.reserveHarqResourceByResIndicator ue rnti dPri .set1).2

end Merged

section Q

variable {cell : PucchCellConfiguration} {ue : UePucchConfig cell} {rnti : Nat} {preserve : Option Nat}
  {l l' : PucchGrantList} {q : List PucchGrant} {g g' : UeReservationGuard}

namespace PucchGrantList

variable {r : PucchGrant}

lemma mem_toList : r ∈ l.toList ↔ l.harqResource = some r ∨ l.srResource = some r ∨ l.csiResource = some r := by
  simp [toList]

lemma Placed.of_type (hl : l.Placed ue) (hr : r ∈ l.toList) :
    match r.type with
    | .harqAck => l.harqResource = some r
    | .sr => l.srResource = some r
    | .csi => l.csiResource = some r := by
  rcases mem_toList.mp hr with h | h | h
  · rw [(hl.harq r h).1]
    exact h
  · rw [(hl.sr r h).1]
    exact h
  · rw [(hl.csi r h).1]
    exact h

lemma Placed.harq_of_type (hl : l.Placed ue) (hr : r ∈ l.toList) (ht : r.type = .harqAck) :
    l.harqResource = some r := by
  have h := hl.of_type hr
  rw [ht] at h
  exact h

lemma Placed.sr_of_type (hl : l.Placed ue) (hr : r ∈ l.toList) (ht : r.type = .sr) : l.srResource = some r := by
  have h := hl.of_type hr
  rw [ht] at h
  exact h

lemma Placed.csi_of_type (hl : l.Placed ue) (hr : r ∈ l.toList) (ht : r.type = .csi) : l.csiResource = some r := by
  have h := hl.of_type hr
  rw [ht] at h
  exact h

lemma Placed.harq_format (hl : l.Placed ue) {h : PucchGrant} (hh : l.harqResource = some h) :
    h.format.isFormat0Or1 = true ↔ h.harqId.pucchSetIdx = .set0 := by
  obtain ⟨-, hmem⟩ := hl.harq h hh
  cases hset : h.harqId.pucchSetIdx with
  | set0 =>
    rw [hset] at hmem
    simp [PucchGrant.format, ue.set0_format _ hmem, ue.sr_format]
  | set1 =>
    rw [hset] at hmem
    simp [PucchGrant.format, ue.set1_format _ hmem]

end PucchGrantList

variable {r s h c : PucchGrant}

lemma grantOfType_mem {t : PucchGrantType} (h : grantOfType t q = some r) : r ∈ q ∧ r.type = t := by
  unfold grantOfType at h
  have hmem := List.mem_of_find?_eq_some h
  have ht := List.find?_some h
  exact ⟨List.mem_reverse.mp hmem, by simpa using ht⟩

lemma grantOfType_eq_none {t : PucchGrantType} (h : grantOfType t q = none) (hr : r ∈ q) : r.type ≠ t := by
  unfold grantOfType at h
  have hno := List.find?_eq_none.mp h r (List.mem_reverse.mpr hr)
  simpa using hno

lemma toGrantList_eq (hl : l.Placed ue) (hq : q.Perm l.toList) : toGrantList q = l := by
  have hfind (t : PucchGrantType) (o : Option PucchGrant) (ho : ∀ r, o = some r → r ∈ l.toList ∧ r.type = t)
      (ht : ∀ r ∈ l.toList, r.type = t → o = some r) : grantOfType t q = o := by
    cases hg : grantOfType t q with
    | some r =>
      obtain ⟨hmem, htype⟩ := grantOfType_mem hg
      exact (ht r (hq.subset hmem) htype).symm
    | none =>
      cases o with
      | none => rfl
      | some r =>
        obtain ⟨hmem, htype⟩ := ho r rfl
        exact absurd htype (grantOfType_eq_none hg (hq.symm.subset hmem))
  have hharq := hfind .harqAck l.harqResource
    (fun r h => ⟨PucchGrantList.mem_toList.mpr (.inl h), (hl.harq r h).1⟩) fun r => hl.harq_of_type
  have hsr := hfind .sr l.srResource
    (fun r h => ⟨PucchGrantList.mem_toList.mpr (.inr (.inl h)), (hl.sr r h).1⟩) fun r => hl.sr_of_type
  have hcsi := hfind .csi l.csiResource
    (fun r h => ⟨PucchGrantList.mem_toList.mpr (.inr (.inr h)), (hl.csi r h).1⟩) fun r => hl.csi_of_type
  simp only [toGrantList, hharq, hsr, hcsi]

lemma sortResSetQ_perm (q : List PucchGrant) : (sortResSetQ q).Perm q := List.perm_insertionSort _ q

lemma firstOverlap_eq_some {p : List PucchGrant × List PucchGrant × List PucchGrant} (h : firstOverlap q = some p) :
    q = p.1 ++ p.2.1 ++ p.2.2 ∧ 2 ≤ p.2.1.length := by
  induction q generalizing p with
  | nil => cases h
  | cons r q ih =>
    rw [firstOverlap] at h
    have hspan := List.takeWhile_append_dropWhile (p := fun r' => r.symbols.overlaps r'.symbols) (l := q)
    rw [List.span_eq_takeWhile_dropWhile] at h
    split at h
    case h_1 rest heq =>
      obtain ⟨p', hp', rfl⟩ := Option.map_eq_some_iff.mp h
      obtain ⟨hq, hlen⟩ := ih hp'
      exact ⟨by rw [hq]; rfl, hlen⟩
    case h_2 r' group rest heq =>
      obtain rfl := Option.some.inj h
      obtain ⟨h1, h2⟩ := Prod.mk.inj heq
      rw [h1, h2] at hspan
      refine ⟨?_, by simp⟩
      simp only [List.nil_append, List.cons_append]
      rw [← hspan]
      rfl

lemma withinMaxPayload_cases (ue : UePucchConfig cell) (r : PucchGrant) :
    withinMaxPayload ue r = some r ∨ withinMaxPayload ue r = none := by
  unfold withinMaxPayload
  split
  · exact .inr rfl
  · exact .inl rfl

variable {out : Option PucchGrant × UeReservationGuard}

lemma mergeSrHarq_cases (hset : h.format.isFormat0Or1 = true ↔ h.harqId.pucchSetIdx = .set0)
    (hm : mergeSrHarq ue rnti preserve g s h = .ok out) :
    out = (some (h.setSrBits s.bits.srBits), g) ∨ out = (none, g) := by
  unfold mergeSrHarq at hm
  split at hm
  case isTrue =>
    split at hm
    · exact .inl (Except.ok.inj hm).symm
    · cases hm
  case isFalse hformat =>
    split at hm
    · cases hm
    · split at hm
      case isTrue =>
        obtain rfl := Except.ok.inj hm
        rcases withinMaxPayload_cases ue (h.setBits ⟨h.bits.harqAckNofBits, s.bits.srBits, h.bits.csiPart1NofBits⟩) with
          hfit | hfit
        · exact .inl (by rw [hfit]; rfl)
        · exact .inr (by rw [hfit])
      case isFalse hne =>
        exfalso
        cases hidx : h.harqId.pucchSetIdx with
        | set0 => exact hformat (hset.mpr hidx)
        | set1 => exact hne hidx

lemma mergeSrCsi_cases (hm : mergeSrCsi ue g s c = .ok out) :
    out = (some (c.setSrBits s.bits.srBits), g) ∨ out = (none, g) := by
  unfold mergeSrCsi at hm
  split at hm
  · cases hm
  · obtain rfl := Except.ok.inj hm
    rcases withinMaxPayload_cases ue (c.setSrBits s.bits.srBits) with hfit | hfit
    · exact .inl (by rw [hfit])
    · exact .inr (by rw [hfit])

lemma moveToSet1_cases (ue : UePucchConfig cell) (rnti : Nat) (g : UeReservationGuard) (dPri : Nat) (h : PucchGrant)
    (bits : PucchUciBits) :
    (∃ r g', g.reserveHarqResourceByResIndicator ue rnti dPri .set1 = (some r, g') ∧
        moveToSet1 ue rnti g dPri h bits = (some ⟨.harqAck, ⟨.set1, h.harqId.pucchResInd⟩, bits, r⟩, g')) ∨
      moveToSet1 ue rnti g dPri h bits = (none, (g.reserveHarqResourceByResIndicator ue rnti dPri .set1).2) := by
  unfold moveToSet1
  split
  case h_1 r g' hr =>
    rcases withinMaxPayload_cases ue ⟨.harqAck, ⟨.set1, h.harqId.pucchResInd⟩, bits, r⟩ with hfit | hfit
    · exact .inl ⟨r, g', hr, by rw [hfit]⟩
    · exact .inr (by rw [hfit, hr])
  case h_2 g' hr => exact .inr (by rw [hr])

variable {pre group rest : List PucchGrant}

lemma rest_perm {others : List PucchGrant} (hq : (pre ++ group ++ rest).Perm l.toList)
    (hl : l.toList.Perm (group ++ others)) : (pre ++ rest).Perm others := by
  have hmove : (pre ++ group ++ rest).Perm (group ++ (pre ++ rest)) := by
    rw [List.append_assoc]
    exact List.perm_append_comm_assoc pre group rest
  exact (List.perm_append_left_iff group).mp ((hmove.symm.trans hq).trans hl)

lemma merged_perm {others : List PucchGrant}
    (hq : (pre ++ group ++ rest).Perm l.toList) (hl : l.toList.Perm (group ++ others))
    (hl' : (others ++ [r]).Perm l'.toList) : (pre ++ rest ++ [r]).Perm l'.toList :=
  ((rest_perm hq hl).append_right [r]).trans hl'

def MergesTo (ue : UePucchConfig cell) (rnti : Nat) (preserve : Option Nat) (l : PucchGrantList)
    (g : UeReservationGuard) (others : List PucchGrant) (out : Option PucchGrant × UeReservationGuard) : Prop :=
  (∃ r l', out.1 = some r ∧ Merged ue rnti preserve (l, g) (l', out.2) ∧ (others ++ [r]).Perm l'.toList) ∨
    out.1 = none ∧ MergeFails ue rnti l g out.2

lemma mergeSrHarq_mergesTo {c : Option PucchGrant} (hl : l.Placed ue) (hl₀ : l = ⟨some h, some s, c⟩)
    (hm : mergeSrHarq ue rnti preserve g s h = .ok out) : MergesTo ue rnti preserve l g c.toList out := by
  have hset := hl.harq_format (h := h) (by rw [hl₀])
  subst hl₀
  rcases mergeSrHarq_cases hset hm with rfl | rfl
  · refine .inl ⟨_, _, rfl, .srHarq h s c g, ?_⟩
    simp [PucchGrantList.toList]
  · exact .inr ⟨rfl, .inl rfl⟩

lemma mergeSrCsi_mergesTo {h : Option PucchGrant} (hl₀ : l = ⟨h, some s, some c⟩)
    (hm : mergeSrCsi ue g s c = .ok out) : MergesTo ue rnti preserve l g h.toList out := by
  subst hl₀
  rcases mergeSrCsi_cases hm with rfl | rfl
  · refine .inl ⟨_, _, rfl, .srCsi h s c g, ?_⟩
    simp [PucchGrantList.toList]
  · exact .inr ⟨rfl, .inl rfl⟩

lemma mergeHarqCsi_mergesTo {s : Option PucchGrant} (hl₀ : l = ⟨some h, s, some c⟩) :
    MergesTo ue rnti preserve l g s.toList (mergeHarqCsi ue rnti preserve g h c) := by
  subst hl₀
  have hperm (r : PucchGrant) : (s.toList ++ [r]).Perm (PucchGrantList.mk (some r) s none).toList := by
    simp [PucchGrantList.toList]
  unfold mergeHarqCsi
  split
  case isTrue hset =>
    rcases withinMaxPayload_cases ue (h.setBits (harqCsiBits h c)) with hfit | hfit
    · rw [hfit]
      exact .inl ⟨_, _, rfl, .harqCsi h c s g hset, hperm _⟩
    · rw [hfit]
      exact .inr ⟨rfl, .inl rfl⟩
  case isFalse hne =>
    have hset : h.harqId.pucchSetIdx = .set0 := by
      cases hidx : h.harqId.pucchSetIdx with
      | set0 => rfl
      | set1 => exact absurd hidx hne
    rcases moveToSet1_cases ue rnti g (preserve.getD h.harqId.pucchResInd) h (harqCsiBits h c) with
      ⟨r, g', hr, hmove⟩ | hmove
    · rw [hmove]
      exact .inl ⟨_, _, rfl, .harqCsiMoved h c s g g' r hset hr, hperm _⟩
    · rw [hmove]
      exact .inr ⟨rfl, .inr ⟨h, rfl, hset, _, rfl⟩⟩

lemma mergeHarqSrCsi_mergesTo (hl : l.Placed ue) (hl₀ : l = ⟨some h, some s, some c⟩)
    (hm : mergeHarqSrCsi ue rnti g h s c = .ok out) : MergesTo ue rnti preserve l g [] out := by
  have hformat := hl.harq_format (h := h) (by rw [hl₀])
  subst hl₀
  have hperm (r : PucchGrant) : ([] ++ [r]).Perm (PucchGrantList.mk (some r) none none).toList := by
    simp [PucchGrantList.toList]
  unfold mergeHarqSrCsi at hm
  split at hm
  · cases hm
  split at hm
  case isTrue hf =>
    have hset : h.harqId.pucchSetIdx = .set1 := by
      cases hidx : h.harqId.pucchSetIdx with
      | set0 =>
        rw [hformat.mpr hidx] at hf
        cases hf
      | set1 => rfl
    obtain rfl := Except.ok.inj hm
    rcases withinMaxPayload_cases ue (h.setBits (harqSrCsiBits h s c)) with hfit | hfit
    · rw [hfit]
      exact .inl ⟨_, _, rfl, .harqSrCsi h s c g hset, hperm _⟩
    · rw [hfit]
      exact .inr ⟨rfl, .inl rfl⟩
  case isFalse hf =>
    have hset : h.harqId.pucchSetIdx = .set0 := hformat.mp (by simpa using hf)
    obtain rfl := Except.ok.inj hm
    rcases moveToSet1_cases ue rnti g h.harqId.pucchResInd h (harqSrCsiBits h s c) with ⟨r, g', hr, hmove⟩ | hmove
    · rw [hmove]
      exact .inl ⟨_, _, rfl, .harqSrCsiMoved h s c g g' r hset hr, hperm _⟩
    · rw [hmove]
      exact .inr ⟨rfl, .inr ⟨h, rfl, hset, _, rfl⟩⟩

/-- The merge of a group of Q merges the grants that it stands for. -/
theorem mergePucchResources_mergesTo (hl : l.Placed ue) (hq : (pre ++ group ++ rest).Perm l.toList)
    (hm : mergePucchResources ue rnti preserve g group = .ok out) :
    (∃ r l', out.1 = some r ∧ Merged ue rnti preserve (l, g) (l', out.2) ∧ (pre ++ rest ++ [r]).Perm l'.toList) ∨
      out.1 = none ∧ MergeFails ue rnti l g out.2 := by
  have hmem {r : PucchGrant} (hr : r ∈ group) : r ∈ l.toList := by
    apply hq.subset
    simp [hr]
  have hdone (others : List PucchGrant) (hlist : l.toList.Perm (group ++ others))
      (hto : MergesTo ue rnti preserve l g others out) :
      (∃ r l', out.1 = some r ∧ Merged ue rnti preserve (l, g) (l', out.2) ∧ (pre ++ rest ++ [r]).Perm l'.toList) ∨
        out.1 = none ∧ MergeFails ue rnti l g out.2 := by
    rcases hto with ⟨r, l', hr, hmerged, hperm⟩ | hfail
    · exact .inl ⟨r, l', hr, hmerged, merged_perm hq hlist hperm⟩
    · exact .inr hfail
  unfold mergePucchResources at hm
  split at hm
  case h_1 r0 r1 =>
    have h0 := hmem (r := r0) (by simp)
    have h1 := hmem (r := r1) (by simp)
    split at hm
    case h_1 ht0 ht1 =>
      have hs := hl.sr_of_type h0 ht0
      have hh := hl.harq_of_type h1 ht1
      obtain ⟨harq, sr, csi⟩ := l
      dsimp only at hs hh
      subst hs hh
      refine hdone csi.toList ?_ (mergeSrHarq_mergesTo hl rfl hm)
      exact List.Perm.swap r0 r1 csi.toList
    case h_2 ht0 ht1 =>
      have hh := hl.harq_of_type h0 ht0
      have hs := hl.sr_of_type h1 ht1
      obtain ⟨harq, sr, csi⟩ := l
      dsimp only at hs hh
      subst hs hh
      exact hdone csi.toList (List.Perm.refl _) (mergeSrHarq_mergesTo hl rfl hm)
    case h_3 ht0 ht1 =>
      have hs := hl.sr_of_type h0 ht0
      have hc := hl.csi_of_type h1 ht1
      obtain ⟨harq, sr, csi⟩ := l
      dsimp only at hs hc
      subst hs hc
      refine hdone harq.toList ?_ (mergeSrCsi_mergesTo rfl hm)
      simpa [PucchGrantList.toList] using @List.perm_append_comm _ harq.toList [r0, r1]
    case h_4 ht0 ht1 =>
      have hc := hl.csi_of_type h0 ht0
      have hs := hl.sr_of_type h1 ht1
      obtain ⟨harq, sr, csi⟩ := l
      dsimp only at hs hc
      subst hs hc
      refine hdone harq.toList ?_ (mergeSrCsi_mergesTo rfl hm)
      have hcomm := @List.perm_append_comm _ harq.toList [r1, r0]
      simpa [PucchGrantList.toList] using hcomm.trans (List.Perm.swap r0 r1 harq.toList)
    case h_5 ht0 ht1 =>
      have hh := hl.harq_of_type h0 ht0
      have hc := hl.csi_of_type h1 ht1
      obtain ⟨harq, sr, csi⟩ := l
      dsimp only at hh hc
      subst hh hc
      obtain rfl := Except.ok.inj hm
      refine hdone sr.toList ?_ (mergeHarqCsi_mergesTo rfl)
      simp [PucchGrantList.toList]
    case h_6 ht0 ht1 =>
      have hc := hl.csi_of_type h0 ht0
      have hh := hl.harq_of_type h1 ht1
      obtain ⟨harq, sr, csi⟩ := l
      dsimp only at hh hc
      subst hh hc
      obtain rfl := Except.ok.inj hm
      refine hdone sr.toList ?_ (mergeHarqCsi_mergesTo rfl)
      have hcomm := @List.perm_append_comm _ sr.toList [r0]
      simpa [PucchGrantList.toList] using (hcomm.cons r1).trans (List.Perm.swap r0 r1 sr.toList)
    case h_7 =>
      obtain rfl := Except.ok.inj hm
      exact .inr ⟨rfl, .inl rfl⟩
  case h_2 r0 r1 r2 =>
    split at hm
    case h_1 h s c hh hs hc =>
      obtain ⟨hhmem, hht⟩ := grantOfType_mem hh
      obtain ⟨hsmem, hst⟩ := grantOfType_mem hs
      obtain ⟨hcmem, hct⟩ := grantOfType_mem hc
      have hlh := hl.harq_of_type (hmem hhmem) hht
      have hls := hl.sr_of_type (hmem hsmem) hst
      have hlc := hl.csi_of_type (hmem hcmem) hct
      obtain ⟨harq, sr, csi⟩ := l
      dsimp only at hlh hls hlc
      subst hlh hls hlc
      refine hdone [] ?_ (mergeHarqSrCsi_mergesTo hl rfl hm)
      have hlen := hq.length_eq
      simp only [PucchGrantList.toList, List.length_append, List.length_cons, List.length_nil, Option.toList_some] at hlen
      have hpre : pre = [] := List.length_eq_zero_iff.mp (by omega)
      have hrest : rest = [] := List.length_eq_zero_iff.mp (by omega)
      subst hpre hrest
      simpa using hq.symm
    case h_2 => cases hm
  case h_3 =>
    obtain rfl := Except.ok.inj hm
    exact .inr ⟨rfl, .inl rfl⟩

end Q

end OwlsRan.Sched
