import OwlsRan.Lib.Outcome
import OwlsRan.Sched.SrsScheduler

/-!
# The contents of the SRS wheel

A position of the wheel holds an RNTI with a resource at most once.
-/

namespace OwlsRan.Sched

open OwlsRan.Lib

def SrsResource.FallsOn (res : SrsResource) (w : ℕ) : Prop :=
  ∃ period offset, res.periodicityAndOffset = some (period, offset) ∧
    w ∈ wheelOffsets srsWheelSize (SrsPeriodicity.value period) offset

/-- One of the resources has the given identity, and its occasions fall on a position of the wheel. -/
def SrsPlaced (resources : List SrsResource) (w srsResId : ℕ) : Prop :=
  ∃ res ∈ resources, res.ueResId = srsResId ∧ res.FallsOn w

def SrsWheel.Distinct (wheel : SrsWheel) : Prop := ∀ w, (wheel w).Nodup

lemma SrsPeriodicity.value_pos (p : SrsPeriodicity) : 0 < p.value := by
  cases p <;> decide

@[simp] lemma srsPlaced_nil (w srsResId : ℕ) : SrsPlaced [] w srsResId ↔ False := by
  simp [SrsPlaced]

lemma srsPlaced_cons (res : SrsResource) (resources : List SrsResource) (w srsResId : ℕ) :
    SrsPlaced (res :: resources) w srsResId ↔ (res.ueResId = srsResId ∧ res.FallsOn w) ∨ SrsPlaced resources w srsResId := by
  simp [SrsPlaced]

section Positions

variable {e x : PeriodicSrsInfo} {l l' : List PeriodicSrsInfo}

lemma addSrsToSlot_spec (h : addSrsToSlot e l = .ok l') (hl : l.Nodup) : l'.Nodup ∧ ∀ x, x ∈ l' ↔ x ∈ l ∨ x = e := by
  unfold addSrsToSlot at h
  split at h
  case isTrue hmem =>
    cases h
    refine ⟨hl, fun x => ⟨Or.inl, ?_⟩⟩
    rintro (hx | rfl)
    · exact hx
    · exact hmem
  case isFalse hmem =>
    split at h
    case isTrue =>
      cases h
      refine ⟨hl.append (List.nodup_singleton e) fun x hx hxe => ?_, fun x => by simp⟩
      rw [List.mem_singleton.mp hxe] at hx
      exact hmem hx
    case isFalse => cases h

lemma remSrsFromSlot_perm (hmem : e ∈ l) : l.Perm (e :: remSrsFromSlot e l) := by
  unfold remSrsFromSlot
  rcases span_cases (fun e' => decide (e' ≠ e)) l with ⟨-, hall⟩ | ⟨before, e', after, hspan, hl, he⟩
  · have hne := hall e hmem
    simp at hne
  · have heq : e' = e := by simpa using he
    subst heq
    rw [hspan, hl]
    dsimp only
    cases hlast : after.getLast? with
    | none =>
      rw [List.getLast?_eq_none_iff.mp hlast]
      exact List.perm_append_singleton e' before
    | some last =>
      obtain ⟨init, rfl⟩ := List.getLast?_eq_some_iff.mp hlast
      rw [List.dropLast_concat]
      refine List.perm_middle.trans (List.Perm.cons e' (List.Perm.append_left before ?_))
      exact List.perm_append_comm

lemma remSrsFromSlot_spec (hl : l.Nodup) :
    (remSrsFromSlot e l).Nodup ∧ ∀ x, x ∈ remSrsFromSlot e l ↔ x ∈ l ∧ x ≠ e := by
  by_cases hmem : e ∈ l
  · have hperm := remSrsFromSlot_perm hmem
    obtain ⟨hnot, hnodup⟩ := List.nodup_cons.mp (hperm.nodup_iff.mp hl)
    refine ⟨hnodup, fun x => ?_⟩
    rw [hperm.mem_iff, List.mem_cons]
    constructor
    · intro hx
      exact ⟨Or.inr hx, fun heq => hnot (heq ▸ hx)⟩
    · rintro ⟨hx | hx, hne⟩
      · exact absurd hx hne
      · exact hx
  · have hsame : remSrsFromSlot e l = l := by
      unfold remSrsFromSlot
      rcases span_cases (fun e' => decide (e' ≠ e)) l with ⟨hspan, -⟩ | ⟨before, e', after, -, hsplit, he⟩
      · rw [hspan]
      · have heq : e' = e := by simpa using he
        subst heq
        rw [hsplit] at hmem
        exact absurd (List.mem_append_right before List.mem_cons_self) hmem
    rw [hsame]
    exact ⟨hl, fun x => ⟨fun hx => ⟨hx, fun heq => hmem (heq ▸ hx)⟩, And.left⟩⟩

end Positions

section Resources

variable {wheel wheel' : SrsWheel} {crnti : ℕ}

lemma fallsOn_iff {res : SrsResource} {period : SrsPeriodicity} {offset : ℕ}
    (hres : res.periodicityAndOffset = some (period, offset)) (w : ℕ) :
    res.FallsOn w ↔ w ∈ wheelOffsets srsWheelSize period.value offset := by
  unfold SrsResource.FallsOn
  rw [hres]
  constructor
  · rintro ⟨p, o, heq, hw⟩
    cases heq
    exact hw
  · exact fun hw => ⟨period, offset, rfl, hw⟩

lemma addSrsResource_spec {res : SrsResource} (h : addSrsResource crnti wheel res = .ok wheel')
    (hwheel : wheel.Distinct) :
    wheel'.Distinct ∧ ∀ w e, e ∈ wheel' w ↔ e ∈ wheel w ∨ (e = ⟨crnti, res.ueResId⟩ ∧ res.FallsOn w) := by
  unfold addSrsResource at h
  split at h
  case h_1 => cases h
  case h_2 period offset hres =>
    have hfalls := fallsOn_iff hres
    have hpos := foldlM_updateAt (nodup_wheelOffsets period.value_pos) h
    have hslot : ∀ w, (wheel' w).Nodup ∧ ∀ e, e ∈ wheel' w ↔ e ∈ wheel w ∨ (e = ⟨crnti, res.ueResId⟩ ∧ res.FallsOn w) := by
      intro w
      by_cases hw : w ∈ wheelOffsets srsWheelSize period.value offset
      · obtain ⟨hnodup, hmem⟩ := addSrsToSlot_spec ((hpos w).1 hw) (hwheel w)
        refine ⟨hnodup, fun e => ?_⟩
        rw [hmem, hfalls]
        simp [hw]
      · rw [(hpos w).2 hw]
        refine ⟨hwheel w, fun e => ?_⟩
        rw [hfalls]
        simp [hw]
    exact ⟨fun w => (hslot w).1, fun w => (hslot w).2⟩

lemma remSrsResource_spec {res : SrsResource} (h : remSrsResource crnti wheel res = .ok wheel')
    (hwheel : wheel.Distinct) :
    wheel'.Distinct ∧ ∀ w e, e ∈ wheel' w ↔ e ∈ wheel w ∧ ¬(e = ⟨crnti, res.ueResId⟩ ∧ res.FallsOn w) := by
  unfold remSrsResource at h
  split at h
  case h_1 => cases h
  case h_2 period offset hres =>
    cases h
    have hfalls := fallsOn_iff hres
    have hoffsets : (wheelOffsets srsWheelSize period.value offset).Nodup := nodup_wheelOffsets period.value_pos
    have hslot : ∀ w, (wheelOffsets srsWheelSize period.value offset).foldl
        (fun wheel w => Function.update wheel w (remSrsFromSlot ⟨crnti, res.ueResId⟩ (wheel w))) wheel w =
        if w ∈ wheelOffsets srsWheelSize period.value offset then remSrsFromSlot ⟨crnti, res.ueResId⟩ (wheel w)
        else wheel w := foldl_update hoffsets
    refine ⟨fun w => ?_, fun w e => ?_⟩
    · rw [hslot w]
      split
      · exact (remSrsFromSlot_spec (hwheel w)).1
      · exact hwheel w
    · rw [hslot w, hfalls]
      split
      case isTrue hw =>
        rw [(remSrsFromSlot_spec (hwheel w)).2]
        simp [hw]
      case isFalse hw => simp [hw]

variable {resources : List SrsResource}

lemma srsInfo_eq_iff {e : PeriodicSrsInfo} {id : ℕ} : e = ⟨crnti, id⟩ ↔ e.rnti = crnti ∧ id = e.srsResId := by
  cases e
  simp [eq_comm]

lemma addSrsResources_spec
    (h : resources.foldlM (addSrsResource crnti) wheel = .ok wheel') (hwheel : wheel.Distinct) :
    wheel'.Distinct ∧ ∀ w e, e ∈ wheel' w ↔ e ∈ wheel w ∨ (e.rnti = crnti ∧ SrsPlaced resources w e.srsResId) := by
  induction resources generalizing wheel with
  | nil =>
    cases h
    exact ⟨hwheel, fun w e => by simp⟩
  | cons res resources ih =>
    rw [List.foldlM_cons, bind_eq_ok] at h
    obtain ⟨mid, hmid, h⟩ := h
    obtain ⟨hdistinct, hone⟩ := addSrsResource_spec hmid hwheel
    obtain ⟨hdistinct', hrest⟩ := ih h hdistinct
    refine ⟨hdistinct', fun w e => ?_⟩
    rw [hrest, hone, srsPlaced_cons, or_assoc]
    apply or_congr_right
    rw [srsInfo_eq_iff]
    tauto

lemma remSrsResources_spec
    (h : resources.foldlM (remSrsResource crnti) wheel = .ok wheel') (hwheel : wheel.Distinct) :
    wheel'.Distinct ∧ ∀ w e, e ∈ wheel' w ↔ e ∈ wheel w ∧ ¬(e.rnti = crnti ∧ SrsPlaced resources w e.srsResId) := by
  induction resources generalizing wheel with
  | nil =>
    cases h
    exact ⟨hwheel, fun w e => by simp⟩
  | cons res resources ih =>
    rw [List.foldlM_cons, bind_eq_ok] at h
    obtain ⟨mid, hmid, h⟩ := h
    obtain ⟨hdistinct, hone⟩ := remSrsResource_spec hmid hwheel
    obtain ⟨hdistinct', hrest⟩ := ih h hdistinct
    refine ⟨hdistinct', fun w e => ?_⟩
    rw [hrest, hone, srsPlaced_cons, srsInfo_eq_iff]
    tauto

lemma addSrsResources_ok (crnti : ℕ) (wheel : SrsWheel) (resources : List SrsResource)
    (hvalid : ∀ res ∈ resources, res.periodicityAndOffset.isSome = true) :
    Yields (resources.foldlM (addSrsResource crnti) wheel) (fun _ => True) fun a => a = .slotWheelFull := by
  refine yields_foldlM trivial fun wheel res hres _ => ?_
  obtain ⟨⟨period, offset⟩, hperiod⟩ := Option.isSome_iff_exists.mp (hvalid res hres)
  unfold addSrsResource
  rw [hperiod]
  refine yields_foldlM trivial fun wheel w _ _ => ?_
  unfold updateAt addSrsToSlot
  split
  · trivial
  · split
    · trivial
    · rfl

lemma remSrsResources_ok (crnti : ℕ) (wheel : SrsWheel)
    (hvalid : ∀ res ∈ resources, res.periodicityAndOffset.isSome = true) :
    Yields (resources.foldlM (remSrsResource crnti) wheel) (fun _ => True) fun _ => False := by
  refine yields_foldlM trivial fun wheel res hres _ => ?_
  obtain ⟨⟨period, offset⟩, hperiod⟩ := Option.isSome_iff_exists.mp (hvalid res hres)
  unfold remSrsResource
  rw [hperiod]
  trivial

end Resources

def SrsUeConfig.resources (cfg : SrsUeConfig) : List SrsResource :=
  match cfg.srsCfg with
  | none => []
  | some srsCfg => srsCfg.periodicResources

lemma SrsUeConfig.resources_valid (cfg : SrsUeConfig) :
    ∀ res ∈ cfg.resources, res.periodicityAndOffset.isSome = true := by
  unfold SrsUeConfig.resources
  split
  case h_1 => simp
  case h_2 srsCfg h => exact cfg.periodic_valid srsCfg h

section Ues

variable {s s' : SrsScheduler} {cfg cfg' : SrsUeConfig} {isReconf : Bool}

lemma addUeToGrid_spec (h : s.addUeToGrid cfg isReconf = .ok s') (hwheel : s.periodicSrsSlotWheel.Distinct) :
    s'.periodicSrsSlotWheel.Distinct ∧ s'.pendingPosRequests = s.pendingPosRequests ∧
      (s'.updatedUes = s.updatedUes ∨ isReconf = false ∧ s'.updatedUes = s.updatedUes ++ [⟨cfg.crnti, .newUe⟩]) ∧
      ∀ w e, e ∈ s'.periodicSrsSlotWheel w ↔
        e ∈ s.periodicSrsSlotWheel w ∨ (e.rnti = cfg.crnti ∧ SrsPlaced cfg.resources w e.srsResId) := by
  unfold SrsScheduler.addUeToGrid at h
  unfold SrsUeConfig.resources
  cases hcfg : cfg.srsCfg with
  | none =>
    simp only [hcfg] at h ⊢
    cases h
    exact ⟨hwheel, rfl, Or.inl rfl, fun w e => by simp⟩
  | some srsCfg =>
    simp only [hcfg] at h ⊢
    obtain ⟨wheel, hadd, rfl⟩ := map_eq_ok.mp h
    obtain ⟨hdistinct, hmem⟩ := addSrsResources_spec hadd hwheel
    refine ⟨hdistinct, rfl, ?_, hmem⟩
    cases isReconf with
    | true => exact Or.inl rfl
    | false => exact Or.inr ⟨rfl, rfl⟩

lemma remUe_spec (h : s.remUe cfg = .ok s') (hwheel : s.periodicSrsSlotWheel.Distinct) :
    s'.periodicSrsSlotWheel.Distinct ∧ s'.pendingPosRequests = s.pendingPosRequests ∧ s'.updatedUes = s.updatedUes ∧
      ∀ w e, e ∈ s'.periodicSrsSlotWheel w ↔
        e ∈ s.periodicSrsSlotWheel w ∧ ¬(e.rnti = cfg.crnti ∧ SrsPlaced cfg.resources w e.srsResId) := by
  unfold SrsScheduler.remUe at h
  unfold SrsUeConfig.resources
  cases hcfg : cfg.srsCfg with
  | none =>
    simp only [hcfg] at h ⊢
    cases h
    exact ⟨hwheel, rfl, rfl, fun w e => by simp⟩
  | some srsCfg =>
    simp only [hcfg] at h ⊢
    obtain ⟨wheel, hrem, rfl⟩ := map_eq_ok.mp h
    obtain ⟨hdistinct, hmem⟩ := remSrsResources_spec hrem hwheel
    exact ⟨hdistinct, rfl, rfl, hmem⟩

lemma reconfUe_spec (h : s.reconfUe cfg' cfg = .ok s') (hwheel : s.periodicSrsSlotWheel.Distinct) :
    s'.periodicSrsSlotWheel.Distinct ∧ s'.pendingPosRequests = s.pendingPosRequests ∧ s'.updatedUes = s.updatedUes ∧
      (s'.periodicSrsSlotWheel = s.periodicSrsSlotWheel ∧ cfg'.resources = cfg.resources ∨
        ∀ w e, e ∈ s'.periodicSrsSlotWheel w ↔
          (e ∈ s.periodicSrsSlotWheel w ∧ ¬(e.rnti = cfg.crnti ∧ SrsPlaced cfg.resources w e.srsResId)) ∨
            (e.rnti = cfg'.crnti ∧ SrsPlaced cfg'.resources w e.srsResId)) := by
  unfold SrsScheduler.reconfUe at h
  split at h
  case isTrue hsame =>
    cases h
    unfold SrsScheduler.nothingChanged at hsame
    have hcfg : cfg'.srsCfg = cfg.srsCfg := of_decide_eq_true ((Bool.and_eq_true _ _).mp hsame).2
    refine ⟨hwheel, rfl, rfl, Or.inl ⟨rfl, ?_⟩⟩
    unfold SrsUeConfig.resources
    rw [hcfg]
  case isFalse =>
    obtain ⟨mid, hrem, hadd⟩ := bind_eq_ok.mp h
    obtain ⟨hdistinct, hpending, hupdated, hmem⟩ := remUe_spec hrem hwheel
    obtain ⟨hdistinct', hpending', hupdated', hmem'⟩ := addUeToGrid_spec hadd hdistinct
    refine ⟨hdistinct', hpending'.trans hpending, ?_, Or.inr fun w e => ?_⟩
    · rcases hupdated' with hsame | ⟨hfalse, -⟩
      · exact hsame.trans hupdated
      · cases hfalse
    · rw [hmem', hmem]

lemma addUeToGrid_ok (s : SrsScheduler) (cfg : SrsUeConfig) (isReconf : Bool) : Yields (s.addUeToGrid cfg isReconf) (fun _ => True) fun a => a = .slotWheelFull := by
  have hvalid := cfg.resources_valid
  unfold SrsUeConfig.resources at hvalid
  unfold SrsScheduler.addUeToGrid
  split
  case h_1 => trivial
  case h_2 srsCfg hcfg =>
    rw [hcfg] at hvalid
    have hadd := addSrsResources_ok cfg.crnti s.periodicSrsSlotWheel srsCfg.periodicResources hvalid
    cases hres : srsCfg.periodicResources.foldlM (addSrsResource cfg.crnti) s.periodicSrsSlotWheel with
    | error a => exact hadd.of_error hres
    | ok wheel => trivial

lemma remUe_ok (s : SrsScheduler) (cfg : SrsUeConfig) : Yields (s.remUe cfg) (fun _ => True) fun _ => False := by
  have hvalid := cfg.resources_valid
  unfold SrsUeConfig.resources at hvalid
  unfold SrsScheduler.remUe
  split
  case h_1 => trivial
  case h_2 srsCfg hcfg =>
    rw [hcfg] at hvalid
    have hrem := remSrsResources_ok cfg.crnti s.periodicSrsSlotWheel hvalid
    cases hres : srsCfg.periodicResources.foldlM (remSrsResource cfg.crnti) s.periodicSrsSlotWheel with
    | error a => exact (hrem.of_error hres).elim
    | ok wheel => trivial

lemma reconfUe_ok (s : SrsScheduler) (cfg' cfg : SrsUeConfig) : Yields (s.reconfUe cfg' cfg) (fun _ => True) fun a => a = .slotWheelFull := by
  unfold SrsScheduler.reconfUe
  split
  · trivial
  · exact yields_bind ((remUe_ok s cfg).mono (fun _ _ => trivial) fun _ h => h.elim) fun mid _ => addUeToGrid_ok mid cfg' true

end Ues

end OwlsRan.Sched
