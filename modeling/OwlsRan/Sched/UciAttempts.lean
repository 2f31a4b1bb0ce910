import OwlsRan.Sched.UciWheel

/-!
# Every occasion of a UE is attempted once

From the slot in which a UE is first scheduled on, each slot that the grid reaches holds one attempt for each of the
occasions of the UE. The exception is a UE that has been added again while its RNTI is still listed.
-/

namespace OwlsRan.Sched

open OwlsRan.Lib OwlsRan.Ran

def outcomes (actions : List UciAction) (slot rnti : ℕ) : List UciOutcome :=
  actions.filterMap fun a => if a.slot = slot ∧ a.rnti = rnti then some a.outcome else none

def attempts (demand : UciKind → ℕ) : List UciOutcome :=
  (if 0 < demand .sr then [.allocSrOpportunity] else []) ++ if 0 < demand .csi then [.allocCsiOpportunity] else []

/-- The occasions are attempted, or skipped together when there was no space in an early slot. -/
def AttemptedOrSkipped (early : Prop) (demand : UciKind → ℕ) (found : List UciOutcome) : Prop :=
  found = attempts demand ∨ early ∧ (∃ k, 0 < demand k) ∧ found = [.skippedUciScheduling]

section Outcomes

@[simp] lemma outcomes_nil (slot rnti : ℕ) : outcomes [] slot rnti = [] := rfl

@[simp] lemma outcomes_append (as bs : List UciAction) (slot rnti : ℕ) :
    outcomes (as ++ bs) slot rnti = outcomes as slot rnti ++ outcomes bs slot rnti :=
  List.filterMap_append

lemma outcomes_uciAllocations (e : PeriodicUciInfo) (slot slot' rnti : ℕ) :
    outcomes (uciAllocations slot e) slot' rnti =
      if slot = slot' ∧ e.rnti = rnti then attempts e.counter else [] := by
  have hsr : e.counter .sr = e.srCounter := rfl
  have hcsi : e.counter .csi = e.csiCounter := rfl
  by_cases h : slot = slot' ∧ e.rnti = rnti
  · by_cases h1 : 0 < e.srCounter <;> by_cases h2 : 0 < e.csiCounter <;>
      simp [outcomes, uciAllocations, attempts, h, hsr, hcsi, h1, h2]
  · by_cases h1 : 0 < e.srCounter <;> by_cases h2 : 0 < e.csiCounter <;>
      simp [outcomes, uciAllocations, h, h1, h2]

lemma attempts_of_zero {demand : UciKind → ℕ} (h : ∀ k, demand k = 0) : attempts demand = [] := by
  simp [attempts, h]

lemma outcomes_flatMap (l : List PeriodicUciInfo) (slot slot' rnti : ℕ) :
    outcomes (l.flatMap (uciAllocations slot)) slot' rnti =
      if slot = slot' then (l.filter fun e => decide (e.rnti = rnti)).flatMap fun e => attempts e.counter else [] := by
  induction l with
  | nil => simp
  | cons e l ih =>
    rw [List.flatMap_cons, outcomes_append, ih, outcomes_uciAllocations]
    by_cases hslot : slot = slot' <;> by_cases hr : e.rnti = rnti <;> simp [hslot, hr]

variable {l : List PeriodicUciInfo} {d : UciDemand}

lemma Represents.filter_rnti (h : Represents l d) (rnti : ℕ) :
    (∃ e ∈ l, e.rnti = rnti ∧ (∃ k, 0 < d rnti k) ∧ (l.filter fun e => decide (e.rnti = rnti)) = [e]) ∨
      (∀ k, d rnti k = 0) ∧ (l.filter fun e => decide (e.rnti = rnti)) = [] := by
  by_cases hex : ∃ e ∈ l, e.rnti = rnti
  · obtain ⟨e, he, rfl⟩ := hex
    left
    obtain ⟨pre, post, rfl⟩ := List.append_of_mem he
    have hnodup := (List.nodup_cons.mp (h.perm List.perm_middle).nodup).1
    have hne : ∀ x ∈ pre ++ post, x.rnti ≠ e.rnti := fun x hx heq => hnodup (List.mem_map.mpr ⟨x, hx, heq⟩)
    refine ⟨e, he, rfl, ((h.mem_iff e).mp he).2, ?_⟩
    have hpre : (pre.filter fun x => decide (x.rnti = e.rnti)) = [] :=
      List.filter_eq_nil_iff.mpr fun x hx => by simpa using hne x (List.mem_append_left _ hx)
    have hpost : (post.filter fun x => decide (x.rnti = e.rnti)) = [] :=
      List.filter_eq_nil_iff.mpr fun x hx => by simpa using hne x (List.mem_append_right _ hx)
    rw [List.filter_append, hpre, List.filter_cons_of_pos (by simp), hpost, List.nil_append]
  · right
    simp only [not_exists, not_and] at hex
    exact ⟨fun k => h.demand_eq_zero hex k, List.filter_eq_nil_iff.mpr fun x hx => by simpa using hex x hx⟩

lemma Represents.attempts_filter (h : Represents l d) (rnti : ℕ) :
    ((l.filter fun e => decide (e.rnti = rnti)).flatMap fun e => attempts e.counter) = attempts (d rnti) := by
  rcases h.filter_rnti rnti with ⟨e, he, rfl, -, hf⟩ | ⟨hzero, hf⟩
  · have hcounter : e.counter = d e.rnti := funext fun k => h.counter he k
    simp [hf, hcounter]
  · simp [hf, attempts_of_zero hzero]

lemma Represents.outcomes_slot (h : Represents l d) (slot slot' rnti : ℕ) :
    outcomes (l.flatMap (uciAllocations slot)) slot' rnti = if slot = slot' then attempts (d rnti) else [] := by
  rw [outcomes_flatMap, h.attempts_filter]

end Outcomes

/-- What is done for the UEs of `Q` in the slots of `Q`, and for no others. -/
def Serves (new : List UciAction) (Q : ℕ → ℕ → Prop) (d : WheelDemand) : Prop :=
  ∀ slot rnti, (Q slot rnti → AttemptedOrSkipped True (d slot rnti) (outcomes new slot rnti)) ∧
    (¬Q slot rnti → outcomes new slot rnti = [])

section Serving

variable {d : WheelDemand} {Q R : ℕ → ℕ → Prop} {as bs : List UciAction}

lemma serves_congr (h : Serves as Q d) (hQ : ∀ slot rnti, Q slot rnti ↔ R slot rnti) : Serves as R d :=
  fun slot rnti => ⟨fun hr => (h slot rnti).1 ((hQ _ _).mpr hr), fun hr => (h slot rnti).2 fun hq => hr ((hQ _ _).mp hq)⟩

lemma serves_nil (h : ∀ slot rnti, ¬Q slot rnti) : Serves [] Q d :=
  fun slot rnti => ⟨fun hq => absurd hq (h slot rnti), fun _ => rfl⟩

lemma serves_append (ha : Serves as Q d) (hb : Serves bs R d) (hQR : ∀ slot rnti, Q slot rnti → ¬R slot rnti) :
    Serves (as ++ bs) (fun slot rnti => Q slot rnti ∨ R slot rnti) d := by
  intro slot rnti
  rw [outcomes_append]
  by_cases hq : Q slot rnti
  · have hr := hQR slot rnti hq
    rw [(hb slot rnti).2 hr, List.append_nil]
    exact ⟨fun _ => (ha slot rnti).1 hq, fun hn => absurd (Or.inl hq) hn⟩
  · rw [(ha slot rnti).2 hq, List.nil_append]
    exact ⟨fun h => (hb slot rnti).1 (h.resolve_left hq), fun hn => (hb slot rnti).2 fun hr => hn (Or.inr hr)⟩

variable {cell : UciCell} {wheel : SlotWheel}

def Covers (cell : UciCell) (wheel : SlotWheel) (d : WheelDemand) : Prop :=
  ∀ slot, Represents (wheel (cell.wheelIndex slot)) (d slot)

lemma scheduleUpdatedUeSlot_serves (h : Covers cell wheel d) (result : List UciAction → ℕ → UciSlotResult)
    (slotTx rnti : ℕ) (actions : List UciAction) (n : ℕ) :
    ∃ new, scheduleUpdatedUeSlot cell wheel result slotTx rnti actions n = actions ++ new ∧
      Serves new (fun slot r => slot = slotTx + n ∧ r = rnti) d := by
  refine ⟨_, rfl, fun slot r => ?_⟩
  have hrep := h (slotTx + n)
  split
  · rw [outcomes_flatMap, List.filter_filter]
    by_cases hr : r = rnti
    · subst hr
      simp only [Bool.and_self, hrep.attempts_filter]
      by_cases hslot : slotTx + n = slot
      · subst hslot
        simp [AttemptedOrSkipped]
      · have hslot' : ¬slot = slotTx + n := fun hc => hslot hc.symm
        simp [hslot, hslot']
    · have hnone : ∀ e : PeriodicUciInfo, (decide (e.rnti = r) && decide (e.rnti = rnti)) = false := by
        intro e
        simp only [Bool.and_eq_false_iff, decide_eq_false_iff_not]
        by_cases he : e.rnti = r
        · exact Or.inr (he ▸ hr)
        · exact Or.inl he
      simp [hnone, hr]
  · rcases hrep.filter_rnti rnti with ⟨e, -, -, hpos, hf⟩ | ⟨hzero, hf⟩
    · rw [hf]
      by_cases hat : slot = slotTx + n ∧ r = rnti
      · obtain ⟨rfl, rfl⟩ := hat
        refine ⟨fun _ => Or.inr ⟨trivial, hpos, ?_⟩, fun hn => absurd ⟨rfl, rfl⟩ hn⟩
        simp [outcomes]
      · refine ⟨fun hat' => absurd hat' hat, fun _ => ?_⟩
        have hne : ¬(slotTx + n = slot ∧ rnti = r) := fun hc => hat ⟨hc.1.symm, hc.2.symm⟩
        simp [outcomes, hne]
    · rw [hf]
      refine ⟨?_, fun _ => rfl⟩
      rintro ⟨rfl, rfl⟩
      exact Or.inl (attempts_of_zero hzero).symm

lemma scheduleUpdatedUe_serves (h : Covers cell wheel d) (result : List UciAction → ℕ → UciSlotResult)
    (slotTx rnti : ℕ) (actions : List UciAction) (m : ℕ) :
    ∃ new, (List.range m).foldl (scheduleUpdatedUeSlot cell wheel result slotTx rnti) actions = actions ++ new ∧
      Serves new (fun slot r => (slotTx ≤ slot ∧ slot < slotTx + m) ∧ r = rnti) d := by
  induction m with
  | zero => exact ⟨[], by simp, serves_nil fun slot r => by omega⟩
  | succ m ih =>
    obtain ⟨new, hnew, hs⟩ := ih
    obtain ⟨last, hlast, hl⟩ := scheduleUpdatedUeSlot_serves h result slotTx rnti (actions ++ new) m
    refine ⟨new ++ last, ?_, serves_congr (serves_append hs hl fun slot r => by omega) fun slot r => by omega⟩
    rw [List.range_succ, List.foldl_append, hnew, List.foldl_cons, List.foldl_nil, hlast, List.append_assoc]

lemma scheduleUpdatedUes_serves {s : UciScheduler} (h : Covers cell s.periodicUciSlotWheel d)
    (hnodup : s.updatedUes.Nodup) (found : ℕ → Bool) (result : List UciAction → ℕ → UciSlotResult) (slotTx : ℕ)
    (actions : List UciAction) :
    ∃ new, scheduleUpdatedUesUcis cell s found result slotTx actions = actions ++ new ∧
      Serves new (fun slot r => (slotTx ≤ slot ∧ slot < slotTx + cell.maxUlSlotAllocDelay) ∧ r ∈ s.updatedUes ∧
        found r = true) d := by
  unfold scheduleUpdatedUesUcis
  generalize s.updatedUes = listed at hnodup
  induction listed generalizing actions with
  | nil => exact ⟨[], by simp, serves_nil fun slot r => by simp⟩
  | cons rnti listed ih =>
    obtain ⟨hfresh, hnodup⟩ := List.nodup_cons.mp hnodup
    rw [List.foldl_cons]
    by_cases hf : found rnti = true
    · rw [if_pos hf]
      obtain ⟨new, hnew, hs⟩ := scheduleUpdatedUe_serves h result slotTx rnti actions cell.maxUlSlotAllocDelay
      obtain ⟨rest, hrest, hr⟩ := ih (actions ++ new) hnodup
      refine ⟨new ++ rest, by rw [hnew, hrest, List.append_assoc], ?_⟩
      refine serves_congr (serves_append hs hr ?_) fun slot r => ?_
      · rintro slot r ⟨-, rfl⟩ ⟨-, hmem, -⟩
        exact hfresh hmem
      · rw [List.mem_cons]
        constructor
        · rintro (⟨hw, rfl⟩ | ⟨hw, hmem, hfr⟩)
          · exact ⟨hw, Or.inl rfl, hf⟩
          · exact ⟨hw, Or.inr hmem, hfr⟩
        · rintro ⟨hw, rfl | hmem, hfr⟩
          · exact Or.inl ⟨hw, rfl⟩
          · exact Or.inr ⟨hw, hmem, hfr⟩
    · rw [if_neg hf]
      obtain ⟨rest, hrest, hr⟩ := ih actions hnodup
      refine ⟨rest, hrest, serves_congr hr fun slot r => ?_⟩
      rw [List.mem_cons]
      constructor
      · exact fun ⟨hw, hmem, hfr⟩ => ⟨hw, Or.inr hmem, hfr⟩
      · rintro ⟨hw, rfl | hmem, hfr⟩
        · exact absurd hfr hf
        · exact ⟨hw, hmem, hfr⟩

lemma scheduleSlotUcis_eq {found : ℕ → Bool} {slot : ℕ} {l : List PeriodicUciInfo}
    (h : ∀ e ∈ l, found e.rnti = true) : scheduleSlotUcis found slot l = (l, l.flatMap (uciAllocations slot)) := by
  induction l with
  | nil => rfl
  | cons e l ih =>
    rw [scheduleSlotUcis, if_pos (h e List.mem_cons_self), ih fun x hx => h x (List.mem_cons_of_mem _ hx)]
    rfl

end Serving

namespace UciUeConfig

def nofOccasions (cfg : UciUeConfig) (cell : UciCell) (slot : ℕ) (k : UciKind) : ℕ :=
  nofResources cfg.resources (cell.slotPoint slot).count k

end UciUeConfig

/-- Every position of the wheel holds one element for each UE that has an occasion in the slots of the position, with
the numbers of its resources, and no other element. -/
def UciSystem.WheelExact (cell : UciCell) (s : UciSystem) : Prop :=
  ∀ slot, ((s.sched.periodicUciSlotWheel (cell.wheelIndex slot)).map PeriodicUciInfo.rnti).Nodup ∧
    ∀ e, e ∈ s.sched.periodicUciSlotWheel (cell.wheelIndex slot) ↔
      ∃ cfg ∈ s.ues, cfg.crnti = e.rnti ∧ (∀ k, e.counter k = cfg.nofOccasions cell slot k) ∧ ∃ k, 0 < e.counter k

def UciEvent.Touches (rnti : ℕ) : UciEvent → Prop
  | .reconfUe newUeCfg => newUeCfg.crnti = rnti
  | .remUe r => r = rnti
  | _ => False

/-- A UE that is added and neither reconfigured nor removed: in each slot that the grid has reached since, its
occasions have been attempted once, or skipped in a slot that the grid held already. -/
def AttemptedOnce (cell : UciCell) (slotTx : ℕ) (es : List UciEvent) : Prop :=
  ∀ pre cfg post s t, es = pre ++ .addUe cfg :: post →
    runEvents (UciSystem.step cell) (UciSystem.init slotTx) (pre ++ [.addUe cfg]) = .ok s →
    (∀ e ∈ post, ¬e.Touches cfg.crnti) → runEvents (UciSystem.step cell) s post = .ok t → s.slotTx < t.slotTx →
    ∀ slot, s.slotTx ≤ slot → slot < t.slotTx + cell.maxUlSlotAllocDelay →
      AttemptedOrSkipped (slot < s.slotTx + cell.maxUlSlotAllocDelay) (cfg.nofOccasions cell slot)
        (outcomes (t.actions.drop s.actions.length) slot cfg.crnti)

def NotListed (s : UciSystem) : UciEvent → Prop
  | .addUe cfg => cfg.pucchCfg.isSome → cfg.crnti ∉ s.sched.updatedUes
  | _ => True

section Slots

variable (cell : UciCell)

lemma wheelIndex_lt (slot : ℕ) : cell.wheelIndex slot < uciWheelSize :=
  Nat.mod_lt _ (by decide)

lemma nofResources_wheelIndex (rs : List UciResource) (slot : ℕ) (k : UciKind) :
    nofResources rs (cell.wheelIndex slot) k = nofResources rs (cell.slotPoint slot).count k := by
  unfold nofResources
  refine List.countP_congr fun x _ => ?_
  rw [UciCell.wheelIndex, Nat.mod_mod_of_dvd _ x.period_dvd]

end Slots

namespace UciSystem

variable {cell : UciCell} {s s' : UciSystem} {e : UciEvent}

structure Consistent (s : UciSystem) : Prop where
  nodup : (s.ues.map UciUeConfig.crnti).Nodup
  wheel : Matches s.sched.periodicUciSlotWheel (demandOf s.ues)

lemma findByRnti_eq_none {rnti : ℕ} (h : s.findByRnti rnti = none) : ∀ cfg ∈ s.ues, cfg.crnti ≠ rnti := by
  simpa [findByRnti] using h

variable {cfg : UciUeConfig}

lemma findByRnti_eq_some {rnti : ℕ} (h : s.findByRnti rnti = some cfg) : cfg ∈ s.ues ∧ cfg.crnti = rnti := by
  refine ⟨List.mem_of_find?_eq_some h, ?_⟩
  simpa using List.find?_some h

variable {ues : List UciUeConfig}

lemma split_ue (hnodup : (ues.map UciUeConfig.crnti).Nodup)
    (hcfg : cfg ∈ ues) : ∃ pre post, ues = pre ++ cfg :: post ∧ (∀ x ∈ pre ++ post, x.crnti ≠ cfg.crnti) ∧
      ((pre ++ post).map UciUeConfig.crnti).Nodup := by
  obtain ⟨pre, post, rfl⟩ := List.append_of_mem hcfg
  have hmid := List.nodup_cons.mp ((List.perm_middle.map UciUeConfig.crnti).nodup_iff.mp hnodup)
  exact ⟨pre, post, rfl, fun x hx heq => hmid.1 (List.mem_map.mpr ⟨x, hx, heq⟩), hmid.2⟩

lemma demandOf_of_mem (hnodup : (ues.map UciUeConfig.crnti).Nodup)
    (hcfg : cfg ∈ ues) (slot : ℕ) (k : UciKind) : demandOf ues slot cfg.crnti k = nofResources cfg.resources slot k := by
  obtain ⟨pre, post, rfl, hne, -⟩ := split_ue hnodup hcfg
  rw [demandOf_perm List.perm_middle, demandOf_cons, WheelDemand.withResources, if_pos rfl]
  have hzero : demandOf (pre ++ post) slot cfg.crnti k = 0 :=
    List.sum_eq_zero fun n hn => by
      obtain ⟨x, hx, rfl⟩ := List.mem_map.mp hn
      exact if_neg (hne x hx).symm
  rw [hzero, Nat.zero_add]

lemma demandOf_of_absent {rnti : ℕ} (h : ∀ cfg ∈ ues, cfg.crnti ≠ rnti) (slot : ℕ)
    (k : UciKind) : demandOf ues slot rnti k = 0 :=
  List.sum_eq_zero fun n hn => by
    obtain ⟨x, hx, rfl⟩ := List.mem_map.mp hn
    exact if_neg (h x hx).symm

lemma Consistent.covers (h : s.Consistent) (cell : UciCell) :
    Covers cell s.sched.periodicUciSlotWheel fun slot => demandOf s.ues (cell.wheelIndex slot) :=
  fun slot => h.wheel _ (wheelIndex_lt cell slot)

lemma Consistent.scheduleSlotUcis (h : s.Consistent) (lingering : List ℕ) (slot : ℕ) {w : ℕ} (hw : w < uciWheelSize) :
    scheduleSlotUcis (fun rnti => (s.findByRnti rnti).isSome || decide (rnti ∈ lingering)) slot
        (s.sched.periodicUciSlotWheel w) =
      (s.sched.periodicUciSlotWheel w, (s.sched.periodicUciSlotWheel w).flatMap (uciAllocations slot)) := by
  apply scheduleSlotUcis_eq
  intro e he
  obtain ⟨-, k, hk⟩ := ((h.wheel w hw).mem_iff e).mp he
  cases hf : s.findByRnti e.rnti with
  | none => simp [demandOf_of_absent (findByRnti_eq_none hf)] at hk
  | some cfg => simp

lemma Consistent.wheelExact (h : s.Consistent) (cell : UciCell) : s.WheelExact cell := by
  intro slot
  have hrep := h.wheel _ (wheelIndex_lt cell slot)
  refine ⟨hrep.nodup, fun e => ?_⟩
  rw [hrep.mem_iff]
  constructor
  · rintro ⟨hcounter, hpos⟩
    cases hf : s.findByRnti e.rnti with
    | none =>
      obtain ⟨k, hk⟩ := hpos
      simp [demandOf_of_absent (findByRnti_eq_none hf)] at hk
    | some cfg =>
      obtain ⟨hcfg, hrnti⟩ := findByRnti_eq_some hf
      refine ⟨cfg, hcfg, hrnti, fun k => ?_, by simpa only [hcounter] using hpos⟩
      rw [hcounter, ← hrnti, demandOf_of_mem h.nodup hcfg, nofResources_wheelIndex]
      rfl
  · rintro ⟨cfg, hcfg, hrnti, hcounter, hpos⟩
    have heq : ∀ k, e.counter k = demandOf s.ues (cell.wheelIndex slot) e.rnti k := fun k => by
      rw [hcounter, ← hrnti, demandOf_of_mem h.nodup hcfg, nofResources_wheelIndex]
      rfl
    exact ⟨heq, by simpa only [heq] using hpos⟩

lemma consistent_init (slotTx : ℕ) : (init slotTx).Consistent :=
  ⟨List.nodup_nil, fun _ _ => Represents.nil fun _ _ => rfl⟩

lemma Consistent.addUe (h : s.Consistent) (hs : step cell s (.addUe cfg) = .ok s') :
    s'.Consistent ∧ s'.ues = s.ues ++ [cfg] ∧ (∀ x ∈ s.ues, x.crnti ≠ cfg.crnti) ∧ s'.slotTx = s.slotTx ∧
      s'.actions = s.actions ∧ s'.sched.updatedUes =
        if cfg.pucchCfg.isSome then s.sched.updatedUes ++ [cfg.crnti] else s.sched.updatedUes := by
  unfold step at hs
  simp only at hs
  split at hs
  case isTrue => exact absurd hs (by simp)
  case isFalse hnone =>
    rw [Bool.not_eq_true, Option.isSome_eq_false_iff, Option.isNone_iff_eq_none] at hnone
    have hne := findByRnti_eq_none hnone
    obtain ⟨sched, hadd, rfl⟩ := map_eq_ok.mp hs
    obtain ⟨hwheel, hupdated⟩ := UciScheduler.addUeToGrid_matches h.wheel hadd
    refine ⟨⟨?_, ?_⟩, rfl, hne, rfl, rfl, by simpa using hupdated⟩
    · have hperm : ((s.ues ++ [cfg]).map UciUeConfig.crnti).Perm (cfg.crnti :: s.ues.map UciUeConfig.crnti) := by
        rw [List.map_append]
        exact List.perm_append_singleton _ _
      exact hperm.nodup_iff.mpr (List.nodup_cons.mpr ⟨by simpa [List.mem_map] using hne, h.nodup⟩)
    · rw [demandOf_perm (List.perm_append_singleton cfg s.ues), demandOf_cons]
      exact hwheel

lemma Consistent.remUe (h : s.Consistent) {rnti : ℕ} (hs : step cell s (.remUe rnti) = .ok s') :
    s'.Consistent ∧ s'.ues = s.ues.filter (fun cfg => decide (cfg.crnti ≠ rnti)) ∧ s'.slotTx = s.slotTx ∧
      s'.actions = s.actions ∧ s'.sched.updatedUes = s.sched.updatedUes := by
  unfold step at hs
  simp only at hs
  cases hf : s.findByRnti rnti with
  | none =>
    rw [hf] at hs
    obtain rfl := Except.ok.inj hs
    have hall : s.ues.filter (fun cfg => decide (cfg.crnti ≠ rnti)) = s.ues :=
      List.filter_eq_self.mpr fun x hx => by simpa using findByRnti_eq_none hf x hx
    exact ⟨h, hall.symm, rfl, rfl, rfl⟩
  | some cfg =>
    rw [hf] at hs
    obtain ⟨hcfg, rfl⟩ := findByRnti_eq_some hf
    obtain ⟨sched, hrem, rfl⟩ := map_eq_ok.mp hs
    obtain ⟨pre, post, hues, hne, hnodup⟩ := split_ue h.nodup hcfg
    have hrest : s.ues.filter (fun x => decide (x.crnti ≠ cfg.crnti)) = pre ++ post := by
      have hpre : pre.filter (fun x => decide (x.crnti ≠ cfg.crnti)) = pre :=
        List.filter_eq_self.mpr fun x hx => by simpa using hne x (List.mem_append_left _ hx)
      have hpost : post.filter (fun x => decide (x.crnti ≠ cfg.crnti)) = post :=
        List.filter_eq_self.mpr fun x hx => by simpa using hne x (List.mem_append_right _ hx)
      rw [hues, List.filter_append, hpre, List.filter_cons_of_neg (by simp), hpost]
    have hwheel := h.wheel
    rw [hues, demandOf_perm List.perm_middle, demandOf_cons] at hwheel
    obtain ⟨hwheel', hupdated⟩ := UciScheduler.remUe_matches hwheel hrem
    refine ⟨⟨?_, ?_⟩, rfl, rfl, rfl, hupdated⟩
    · simpa only [hrest] using hnodup
    · simpa only [hrest] using hwheel'

lemma map_replace_of_absent {cfg' : UciUeConfig} (h : ∀ x ∈ ues, x.crnti ≠ cfg'.crnti) :
    ues.map (fun cfg => if cfg.crnti = cfg'.crnti then cfg' else cfg) = ues := by
  conv_rhs => rw [← List.map_id ues]
  exact List.map_congr_left fun x hx => if_neg (h x hx)

lemma Consistent.reconfUe (h : s.Consistent) {cfg' : UciUeConfig} (hs : step cell s (.reconfUe cfg') = .ok s') :
    s'.Consistent ∧ s'.ues = s.ues.map (fun cfg => if cfg.crnti = cfg'.crnti then cfg' else cfg) ∧
      s'.slotTx = s.slotTx ∧ s'.actions = s.actions ∧ s'.sched.updatedUes = s.sched.updatedUes := by
  unfold step at hs
  simp only at hs
  cases hf : s.findByRnti cfg'.crnti with
  | none =>
    rw [hf] at hs
    obtain rfl := Except.ok.inj hs
    exact ⟨h, (map_replace_of_absent (findByRnti_eq_none hf)).symm, rfl, rfl, rfl⟩
  | some cfg =>
    rw [hf] at hs
    obtain ⟨hcfg, hrnti⟩ := findByRnti_eq_some hf
    obtain ⟨sched, hreconf, rfl⟩ := map_eq_ok.mp hs
    obtain ⟨pre, post, hues, hne, hnodup⟩ := split_ue h.nodup hcfg
    rw [hrnti] at hne
    have hnew : s.ues.map (fun cfg => if cfg.crnti = cfg'.crnti then cfg' else cfg) = pre ++ cfg' :: post := by
      rw [hues, List.map_append, List.map_cons, if_pos hrnti,
        map_replace_of_absent fun x hx => hne x (List.mem_append_left _ hx),
        map_replace_of_absent fun x hx => hne x (List.mem_append_right _ hx)]
    have hwheel := h.wheel
    rw [hues, demandOf_perm List.perm_middle, demandOf_cons] at hwheel
    obtain ⟨hwheel', hupdated⟩ := UciScheduler.reconfUe_matches hwheel hreconf hrnti.symm
    refine ⟨⟨?_, ?_⟩, rfl, rfl, rfl, hupdated⟩
    · simp only [hnew]
      refine (List.perm_middle.map UciUeConfig.crnti).nodup_iff.mpr (List.nodup_cons.mpr ⟨?_, hnodup⟩)
      rintro hmem
      obtain ⟨x, hx, heq⟩ := List.mem_map.mp hmem
      exact hne x hx heq
    · simp only [hnew]
      rw [demandOf_perm List.perm_middle, demandOf_cons]
      exact hwheel'

lemma Consistent.runSlot (h : s.Consistent) (cell : UciCell) (hnodup : s.sched.updatedUes.Nodup) (lingering : List ℕ)
    (result : List UciAction → ℕ → UciSlotResult) :
    (s.runSlot cell lingering result).Consistent ∧ ∃ new, (s.runSlot cell lingering result).actions = s.actions ++ new ∧
      ∀ cfg ∈ s.ues, ∀ slot,
        (s.slotTx ≤ slot ∧ slot < s.slotTx + cell.maxUlSlotAllocDelay ∧ cfg.crnti ∈ s.sched.updatedUes →
          AttemptedOrSkipped True (cfg.nofOccasions cell slot) (outcomes new slot cfg.crnti)) ∧
        (slot = s.slotTx + cell.maxUlSlotAllocDelay →
          outcomes new slot cfg.crnti = attempts (cfg.nofOccasions cell slot)) ∧
        (¬(s.slotTx ≤ slot ∧ slot < s.slotTx + cell.maxUlSlotAllocDelay ∧ cfg.crnti ∈ s.sched.updatedUes) →
          slot ≠ s.slotTx + cell.maxUlSlotAllocDelay → outcomes new slot cfg.crnti = []) := by
  have hw := wheelIndex_lt cell (s.slotTx + cell.maxUlSlotAllocDelay)
  have hkept := h.scheduleSlotUcis lingering (s.slotTx + cell.maxUlSlotAllocDelay) hw
  obtain ⟨new, hnew, hserves⟩ := scheduleUpdatedUes_serves (h.covers cell) hnodup
    (fun rnti => (s.findByRnti rnti).isSome || decide (rnti ∈ lingering)) result s.slotTx s.actions
  unfold UciSystem.runSlot
  simp only [hkept, hnew, Function.update_eq_self]
  refine ⟨⟨h.nodup, h.wheel⟩, _, List.append_assoc _ _ _, fun cfg hcfg slot => ?_⟩
  have hdemand : (fun k => demandOf s.ues (cell.wheelIndex slot) cfg.crnti k) = cfg.nofOccasions cell slot := by
    funext k
    rw [demandOf_of_mem h.nodup hcfg, nofResources_wheelIndex]
    rfl
  have hfound : (s.findByRnti cfg.crnti).isSome = true := by
    cases hf : s.findByRnti cfg.crnti with
    | none => exact absurd rfl (findByRnti_eq_none hf cfg hcfg)
    | some c => rfl
  have hs := hserves slot cfg.crnti
  simp only [hfound, Bool.true_or, and_true] at hs
  rw [outcomes_append, (h.covers cell _).outcomes_slot]
  refine ⟨?_, ?_, ?_⟩
  · rintro ⟨hle, hlt, hmem⟩
    have hne : ¬s.slotTx + cell.maxUlSlotAllocDelay = slot := by omega
    rw [if_neg hne, List.append_nil, ← hdemand]
    exact hs.1 ⟨⟨hle, hlt⟩, hmem⟩
  · rintro rfl
    rw [if_pos rfl, hs.2 (by omega), ← hdemand]
    rfl
  · intro hnot hne
    rw [if_neg hne.symm, hs.2 fun hc => hnot ⟨hc.1.1, hc.1.2, hc.2⟩]
    rfl

lemma Consistent.step (h : s.Consistent) (hs : UciSystem.step cell s e = .ok s') : s'.Consistent := by
  cases e with
  | addUe cfg => exact (h.addUe hs).1
  | reconfUe cfg => exact (h.reconfUe hs).1
  | remUe rnti => exact (h.remUe hs).1
  | runSlot lingering result =>
    obtain rfl := Except.ok.inj hs
    have hw := wheelIndex_lt cell (s.slotTx + cell.maxUlSlotAllocDelay)
    have hkept := h.scheduleSlotUcis lingering (s.slotTx + cell.maxUlSlotAllocDelay) hw
    unfold UciSystem.runSlot
    simp only [hkept, Function.update_eq_self]
    exact ⟨h.nodup, h.wheel⟩

lemma nodup_updatedUes_step (h : s.Consistent) (hnodup : s.sched.updatedUes.Nodup) (hc : NotListed s e)
    (hs : UciSystem.step cell s e = .ok s') : s'.sched.updatedUes.Nodup := by
  cases e with
  | addUe cfg =>
    rw [(h.addUe hs).2.2.2.2.2]
    split
    case isTrue hp =>
      exact (List.perm_append_singleton _ _).nodup_iff.mpr (List.nodup_cons.mpr ⟨hc hp, hnodup⟩)
    case isFalse => exact hnodup
  | reconfUe cfg =>
    rw [(h.reconfUe hs).2.2.2.2]
    exact hnodup
  | remUe rnti =>
    rw [(h.remUe hs).2.2.2.2]
    exact hnodup
  | runSlot lingering result =>
    obtain rfl := Except.ok.inj hs
    exact List.nodup_nil

/-- A UE that was added in the state `s₀` is waiting for its first slot, or has been attempted in the slots that the
grid has reached. -/
structure Followed (cell : UciCell) (cfg : UciUeConfig) (s₀ s : UciSystem) : Prop where
  consistent : s.Consistent
  nodup : s.sched.updatedUes.Nodup
  present : cfg ∈ s.ues
  progress : ∃ new, s.actions = s₀.actions ++ new ∧
    ((s.slotTx = s₀.slotTx ∧ (cfg.resources ≠ [] → cfg.crnti ∈ s.sched.updatedUes) ∧
        ∀ slot, outcomes new slot cfg.crnti = []) ∨
      (s₀.slotTx < s.slotTx ∧ cfg.crnti ∉ s.sched.updatedUes ∧ ∀ slot,
        (s₀.slotTx ≤ slot ∧ slot < s.slotTx + cell.maxUlSlotAllocDelay →
          AttemptedOrSkipped (slot < s₀.slotTx + cell.maxUlSlotAllocDelay) (cfg.nofOccasions cell slot)
            (outcomes new slot cfg.crnti)) ∧
        (¬(s₀.slotTx ≤ slot ∧ slot < s.slotTx + cell.maxUlSlotAllocDelay) → outcomes new slot cfg.crnti = [])))

lemma AttemptedOrSkipped.of_true {early : Prop} {demand : UciKind → ℕ} {found : List UciOutcome} (he : early)
    (h : AttemptedOrSkipped True demand found) : AttemptedOrSkipped early demand found :=
  h.imp_right fun ⟨_, hrest⟩ => ⟨he, hrest⟩

lemma attemptedOrSkipped_nil (h : cfg.resources = []) (early : Prop) (slot : ℕ) :
    AttemptedOrSkipped early (cfg.nofOccasions cell slot) [] := by
  left
  rw [attempts_of_zero fun k => by simp [UciUeConfig.nofOccasions, h, nofResources]]

lemma Followed.same {s₀ : UciSystem} (h : Followed cell cfg s₀ s) (hcons : s'.Consistent)
    (hpresent : cfg ∈ s'.ues) (hslot : s'.slotTx = s.slotTx) (hactions : s'.actions = s.actions)
    (hnodup : s'.sched.updatedUes.Nodup)
    (hlisted : cfg.crnti ∈ s'.sched.updatedUes ↔ cfg.crnti ∈ s.sched.updatedUes) : Followed cell cfg s₀ s' :=
  ⟨hcons, hnodup, hpresent, by simpa only [hslot, hactions, hlisted] using h.progress⟩

lemma Followed.runSlot {s₀ : UciSystem} (h : Followed cell cfg s₀ s) (lingering : List ℕ)
    (result : List UciAction → ℕ → UciSlotResult) : Followed cell cfg s₀ (s.runSlot cell lingering result) := by
  obtain ⟨hcons, acts, hacts, hspec⟩ := h.consistent.runSlot cell h.nodup lingering result
  obtain ⟨new, hnew, hphase⟩ := h.progress
  have hslotTx : (s.runSlot cell lingering result).slotTx = s.slotTx + 1 := rfl
  have hupdated : (s.runSlot cell lingering result).sched.updatedUes = [] := rfl
  refine ⟨hcons, by rw [hupdated]; exact List.nodup_nil, h.present, new ++ acts, ?_, Or.inr ⟨?_, ?_, fun slot => ?_⟩⟩
  · rw [hacts, hnew, List.append_assoc]
  · rw [hslotTx]
    rcases hphase with hphase | hphase <;> omega
  · rw [hupdated]
    exact List.not_mem_nil
  · obtain ⟨hearly, hfar, hnone⟩ := hspec cfg h.present slot
    rw [hslotTx, outcomes_append]
    rcases hphase with ⟨heq, hlisted, hempty⟩ | ⟨hlt, hlisted, hserved⟩
    · rw [hempty, List.nil_append]
      refine ⟨fun ⟨hle, hend⟩ => ?_, fun hout => hnone (by omega) (by omega)⟩
      by_cases hres : cfg.resources = []
      · have hoff : outcomes acts slot cfg.crnti = [] := by
          by_cases hlast : slot = s.slotTx + cell.maxUlSlotAllocDelay
          · rw [hfar hlast, attempts_of_zero fun k => by simp [UciUeConfig.nofOccasions, hres, nofResources]]
          · by_cases hmem : cfg.crnti ∈ s.sched.updatedUes
            · rcases hearly ⟨by omega, by omega, hmem⟩ with ho | ⟨-, ⟨k, hk⟩, -⟩
              · rw [ho, attempts_of_zero fun k => by simp [UciUeConfig.nofOccasions, hres, nofResources]]
              · simp [UciUeConfig.nofOccasions, hres, nofResources] at hk
            · exact hnone (fun hc => hmem hc.2.2) hlast
        rw [hoff]
        exact attemptedOrSkipped_nil hres _ slot
      · by_cases hlast : slot = s.slotTx + cell.maxUlSlotAllocDelay
        · exact Or.inl (hfar hlast)
        · exact AttemptedOrSkipped.of_true (by omega) (hearly ⟨by omega, by omega, hlisted hres⟩)
    · have hskip : slot ≠ s.slotTx + cell.maxUlSlotAllocDelay → outcomes acts slot cfg.crnti = [] :=
        hnone fun hc => hlisted hc.2.2
      refine ⟨fun ⟨hle, hend⟩ => ?_, fun hout => ?_⟩
      · by_cases hlast : slot = s.slotTx + cell.maxUlSlotAllocDelay
        · rw [(hserved slot).2 (by omega), List.nil_append]
          exact Or.inl (hfar hlast)
        · rw [hskip hlast, List.append_nil]
          exact (hserved slot).1 ⟨hle, by omega⟩
      · rw [(hserved slot).2 (by omega), hskip (by omega)]
        rfl

lemma Followed.step {s₀ : UciSystem} (h : Followed cell cfg s₀ s) (hc : NotListed s e)
    (htouch : ¬e.Touches cfg.crnti) (hs : UciSystem.step cell s e = .ok s') : Followed cell cfg s₀ s' := by
  have hcons := h.consistent.step hs
  have hnodup := nodup_updatedUes_step h.consistent h.nodup hc hs
  cases e with
  | addUe cfg' =>
    obtain ⟨-, hues, hne, hslot, hactions, hupdated⟩ := h.consistent.addUe hs
    refine h.same hcons (by simp [hues, h.present]) hslot hactions hnodup ?_
    have hdiff := hne cfg h.present
    rw [hupdated]
    split <;> simp [hdiff]
  | reconfUe cfg' =>
    obtain ⟨-, hues, hslot, hactions, hupdated⟩ := h.consistent.reconfUe hs
    refine h.same hcons ?_ hslot hactions hnodup (by rw [hupdated])
    rw [hues]
    exact List.mem_map.mpr ⟨cfg, h.present, if_neg fun heq => htouch heq.symm⟩
  | remUe rnti =>
    obtain ⟨-, hues, hslot, hactions, hupdated⟩ := h.consistent.remUe hs
    refine h.same hcons ?_ hslot hactions hnodup (by rw [hupdated])
    rw [hues]
    exact List.mem_filter.mpr ⟨h.present, by simpa using fun heq : cfg.crnti = rnti => htouch heq.symm⟩
  | runSlot lingering result =>
    obtain rfl := Except.ok.inj hs
    exact h.runSlot lingering result

lemma followed_addUe (h : s.Consistent) (hnodup : s'.sched.updatedUes.Nodup)
    (hs : UciSystem.step cell s (.addUe cfg) = .ok s') : Followed cell cfg s' s' := by
  obtain ⟨hcons, hues, -, -, -, hupdated⟩ := h.addUe hs
  refine ⟨hcons, hnodup, by simp [hues], [], (List.append_nil _).symm, Or.inl ⟨rfl, fun hres => ?_, fun _ => rfl⟩⟩
  have hp : cfg.pucchCfg.isSome = true := by
    cases hpucch : cfg.pucchCfg with
    | none => simp [UciUeConfig.resources, hpucch] at hres
    | some srs => rfl
  simp [hupdated, hp]

end UciSystem

/-- The wheel is exact in every run. As long as no RNTI is added while it is still listed, each occasion of a UE is
attempted once. -/
theorem periodic_uci_wheel (cell : UciCell) (slotTx : ℕ) (es : List UciEvent) :
    HoldsThroughout (UciSystem.step cell) (UciSystem.WheelExact cell) (UciSystem.init slotTx) es ∧
      (RunsWithin (UciSystem.step cell) NotListed (UciSystem.init slotTx) es → AttemptedOnce cell slotTx es) := by
  constructor
  · refine holdsThroughout_iff_prefix.mpr fun pre post t _ hrun => UciSystem.Consistent.wheelExact ?_ cell
    exact runEvents_invariant UciSystem.Consistent (fun s e s' h hs => h.step hs) (UciSystem.consistent_init slotTx) hrun
  · rintro hwithin pre cfg post s t rfl hadd htouch hrun hlt slot hle hend
    rw [← List.singleton_append, ← List.append_assoc] at hwithin
    have hinv : s.Consistent ∧ s.sched.updatedUes.Nodup :=
      runsWithin_invariant (fun s => s.Consistent ∧ s.sched.updatedUes.Nodup)
        (fun s e s' h hc hs => ⟨h.1.step hs, UciSystem.nodup_updatedUes_step h.1 h.2 hc hs⟩)
        ⟨UciSystem.consistent_init slotTx, List.nodup_nil⟩ (runsWithin_of_append hwithin) hadd
    obtain ⟨s₁, hpre, hstep⟩ := runEvents_concat_ok.mp hadd
    have hcons : s₁.Consistent :=
      runEvents_invariant UciSystem.Consistent (fun s e s' h hs => h.step hs) (UciSystem.consistent_init slotTx) hpre
    have hfollowed : UciSystem.Followed cell cfg s t :=
      runsWithin_invariant (UciSystem.Followed cell cfg s) (fun u e u' h hc hs => h.step hc.1 hc.2 hs)
        (UciSystem.followed_addUe hcons hinv.2 hstep)
        (runsWithin_and (runsWithin_suffix hwithin hadd) (runsWithin_of_forall htouch)) hrun
    obtain ⟨new, hnew, hphase⟩ := hfollowed.progress
    rw [hnew, List.drop_left]
    rcases hphase with ⟨heq, -⟩ | ⟨-, -, hserved⟩
    · omega
    · exact (hserved slot).1 ⟨hle, hend⟩

instance (s : UciSystem) (e : UciEvent) : Decidable (NotListed s e) :=
  match e with
  | .addUe _ => inferInstanceAs (Decidable (_ → _))
  | .reconfUe _ | .remUe _ | .runSlot _ _ => isTrue trivial

def smallCell : UciCell := ⟨1, 2, 16, 16⟩

def srUe : UciUeConfig := ⟨1, some [⟨0, 0, .sl640, 0, 0, by decide⟩], none⟩

def idle : List UciAction → ℕ → UciSlotResult := fun _ _ => ⟨[], 0⟩

/-- A UE that is removed and added again after a slot. -/
theorem periodic_uci_wheel_readded :
    AttemptedOnce smallCell 0 [.addUe srUe, .runSlot [] idle, .remUe 1, .addUe srUe, .runSlot [] idle] :=
  (periodic_uci_wheel smallCell 0 _).2 (by decide +kernel)

lemma attempts_ne_twice (demand : UciKind → ℕ) :
    attempts demand ≠ [.allocSrOpportunity, .allocSrOpportunity] := by
  unfold attempts
  split <;> split <;> simp

/-- A UE that is removed and added again before the next slot is listed twice, and its SR is attempted twice. -/
theorem readded_ue_attempted_twice :
    ¬∀ (cell : UciCell) (slotTx : ℕ) (es : List UciEvent), AttemptedOnce cell slotTx es := by
  intro h
  have hrun : (runEvents (UciSystem.step smallCell) (UciSystem.init 0) ([.addUe srUe, .remUe 1] ++ [.addUe srUe])).bind
      (fun s => (runEvents (UciSystem.step smallCell) s [.runSlot [] idle]).map fun t =>
        (s.slotTx, t.slotTx, outcomes (t.actions.drop s.actions.length) 0 1)) =
      .ok (0, 1, [.allocSrOpportunity, .allocSrOpportunity]) := by decide +kernel
  obtain ⟨s, hs, hmap⟩ := bind_eq_ok.mp hrun
  obtain ⟨t, ht, heq⟩ := map_eq_ok.mp hmap
  simp only [Prod.mk.injEq] at heq
  obtain ⟨hslot, hslot', hout⟩ := heq
  have honce := h smallCell 0 [.addUe srUe, .remUe 1, .addUe srUe, .runSlot [] idle] [.addUe srUe, .remUe 1] srUe
    [.runSlot [] idle] s t rfl hs (by simp [UciEvent.Touches]) ht (by omega) 0 (by omega) (by omega)
  rcases honce with hone | ⟨-, -, hskip⟩
  · exact attempts_ne_twice _ (hone.symm.trans hout)
  · exact absurd (hskip.symm.trans hout) (by decide)

end OwlsRan.Sched
