import OwlsRan.Sched.UciScheduler
import Mathlib.Data.List.Perm.Basic

/-!
# The counters on the wheel

Every position of the wheel holds what the UEs of the scheduler have configured for the slots of that position.
-/

namespace OwlsRan.Sched

open OwlsRan.Lib OwlsRan.Ran

abbrev UciDemand := ℕ → UciKind → ℕ

/-- The slot holds one element for each UE that has a resource in it, with the number of its resources. -/
structure Represents (slotWheel : List PeriodicUciInfo) (demand : UciDemand) : Prop where
  nodup : (slotWheel.map PeriodicUciInfo.rnti).Nodup
  mem_iff : ∀ e, e ∈ slotWheel ↔ (∀ k, e.counter k = demand e.rnti k) ∧ ∃ k, 0 < demand e.rnti k

section Elements

@[simp] lemma increment_rnti (e : PeriodicUciInfo) (k : UciKind) : (e.increment k).rnti = e.rnti := by
  cases k <;> rfl

@[simp] lemma decrement_rnti (e : PeriodicUciInfo) (k : UciKind) : (e.decrement k).rnti = e.rnti := by
  cases k <;> rfl

lemma counter_increment (e : PeriodicUciInfo) (k k' : UciKind) :
    (e.increment k).counter k' = e.counter k' + if k' = k then 1 else 0 := by
  cases k <;> cases k' <;> simp [PeriodicUciInfo.increment, PeriodicUciInfo.counter]

lemma counter_decrement (e : PeriodicUciInfo) (k k' : UciKind) :
    (e.decrement k).counter k' = e.counter k' - if k' = k then 1 else 0 := by
  cases k <;> cases k' <;> simp [PeriodicUciInfo.decrement, PeriodicUciInfo.counter]

@[simp] lemma counter_empty (rnti : ℕ) (k : UciKind) : (PeriodicUciInfo.mk rnti 0 0).counter k = 0 := by
  cases k <;> rfl

lemma ext_counter {e e' : PeriodicUciInfo} (hrnti : e.rnti = e'.rnti) (h : ∀ k, e.counter k = e'.counter k) : e = e' := by
  obtain ⟨r, a, b⟩ := e
  obtain ⟨r', a', b'⟩ := e'
  have hsr := h .sr
  have hcsi := h .csi
  simp only [PeriodicUciInfo.counter] at hrnti hsr hcsi
  rw [hrnti, hsr, hcsi]

lemma span_rnti (crnti : ℕ) (l : List PeriodicUciInfo) :
    ((l.span fun e => decide (e.rnti ≠ crnti)) = (l, []) ∧ ∀ e ∈ l, e.rnti ≠ crnti) ∨
      ∃ pre e post, (l.span fun e => decide (e.rnti ≠ crnti)) = (pre, e :: post) ∧ l = pre ++ e :: post ∧
        e.rnti = crnti := by
  rcases span_cases (fun e : PeriodicUciInfo => decide (e.rnti ≠ crnti)) l with ⟨hspan, hall⟩ | ⟨pre, e, post, hspan, hl, he⟩
  · exact Or.inl ⟨hspan, fun e he => by simpa using hall e he⟩
  · exact Or.inr ⟨pre, e, post, hspan, hl, by simpa using he⟩

end Elements

namespace Represents

variable {l l' pre post : List PeriodicUciInfo} {d d' : UciDemand} {e e' : PeriodicUciInfo}

lemma perm (h : Represents l d) (hp : l.Perm l') : Represents l' d :=
  ⟨(hp.map _).nodup_iff.mp h.nodup, fun e => by rw [← hp.mem_iff, h.mem_iff]⟩

lemma nil (h : ∀ r k, d r k = 0) : Represents [] d :=
  ⟨List.nodup_nil, fun e => by simp [h]⟩

lemma counter (h : Represents l d) (he : e ∈ l) (k : UciKind) : e.counter k = d e.rnti k :=
  ((h.mem_iff e).mp he).1 k

lemma demand_eq_zero (h : Represents l d) {r : ℕ} (hr : ∀ e ∈ l, e.rnti ≠ r) (k : UciKind) : d r k = 0 := by
  by_contra hpos
  have hmem : ⟨r, d r .sr, d r .csi⟩ ∈ l :=
    (h.mem_iff _).mpr ⟨fun k => by cases k <;> rfl, k, Nat.pos_of_ne_zero hpos⟩
  exact hr _ hmem rfl

lemma cons (h : Represents l d) (hr : ∀ x ∈ l, x.rnti ≠ e.rnti) (he : ∀ k, d' e.rnti k = e.counter k)
    (hpos : ∃ k, 0 < e.counter k) (hd : ∀ r, r ≠ e.rnti → d' r = d r) : Represents (e :: l) d' := by
  refine ⟨List.nodup_cons.mpr ⟨?_, h.nodup⟩, fun x => ?_⟩
  · simpa [List.mem_map] using hr
  · rw [List.mem_cons]
    by_cases hx : x.rnti = e.rnti
    · have hx' : x ∉ l := fun hmem => hr x hmem hx
      simp only [hx', or_false, hx, he]
      refine ⟨?_, fun hc => ext_counter hx hc.1⟩
      rintro rfl
      exact ⟨fun _ => rfl, hpos⟩
    · have hne : x ≠ e := fun heq => hx (congrArg _ heq)
      simp only [hne, false_or, hd x.rnti hx, h.mem_iff]

lemma tail (h : Represents (e :: l) d) (he : ∀ k, d' e.rnti k = 0) (hd : ∀ r, r ≠ e.rnti → d' r = d r) :
    Represents l d' := by
  have hnodup := List.nodup_cons.mp h.nodup
  refine ⟨hnodup.2, fun x => ?_⟩
  by_cases hx : x.rnti = e.rnti
  · have hx' : x ∉ l := fun hmem => hnodup.1 (hx ▸ List.mem_map_of_mem hmem)
    simp [hx', hx, he]
  · have hne : x ≠ e := fun heq => hx (congrArg _ heq)
    have hmem := h.mem_iff x
    simp only [List.mem_cons, hne, false_or] at hmem
    rw [hmem, hd x.rnti hx]

lemma without (h : Represents (pre ++ e :: post) d) (he : ∀ k, d' e.rnti k = 0) (hd : ∀ r, r ≠ e.rnti → d' r = d r) :
    Represents (pre ++ post) d' :=
  (h.perm List.perm_middle).tail he hd

lemma replace (h : Represents (pre ++ e :: post) d) (hr : e'.rnti = e.rnti) (he : ∀ k, d' e.rnti k = e'.counter k)
    (hpos : ∃ k, 0 < e'.counter k) (hd : ∀ r, r ≠ e.rnti → d' r = d r) : Represents (pre ++ e' :: post) d' := by
  have hrest : Represents (pre ++ post) fun r k => if r = e.rnti then 0 else d r k :=
    h.without (fun k => if_pos rfl) fun r hne => by simp [hne]
  refine (hrest.cons (fun x hx => ?_) (by rwa [hr]) hpos fun r hne => ?_).perm List.perm_middle.symm
  · have hnodup := (List.nodup_cons.mp ((h.perm List.perm_middle).nodup)).1
    exact fun heq => hnodup (List.mem_map.mpr ⟨x, hx, heq.trans hr⟩)
  · rw [hr] at hne
    simp [hne, hd r hne]

end Represents

def UciDemand.add (d : UciDemand) (crnti : ℕ) (kind : UciKind) : UciDemand :=
  fun r k => d r k + if r = crnti ∧ k = kind then 1 else 0

lemma UciDemand.add_self (d : UciDemand) (crnti : ℕ) (kind k : UciKind) :
    d.add crnti kind crnti k = d crnti k + if k = kind then 1 else 0 := by
  simp [UciDemand.add]

lemma UciDemand.add_of_ne (d : UciDemand) {crnti r : ℕ} (kind : UciKind) (h : r ≠ crnti) :
    d.add crnti kind r = d r := by
  funext k
  simp [UciDemand.add, h]

section Positions

variable {l l' : List PeriodicUciInfo} {d : UciDemand} {crnti : ℕ} {kind : UciKind}

lemma addToSlot_represents (h : Represents l d) (ha : addToSlot crnti kind l = .ok l') :
    Represents l' (d.add crnti kind) := by
  unfold addToSlot at ha
  rcases span_rnti crnti l with ⟨hspan, hne⟩ | ⟨pre, e, post, hspan, rfl, rfl⟩
  · rw [hspan] at ha
    simp only at ha
    split at ha
    case isFalse => exact absurd ha (by simp)
    obtain rfl := Except.ok.inj ha
    refine (h.cons (e := (PeriodicUciInfo.mk crnti 0 0).increment kind) ?_ (fun k => ?_) ⟨kind, ?_⟩ fun r hr => ?_).perm
      (List.perm_append_singleton _ _).symm
    · simpa using hne
    · rw [increment_rnti, UciDemand.add_self, h.demand_eq_zero hne, counter_increment, counter_empty]
    · simp [counter_increment]
    · exact d.add_of_ne kind (by simpa using hr)
  · rw [hspan] at ha
    obtain rfl := Except.ok.inj ha
    refine h.replace (increment_rnti _ _) (fun k => ?_) ⟨kind, ?_⟩ fun r hr => d.add_of_ne kind hr
    · rw [UciDemand.add_self, counter_increment, h.counter (by simp)]
    · simp [counter_increment]

lemma remFromSlot_represents (h : Represents l (d.add crnti kind)) : Represents (remFromSlot crnti kind l) d := by
  unfold remFromSlot
  rcases span_rnti crnti l with ⟨-, hne⟩ | ⟨pre, e, post, hspan, rfl, rfl⟩
  · have hzero := h.demand_eq_zero hne kind
    simp [UciDemand.add_self] at hzero
  · have hcounter : ∀ k, e.counter k = d e.rnti k + if k = kind then 1 else 0 := fun k => by
      rw [h.counter (by simp), UciDemand.add_self]
    have hpos : e.counter kind ≠ 0 := by
      rw [hcounter, if_pos rfl]
      omega
    have hdec : ∀ k, (e.decrement kind).counter k = d e.rnti k := fun k => by
      rw [counter_decrement, hcounter, Nat.add_sub_cancel]
    have hother : ∀ r, r ≠ e.rnti → d r = d.add e.rnti kind r := fun r hr => (d.add_of_ne kind hr).symm
    rw [hspan]
    simp only [hpos, if_false]
    split
    case isTrue hzero =>
      have hgone : Represents (pre ++ post) d := by
        refine h.without (fun k => ?_) hother
        rw [← hdec]
        cases k
        · exact hzero.1
        · exact hzero.2
      cases hlast : post.getLast? with
      | none =>
        rw [List.getLast?_eq_none_iff.mp hlast, List.append_nil] at hgone
        exact hgone
      | some last =>
        have hpost := List.dropLast_append_getLast? last hlast
        refine hgone.perm ?_
        nth_rewrite 1 [← hpost]
        rw [← List.append_assoc]
        exact (List.perm_append_singleton _ _).trans List.perm_middle.symm
    case isFalse hzero =>
      refine h.replace (decrement_rnti _ _) (fun k => (hdec k).symm) ?_ hother
      by_contra hnone
      simp only [not_exists, Nat.not_lt, Nat.le_zero] at hnone
      exact hzero ⟨hnone .sr, hnone .csi⟩

end Positions

structure UciResource where
  kind : UciKind
  period : ℕ
  offset : ℕ
  offset_lt : offset < period
  period_dvd : period ∣ uciWheelSize

def nofResources (rs : List UciResource) (slot : ℕ) (k : UciKind) : ℕ :=
  rs.countP fun x => decide (x.kind = k ∧ slot % x.period = x.offset)

lemma SrPeriodicity.toSlot_dvd (p : SrPeriodicity) : p.toSlot ∣ uciWheelSize := by
  cases p <;> decide

lemma CsiReportPeriodicity.toUint_dvd (p : CsiReportPeriodicity) : p.toUint ∣ uciWheelSize := by
  cases p <;> decide

namespace UciUeConfig

def srResource (srRes : SchedulingRequestResourceConfig) : UciResource :=
  ⟨.sr, srRes.period.toSlot, srRes.offset, srRes.offset_lt, srRes.period.toSlot_dvd⟩

def csiResources : Option CsiMeasConfig → List UciResource
  | some ⟨.onPucch period offset h :: _, _⟩ => [⟨.csi, period.toUint, offset, h, period.toUint_dvd⟩]
  | _ => []

def resources (cfg : UciUeConfig) : List UciResource :=
  match cfg.pucchCfg with
  | none => []
  | some srResList => srResList.map srResource ++ csiResources cfg.csiMeasCfg

end UciUeConfig

lemma periodPucch_eq_ok {csi : CsiMeasConfig} {period offset : ℕ} (h : csi.periodPucch = .ok (period, offset)) :
    ∃ x : UciResource, UciUeConfig.csiResources (some csi) = [x] ∧ x.kind = .csi ∧ x.period = period ∧
      x.offset = offset := by
  obtain ⟨reports, other⟩ := csi
  match reports, h with
  | .onPucch p o ho :: _, h =>
    simp only [CsiMeasConfig.periodPucch, Except.ok.injEq, Prod.mk.injEq] at h
    exact ⟨_, rfl, rfl, h.1, h.2⟩

abbrev WheelDemand := ℕ → UciDemand

def WheelDemand.withResources (d : WheelDemand) (crnti : ℕ) (rs : List UciResource) : WheelDemand :=
  fun slot r k => d slot r k + if r = crnti then nofResources rs slot k else 0

def demandOf (ues : List UciUeConfig) : WheelDemand :=
  fun slot r k => (ues.map fun cfg => if r = cfg.crnti then nofResources cfg.resources slot k else 0).sum

def Matches (wheel : SlotWheel) (d : WheelDemand) : Prop :=
  ∀ w, w < uciWheelSize → Represents (wheel w) (d w)

section Demand

variable {d : WheelDemand} {crnti : ℕ}

@[simp] lemma withResources_nil : d.withResources crnti [] = d := by
  funext slot r k
  simp [WheelDemand.withResources, nofResources]

lemma withResources_append (rs rs' : List UciResource) :
    (d.withResources crnti rs).withResources crnti rs' = d.withResources crnti (rs ++ rs') := by
  funext slot r k
  by_cases hr : r = crnti
  · simp [WheelDemand.withResources, nofResources, hr, Nat.add_assoc]
  · simp [WheelDemand.withResources, hr]

lemma withResources_cons (x : UciResource) (rs : List UciResource) (slot : ℕ) :
    d.withResources crnti (x :: rs) slot =
      if slot % x.period = x.offset then (d.withResources crnti rs slot).add crnti x.kind
      else d.withResources crnti rs slot := by
  funext r k
  by_cases hr : r = crnti
  · by_cases hslot : slot % x.period = x.offset
    · simp [WheelDemand.withResources, nofResources, UciDemand.add, List.countP_cons, hr, hslot, Nat.add_assoc,
        eq_comm]
    · simp [WheelDemand.withResources, nofResources, hslot]
  · by_cases hslot : slot % x.period = x.offset
    · simp [WheelDemand.withResources, UciDemand.add, hr, hslot]
    · simp [WheelDemand.withResources, hr, hslot]

lemma demandOf_cons (cfg : UciUeConfig) (ues : List UciUeConfig) :
    demandOf (cfg :: ues) = (demandOf ues).withResources cfg.crnti cfg.resources := by
  funext slot r k
  simp [demandOf, WheelDemand.withResources, Nat.add_comm]

lemma demandOf_perm {ues ues' : List UciUeConfig} (h : ues.Perm ues') : demandOf ues = demandOf ues' := by
  funext slot r k
  exact (h.map _).sum_eq

end Demand

section Resources

variable {wheel wheel' : SlotWheel} {d : WheelDemand} {crnti : ℕ}

lemma addResource_matches (h : Matches wheel d) (x : UciResource)
    (ha : addResource wheel crnti x.offset x.period x.kind = .ok wheel') :
    Matches wheel' (d.withResources crnti [x]) := by
  intro w hw
  have hpos : 0 < x.period := by
    have := x.offset_lt
    omega
  have hset := foldlM_updateAt (nodup_wheelOffsets hpos) ha w
  rw [withResources_cons, withResources_nil]
  rw [mem_wheelOffsets_iff_mod x.offset_lt] at hset
  by_cases hmod : w % x.period = x.offset
  · rw [if_pos hmod]
    exact addToSlot_represents (h w hw) (hset.1 ⟨hw, hmod⟩)
  · rw [if_neg hmod, hset.2 fun hc => hmod hc.2]
    exact h w hw

lemma remResource_matches {x : UciResource} {rs : List UciResource}
    (h : Matches wheel (d.withResources crnti (x :: rs))) :
    Matches (remResource wheel crnti x.offset x.period x.kind) (d.withResources crnti rs) := by
  intro w hw
  have hpos : 0 < x.period := by
    have := x.offset_lt
    omega
  have hrep := h w hw
  rw [withResources_cons] at hrep
  rw [remResource, foldl_update (nodup_wheelOffsets hpos)]
  simp only [mem_wheelOffsets_iff_mod x.offset_lt, hw, true_and]
  by_cases hmod : w % x.period = x.offset
  · rw [if_pos hmod] at hrep ⊢
    exact remFromSlot_represents hrep
  · rw [if_neg hmod] at hrep ⊢
    exact hrep

lemma addSrResources_matches {srs : List SchedulingRequestResourceConfig} (h : Matches wheel d)
    (ha : srs.foldlM (UciScheduler.addSrResource crnti) wheel = .ok wheel') :
    Matches wheel' (d.withResources crnti (srs.map UciUeConfig.srResource)) := by
  induction srs generalizing wheel d with
  | nil =>
    obtain rfl := Except.ok.inj ha
    simpa using h
  | cons srRes srs ih =>
    rw [List.foldlM_cons, bind_eq_ok] at ha
    obtain ⟨mid, hmid, ha⟩ := ha
    unfold UciScheduler.addSrResource at hmid
    split at hmid
    case isTrue => exact absurd hmid (by simp)
    have hadded := addResource_matches h (UciUeConfig.srResource srRes) hmid
    rw [List.map_cons, ← List.singleton_append, ← withResources_append]
    exact ih hadded ha

lemma remSrResources_matches {srs : List SchedulingRequestResourceConfig} {rs : List UciResource}
    (h : Matches wheel (d.withResources crnti (srs.map UciUeConfig.srResource ++ rs))) :
    Matches (srs.foldl (UciScheduler.remSrResource crnti) wheel) (d.withResources crnti rs) := by
  induction srs generalizing wheel with
  | nil => exact h
  | cons srRes srs ih => exact ih (remResource_matches h)

end Resources

namespace UciScheduler

variable {s s' : UciScheduler} {d : WheelDemand} {cfg cfg' : UciUeConfig}

lemma addCsiResource_matches {wheel wheel' : SlotWheel} {crnti : ℕ} {csi : Option CsiMeasConfig}
    (h : Matches wheel d) (ha : addCsiResource crnti wheel csi = .ok wheel') :
    Matches wheel' (d.withResources crnti (UciUeConfig.csiResources csi)) := by
  cases csi with
  | none =>
    obtain rfl := Except.ok.inj ha
    simpa [UciUeConfig.csiResources] using h
  | some csi =>
    obtain ⟨⟨period, offset⟩, hperiod, hadd⟩ := bind_eq_ok.mp ha
    obtain ⟨x, hx, hkind, rfl, rfl⟩ := periodPucch_eq_ok hperiod
    simp only [← hkind] at hadd
    rw [hx]
    exact addResource_matches h x hadd

lemma remCsiResource_matches {wheel wheel' : SlotWheel} {crnti : ℕ} {csi : Option CsiMeasConfig}
    (h : Matches wheel (d.withResources crnti (UciUeConfig.csiResources csi)))
    (hr : remCsiResource crnti wheel csi = .ok wheel') : Matches wheel' d := by
  cases csi with
  | none =>
    obtain rfl := Except.ok.inj hr
    simpa [UciUeConfig.csiResources] using h
  | some csi =>
    obtain ⟨⟨period, offset⟩, hperiod, hrem⟩ := bind_eq_ok.mp hr
    obtain ⟨x, hx, hkind, rfl, rfl⟩ := periodPucch_eq_ok hperiod
    obtain rfl := Except.ok.inj hrem
    rw [hx] at h
    simpa [hkind] using remResource_matches h

lemma addUeToGrid_matches {isReconf : Bool} (h : Matches s.periodicUciSlotWheel d)
    (ha : s.addUeToGrid cfg isReconf = .ok s') :
    Matches s'.periodicUciSlotWheel (d.withResources cfg.crnti cfg.resources) ∧
      s'.updatedUes = if cfg.pucchCfg.isSome ∧ isReconf = false then s.updatedUes ++ [cfg.crnti] else s.updatedUes := by
  unfold addUeToGrid at ha
  unfold UciUeConfig.resources
  cases hpucch : cfg.pucchCfg with
  | none =>
    rw [hpucch] at ha
    obtain rfl := Except.ok.inj ha
    simpa using h
  | some srs =>
    rw [hpucch] at ha
    obtain ⟨srWheel, hsr, ha⟩ := bind_eq_ok.mp ha
    obtain ⟨wheel, hcsi, ha⟩ := bind_eq_ok.mp ha
    obtain rfl := Except.ok.inj ha
    have hall := addCsiResource_matches (addSrResources_matches h hsr) hcsi
    rw [withResources_append] at hall
    exact ⟨hall, by cases isReconf <;> simp⟩

lemma remUe_matches (h : Matches s.periodicUciSlotWheel (d.withResources cfg.crnti cfg.resources))
    (hr : s.remUe cfg = .ok s') : Matches s'.periodicUciSlotWheel d ∧ s'.updatedUes = s.updatedUes := by
  unfold remUe at hr
  unfold UciUeConfig.resources at h
  cases hpucch : cfg.pucchCfg with
  | none =>
    rw [hpucch] at h hr
    obtain rfl := Except.ok.inj hr
    simpa using h
  | some srs =>
    rw [hpucch] at h hr
    obtain ⟨wheel, hcsi, hr⟩ := bind_eq_ok.mp hr
    obtain rfl := Except.ok.inj hr
    exact ⟨remCsiResource_matches (remSrResources_matches h) hcsi, rfl⟩

lemma resources_eq_of_nothingChanged (h : nothingChanged cfg' cfg = true) : cfg'.resources = cfg.resources := by
  simp only [nothingChanged, Bool.and_eq_true, decide_eq_true_eq] at h
  unfold UciUeConfig.resources
  rw [h.1.2, h.2]

lemma reconfUe_matches (h : Matches s.periodicUciSlotWheel (d.withResources cfg.crnti cfg.resources))
    (hr : s.reconfUe cfg' cfg = .ok s') (hcrnti : cfg'.crnti = cfg.crnti) :
    Matches s'.periodicUciSlotWheel (d.withResources cfg'.crnti cfg'.resources) ∧ s'.updatedUes = s.updatedUes := by
  unfold reconfUe at hr
  split at hr
  case isTrue hsame =>
    obtain rfl := Except.ok.inj hr
    rw [hcrnti, resources_eq_of_nothingChanged hsame]
    exact ⟨h, rfl⟩
  case isFalse =>
    obtain ⟨removed, hrem, hadd⟩ := bind_eq_ok.mp hr
    obtain ⟨hwheel, hupdated⟩ := remUe_matches h hrem
    obtain ⟨hwheel', hupdated'⟩ := addUeToGrid_matches hwheel hadd
    exact ⟨hwheel', by rw [hupdated', hupdated]; simp⟩

end UciScheduler

end OwlsRan.Sched
