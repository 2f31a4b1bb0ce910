import OwlsRan.Sched.SrsWheel

/-!
# Positioning requests and the SRS PDUs

The wheel holds exactly the resources of the UEs and of the neighbour UEs that are measured.
-/

namespace OwlsRan.Sched

open OwlsRan.Lib

namespace SrsSystem

def resourcesOf (s : SrsSystem) (rnti : ℕ) : List SrsResource :=
  if isCrnti rnti then
    match s.activeUe rnti with
    | none => []
    | some u => u.cfg.resources
  else
    match s.sched.findPosRequest rnti with
    | none => []
    | some req => req.srsResList

def isPending (s : SrsSystem) (rnti : ℕ) : Bool := (s.sched.findPosRequest rnti).isSome

def lastPositioningUpdate (s : SrsSystem) : Option SrsUeUpdate :=
  (s.sched.updatedUes.filter fun upd => decide (upd.type ≠ .newUe)).getLast?

end SrsSystem

def PosRequest.LookedUp (req : PosRequest) : Prop :=
  ∀ res ∈ req.srsResList, res.periodicityAndOffset.isSome = true →
    ∃ first ∈ findSrsResource req.srsResList res.ueResId, first.periodicityAndOffset.isSome = true

instance (req : PosRequest) : Decidable req.LookedUp :=
  inferInstanceAs (Decidable (∀ res ∈ req.srsResList, res.periodicityAndOffset.isSome = true →
    ∃ first ∈ findSrsResource req.srsResList res.ueResId, first.periodicityAndOffset.isSome = true))

def SrsAbort.IsRejection (a : SrsAbort) : Prop :=
  a = .slotWheelFull ∨ a = .neighbourWithCrnti ∨ a = .noPeriodicResource ∨ a = .duplicateUe

namespace SrsSystem

variable {cell : SrsCell} {s s' : SrsSystem}

/-- The state of the scheduler between two events. -/
structure Settled (cell : SrsCell) (s : SrsSystem) : Prop where
  distinct : s.sched.periodicSrsSlotWheel.Distinct
  wheel : ∀ w e, e ∈ s.sched.periodicSrsSlotWheel w ↔ SrsPlaced (s.resourcesOf e.rnti) w e.srsResId
  ues : (s.ues.map fun u => u.cfg.crnti).Nodup
  removed : ∀ rnti ∈ s.removed, (s.findByRnti rnti).isSome = true
  pending : (s.sched.pendingPosRequests.map PosRequest.posRnti).Nodup
  connected : ∀ req ∈ s.sched.pendingPosRequests, ∀ ueIndex, req.ueIndex = some ueIndex →
    ∃ u ∈ s.ues, u.ueIndex = ueIndex ∧ u.cfg.crnti = req.posRnti
  neighbour : ∀ req ∈ s.sched.pendingPosRequests, req.ueIndex = none → isCrnti req.posRnti = false ∧ req.LookedUp
  flags : s.lastPositioningUpdate = none → ∀ slot, s.slotTx ≤ slot + 1 → ∀ pdu ∈ s.srss slot,
    pdu.positioningReportRequested = s.isPending pdu.crnti
  future : ∀ slot, s.slotTx + cell.maxUlSlotAllocDelay ≤ slot → s.srss slot = []

section RunSlot

lemma findSrsResource_periodic (h : Settled cell s) {w : ℕ} {e : PeriodicSrsInfo}
    (he : e ∈ s.sched.periodicSrsSlotWheel w) (slot : ℕ) :
    Yields (s.srsResList cell slot e.rnti) (fun srsResList => ∀ res, findSrsResource srsResList e.srsResId = some res →
      res.periodicityAndOffset.isSome = true) fun _ => False := by
  obtain ⟨res, hres, hid, period, offset, hperiod, -⟩ := (h.wheel w e).mp he
  unfold resourcesOf at hres
  unfold srsResList
  split at hres
  case isTrue hcrnti =>
    rw [if_pos hcrnti]
    split at hres
    case h_1 => cases hres
    case h_2 u hu =>
      have hfind : s.findByRnti e.rnti = some u := by
        unfold activeUe at hu
        split at hu
        · cases hu
        · exact hu
      unfold SrsUeConfig.resources at hres
      split at hres
      case h_1 => cases hres
      case h_2 srsCfg hcfg =>
        obtain ⟨set, -, hset⟩ := List.mem_flatMap.mp hres
        obtain ⟨id, -, hfound⟩ := List.mem_filterMap.mp hset
        have hsame : res.ueResId = id := by simpa using List.find?_some hfound
        rw [hfind]
        dsimp only
        rw [hcfg]
        split
        · intro res' hres'
          rw [← hid, hsame, hfound] at hres'
          cases hres'
          rw [hperiod]
          rfl
        · intro res' hres'
          cases hres'
  case isFalse hcrnti =>
    rw [if_neg hcrnti]
    cases hreq : s.sched.findPosRequest e.rnti with
    | none =>
      simp only [hreq] at hres
      cases hres
    | some req =>
      simp only [hreq] at hres ⊢
      have hue : req.ueIndex = none := by
        by_contra hne
        obtain ⟨ueIndex, hindex⟩ := Option.ne_none_iff_exists'.mp hne
        obtain ⟨hmem, hrnti⟩ := findKey_mem hreq
        obtain ⟨u, -, -, hu⟩ := h.connected req hmem ueIndex hindex
        rw [← hrnti, ← hu, u.cfg.crnti_valid] at hcrnti
        exact hcrnti rfl
      obtain ⟨first, hfirst, hsome⟩ := (h.neighbour req (findKey_mem hreq).1 hue).2 res hres (by rw [hperiod]; rfl)
      intro res' hres'
      rw [← hid, Option.mem_def.mp hfirst] at hres'
      cases hres'
      exact hsome

def Flagged (s : SrsSystem) (pdus : List SrsPdu) : Prop :=
  ∀ pdu ∈ pdus, pdu.positioningReportRequested = s.isPending pdu.crnti

lemma allocateSrsOpportunity_flagged (h : Settled cell s) {w : ℕ} {e : PeriodicSrsInfo}
    (he : e ∈ s.sched.periodicSrsSlotWheel w) (slot : ℕ) {pdus : List SrsPdu} (hpdus : s.Flagged pdus) :
    Yields (s.allocateSrsOpportunity cell slot pdus e) s.Flagged fun _ => False := by
  unfold allocateSrsOpportunity
  split
  case isTrue => exact hpdus
  case isFalse =>
    apply yields_bind (findSrsResource_periodic h he slot)
    intro srsResList hperiodic
    cases hfind : findSrsResource srsResList e.srsResId with
    | none => exact hpdus
    | some res =>
      have hsome := hperiodic res hfind
      dsimp only
      rw [← Option.not_isSome, hsome]
      intro pdu hpdu
      rcases List.mem_append.mp hpdu with hpdu | hpdu
      · exact hpdus pdu hpdu
      · rw [List.mem_singleton.mp hpdu]
        rfl

lemma allocate_flagged (h : Settled cell s) {w : ℕ} {es : List PeriodicSrsInfo}
    (hes : ∀ e ∈ es, e ∈ s.sched.periodicSrsSlotWheel w) (slot : ℕ) {pdus : List SrsPdu} (hpdus : s.Flagged pdus) :
    Yields (es.foldlM (s.allocateSrsOpportunity cell slot) pdus) s.Flagged fun _ => False :=
  yields_foldlM hpdus fun _ e he hpdus => allocateSrsOpportunity_flagged h (hes e he) slot hpdus

lemma patchFlags_eq (updatedUes : List SrsUeUpdate) (pdus : List SrsPdu) :
    patchFlags updatedUes pdus =
      match (updatedUes.filter fun upd => decide (upd.type ≠ .newUe)).getLast? with
      | none => pdus
      | some upd => pdus.map fun pdu =>
        { pdu with positioningReportRequested := decide (upd.type = .positioningRequest) } := by
  induction updatedUes using List.reverseRecOn with
  | nil => rfl
  | append_singleton updatedUes upd ih =>
    unfold patchFlags at ih ⊢
    rw [List.foldl_concat, ih, List.filter_append]
    obtain ⟨rnti, type⟩ := upd
    cases type with
    | newUe => simp
    | positioningRequest =>
      simp only [reduceCtorEq, or_true, if_true, ne_eq, not_false_eq_true, decide_true, List.filter_cons_of_pos,
        List.filter_nil, List.getLast?_append_of_ne_nil, List.getLast?_singleton]
      split
      · rfl
      · simp
    | positioningStop =>
      simp only [reduceCtorEq, true_or, if_true, ne_eq, not_false_eq_true, decide_true, List.filter_cons_of_pos,
        List.filter_nil, List.getLast?_append_of_ne_nil, List.getLast?_singleton]
      split
      · rfl
      · simp

/-- For every RNTI with PDUs in the grid the last request or stop says whether a request is pending. -/
def FlagsAgree (cell : SrsCell) (s : SrsSystem) : Prop :=
  ∀ upd ∈ s.lastPositioningUpdate, ∀ n < cell.maxUlSlotAllocDelay, ∀ pdu ∈ s.srss (s.slotTx + n),
    (upd.type = .positioningRequest ↔ s.isPending pdu.crnti = true)

instance (cell : SrsCell) (s : SrsSystem) : Decidable (s.FlagsAgree cell) :=
  inferInstanceAs (Decidable (∀ upd ∈ s.lastPositioningUpdate, ∀ n < cell.maxUlSlotAllocDelay,
    ∀ pdu ∈ s.srss (s.slotTx + n), (upd.type = .positioningRequest ↔ s.isPending pdu.crnti = true)))

lemma patchFlags_flagged (h : Settled cell s) (hagree : s.FlagsAgree cell) {n : ℕ} (hn : n < cell.maxUlSlotAllocDelay) :
    s.Flagged (patchFlags s.sched.updatedUes (s.srss (s.slotTx + n))) := by
  rw [patchFlags_eq]
  split
  case h_1 hlast => exact h.flags hlast (s.slotTx + n) (by omega)
  case h_2 upd hlast =>
    intro pdu hpdu
    obtain ⟨old, hold, rfl⟩ := List.mem_map.mp hpdu
    apply Bool.eq_iff_iff.mpr
    rw [decide_eq_true_iff]
    exact hagree upd hlast n hn old hold

lemma scheduleUpdatedUesSrs_flagged (h : Settled cell s) (hagree : s.FlagsAgree cell) :
    Yields (s.scheduleUpdatedUesSrs cell) (fun srss =>
      (∀ slot, s.slotTx ≤ slot → s.Flagged (srss slot)) ∧
        ∀ slot, s.slotTx + cell.maxUlSlotAllocDelay ≤ slot → srss slot = []) fun _ => False := by
  have hmem : ∀ slot, slot ∈ (List.range cell.maxUlSlotAllocDelay).map (fun n => s.slotTx + n) ↔
      s.slotTx ≤ slot ∧ slot < s.slotTx + cell.maxUlSlotAllocDelay := by
    intro slot
    simp only [List.mem_map, List.mem_range]
    constructor
    · rintro ⟨n, hn, rfl⟩
      omega
    · rintro ⟨hle, hlt⟩
      exact ⟨slot - s.slotTx, by omega, by omega⟩
  have hnodup : ((List.range cell.maxUlSlotAllocDelay).map fun n => s.slotTx + n).Nodup :=
    List.nodup_range.map fun a b hab => by omega
  have hslots : ∀ slot ∈ (List.range cell.maxUlSlotAllocDelay).map (fun n => s.slotTx + n),
      Yields (s.scheduleUpdatedUesSlot cell slot (s.srss slot)) s.Flagged fun _ => False := by
    intro slot hslot
    obtain ⟨n, hn, rfl⟩ := List.mem_map.mp hslot
    apply allocate_flagged h (w := (s.slotTx + n) % srsWheelSize)
    · exact fun e he => (List.mem_filter.mp he).1
    · exact patchFlags_flagged h hagree (List.mem_range.mp hn)
  unfold scheduleUpdatedUesSrs
  apply (yields_foldlM_update (Q := fun _ => s.Flagged) hnodup hslots).post
  rintro srss ⟨hin, hout⟩
  have hfuture : ∀ slot, s.slotTx + cell.maxUlSlotAllocDelay ≤ slot → srss slot = [] := by
    intro slot hslot
    rw [hout slot fun hmem' => by have := (hmem slot).mp hmem'; omega]
    exact h.future slot hslot
  refine ⟨fun slot hslot => ?_, hfuture⟩
  by_cases hlt : slot < s.slotTx + cell.maxUlSlotAllocDelay
  · exact hin slot ((hmem slot).mpr ⟨hslot, hlt⟩)
  · rw [hfuture slot (by omega)]
    intro pdu hpdu
    cases hpdu

lemma runSlot_settled (h : Settled cell s) (hagree : s.FlagsAgree cell) :
    Yields (s.runSlot cell) (Settled cell) fun _ => False := by
  unfold runSlot
  apply yields_bind (scheduleUpdatedUesSrs_flagged h hagree)
  rintro srss ⟨hflagged, hfuture⟩
  have hempty : s.Flagged (srss (s.slotTx + cell.maxUlSlotAllocDelay)) := hflagged _ (by omega)
  apply yields_bind (allocate_flagged h (fun e he => he) (s.slotTx + cell.maxUlSlotAllocDelay) hempty)
  intro pdus hpdus
  refine ⟨h.distinct, h.wheel, h.ues, h.removed, h.pending, h.connected, h.neighbour, fun _ slot hslot => ?_,
    fun slot hslot => ?_⟩
  · dsimp only at hslot ⊢
    by_cases heq : slot = s.slotTx + cell.maxUlSlotAllocDelay
    · subst heq
      rw [Function.update_self]
      exact hpdus
    · rw [Function.update_of_ne heq]
      exact hflagged slot (by omega)
  · dsimp only at hslot ⊢
    rw [Function.update_of_ne (by omega)]
    exact hfuture slot (by omega)

end RunSlot

section Lookups

variable {rnti : ℕ}

lemma activeUe_eq_some {u : SrsUe} (h : s.activeUe rnti = some u) :
    u ∈ s.ues ∧ u.cfg.crnti = rnti ∧ rnti ∉ s.removed := by
  unfold activeUe at h
  split at h
  case isTrue => cases h
  case isFalse hnot =>
    obtain ⟨hmem, hrnti⟩ := findKey_mem h
    exact ⟨hmem, hrnti, hnot⟩

lemma resourcesOf_active {u : SrsUe} (hu : s.activeUe rnti = some u) : s.resourcesOf rnti = u.cfg.resources := by
  have hcrnti : isCrnti rnti = true := by
    rw [← (activeUe_eq_some hu).2.1]
    exact u.cfg.crnti_valid
  unfold resourcesOf
  rw [if_pos hcrnti, hu]

lemma resourcesOf_inactive (hcrnti : isCrnti rnti = true) (hu : s.activeUe rnti = none) :
    s.resourcesOf rnti = [] := by
  unfold resourcesOf
  rw [if_pos hcrnti, hu]

lemma resourcesOf_request (hcrnti : isCrnti rnti = false) {req : PosRequest}
    (hreq : s.sched.findPosRequest rnti = some req) : s.resourcesOf rnti = req.srsResList := by
  unfold resourcesOf
  rw [if_neg (by simp [hcrnti]), hreq]

lemma resourcesOf_noRequest (hcrnti : isCrnti rnti = false) (hreq : s.sched.findPosRequest rnti = none) :
    s.resourcesOf rnti = [] := by
  unfold resourcesOf
  rw [if_neg (by simp [hcrnti]), hreq]

lemma resourcesOf_congr (hue : s'.activeUe rnti = s.activeUe rnti)
    (hreq : s'.sched.findPosRequest rnti = s.sched.findPosRequest rnti) : s'.resourcesOf rnti = s.resourcesOf rnti := by
  unfold resourcesOf
  rw [hue, hreq]

end Lookups

section Ues

lemma settled_of_ues (h : Settled cell s) {sched : SrsScheduler} {ues : List SrsUe} {removed : List ℕ}
    (hpending : sched.pendingPosRequests = s.sched.pendingPosRequests)
    (hupdated : (sched.updatedUes.filter fun upd => decide (upd.type ≠ .newUe)) =
      s.sched.updatedUes.filter fun upd => decide (upd.type ≠ .newUe))
    (hdistinct : sched.periodicSrsSlotWheel.Distinct)
    (hwheel : ∀ w e, e ∈ sched.periodicSrsSlotWheel w ↔
      SrsPlaced (resourcesOf { s with sched, ues, removed } e.rnti) w e.srsResId)
    (hues : (ues.map fun u => u.cfg.crnti).Nodup)
    (hremoved : ∀ rnti ∈ removed, (findKey (fun u : SrsUe => u.cfg.crnti) ues rnti).isSome = true)
    (hconnected : ∀ req ∈ s.sched.pendingPosRequests, ∀ u ∈ s.ues, u.cfg.crnti = req.posRnti →
      ∃ v ∈ ues, v.ueIndex = u.ueIndex ∧ v.cfg.crnti = u.cfg.crnti) :
    Settled cell { s with sched, ues, removed } := by
  have hfind : ∀ rnti, sched.findPosRequest rnti = s.sched.findPosRequest rnti := by
    intro rnti
    unfold SrsScheduler.findPosRequest
    rw [hpending]
  refine ⟨hdistinct, hwheel, hues, hremoved, ?_, fun req hreq ueIndex hindex => ?_, fun req hreq => ?_,
    fun hlast slot hslot pdu hpdu => ?_, h.future⟩
  · dsimp only
    rw [hpending]
    exact h.pending
  · dsimp only at hreq
    rw [hpending] at hreq
    obtain ⟨u, hu, huIndex, hrnti⟩ := h.connected req hreq ueIndex hindex
    obtain ⟨v, hv, hvIndex, hvRnti⟩ := hconnected req hreq u hu hrnti
    exact ⟨v, hv, hvIndex.trans huIndex, hvRnti.trans hrnti⟩
  · dsimp only at hreq
    rw [hpending] at hreq
    exact h.neighbour req hreq
  · have hlast' : s.lastPositioningUpdate = none := by
      unfold lastPositioningUpdate at hlast ⊢
      dsimp only at hlast
      rw [← hupdated, hlast]
    rw [h.flags hlast' slot hslot pdu hpdu]
    unfold isPending
    rw [hfind]

lemma addUe_settled (h : Settled cell s) {u : SrsUe} :
    Yields (s.step cell (.addUe u)) (Settled cell) SrsAbort.IsRejection := by
  unfold step
  dsimp only
  split
  case isTrue => exact Or.inr (Or.inr (Or.inr rfl))
  case isFalse hnew =>
    obtain ⟨hrnti, -⟩ := not_or.mp hnew
    have hnone : s.findByRnti u.cfg.crnti = none := by simpa using hrnti
    have hok := addUeToGrid_ok s.sched u.cfg false
    cases hadd : s.sched.addUe u.cfg with
    | error a => exact Or.inl (hok.of_error hadd)
    | ok sched =>
      obtain ⟨hdistinct, hpending, hupdated, hmem⟩ := addUeToGrid_spec hadd h.distinct
      have hues := nodup_concat_key h.ues hnone
      have hnotRemoved : u.cfg.crnti ∉ s.removed := by
        intro hmem
        have hsome := h.removed _ hmem
        rw [hnone] at hsome
        cases hsome
      have hother : ∀ rnti, rnti ≠ u.cfg.crnti →
          activeUe { s with sched, ues := s.ues ++ [u], removed := s.removed } rnti = s.activeUe rnti := by
        intro rnti hne
        unfold activeUe
        congr 1
        refine findKey_congr h.ues hues fun v hv => ?_
        rw [List.mem_append, List.mem_singleton]
        refine ⟨fun hor => hor.resolve_right ?_, Or.inl⟩
        rintro rfl
        exact hne hv.symm
      have hself : activeUe { s with sched, ues := s.ues ++ [u], removed := s.removed } u.cfg.crnti = some u := by
        unfold activeUe
        rw [if_neg hnotRemoved]
        exact (findKey_eq_some_iff hues).mpr ⟨List.mem_append_right _ List.mem_cons_self, rfl⟩
      refine settled_of_ues h hpending ?_ hdistinct (fun w e => ?_) hues (fun rnti hr => ?_) fun req _ v hv _ => ?_
      · rcases hupdated with hsame | ⟨-, hnewUe⟩
        · rw [hsame]
        · rw [hnewUe, List.filter_append]
          simp
      · rw [hmem, h.wheel]
        by_cases he : e.rnti = u.cfg.crnti
        · rw [he, resourcesOf_active hself]
          have hbefore : s.resourcesOf u.cfg.crnti = [] := by
            apply resourcesOf_inactive u.cfg.crnti_valid
            unfold activeUe
            rw [hnone]
            exact ite_self none
          rw [hbefore]
          simp
        · rw [resourcesOf_congr (hother e.rnti he) (congrArg (findKey PosRequest.posRnti · e.rnti) hpending)]
          simp [he]
      · obtain ⟨v, hv⟩ := Option.isSome_iff_exists.mp (h.removed rnti hr)
        obtain ⟨hvmem, hvrnti⟩ := findKey_mem hv
        have hfind := (findKey_eq_some_iff hues).mpr ⟨List.mem_append_left [u] hvmem, hvrnti⟩
        rw [hfind]
        rfl
      · exact ⟨v, List.mem_append_left _ hv, rfl, rfl⟩

lemma reconfUe_settled (h : Settled cell s) {cfg : SrsUeConfig} {pcellHasSrsCfg : Bool} :
    Yields (s.step cell (.reconfUe cfg pcellHasSrsCfg)) (Settled cell) SrsAbort.IsRejection := by
  unfold step
  dsimp only
  split
  case h_1 => exact h
  case h_2 u hu =>
    obtain ⟨hmemU, hrntiU, hnotRemoved⟩ := activeUe_eq_some hu
    have hok := reconfUe_ok s.sched cfg u.cfg
    cases hreconf : s.sched.reconfUe cfg u.cfg with
    | error a => exact Or.inl (hok.of_error hreconf)
    | ok sched =>
      obtain ⟨hdistinct, hpending, hupdated, hmem⟩ := reconfUe_spec hreconf h.distinct
      have hkeep : ∀ v : SrsUe, (if v.cfg.crnti = cfg.crnti then ⟨v.ueIndex, cfg, pcellHasSrsCfg⟩ else v).cfg.crnti =
          v.cfg.crnti := by
        intro v
        split
        case isTrue heq => exact heq.symm
        case isFalse => rfl
      have hues : ((s.ues.map fun v => if v.cfg.crnti = cfg.crnti then ⟨v.ueIndex, cfg, pcellHasSrsCfg⟩ else v).map
          fun u => u.cfg.crnti).Nodup := by
        rw [List.map_map]
        have hcongr : (fun u : SrsUe => u.cfg.crnti) ∘ (fun v : SrsUe =>
            if v.cfg.crnti = cfg.crnti then ⟨v.ueIndex, cfg, pcellHasSrsCfg⟩ else v) = fun u => u.cfg.crnti :=
          funext hkeep
        rw [hcongr]
        exact h.ues
      have hother : ∀ rnti, rnti ≠ cfg.crnti → activeUe
          { s with
            sched
            ues := s.ues.map fun v => if v.cfg.crnti = cfg.crnti then ⟨v.ueIndex, cfg, pcellHasSrsCfg⟩ else v
            removed := s.removed } rnti = s.activeUe rnti := by
        intro rnti hne
        unfold activeUe
        congr 1
        refine findKey_congr h.ues hues fun v hv => ?_
        rw [List.mem_map]
        constructor
        · rintro ⟨v', hv', rfl⟩
          have hne' : v'.cfg.crnti ≠ cfg.crnti := fun heq => hne (hv.symm.trans ((hkeep v').trans heq))
          rw [if_neg hne']
          exact hv'
        · intro hvmem
          exact ⟨v, hvmem, if_neg fun heq => hne (hv.symm.trans heq)⟩
      have hself : activeUe
          { s with
            sched
            ues := s.ues.map fun v => if v.cfg.crnti = cfg.crnti then ⟨v.ueIndex, cfg, pcellHasSrsCfg⟩ else v
            removed := s.removed } cfg.crnti = some ⟨u.ueIndex, cfg, pcellHasSrsCfg⟩ := by
        unfold activeUe
        rw [if_neg hnotRemoved]
        refine (findKey_eq_some_iff hues).mpr ⟨List.mem_map.mpr ⟨u, hmemU, ?_⟩, rfl⟩
        rw [if_pos hrntiU]
      have hbefore : s.resourcesOf cfg.crnti = u.cfg.resources := resourcesOf_active hu
      refine settled_of_ues h hpending (by rw [hupdated]) hdistinct (fun w e => ?_) hues (fun rnti hr => ?_)
        fun req _ v hv _ => ?_
      · by_cases he : e.rnti = cfg.crnti
        · rw [he, resourcesOf_active hself]
          rcases hmem with ⟨hsame, hresources⟩ | hmem
          · rw [hsame, h.wheel, he, hbefore, hresources]
          · rw [hmem, h.wheel, he, hbefore, hrntiU]
            simp
        · rw [resourcesOf_congr (hother e.rnti he) (congrArg (findKey PosRequest.posRnti · e.rnti) hpending), ← h.wheel]
          rcases hmem with ⟨hsame, -⟩ | hmem
          · rw [hsame]
          · rw [hmem, hrntiU]
            simp [he]
      · obtain ⟨v, hv⟩ := Option.isSome_iff_exists.mp (h.removed rnti hr)
        obtain ⟨hvmem, hvrnti⟩ := findKey_mem hv
        have hfind := (findKey_eq_some_iff hues).mpr ⟨List.mem_map.mpr ⟨v, hvmem, rfl⟩, (hkeep v).trans hvrnti⟩
        rw [hfind]
        rfl
      · refine ⟨_, List.mem_map.mpr ⟨v, hv, rfl⟩, ?_, hkeep v⟩
        split
        · rfl
        · rfl

lemma remUe_settled (h : Settled cell s) {rnti : ℕ} :
    Yields (s.step cell (.remUe rnti)) (Settled cell) SrsAbort.IsRejection := by
  unfold step
  dsimp only
  split
  case h_1 => exact h
  case h_2 u hu =>
    obtain ⟨hmemU, hrntiU, hnotRemoved⟩ := activeUe_eq_some hu
    cases hrem : s.sched.remUe u.cfg with
    | error a => exact ((remUe_ok s.sched u.cfg).of_error hrem).elim
    | ok sched =>
      obtain ⟨hdistinct, hpending, hupdated, hmem⟩ := remUe_spec hrem h.distinct
      have hcrnti : isCrnti rnti = true := by
        rw [← hrntiU]
        exact u.cfg.crnti_valid
      refine settled_of_ues h hpending (by rw [hupdated]) hdistinct (fun w e => ?_) h.ues (fun r hr => ?_)
        fun req _ v hv _ => ⟨v, hv, rfl, rfl⟩
      · rw [hmem, h.wheel, hrntiU]
        by_cases he : e.rnti = rnti
        · have hgone : activeUe { s with sched, ues := s.ues, removed := rnti :: s.removed } rnti = none := by
            unfold activeUe
            rw [if_pos List.mem_cons_self]
          rw [he, resourcesOf_inactive hcrnti hgone, resourcesOf_active hu]
          simp
        · have hother : activeUe { s with sched, ues := s.ues, removed := rnti :: s.removed } e.rnti =
              s.activeUe e.rnti := by
            unfold activeUe
            simp only [List.mem_cons, he, false_or]
            rfl
          rw [resourcesOf_congr hother (congrArg (findKey PosRequest.posRnti · e.rnti) hpending)]
          simp [he]
      · rcases List.mem_cons.mp hr with rfl | hr
        · rw [(findKey_eq_some_iff h.ues).mpr ⟨hmemU, hrntiU⟩]
          rfl
        · exact h.removed r hr

lemma ueLeaves_settled (h : Settled cell s) {rnti : ℕ} (hno : rnti ∈ s.removed → s.sched.findPosRequest rnti = none) :
    Yields (s.step cell (.ueLeaves rnti)) (Settled cell) SrsAbort.IsRejection := by
  unfold step
  rw [yields_ok]
  split
  case isFalse => exact h
  case isTrue hremoved =>
    have hues : ((s.ues.filter fun u => decide (u.cfg.crnti ≠ rnti)).map fun u => u.cfg.crnti).Nodup :=
      h.ues.sublist (List.filter_sublist.map _)
    have hfind : ∀ r, r ≠ rnti → findKey (fun u : SrsUe => u.cfg.crnti)
        (s.ues.filter fun u => decide (u.cfg.crnti ≠ rnti)) r = s.findByRnti r := by
      intro r hne
      refine findKey_congr h.ues hues fun v hv => ?_
      rw [List.mem_filter]
      exact ⟨And.left, fun hmem => ⟨hmem, by simpa [hv] using hne⟩⟩
    have hactive : ∀ r, activeUe
        { s with
          sched := s.sched
          ues := s.ues.filter fun u => decide (u.cfg.crnti ≠ rnti)
          removed := s.removed.filter fun r => decide (r ≠ rnti) } r = s.activeUe r := by
      intro r
      unfold activeUe
      by_cases hr : r = rnti
      · subst hr
        rw [if_pos hremoved, if_neg (by simp)]
        refine findKey_eq_none_iff.mpr fun v hv => ?_
        simpa using (List.mem_filter.mp hv).2
      · have hiff : r ∈ s.removed.filter (fun r => decide (r ≠ rnti)) ↔ r ∈ s.removed := by simp [hr]
        simp only [hiff]
        congr 1
        exact hfind r hr
    refine settled_of_ues h rfl rfl h.distinct (fun w e => ?_) hues (fun r hr => ?_) fun req hreq v hv hvrnti => ?_
    · rw [resourcesOf_congr (hactive e.rnti) rfl]
      exact h.wheel w e
    · obtain ⟨hr, hne⟩ := List.mem_filter.mp hr
      rw [hfind r (by simpa using hne)]
      exact h.removed r hr
    · refine ⟨v, List.mem_filter.mpr ⟨hv, ?_⟩, rfl, rfl⟩
      have hne := findKey_eq_none_iff.mp (hno hremoved) req hreq
      rw [hvrnti]
      simpa using hne

end Ues

section Requests

lemma patch_lastPositioningUpdate (s : SrsSystem) (sched : SrsScheduler) {upd : SrsUeUpdate} (hupd : upd.type ≠ .newUe)
    (hupdated : sched.updatedUes = s.sched.updatedUes ++ [upd]) :
    lastPositioningUpdate { s with sched } = some upd := by
  unfold lastPositioningUpdate
  dsimp only
  rw [hupdated, List.filter_append]
  simp [hupd]

lemma findPosRequest_concat (h : Settled cell s) {req : PosRequest} (hnone : s.sched.findPosRequest req.posRnti = none)
    (sched : SrsScheduler) (hpending : sched.pendingPosRequests = s.sched.pendingPosRequests ++ [req]) :
    (sched.pendingPosRequests.map PosRequest.posRnti).Nodup ∧ sched.findPosRequest req.posRnti = some req ∧
      ∀ rnti, rnti ≠ req.posRnti → sched.findPosRequest rnti = s.sched.findPosRequest rnti := by
  have hnodup : (sched.pendingPosRequests.map PosRequest.posRnti).Nodup := by
    rw [hpending]
    exact nodup_concat_key h.pending hnone
  refine ⟨hnodup, (findKey_eq_some_iff hnodup).mpr ⟨?_, rfl⟩, fun rnti hne => findKey_congr h.pending hnodup fun r hr => ?_⟩
  · rw [hpending]
    exact List.mem_append_right _ List.mem_cons_self
  · rw [hpending, List.mem_append, List.mem_singleton]
    refine ⟨fun hor => hor.resolve_right ?_, Or.inl⟩
    rintro rfl
    exact hne hr.symm

lemma requestConnected_settled (h : Settled cell s) {req : PosRequest} (hnone : s.sched.findPosRequest req.posRnti = none)
    {ueIndex : ℕ} (hindex : req.ueIndex = some ueIndex) :
    Settled cell { s with sched := s.requestConnected req ueIndex } := by
  unfold requestConnected
  split
  case h_1 => exact h
  case h_2 u hu =>
    obtain ⟨hmemU, hindexU⟩ := findKey_mem hu
    split
    case isTrue => exact h
    case isFalse hrnti =>
      have hrnti : u.cfg.crnti = req.posRnti := by simpa using hrnti
      split
      case isTrue => exact h
      case isFalse =>
        set sched : SrsScheduler :=
          { s.sched with
            updatedUes := s.sched.updatedUes ++ [⟨req.posRnti, .positioningRequest⟩]
            pendingPosRequests := s.sched.pendingPosRequests ++ [req] } with hsched
        obtain ⟨hnodup, hself, hother⟩ := findPosRequest_concat h hnone sched rfl
        have hlast := patch_lastPositioningUpdate s sched (by simp) rfl
        refine ⟨h.distinct, fun w e => ?_, h.ues, h.removed, hnodup, fun r hr i hi => ?_, fun r hr hi => ?_,
          fun hlast' => ?_, h.future⟩
        · rw [h.wheel w e]
          by_cases hcrnti : isCrnti e.rnti = true
          · have hsame : resourcesOf { s with sched } e.rnti = s.resourcesOf e.rnti := by
              unfold resourcesOf
              rw [if_pos hcrnti, if_pos hcrnti]
              rfl
            rw [hsame]
          · have hne : e.rnti ≠ req.posRnti := by
              intro heq
              rw [heq, ← hrnti, u.cfg.crnti_valid] at hcrnti
              exact hcrnti rfl
            have hsame : resourcesOf { s with sched } e.rnti = s.resourcesOf e.rnti :=
              resourcesOf_congr rfl (hother e.rnti hne)
            rw [hsame]
        · rcases List.mem_append.mp hr with hr | hr
          · exact h.connected r hr i hi
          · rw [List.mem_singleton.mp hr] at hi ⊢
            rw [hindex] at hi
            cases hi
            exact ⟨u, hmemU, hindexU, hrnti⟩
        · rcases List.mem_append.mp hr with hr | hr
          · exact h.neighbour r hr hi
          · rw [List.mem_singleton.mp hr, hindex] at hi
            cases hi
        · rw [hlast] at hlast'
          cases hlast'

lemma srsPlaced_filter (resources : List SrsResource) (w srsResId : ℕ) :
    SrsPlaced (resources.filter fun res => res.periodicityAndOffset.isSome) w srsResId ↔ SrsPlaced resources w srsResId := by
  unfold SrsPlaced
  constructor
  · rintro ⟨res, hres, hrest⟩
    exact ⟨res, (List.mem_filter.mp hres).1, hrest⟩
  · rintro ⟨res, hres, hid, period, offset, hperiod, hw⟩
    refine ⟨res, List.mem_filter.mpr ⟨hres, ?_⟩, hid, period, offset, hperiod, hw⟩
    rw [hperiod]
    rfl

lemma requestNeighbour_settled (h : Settled cell s) {req : PosRequest} (hnone : s.sched.findPosRequest req.posRnti = none)
    (hindex : req.ueIndex = none) (hlooked : req.LookedUp) :
    Yields (s.requestNeighbour req) (fun sched => Settled cell { s with sched }) SrsAbort.IsRejection := by
  unfold requestNeighbour
  split
  case isTrue => exact Or.inr (Or.inl rfl)
  case isFalse hcrnti =>
    have hcrnti : isCrnti req.posRnti = false := by simpa using hcrnti
    have hok := addSrsResources_ok req.posRnti s.sched.periodicSrsSlotWheel
      (req.srsResList.filter fun res => res.periodicityAndOffset.isSome)
      fun res hres => (List.mem_filter.mp hres).2
    dsimp only
    cases hadd : (req.srsResList.filter fun res => res.periodicityAndOffset.isSome).foldlM
        (addSrsResource req.posRnti) s.sched.periodicSrsSlotWheel with
    | error a => exact Or.inl (hok.of_error hadd)
    | ok wheel =>
      dsimp only
      split
      case isTrue => exact Or.inr (Or.inr (Or.inl rfl))
      case isFalse =>
        obtain ⟨hdistinct, hmem⟩ := addSrsResources_spec hadd h.distinct
        set sched : SrsScheduler := ⟨wheel, s.sched.updatedUes ++ [⟨req.posRnti, .positioningRequest⟩],
          s.sched.pendingPosRequests ++ [req]⟩ with hsched
        obtain ⟨hnodup, hself, hother⟩ := findPosRequest_concat h hnone sched rfl
        have hlast := patch_lastPositioningUpdate s sched (by simp) rfl
        refine ⟨hdistinct, fun w e => ?_, h.ues, h.removed, hnodup, fun r hr i hi => ?_, fun r hr hi => ?_,
          fun hlast' => ?_, h.future⟩
        · rw [hmem, h.wheel w e, srsPlaced_filter]
          by_cases he : e.rnti = req.posRnti
          · rw [he, resourcesOf_noRequest hcrnti hnone, resourcesOf_request (s := { s with sched }) hcrnti hself]
            simp
          · have hsame : resourcesOf { s with sched } e.rnti = s.resourcesOf e.rnti :=
              resourcesOf_congr rfl (hother e.rnti he)
            rw [hsame]
            simp [he]
        · rcases List.mem_append.mp hr with hr | hr
          · exact h.connected r hr i hi
          · rw [List.mem_singleton.mp hr, hindex] at hi
            cases hi
        · rcases List.mem_append.mp hr with hr | hr
          · exact h.neighbour r hr hi
          · rw [List.mem_singleton.mp hr]
            exact ⟨hcrnti, hlooked⟩
        · rw [hlast] at hlast'
          cases hlast'

lemma stop_settled (h : Settled cell s) {posRnti : ℕ}
    (hperiodic : ∀ req, s.sched.findPosRequest posRnti = some req → req.ueIndex = none →
      ∀ res ∈ req.srsResList, res.periodicityAndOffset.isSome = true) :
    Yields (s.handlePositioningMeasurementStop posRnti) (fun sched => Settled cell { s with sched })
      SrsAbort.IsRejection := by
  unfold handlePositioningMeasurementStop
  split
  case h_1 => exact h
  case h_2 req hreq =>
    obtain ⟨hmemReq, hrntiReq⟩ := findKey_mem hreq
    have hrest : ∀ wheel : SrsWheel, wheel.Distinct → (∀ w e, e ∈ wheel w ↔ e ∈ s.sched.periodicSrsSlotWheel w ∧
        ¬(req.ueIndex = none ∧ e.rnti = req.posRnti ∧ SrsPlaced req.srsResList w e.srsResId)) →
        Settled cell { s with sched := ⟨wheel, s.sched.updatedUes ++ [⟨posRnti, .positioningStop⟩],
          s.sched.pendingPosRequests.eraseP fun req => decide (req.posRnti = posRnti)⟩ } := by
      intro wheel hdistinct hmem
      set sched : SrsScheduler := ⟨wheel, s.sched.updatedUes ++ [⟨posRnti, .positioningStop⟩],
        s.sched.pendingPosRequests.eraseP fun req => decide (req.posRnti = posRnti)⟩ with hsched
      have hmemPending : ∀ r, r ∈ sched.pendingPosRequests ↔ r ∈ s.sched.pendingPosRequests ∧ r.posRnti ≠ posRnti :=
        fun r => mem_eraseP_key h.pending
      have hnodup : (sched.pendingPosRequests.map PosRequest.posRnti).Nodup :=
        h.pending.sublist (List.eraseP_sublist.map _)
      have hself : sched.findPosRequest posRnti = none :=
        findKey_eq_none_iff.mpr fun r hr => ((hmemPending r).mp hr).2
      have hother : ∀ rnti, rnti ≠ posRnti → sched.findPosRequest rnti = s.sched.findPosRequest rnti := by
        intro rnti hne
        refine findKey_congr h.pending hnodup fun r hr => ?_
        rw [hmemPending, hr]
        simp [hne]
      have hlast := patch_lastPositioningUpdate s sched (by simp) rfl
      refine ⟨hdistinct, fun w e => ?_, h.ues, h.removed, hnodup, fun r hr => h.connected r ((hmemPending r).mp hr).1,
        fun r hr => h.neighbour r ((hmemPending r).mp hr).1, fun hlast' => ?_, h.future⟩
      · rw [hmem, h.wheel w e]
        by_cases he : e.rnti = posRnti
        · cases hindex : req.ueIndex with
          | none =>
            obtain ⟨hcrnti, -⟩ := h.neighbour req hmemReq hindex
            rw [hrntiReq] at hcrnti
            rw [he, resourcesOf_request hcrnti hreq, resourcesOf_noRequest (s := { s with sched }) hcrnti hself, hrntiReq]
            simp
          | some ueIndex =>
            obtain ⟨u, -, -, hu⟩ := h.connected req hmemReq ueIndex hindex
            have hcrnti : isCrnti e.rnti = true := by
              rw [he, ← hrntiReq, ← hu]
              exact u.cfg.crnti_valid
            have hsame : resourcesOf { s with sched } e.rnti = s.resourcesOf e.rnti := by
              unfold resourcesOf
              rw [if_pos hcrnti, if_pos hcrnti]
              rfl
            rw [hsame]
            simp
        · have hsame : resourcesOf { s with sched } e.rnti = s.resourcesOf e.rnti :=
            resourcesOf_congr rfl (hother e.rnti he)
          rw [hsame, hrntiReq]
          simp [he]
      · rw [hlast] at hlast'
        cases hlast'
    cases hindex : req.ueIndex with
    | some ueIndex => exact hrest s.sched.periodicSrsSlotWheel h.distinct fun w e => by simp [hindex]
    | none =>
      have hok := remSrsResources_ok req.posRnti s.sched.periodicSrsSlotWheel (hperiodic req hreq hindex)
      simp only [Option.isNone_none, if_true]
      cases hrem : req.srsResList.foldlM (remSrsResource req.posRnti) s.sched.periodicSrsSlotWheel with
      | error a => exact (hok.of_error hrem).elim
      | ok wheel =>
        obtain ⟨hdistinct, hmem⟩ := remSrsResources_spec hrem h.distinct
        exact hrest wheel hdistinct fun w e => by rw [hmem, hindex]; simp

end Requests

section Runs

/-- What the events may rely on: a request or stop of a slot speaks for all RNTIs with PDUs in the grid, a stopped request of
a neighbour UE has periodic resources only, and a UE leaves with no request of its own. -/
def Careful (cell : SrsCell) (s : SrsSystem) : SrsEvent → Prop
  | .runSlot => s.FlagsAgree cell
  | .ueLeaves rnti => rnti ∈ s.removed → s.sched.findPosRequest rnti = none
  | .handlePositioningMeasurementRequest req =>
    s.sched.findPosRequest req.posRnti = none → req.ueIndex = none → req.LookedUp
  | .handlePositioningMeasurementStop posRnti => ∀ req ∈ s.sched.findPosRequest posRnti, req.ueIndex = none →
    ∀ res ∈ req.srsResList, res.periodicityAndOffset.isSome = true
  | _ => True

instance decidableCareful (cell : SrsCell) (s : SrsSystem) : ∀ e, Decidable (Careful cell s e)
  | .runSlot => inferInstanceAs (Decidable (s.FlagsAgree cell))
  | .ueLeaves rnti => inferInstanceAs (Decidable (rnti ∈ s.removed → s.sched.findPosRequest rnti = none))
  | .handlePositioningMeasurementRequest req => inferInstanceAs (Decidable
    (s.sched.findPosRequest req.posRnti = none → req.ueIndex = none → req.LookedUp))
  | .handlePositioningMeasurementStop posRnti => inferInstanceAs (Decidable
    (∀ req ∈ s.sched.findPosRequest posRnti, req.ueIndex = none →
      ∀ res ∈ req.srsResList, res.periodicityAndOffset.isSome = true))
  | .addUe _ => isTrue trivial
  | .reconfUe _ _ => isTrue trivial
  | .remUe _ => isTrue trivial

/-- After a slot indication the flags of the PDUs in the grid are right; the requests and the wheel always fit. -/
structure PositioningRight (s : SrsSystem) : Prop where
  flags : s.sched.updatedUes = [] → ∀ slot, s.slotTx ≤ slot + 1 → ∀ pdu ∈ s.srss slot,
    (pdu.positioningReportRequested = true ↔ ∃ req ∈ s.sched.pendingPosRequests, req.posRnti = pdu.crnti)
  connected : ∀ req ∈ s.sched.pendingPosRequests, ∀ ueIndex, req.ueIndex = some ueIndex →
    ∃ u ∈ s.ues, u.ueIndex = ueIndex ∧ u.cfg.crnti = req.posRnti
  neighbour : ∀ req ∈ s.sched.pendingPosRequests, req.ueIndex = none → ∀ res ∈ req.srsResList, ∀ w, res.FallsOn w →
    PeriodicSrsInfo.mk req.posRnti res.ueResId ∈ s.sched.periodicSrsSlotWheel w
  wheel : ∀ w, ∀ e ∈ s.sched.periodicSrsSlotWheel w,
    (∃ u ∈ s.ues, u.cfg.crnti = e.rnti ∧ e.rnti ∉ s.removed ∧ SrsPlaced u.cfg.resources w e.srsResId) ∨
      ∃ req ∈ s.sched.pendingPosRequests, req.posRnti = e.rnti ∧ req.ueIndex = none ∧
        SrsPlaced req.srsResList w e.srsResId

lemma Settled.positioningRight (h : Settled cell s) : s.PositioningRight := by
  refine ⟨fun hnone slot hslot pdu hpdu => ?_, h.connected, fun req hreq hindex res hres w hw => ?_, fun w e he => ?_⟩
  · have hlast : s.lastPositioningUpdate = none := by
      unfold lastPositioningUpdate
      rw [hnone]
      rfl
    rw [h.flags hlast slot hslot pdu hpdu]
    unfold isPending
    rw [Option.isSome_iff_exists]
    exact exists_congr fun req => findKey_eq_some_iff h.pending
  · obtain ⟨hcrnti, -⟩ := h.neighbour req hreq hindex
    rw [h.wheel]
    dsimp only
    rw [resourcesOf_request hcrnti ((findKey_eq_some_iff h.pending).mpr ⟨hreq, rfl⟩)]
    exact ⟨res, hres, rfl, hw⟩
  · have hplaced := (h.wheel w e).mp he
    by_cases hcrnti : isCrnti e.rnti = true
    · left
      cases hu : s.activeUe e.rnti with
      | none =>
        rw [resourcesOf_inactive hcrnti hu] at hplaced
        exact (srsPlaced_nil w e.srsResId).mp hplaced |>.elim
      | some u =>
        obtain ⟨hmem, hrnti, hnot⟩ := activeUe_eq_some hu
        rw [resourcesOf_active hu] at hplaced
        exact ⟨u, hmem, hrnti, hnot, hplaced⟩
    · right
      have hcrnti : isCrnti e.rnti = false := by simpa using hcrnti
      cases hreq : s.sched.findPosRequest e.rnti with
      | none =>
        rw [resourcesOf_noRequest hcrnti hreq] at hplaced
        exact (srsPlaced_nil w e.srsResId).mp hplaced |>.elim
      | some req =>
        obtain ⟨hmem, hrnti⟩ := findKey_mem hreq
        rw [resourcesOf_request hcrnti hreq] at hplaced
        refine ⟨req, hmem, hrnti, ?_, hplaced⟩
        by_contra hne
        obtain ⟨ueIndex, hindex⟩ := Option.ne_none_iff_exists'.mp hne
        obtain ⟨u, -, -, hu⟩ := h.connected req hmem ueIndex hindex
        rw [← hrnti, ← hu, u.cfg.crnti_valid] at hcrnti
        cases hcrnti

lemma step_settled (h : Settled cell s) {e : SrsEvent} (hc : Careful cell s e) :
    Yields (s.step cell e) (Settled cell) SrsAbort.IsRejection := by
  cases e with
  | addUe u => exact addUe_settled h
  | reconfUe cfg pcellHasSrsCfg => exact reconfUe_settled h
  | remUe rnti => exact remUe_settled h
  | ueLeaves rnti => exact ueLeaves_settled h hc
  | handlePositioningMeasurementRequest req =>
    have hreq : Yields (s.handlePositioningMeasurementRequest req) (fun sched => Settled cell { s with sched })
        SrsAbort.IsRejection := by
      unfold handlePositioningMeasurementRequest
      split
      case isTrue => exact h
      case isFalse hnone =>
        have hnone : s.sched.findPosRequest req.posRnti = none := by simpa using hnone
        split
        case h_1 ueIndex hindex => exact requestConnected_settled h hnone hindex
        case h_2 hindex => exact requestNeighbour_settled h hnone hindex (hc hnone hindex)
    unfold step
    dsimp only
    cases hres : s.handlePositioningMeasurementRequest req with
    | error a => exact hreq.of_error hres
    | ok sched => exact hreq.of_ok hres
  | handlePositioningMeasurementStop posRnti =>
    have hstop := stop_settled h hc
    unfold step
    dsimp only
    cases hres : s.handlePositioningMeasurementStop posRnti with
    | error a => exact hstop.of_error hres
    | ok sched => exact hstop.of_ok hres
  | runSlot => exact (runSlot_settled h hc).mono (fun _ hs => hs) fun _ ha => ha.elim

lemma settled_init (cell : SrsCell) (slotTx : ℕ) : Settled cell (init slotTx) := by
  refine ⟨fun w => List.nodup_nil, fun w e => ?_, List.nodup_nil, fun r hr => (nomatch hr), List.nodup_nil,
    fun r hr => (nomatch hr), fun r hr => (nomatch hr), fun _ slot _ pdu hpdu => (nomatch hpdu), fun slot _ => rfl⟩
  have hnone : (init slotTx).resourcesOf e.rnti = [] := by
    unfold resourcesOf
    split
    · rfl
    · rfl
  rw [hnone, srsPlaced_nil]
  exact ⟨fun he => (nomatch he), False.elim⟩

/-- A run aborts only where an event is rejected, and the flags are right after every slot. -/
theorem positioning_run_right {cell : SrsCell} {slotTx : ℕ} {es : List SrsEvent}
    (h : RunsWithin (step cell) (Careful cell) (init slotTx) es) :
    HoldsThroughout (step cell) PositioningRight (init slotTx) es ∧
      ∀ a, runEvents (step cell) (init slotTx) es = .error a → a.IsRejection := by
  obtain ⟨hthroughout, hrun⟩ := runsWithin_yields (Settled cell) (fun s e hC hs => step_settled hs hC) h
    (settled_init cell slotTx)
  exact ⟨holdsThroughout_mono (fun s hs => hs.positioningRight) hthroughout, fun a ha => hrun.of_error ha⟩

end Runs

def srsCfgOf (crnti : ℕ) (hcrnti : isCrnti crnti = true) : SrsUeConfig :=
  ⟨crnti, some ⟨[⟨.periodic, [0], 0⟩], [⟨0, some (.sl1280, 1), 0⟩]⟩, hcrnti, by
    rintro cfg hcfg
    cases hcfg
    decide⟩

/-- The PDU of a UE is flagged while its request is pending. -/
theorem positioning_run_right_requested :
    HoldsThroughout (step ⟨4, fun _ => true⟩) PositioningRight (init 0)
      [.addUe ⟨0, srsCfgOf 1 rfl, true⟩, .runSlot, .handlePositioningMeasurementRequest ⟨1, some 0, []⟩, .runSlot,
        .handlePositioningMeasurementStop 1, .runSlot] :=
  (positioning_run_right (by decide +kernel)).1

/-- A request for one UE flags the PDU of another one. -/
theorem positioning_flags_of_others : ¬∀ (cell : SrsCell) (slotTx : ℕ) (es : List SrsEvent),
    HoldsThroughout (step cell) PositioningRight (init slotTx) es ∧
      ∀ a, runEvents (step cell) (init slotTx) es = .error a → a.IsRejection := by
  intro h
  have hrun : ∃ s pdu, runEvents (step ⟨4, fun _ => true⟩) (init 0)
      [.addUe ⟨0, srsCfgOf 1 rfl, true⟩, .addUe ⟨1, srsCfgOf 2 rfl, true⟩, .runSlot,
        .handlePositioningMeasurementRequest ⟨1, some 0, []⟩, .runSlot] = .ok s ∧
      s.sched.updatedUes = [] ∧ s.slotTx = 2 ∧ s.srss 1 = [⟨1, ⟨0, some (.sl1280, 1), 0⟩, true⟩, pdu] ∧
      pdu.crnti = 2 ∧ pdu.positioningReportRequested = true ∧
      s.sched.pendingPosRequests.map PosRequest.posRnti = [1] := ⟨_, _, rfl, rfl, rfl, rfl, rfl, rfl, rfl⟩
  obtain ⟨s, pdu, hs, hupdated, hslot, hpdus, hcrnti, hflag, hpending⟩ := hrun
  have hright := holdsThroughout_iff_prefix.mp (h ⟨4, fun _ => true⟩ 0 _).1 _ [] s (List.append_nil _).symm hs
  have hmem : pdu ∈ s.srss 1 := by
    rw [hpdus]
    exact List.mem_cons_of_mem _ List.mem_cons_self
  obtain ⟨req, hreq, hrnti⟩ := (hright.flags hupdated 1 (by omega) pdu hmem).mp hflag
  have hone : req.posRnti ∈ s.sched.pendingPosRequests.map PosRequest.posRnti := List.mem_map_of_mem hreq
  rw [hpending, List.mem_singleton, hrnti, hcrnti] at hone
  omega

end SrsSystem

end OwlsRan.Sched
