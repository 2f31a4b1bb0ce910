import OwlsRan.Du.DuBearerResourceManager
import OwlsRan.Lib.OrderedList

/-!
# The logical channels of the DRBs

The free id that a DRB gets is the lowest one: the search in the sorted ids stops at the front, at the first gap, or
behind the last id.
-/

namespace OwlsRan.Du
open OwlsRan.Adt OwlsRan.Lib

section Gap

def lastBeforeGap (a : Nat) (l : List Nat) : Nat :=
  (adjacentFind (fun l r => decide (l + 1 < r)) (a :: l)).getD ((a :: l).getLast (List.cons_ne_nil a l))

lemma lastBeforeGap_nil (a : Nat) : lastBeforeGap a [] = a := rfl

lemma lastBeforeGap_gap {a b : Nat} (l : List Nat) (h : a + 1 < b) : lastBeforeGap a (b :: l) = a := by
  unfold lastBeforeGap adjacentFind
  rw [if_pos (decide_eq_true h)]
  rfl

lemma lastBeforeGap_next {a b : Nat} (l : List Nat) (h : ¬ a + 1 < b) :
    lastBeforeGap a (b :: l) = lastBeforeGap b l := by
  unfold lastBeforeGap
  rw [adjacentFind, if_neg (by rwa [decide_eq_true_eq])]
  rfl

lemma lastBeforeGap_spec {a : Nat} {l : List Nat} (h : (a :: l).Pairwise (· < ·)) :
    a ≤ lastBeforeGap a l ∧ lastBeforeGap a l ∈ a :: l ∧
      (∀ x, a ≤ x → x ≤ lastBeforeGap a l → x ∈ a :: l) ∧ lastBeforeGap a l + 1 ∉ a :: l := by
  induction l generalizing a with
  | nil =>
    rw [lastBeforeGap_nil]
    refine ⟨le_refl a, List.mem_cons_self, fun x hx hle => ?_, ?_⟩
    · rw [le_antisymm hle hx]
      exact List.mem_cons_self
    · simp
  | cons b l ih =>
    obtain ⟨ha, hl⟩ := List.pairwise_cons.mp h
    have hab := ha b List.mem_cons_self
    by_cases hgap : a + 1 < b
    · rw [lastBeforeGap_gap l hgap]
      refine ⟨le_refl a, List.mem_cons_self, fun x hx hle => ?_, fun hmem => ?_⟩
      · rw [le_antisymm hle hx]
        exact List.mem_cons_self
      · rcases List.mem_cons.mp hmem with heq | hmem
        · omega
        · rcases List.mem_cons.mp hmem with heq | hmem
          · omega
          · have := (List.pairwise_cons.mp hl).1 _ hmem
            omega
    · rw [lastBeforeGap_next l hgap]
      obtain ⟨hle, hmem, hall, hnext⟩ := ih hl
      refine ⟨by omega, List.mem_cons_of_mem a hmem, fun x hx hxle => ?_, fun hin => ?_⟩
      · by_cases hxa : x = a
        · rw [hxa]
          exact List.mem_cons_self
        · exact List.mem_cons_of_mem a (hall x (by omega) hxle)
      · rcases List.mem_cons.mp hin with heq | hin
        · omega
        · exact hnext hin

end Gap

section Tables

variable {α : Type} {m : FlatMap α} {k k' : Nat} {v : α}

lemma tableEmplace_of_none (hk : m.find? k = none) (v : α) : tableEmplace m k v = m.emplace k v := by
  have herase : m.erase k = m := by
    apply FlatMap.eq_of_find?
    intro k'
    rw [FlatMap.find?_erase]
    split
    · rename_i heq
      rw [heq, hk]
    · rfl
  unfold tableEmplace
  rw [herase]

lemma find?_tableEmplace (m : FlatMap α) (k : Nat) (v : α) (k' : Nat) :
    (tableEmplace m k v).find? k' = if k' = k then some v else m.find? k' := by
  unfold tableEmplace
  rw [FlatMap.find?_emplace (by rw [FlatMap.find?_erase, if_pos rfl]), FlatMap.find?_erase]
  split
  · rfl
  · rfl

lemma find?_foldl_tableEmplace {entries : List (Nat × α)} (hentries : entries.Pairwise fun a b => a.1 < b.1)
    (k : Nat) : (entries.foldl (fun t e => tableEmplace t e.1 e.2) m).find? k =
      ((entries.find? fun e => e.1 = k).map Prod.snd).or (m.find? k) := by
  induction entries generalizing m with
  | nil => rfl
  | cons e entries ih =>
    obtain ⟨he, hrest⟩ := List.pairwise_cons.mp hentries
    rw [List.foldl_cons, ih hrest, find?_tableEmplace]
    by_cases hk : e.1 = k
    · have hnone : (entries.find? fun e => e.1 = k) = none := by
        rw [List.find?_eq_none]
        intro e' he' heq
        have := he e' he'
        rw [decide_eq_true_eq] at heq
        omega
      rw [hnone, if_pos hk.symm, List.find?_cons_of_pos (by rwa [decide_eq_true_eq])]
      rfl
    · rw [if_neg fun heq => hk heq.symm, List.find?_cons_of_neg (by rwa [decide_eq_true_eq])]

lemma foldl_tableEmplace_empty (m : FlatMap α) :
    m.entries.foldl (fun t e => tableEmplace t e.1 e.2) FlatMap.empty = m := by
  apply FlatMap.eq_of_find?
  intro k
  rw [find?_foldl_tableEmplace m.sorted, FlatMap.find?_empty, Option.or_none]
  rfl

end Tables

def lcids (drbs : FlatMap DuUeDrbConfig) : List Nat := drbs.entries.map fun drb => drb.2.lcid

structure Assigned (drbs : FlatMap DuUeDrbConfig) : Prop where
  distinct : (lcids drbs).Nodup
  range : ∀ lcid ∈ lcids drbs, LCID_MIN_DRB ≤ lcid ∧ lcid ≤ LCID_MAX_DRB

section Assignment

variable {drbs : FlatMap DuUeDrbConfig} {d lcid : Nat} {drb : DuUeDrbConfig}

lemma mem_lcids : lcid ∈ lcids drbs ↔ ∃ d drb, drbs.find? d = some drb ∧ drb.lcid = lcid := by
  unfold lcids
  rw [List.mem_map]
  constructor
  · rintro ⟨⟨d, drb⟩, hmem, hlcid⟩
    exact ⟨d, drb, FlatMap.find?_eq_some_iff.mpr hmem, hlcid⟩
  · rintro ⟨d, drb, hfind, hlcid⟩
    exact ⟨(d, drb), FlatMap.find?_eq_some_iff.mp hfind, hlcid⟩

lemma lcids_emplace (hd : drbs.find? d = none) (drb : DuUeDrbConfig) :
    (lcids (drbs.emplace d drb)).Perm (drb.lcid :: lcids drbs) := by
  unfold lcids FlatMap.emplace
  rw [dif_pos hd]
  exact (FlatMap.insertEntry_perm d drb drbs.entries).map _

lemma lcids_erase (drbs : FlatMap DuUeDrbConfig) (d : Nat) : (lcids (drbs.erase d)).Sublist (lcids drbs) :=
  List.filter_sublist.map _

lemma Assigned.empty : Assigned .empty := ⟨List.nodup_nil, fun _ h => (nomatch h)⟩

lemma Assigned.emplace (h : Assigned drbs) (hd : drbs.find? d = none) (hmin : LCID_MIN_DRB ≤ drb.lcid)
    (hmax : drb.lcid ≤ LCID_MAX_DRB) (hfresh : drb.lcid ∉ lcids drbs) : Assigned (drbs.emplace d drb) := by
  have hperm := lcids_emplace hd drb
  refine ⟨hperm.nodup_iff.mpr (List.nodup_cons.mpr ⟨hfresh, h.distinct⟩), fun lcid hlcid => ?_⟩
  rcases List.mem_cons.mp (hperm.mem_iff.mp hlcid) with rfl | hold
  · exact ⟨hmin, hmax⟩
  · exact h.range lcid hold

lemma Assigned.erase (h : Assigned drbs) (d : Nat) : Assigned (drbs.erase d) :=
  ⟨h.distinct.sublist (lcids_erase drbs d), fun lcid hlcid => h.range lcid ((lcids_erase drbs d).subset hlcid)⟩

lemma Assigned.injective (h : Assigned drbs) {d d' : Nat} {drb drb' : DuUeDrbConfig} (hd : drbs.find? d = some drb)
    (hd' : drbs.find? d' = some drb') (hlcid : drb.lcid = drb'.lcid) : d = d' := by
  have hmem := FlatMap.find?_eq_some_iff.mp hd
  have hmem' := FlatMap.find?_eq_some_iff.mp hd'
  have heq := List.inj_on_of_nodup_map h.distinct hmem hmem' hlcid
  exact congrArg Prod.fst heq

lemma Assigned.size_le (h : Assigned drbs) : drbs.size ≤ MAX_NOF_DRBS := by
  have hlen : (lcids drbs).length ≤ 33 - 4 := by
    apply length_le_of_mem_range h.distinct
    intro lcid hlcid
    have := h.range lcid hlcid
    unfold LCID_MIN_DRB LCID_MAX_DRB at this
    omega
  unfold lcids at hlen
  rwa [List.length_map] at hlen

lemma Assigned.findEmptyLcid (h : Assigned drbs) : ∃ lcid, findEmptyLcid drbs = .ok lcid ∧
    ((LCID_MIN_DRB ≤ lcid ∧ lcid ≤ LCID_MAX_DRB ∧ lcid ∉ lcids drbs) ∨
      (LCID_MAX_DRB < lcid ∧ ∀ l, LCID_MIN_DRB ≤ l → l ≤ LCID_MAX_DRB → l ∈ lcids drbs)) := by
  unfold Du.findEmptyLcid
  rw [if_neg (Nat.not_lt.mpr h.size_le)]
  have hlcids : (drbs.entries.map fun drb => drb.2.lcid) = lcids drbs := rfl
  rw [hlcids]
  have hperm := List.perm_insertionSort (· ≤ ·) (lcids drbs)
  have hsorted := List.pairwise_insertionSort (· ≤ ·) (lcids drbs)
  have hmem : ∀ l, l ∈ (lcids drbs).insertionSort (· ≤ ·) ↔ l ∈ lcids drbs := fun l => hperm.mem_iff
  have hnodup := hperm.nodup_iff.mpr h.distinct
  generalize (lcids drbs).insertionSort (· ≤ ·) = sorted at hperm hsorted hmem hnodup ⊢
  cases sorted with
  | nil =>
    refine ⟨LCID_MIN_DRB, rfl, .inl ⟨le_refl _, by decide, fun hin => ?_⟩⟩
    exact absurd ((hmem _).mpr hin) List.not_mem_nil
  | cons first usedLcids =>
    have hstrict : (first :: usedLcids).Pairwise (· < ·) :=
      hsorted.imp₂ (fun _ _ hle hne => lt_of_le_of_ne hle hne) hnodup
    have hfirst := h.range first ((hmem first).mp List.mem_cons_self)
    dsimp only
    by_cases hfront : LCID_MIN_DRB < first
    · rw [if_pos hfront]
      refine ⟨LCID_MIN_DRB, rfl, .inl ⟨le_refl _, by decide, fun hin => ?_⟩⟩
      rcases List.mem_cons.mp ((hmem _).mpr hin) with heq | hin
      · omega
      · have := (List.pairwise_cons.mp hstrict).1 _ hin
        omega
    · rw [if_neg hfront]
      have hit : (adjacentFind (fun l r => decide (l + 1 < r)) (first :: usedLcids)).getD
          ((first :: usedLcids).getLast (List.cons_ne_nil _ _)) = lastBeforeGap first usedLcids := rfl
      rw [hit]
      obtain ⟨hge, hin, hall, hnext⟩ := lastBeforeGap_spec hstrict
      have hlast := h.range _ ((hmem _).mp hin)
      generalize lastBeforeGap first usedLcids = it at hge hin hall hnext hlast ⊢
      have hmax : LCID_MAX_DRB + 1 < 2 ^ 16 := by decide
      rw [Nat.mod_eq_of_lt (by omega)]
      by_cases hfull : LCID_MAX_DRB < it + 1
      · rw [if_pos hfull]
        refine ⟨INVALID_LCID, rfl, .inr ⟨by decide, fun l hmin hl => (hmem l).mp (hall l (by omega) (by omega))⟩⟩
      · rw [if_neg hfull]
        refine ⟨it + 1, rfl, .inl ⟨by omega, by omega, fun hused => hnext ((hmem _).mpr hused)⟩⟩

end Assignment

namespace DuBearerResourceManager

variable {m : DuBearerResourceManager} {cfg cfg' : DuUeResourceConfig}

inductive SetupOutcome (m : DuBearerResourceManager) (cfg : DuUeResourceConfig) (drb : F1apDrbToSetup) :
    Bool × DuUeResourceConfig → Prop where
  | invalid {e} (h : validateDrbSetupRequest drb cfg.drbs m.qosConfig = some e) : SetupOutcome m cfg drb (false, cfg)
  | noLcid (h : validateDrbSetupRequest drb cfg.drbs m.qosConfig = none)
      (hfull : ∀ lcid, LCID_MIN_DRB ≤ lcid → lcid ≤ LCID_MAX_DRB → lcid ∈ lcids cfg.drbs) :
      SetupOutcome m cfg drb (false, cfg)
  | added {lcid qos} (hnew : cfg.drbs.find? drb.drbId = none) (hmin : LCID_MIN_DRB ≤ lcid) (hmax : lcid ≤ LCID_MAX_DRB)
      (hfree : lcid ∉ lcids cfg.drbs) (hqos : m.qosConfig.find? drb.drbQos.fiveQi = some qos) :
      SetupOutcome m cfg drb (true, { cfg with drbs := cfg.drbs.emplace drb.drbId (newDrb drb lcid qos) })

lemma valid_request {drb : F1apDrbToSetup} (h : validateDrbSetupRequest drb cfg.drbs m.qosConfig = none) :
    cfg.drbs.find? drb.drbId = none ∧ ∃ qos, m.qosConfig.find? drb.drbQos.fiveQi = some qos := by
  unfold validateDrbSetupRequest at h
  split at h
  · cases h
  · rename_i qos hqos
    split at h
    · cases h
    · split at h
      · cases h
      · split at h
        · cases h
        · rename_i hnew
          exact ⟨FlatMap.contains_eq_false_iff.mp (Bool.eq_false_of_not_eq_true hnew), qos, hqos⟩

lemma setupDrb_spec (h : Assigned cfg.drbs) (drb : F1apDrbToSetup) :
    ∃ r, m.setupDrb cfg drb = .ok r ∧ SetupOutcome m cfg drb r := by
  unfold setupDrb
  cases hvalid : validateDrbSetupRequest drb cfg.drbs m.qosConfig with
  | some e => exact ⟨_, rfl, .invalid hvalid⟩
  | none =>
    obtain ⟨hnew, qos, hqos⟩ := valid_request hvalid
    obtain ⟨lcid, hsearch, hlcid⟩ := h.findEmptyLcid
    rw [Option.isSome_none, if_neg Bool.false_ne_true, hsearch, hqos]
    change ∃ r, (if LCID_MAX_DRB < lcid then .ok (false, cfg)
      else .ok (true, { cfg with drbs := tableEmplace cfg.drbs drb.drbId (newDrb drb lcid qos) })) = Except.ok r ∧ _
    rw [tableEmplace_of_none hnew]
    rcases hlcid with ⟨hmin, hmax, hfree⟩ | ⟨hinvalid, hfull⟩
    · rw [if_neg (Nat.not_lt.mpr hmax)]
      exact ⟨_, rfl, .added hnew hmin hmax hfree hqos⟩
    · rw [if_pos hinvalid]
      exact ⟨_, rfl, .noLcid hvalid hfull⟩

lemma SetupOutcome.assigned (h : Assigned cfg.drbs) {drb : F1apDrbToSetup} {r : Bool × DuUeResourceConfig}
    (hr : SetupOutcome m cfg drb r) : Assigned r.2.drbs := by
  cases hr with
  | invalid => exact h
  | noLcid => exact h
  | added hnew hmin hmax hfree hqos => exact h.emplace hnew hmin hmax hfree

lemma SetupOutcome.keeps {drb : F1apDrbToSetup} {r : Bool × DuUeResourceConfig} (hr : SetupOutcome m cfg drb r)
    {d : Nat} {old : DuUeDrbConfig} (hold : cfg.drbs.find? d = some old) : r.2.drbs.find? d = some old := by
  cases hr with
  | invalid => exact hold
  | noLcid => exact hold
  | added hnew hmin hmax hfree hqos =>
    change (cfg.drbs.emplace drb.drbId _).find? d = some old
    rw [FlatMap.find?_emplace hnew]
    split
    · rename_i heq
      rw [heq, hnew] at hold
      cases hold
    · exact hold

lemma setupDrbs_spec (h : Assigned cfg.drbs) (drbs : List F1apDrbToSetup) :
    ∃ failed cfg', m.setupDrbs cfg drbs = .ok (failed, cfg') ∧ Assigned cfg'.drbs ∧
      (∀ d old, cfg.drbs.find? d = some old → cfg'.drbs.find? d = some old) ∧
      ∃ accepted refused, accepted.Sublist drbs ∧ (accepted ++ refused).Perm drbs ∧
        failed = refused.map F1apDrbToSetup.drbId ∧ m.setupDrbs cfg accepted = .ok ([], cfg') := by
  induction drbs generalizing cfg with
  | nil => exact ⟨[], cfg, rfl, h, fun _ _ hold => hold, [], [], List.Sublist.refl _, List.Perm.refl _, rfl, rfl⟩
  | cons drb drbs ih =>
    obtain ⟨⟨isSetup, cfg₁⟩, hsetup, houtcome⟩ := setupDrb_spec (m := m) h drb
    obtain ⟨failed, cfg', hrest, hassigned, hkeeps, accepted, refused, hsub, hperm, hfailed, haccepted⟩ :=
      ih (houtcome.assigned h)
    have hrun : m.setupDrbs cfg (drb :: drbs) = .ok (if isSetup then failed else drb.drbId :: failed, cfg') := by
      rw [setupDrbs]
      exact bind_eq_ok.mpr ⟨_, hsetup, bind_eq_ok.mpr ⟨_, hrest, rfl⟩⟩
    refine ⟨_, cfg', hrun, hassigned, fun d old hold => hkeeps d old (houtcome.keeps hold), ?_⟩
    cases isSetup with
    | true =>
      refine ⟨drb :: accepted, refused, hsub.cons_cons drb, hperm.cons drb, hfailed, ?_⟩
      rw [setupDrbs]
      exact bind_eq_ok.mpr ⟨_, hsetup, bind_eq_ok.mpr ⟨_, haccepted, rfl⟩⟩
    | false =>
      have hsame : cfg₁ = cfg := by cases houtcome <;> rfl
      rw [hsame] at haccepted
      exact ⟨accepted, drb :: refused, hsub.cons drb, List.perm_middle.trans (hperm.cons drb),
        congrArg (drb.drbId :: ·) hfailed, haccepted⟩

section Removal

lemma remDrbs_drbs (cfg : DuUeResourceConfig) (d : Nat) (ids : List Nat) :
    (remDrbs cfg (d :: ids)).drbs =
      (remDrbs { cfg with drbs := if cfg.drbs.contains d then cfg.drbs.erase d else cfg.drbs } ids).drbs := rfl

lemma assigned_remDrbs (h : Assigned cfg.drbs) (ids : List Nat) : Assigned (remDrbs cfg ids).drbs := by
  induction ids generalizing cfg with
  | nil => exact h
  | cons d ids ih =>
    rw [remDrbs_drbs]
    apply ih
    change Assigned (if cfg.drbs.contains d then _ else _)
    split
    · exact h.erase d
    · exact h

lemma remDrbs_keeps {ids : List Nat} {d : Nat} {old : DuUeDrbConfig} (hold : cfg.drbs.find? d = some old)
    (hd : d ∉ ids) : (remDrbs cfg ids).drbs.find? d = some old := by
  induction ids generalizing cfg with
  | nil => exact hold
  | cons d' ids ih =>
    rw [remDrbs_drbs]
    apply ih _ fun hin => hd (List.mem_cons_of_mem d' hin)
    change FlatMap.find? (if cfg.drbs.contains d' then _ else _) d = some old
    split
    · have hne : d ≠ d' := fun heq => hd (heq ▸ List.mem_cons_self)
      rw [FlatMap.find?_erase, if_neg hne]
      exact hold
    · exact hold

end Removal

/-- The configurations that a UE can have. A UE takes over the context of an RRC reestablishment before it has DRBs of its
own. -/
inductive Reachable (m : DuBearerResourceManager) : DuUeResourceConfig → Prop where
  | created {ueCfg} (h : ueCfg.drbs = .empty) : Reachable m ueCfg
  | updated {ueCfg context req resp ueCfg'} (h : Reachable m ueCfg)
      (hcontext : ∀ old, context = some old → Reachable m old)
      (hnew : ∀ old, context = some old → ueCfg.drbs = .empty)
      (hupdate : m.update ueCfg req context = .ok (resp, ueCfg')) : Reachable m ueCfg'

/-- What is expected of an update of the configuration `cfg`, which comes before the removals. -/
structure SoundUpdate (m : DuBearerResourceManager) (cfg : DuUeResourceConfig) (req : DuUeBearerResourceUpdateRequest)
    (resp : DuUeBearerResourceUpdateResponse) (cfg' : DuUeResourceConfig) : Prop where
  keeps : ∀ d old, cfg.drbs.find? d = some old → d ∉ req.drbsToRem →
    ∃ drb, cfg'.drbs.find? d = some drb ∧ drb.lcid = old.lcid
  /-- A valid request is refused only if all LCIDs are in use. -/
  refused : ∀ before drb behind failed c c', req.drbsToSetup = before ++ drb :: behind →
    m.setupDrbs (m.prepared cfg req) before = .ok (failed, c) →
    validateDrbSetupRequest drb c.drbs m.qosConfig = none → m.setupDrb c drb = .ok (false, c') →
    ∀ lcid, LCID_MIN_DRB ≤ lcid → lcid ≤ LCID_MAX_DRB → ∃ d old, c.drbs.find? d = some old ∧ old.lcid = lcid
  /-- The failed DRBs might as well not have been requested. -/
  failed : ∃ accepted refused, accepted.Sublist req.drbsToSetup ∧ (accepted ++ refused).Perm req.drbsToSetup ∧
    resp.drbsFailedToSetup = refused.map F1apDrbToSetup.drbId ∧
    m.update cfg { req with drbsToSetup := accepted, drbsToMod := [] } none = .ok (⟨[], []⟩, cfg')

lemma update_spec (h : Assigned cfg.drbs) (req : DuUeBearerResourceUpdateRequest) :
    ∃ resp cfg', m.update cfg req none = .ok (resp, cfg') ∧ Assigned cfg'.drbs ∧ SoundUpdate m cfg req resp cfg' := by
  have hprepared : Assigned (m.prepared cfg req).drbs := assigned_remDrbs h req.drbsToRem
  obtain ⟨failed, cfg', hsetup, hassigned, hkeeps, accepted, refused, hsub, hperm, hfailed, haccepted⟩ :=
    setupDrbs_spec (m := m) hprepared req.drbsToSetup
  have hupdate : m.update cfg req none = .ok (⟨failed, modifyDrbs cfg' req.drbsToMod⟩, cfg') :=
    bind_eq_ok.mpr ⟨_, hsetup, rfl⟩
  refine ⟨_, cfg', hupdate, hassigned, ?_, ?_, ?_⟩
  · intro d old hold hd
    exact ⟨old, hkeeps d old (remDrbs_keeps hold hd), rfl⟩
  · rintro before drb behind failed' c c' - hbefore hvalid hrefused lcid hmin hmax
    obtain ⟨failed'', c'', hrun, hc, -⟩ := setupDrbs_spec (m := m) hprepared before
    rw [hbefore] at hrun
    cases hrun
    obtain ⟨r, hr, houtcome⟩ := setupDrb_spec (m := m) hc drb
    rw [hrefused] at hr
    cases hr
    cases houtcome with
    | invalid hinvalid =>
      rw [hvalid] at hinvalid
      cases hinvalid
    | noLcid _ hfull => exact mem_lcids.mp (hfull lcid hmin hmax)
  · exact ⟨accepted, refused, hsub, hperm, hfailed, bind_eq_ok.mpr ⟨_, haccepted, rfl⟩⟩

lemma update_restored (cfg : DuUeResourceConfig) (req : DuUeBearerResourceUpdateRequest)
    (context : Option DuUeResourceConfig) : m.update cfg req context = m.update (restoredConfig cfg context) req none :=
  rfl

lemma restoredConfig_drbs {context : Option DuUeResourceConfig} (hnew : ∀ old, context = some old → cfg.drbs = .empty) :
    (restoredConfig cfg context).drbs = (context.getD cfg).drbs := by
  cases context with
  | none => rfl
  | some old =>
    change old.drbs.entries.foldl _ cfg.drbs = old.drbs
    rw [hnew old rfl]
    exact foldl_tableEmplace_empty old.drbs

lemma assigned_restoredConfig {context : Option DuUeResourceConfig} (h : Assigned cfg.drbs)
    (hcontext : ∀ old, context = some old → Assigned old.drbs) (hnew : ∀ old, context = some old → cfg.drbs = .empty) :
    Assigned (restoredConfig cfg context).drbs := by
  rw [restoredConfig_drbs hnew]
  cases context with
  | none => exact h
  | some old => exact hcontext old rfl

lemma Reachable.assigned (h : Reachable m cfg) : Assigned cfg.drbs := by
  induction h with
  | created h =>
    rw [h]
    exact .empty
  | updated _ _ hnew hupdate ih ihcontext =>
    obtain ⟨resp', cfg'', hrun, hassigned, -⟩ :=
      update_spec (m := m) (assigned_restoredConfig ih ihcontext hnew) _
    rw [← update_restored, hupdate] at hrun
    cases hrun
    exact hassigned

/-- In every configuration that a UE can have, the LCIDs of the DRBs are different and in their range, and every update
keeps the LCIDs of the DRBs that it does not remove, refuses a valid DRB only if all LCIDs are in use, and changes nothing
for the DRBs that it reports as failed. -/
theorem drb_lcids_assigned (h : Reachable m cfg) :
    (∀ d drb, cfg.drbs.find? d = some drb → LCID_MIN_DRB ≤ drb.lcid ∧ drb.lcid ≤ LCID_MAX_DRB) ∧
      (∀ d d' drb drb', cfg.drbs.find? d = some drb → cfg.drbs.find? d' = some drb' → drb.lcid = drb'.lcid → d = d') ∧
      ∀ req context, (∀ old, context = some old → Reachable m old ∧ cfg.drbs = .empty) →
        ∃ resp cfg', m.update cfg req context = .ok (resp, cfg') ∧
          SoundUpdate m (restoredConfig cfg context) req resp cfg' := by
  have hassigned := h.assigned
  refine ⟨fun d drb hd => hassigned.range _ (mem_lcids.mpr ⟨d, drb, hd, rfl⟩),
    fun d d' drb drb' hd hd' => hassigned.injective hd hd', fun req context hcontext => ?_⟩
  have hrestored := assigned_restoredConfig hassigned (fun old hold => (hcontext old hold).1.assigned)
    fun old hold => (hcontext old hold).2
  obtain ⟨resp, cfg', hupdate, -, hsound⟩ := update_spec (m := m) hrestored req
  exact ⟨resp, cfg', hupdate, hsound⟩

theorem drb_lcids_assigned_repeated :
    let m : DuBearerResourceManager := ⟨.empty, FlatMap.empty.emplace 9 ⟨⟨.am, none, none⟩, ⟨0, 0, true, false, 4096⟩⟩⟩
    let drb (d : Nat) : F1apDrbToSetup := ⟨d, .am, [⟨"10.0.0.1", 1⟩], some .size12bits, ⟨9, none⟩, ⟨1, 0⟩⟩
    ∃ resp cfg, m.update ⟨.empty, .empty⟩ ⟨[1], [drb 1, drb 2, drb 1], [], [3]⟩ none = .ok (resp, cfg) ∧
      resp.drbsFailedToSetup = [1] ∧ lcids cfg.drbs = [4, 5] ∧
      ∀ req, ∃ resp' cfg', m.update cfg req none = .ok (resp', cfg') ∧ SoundUpdate m cfg req resp' cfg' := by
  intro m drb
  have hnone : ∀ {P : DuUeResourceConfig → Prop} (old : DuUeResourceConfig), none = some old → P old :=
    fun _ h => (nomatch h)
  have hupdate : m.update ⟨.empty, .empty⟩ ⟨[1], [drb 1, drb 2, drb 1], [], [3]⟩ none = .ok (_, _) := rfl
  have hreach := Reachable.updated (.created rfl) hnone hnone hupdate
  exact ⟨_, _, hupdate, rfl, rfl, fun req => (drb_lcids_assigned hreach).2.2 req none hnone⟩

end DuBearerResourceManager

end OwlsRan.Du
