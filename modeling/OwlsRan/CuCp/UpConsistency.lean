import Mathlib.Logic.Function.Basic
import OwlsRan.CuCp.UpUpdates

/-!
# The maps and the sessions

Applying the part of an update that succeeded keeps the two maps consistent with the sessions, as long as the DRBs that it
adds fit in and their flows are not mapped yet.
-/

namespace OwlsRan.CuCp

open Lib Adt

def UpPduSessionContext.Carries (session : UpPduSessionContext) (qfi d : ℕ) : Prop :=
  ∃ drb, session.drbs.find? d = some drb ∧ drb.qosFlows.contains qfi = true

structure Linked (sessions : ℕ → Option UpPduSessionContext) (ctx : UpContext) : Prop where
  id : ∀ p session, sessions p = some session → session.id = p
  drb : ∀ d p, ctx.drbMap.find? d = some p ↔ ∃ session, sessions p = some session ∧ session.drbs.contains d = true
  flow : ∀ qfi d, ctx.qosFlowMap.find? qfi = some d ↔ ∃ p session, sessions p = some session ∧ session.Carries qfi d

structure LinkedWith (sessions : ℕ → Option UpPduSessionContext) (p : ℕ) (session : UpPduSessionContext)
    (ctx : UpContext) : Prop where
  id : session.id = p
  others : ∀ q s, q ≠ p → sessions q = some s → s.id = q
  drb : ∀ d q, ctx.drbMap.find? d = some q ↔
    q = p ∧ session.drbs.contains d = true ∨ q ≠ p ∧ ∃ s, sessions q = some s ∧ s.drbs.contains d = true
  flow : ∀ qfi d, ctx.qosFlowMap.find? qfi = some d ↔
    session.Carries qfi d ∨ ∃ q s, q ≠ p ∧ sessions q = some s ∧ s.Carries qfi d

/-- The DRBs that are still to be added fit in once the given number of DRBs has been removed. -/
structure Room (cfg : UpResourceManagerCfg) (ctx : UpContext) (drbs : List (ℕ × UpDrbContext)) (removals : ℕ) : Prop where
  ids : (drbs.map Prod.fst).Nodup
  fresh : ∀ drb ∈ drbs, ctx.IsFresh drb.1
  flows : (drbs.flatMap fun drb => drb.2.qosFlows.keys).Nodup
  unmapped : ∀ drb ∈ drbs, ∀ qfi ∈ drb.2.qosFlows.keys, ctx.qosFlowMap.find? qfi = none
  limit : ctx.drbMap.size + drbs.length ≤ cfg.maxNofDrbsPerUe + removals

structure Marked (ctx : UpContext) (used : List ℕ) : Prop where
  nodup : used.Nodup
  dirty : ∀ d ∈ used, ctx.drbDirty (getDirtyDrbIndex d) = true
  valid : ∀ d, ctx.drbMap.contains d = true → 0 < d ∧ d ≤ MAX_NOF_DRBS

structure Progress (cfg : UpResourceManagerCfg) (used : List ℕ) (drbs : List (ℕ × UpDrbContext)) (removals : ℕ)
    (ctx : UpContext) : Prop where
  room : Room cfg ctx drbs removals
  marked : Marked ctx used

section Maps

lemma find?_foldl_emplace {α : Type} (m : FlatMap α) (v : α) (ks : List ℕ) (k : ℕ) :
    (ks.foldl (fun m k => m.emplace k v) m).find? k = (m.find? k).or (if k ∈ ks then some v else none) := by
  induction ks generalizing m with
  | nil => simp
  | cons k' ks ih =>
    rw [List.foldl_cons, ih]
    cases hm : m.find? k' with
    | some w =>
      rw [FlatMap.emplace_of_some hm]
      by_cases hk : k = k'
      · subst hk
        simp [hm]
      · simp [hk]
    | none =>
      rw [FlatMap.find?_emplace hm]
      by_cases hk : k = k'
      · subst hk
        simp [hm]
      · simp [hk]

lemma find?_foldl_erase {α : Type} (m : FlatMap α) (ks : List ℕ) (k : ℕ) :
    (ks.foldl FlatMap.erase m).find? k = if k ∈ ks then none else m.find? k := by
  induction ks generalizing m with
  | nil => simp
  | cons k' ks ih =>
    rw [List.foldl_cons, ih, FlatMap.find?_erase]
    by_cases hk : k = k'
    · simp [hk]
    · simp [hk]

lemma linked_update_iff {sessions : ℕ → Option UpPduSessionContext} {p : ℕ} {session : UpPduSessionContext}
    {ctx : UpContext} :
    Linked (Function.update sessions p (some session)) ctx ↔ LinkedWith sessions p session ctx := by
  have hdrb : ∀ d q, (∃ s, Function.update sessions p (some session) q = some s ∧ s.drbs.contains d = true) ↔
      q = p ∧ session.drbs.contains d = true ∨ q ≠ p ∧ ∃ s, sessions q = some s ∧ s.drbs.contains d = true := by
    intro d q
    by_cases hq : q = p
    · subst hq
      simp
    · simp [hq]
  have hflow : ∀ qfi d, (∃ q s, Function.update sessions p (some session) q = some s ∧ s.Carries qfi d) ↔
      session.Carries qfi d ∨ ∃ q s, q ≠ p ∧ sessions q = some s ∧ s.Carries qfi d := by
    intro qfi d
    constructor
    · rintro ⟨q, s, hs, hcarries⟩
      by_cases hq : q = p
      · subst hq
        rw [Function.update_self] at hs
        cases hs
        exact Or.inl hcarries
      · rw [Function.update_of_ne hq] at hs
        exact Or.inr ⟨q, s, hq, hs, hcarries⟩
    · rintro (hcarries | ⟨q, s, hq, hs, hcarries⟩)
      · exact ⟨p, session, by rw [Function.update_self], hcarries⟩
      · exact ⟨q, s, by rw [Function.update_of_ne hq, hs], hcarries⟩
  constructor
  · intro h
    refine ⟨h.id p session (by rw [Function.update_self]), fun q s hq hs => ?_, fun d q => (h.drb d q).trans (hdrb d q),
      fun qfi d => (h.flow qfi d).trans (hflow qfi d)⟩
    exact h.id q s (by rw [Function.update_of_ne hq, hs])
  · intro h
    refine ⟨fun q s hs => ?_, fun d q => (h.drb d q).trans (hdrb d q).symm,
      fun qfi d => (h.flow qfi d).trans (hflow qfi d).symm⟩
    by_cases hq : q = p
    · subst hq
      rw [Function.update_self] at hs
      cases hs
      exact h.id
    · rw [Function.update_of_ne hq] at hs
      exact h.others q s hq hs

lemma linkedWith_empty_iff {sessions : ℕ → Option UpPduSessionContext} {p : ℕ} {ctx : UpContext} :
    LinkedWith sessions p ⟨p, FlatMap.empty⟩ ctx ↔ Linked (Function.update sessions p none) ctx := by
  have hcarries : ∀ qfi d, ¬UpPduSessionContext.Carries ⟨p, FlatMap.empty⟩ qfi d := by
    rintro qfi d ⟨drb, hdrb, -⟩
    cases hdrb
  have hdrb : ∀ d q, (∃ s, Function.update sessions p none q = some s ∧ s.drbs.contains d = true) ↔
      q ≠ p ∧ ∃ s, sessions q = some s ∧ s.drbs.contains d = true := by
    intro d q
    by_cases hq : q = p
    · subst hq
      simp
    · simp [hq]
  have hflow : ∀ qfi d, (∃ q s, Function.update sessions p none q = some s ∧ s.Carries qfi d) ↔
      ∃ q s, q ≠ p ∧ sessions q = some s ∧ s.Carries qfi d := by
    intro qfi d
    apply exists_congr
    intro q
    by_cases hq : q = p
    · subst hq
      simp
    · simp [hq]
  constructor
  · rintro ⟨-, hothers, hdrbs, hflows⟩
    refine ⟨fun q s hs => ?_, fun d q => ?_, fun qfi d => ?_⟩
    · by_cases hq : q = p
      · subst hq
        rw [Function.update_self] at hs
        cases hs
      · rw [Function.update_of_ne hq] at hs
        exact hothers q s hq hs
    · rw [hdrbs, hdrb]
      simp
    · rw [hflows, hflow]
      simp [hcarries]
  · intro h
    refine ⟨rfl, fun q s hq hs => ?_, fun d q => ?_, fun qfi d => ?_⟩
    · exact h.id q s (by rw [Function.update_of_ne hq, hs])
    · rw [h.drb, hdrb]
      simp
    · rw [h.flow, hflow]
      simp [hcarries]

end Maps

lemma markDirty_ok {drbDirty : ℕ → Bool} {d : ℕ} (hd : 0 < d ∧ d ≤ MAX_NOF_DRBS) :
    markDirty drbDirty d = .ok fun i => decide (i = getDirtyDrbIndex d) || drbDirty i := by
  unfold markDirty
  rw [if_pos]
  refine ⟨hd.1, ?_⟩
  unfold getDirtyDrbIndex
  omega

lemma isFresh_not_used {ctx : UpContext} {used : List ℕ} (h : Marked ctx used) {d : ℕ} (hd : ctx.IsFresh d) :
    d ∉ used := by
  intro hmem
  have hdirty := h.dirty d hmem
  rw [hd.2.2.2] at hdirty
  cases hdirty

section Steps

variable {cfg : UpResourceManagerCfg} {sessions : ℕ → Option UpPduSessionContext} {p : ℕ}
  {session : UpPduSessionContext} {ctx : UpContext} {used : List ℕ} {drbs : List (ℕ × UpDrbContext)} {removals : ℕ}

lemma LinkedWith.find?_eq_none (h : LinkedWith sessions p session ctx) {d : ℕ} (hd : ctx.drbMap.find? d = none) :
    session.drbs.find? d = none := by
  by_contra hne
  obtain ⟨v, hv⟩ := Option.ne_none_iff_exists'.mp hne
  have hfind := (h.drb d p).mpr (Or.inl ⟨rfl, FlatMap.contains_iff.mpr ⟨v, hv⟩⟩)
  rw [hd] at hfind
  cases hfind

variable {drb : ℕ × UpDrbContext}

lemma carries_emplace (hnew : session.drbs.find? drb.1 = none) (qfi d : ℕ) :
    UpPduSessionContext.Carries { session with drbs := session.drbs.emplace drb.1 drb.2 } qfi d ↔
      session.Carries qfi d ∨ d = drb.1 ∧ drb.2.qosFlows.contains qfi = true := by
  unfold UpPduSessionContext.Carries
  dsimp only
  rw [FlatMap.find?_emplace hnew]
  by_cases hd : d = drb.1
  · subst hd
    simp [hnew]
  · simp [hd]

lemma linkedWith_add (h : LinkedWith sessions p session ctx)
    (hmap : ctx.drbMap.find? drb.1 = none) (hunmapped : ∀ qfi ∈ drb.2.qosFlows.keys, ctx.qosFlowMap.find? qfi = none)
    (drbDirty : ℕ → Bool) :
    LinkedWith sessions p { session with drbs := session.drbs.emplace drb.1 drb.2 }
      { ctx with
        drbMap := ctx.drbMap.emplace drb.1 session.id
        drbDirty
        qosFlowMap := drb.2.qosFlows.keys.foldl (fun m qfi => m.emplace qfi drb.1) ctx.qosFlowMap } := by
  have hnew := h.find?_eq_none hmap
  refine ⟨h.id, h.others, fun d q => ?_, fun qfi d => ?_⟩
  · dsimp only
    rw [FlatMap.find?_emplace hmap, FlatMap.contains_emplace hnew, h.id]
    by_cases hd : d = drb.1
    · subst hd
      have hold : ∀ q s, q ≠ p → sessions q = some s → s.drbs.contains drb.1 = false := by
        intro q s hq hs
        by_contra hne
        have hfind := (h.drb drb.1 q).mpr (Or.inr ⟨hq, s, hs, by simpa using hne⟩)
        rw [hmap] at hfind
        cases hfind
      constructor
      · intro hq
        rw [if_pos rfl, Option.some.injEq] at hq
        exact Or.inl ⟨hq.symm, by simp⟩
      · rintro (⟨rfl, -⟩ | ⟨hq, s, hs, hcontains⟩)
        · simp
        · rw [hold q s hq hs] at hcontains
          cases hcontains
    · simp only [hd, if_false, decide_false, Bool.false_or]
      exact h.drb d q
  · dsimp only
    rw [find?_foldl_emplace, carries_emplace hnew]
    by_cases hmem : qfi ∈ drb.2.qosFlows.keys
    · have hnone := hunmapped qfi hmem
      have hcontains := FlatMap.mem_keys_iff.mp hmem
      have hold : ¬(session.Carries qfi d ∨ ∃ q s, q ≠ p ∧ sessions q = some s ∧ s.Carries qfi d) := by
        rw [← h.flow, hnone]
        simp
      rw [not_or] at hold
      simp only [hnone, hmem, if_true, Option.none_or, hold.1, hold.2, hcontains, and_true, false_or, or_false,
        Option.some.injEq]
      exact eq_comm
    · have hcontains : ¬(d = drb.1 ∧ drb.2.qosFlows.contains qfi = true) := fun hc =>
        hmem (FlatMap.mem_keys_iff.mpr hc.2)
      rw [if_neg hmem, Option.or_none, h.flow qfi d]
      simp only [hcontains, or_false]

lemma addDrb_ok (hlinked : LinkedWith sessions p session ctx) (h : Progress cfg used (drb :: drbs) removals ctx) :
    Yields (addDrb (session, ctx) drb) (fun s => LinkedWith sessions p s.1 s.2 ∧
      Progress cfg (used ++ [drb.1]) drbs removals s.2 ∧ s.2.pduSessions = ctx.pduSessions ∧
      ∀ d, session.drbs.contains d = true → s.1.drbs.contains d = true) fun _ => False := by
  obtain ⟨hroom, hmarked⟩ := h
  have hfresh := hroom.fresh drb List.mem_cons_self
  obtain ⟨hpos, hle, hmap, -⟩ := hroom.fresh drb List.mem_cons_self
  have hnew := hlinked.find?_eq_none hmap
  have hunmapped := hroom.unmapped drb List.mem_cons_self
  obtain ⟨hids, hidsRest⟩ := List.nodup_cons.mp hroom.ids
  have hflows := hroom.flows
  rw [List.flatMap_cons, List.nodup_append] at hflows
  unfold addDrb
  rw [markDirty_ok ⟨hpos, hle⟩]
  refine ⟨linkedWith_add hlinked hmap hunmapped _, ⟨⟨hidsRest, fun drb' hmem => ?_, hflows.2.1,
    fun drb' hmem qfi hqfi => ?_, ?_⟩, ⟨?_, fun d hd => ?_, fun d hd => ?_⟩⟩, rfl, fun d hd => ?_⟩
  · obtain ⟨hpos', hle', hmap', hclean'⟩ := hroom.fresh drb' (List.mem_cons_of_mem _ hmem)
    have hne : drb'.1 ≠ drb.1 := fun heq => hids (heq ▸ List.mem_map_of_mem hmem)
    refine ⟨hpos', hle', ?_, ?_⟩
    · dsimp only
      rw [FlatMap.find?_emplace hmap, if_neg hne, hmap']
    · have hidx : getDirtyDrbIndex drb'.1 ≠ getDirtyDrbIndex drb.1 := by
        unfold getDirtyDrbIndex
        omega
      simp [hidx, hclean']
  · have hnot : qfi ∉ drb.2.qosFlows.keys := fun hq =>
      hflows.2.2 qfi hq qfi (List.mem_flatMap.mpr ⟨drb', hmem, hqfi⟩) rfl
    dsimp only
    rw [find?_foldl_emplace, hroom.unmapped drb' (List.mem_cons_of_mem _ hmem) qfi hqfi, if_neg hnot]
    rfl
  · have hlimit := hroom.limit
    dsimp only
    rw [FlatMap.size_emplace hmap]
    rw [List.length_cons] at hlimit
    omega
  · refine hmarked.nodup.append (List.nodup_singleton _) fun d hd hmem => ?_
    rw [List.mem_singleton.mp hmem] at hd
    exact isFresh_not_used hmarked hfresh hd
  · rcases List.mem_append.mp hd with hd | hd
    · simp [hmarked.dirty d hd]
    · simp [List.mem_singleton.mp hd]
  · dsimp only at hd
    rw [FlatMap.contains_emplace hmap] at hd
    rcases (Bool.or_eq_true _ _).mp hd with hd | hd
    · rw [of_decide_eq_true hd]
      exact ⟨hpos, hle⟩
    · exact hmarked.valid d hd
  · rw [FlatMap.contains_emplace hnew, hd, Bool.or_true]

lemma linkedWith_drop (h : LinkedWith sessions p session ctx) {d : ℕ} {drb : UpDrbContext}
    (hdrb : session.drbs.find? d = some drb) :
    LinkedWith sessions p { session with drbs := session.drbs.erase d } (dropDrb ctx d drb) := by
  have hmap : ctx.drbMap.find? d = some p := (h.drb d p).mpr (Or.inl ⟨rfl, FlatMap.contains_iff.mpr ⟨drb, hdrb⟩⟩)
  have hhere : ∀ q s, q ≠ p → sessions q = some s → s.drbs.contains d = false := by
    intro q s hq hs
    by_contra hne
    have hfind := (h.drb d q).mpr (Or.inr ⟨hq, s, hs, by simpa using hne⟩)
    rw [hmap] at hfind
    exact hq (Option.some.inj hfind).symm
  have hof : ∀ qfi, drb.qosFlows.contains qfi = true → ctx.qosFlowMap.find? qfi = some d := fun qfi hqfi =>
    (h.flow qfi d).mpr (Or.inl ⟨drb, hdrb, hqfi⟩)
  refine ⟨h.id, h.others, fun d' q => ?_, fun qfi d' => ?_⟩
  · unfold dropDrb
    dsimp only
    rw [FlatMap.find?_erase, FlatMap.contains_erase]
    by_cases hd : d' = d
    · subst hd
      simp only [if_true, ne_eq, not_true_eq_false, decide_false, Bool.false_and, Bool.false_eq_true, and_false,
        false_or, reduceCtorEq, false_iff, not_and, not_exists]
      intro hq s hs
      rw [hhere q s hq hs]
      exact Bool.false_ne_true
    · simp only [hd, if_false, ne_eq, not_false_eq_true, decide_true, Bool.true_and]
      exact h.drb d' q
  · have hcarries : UpPduSessionContext.Carries { session with drbs := session.drbs.erase d } qfi d' ↔
        d' ≠ d ∧ session.Carries qfi d' := by
      unfold UpPduSessionContext.Carries
      dsimp only
      rw [FlatMap.find?_erase]
      by_cases hd : d' = d
      · simp [hd]
      · simp [hd]
    unfold dropDrb
    dsimp only
    rw [find?_foldl_erase, hcarries]
    by_cases hmem : qfi ∈ drb.qosFlows.keys
    · -- the flow was mapped to the DRB that is dropped, and nothing else carries it
      have hmapped := hof qfi (FlatMap.mem_keys_iff.mp hmem)
      rw [if_pos hmem]
      constructor
      · intro hnone
        cases hnone
      · intro hor
        have hd : d' ≠ d := by
          rintro rfl
          rcases hor with ⟨hne, -⟩ | ⟨q, s, hq, hs, drb', hdrb', -⟩
          · exact hne rfl
          · have hcontains := hhere q s hq hs
            rw [FlatMap.contains_iff.mpr ⟨drb', hdrb'⟩] at hcontains
            cases hcontains
        have hfind := (h.flow qfi d').mpr (hor.imp_left And.right)
        rw [hmapped] at hfind
        exact absurd (Option.some.inj hfind).symm hd
    · rw [if_neg hmem, h.flow qfi d']
      apply or_congr_left
      constructor
      · intro hc
        refine ⟨?_, hc⟩
        rintro rfl
        obtain ⟨drb', hdrb', hqfi⟩ := hc
        rw [hdrb] at hdrb'
        cases hdrb'
        exact hmem (FlatMap.mem_keys_iff.mpr hqfi)
      · exact And.right

lemma progress_drop {d : ℕ} (hd : ctx.drbMap.contains d = true) (drb : UpDrbContext)
    (h : Progress cfg used drbs (removals + 1) ctx) : Progress cfg used drbs removals (dropDrb ctx d drb) := by
  obtain ⟨hroom, hmarked⟩ := h
  obtain ⟨p, hp⟩ := FlatMap.contains_iff.mp hd
  have herase : ∀ {α : Type} {m : FlatMap α} {k k' : ℕ}, m.find? k = none → (m.erase k').find? k = none := by
    intro α m k k' hk
    rw [FlatMap.find?_erase, hk]
    exact ite_self none
  refine ⟨⟨hroom.ids, fun drb' hmem => ?_, hroom.flows, fun drb' hmem qfi hqfi => ?_, ?_⟩,
    ⟨hmarked.nodup, hmarked.dirty, fun d' hd' => ?_⟩⟩
  · obtain ⟨hpos, hle, hmap, hclean⟩ := hroom.fresh drb' hmem
    exact ⟨hpos, hle, herase hmap, hclean⟩
  · unfold dropDrb
    dsimp only
    rw [find?_foldl_erase, hroom.unmapped drb' hmem qfi hqfi]
    exact ite_self none
  · have hlimit := hroom.limit
    have hsize := FlatMap.size_erase hp
    unfold dropDrb
    dsimp only
    omega
  · unfold dropDrb at hd'
    dsimp only at hd'
    rw [FlatMap.contains_erase, Bool.and_eq_true] at hd'
    exact hmarked.valid d' hd'.2

lemma applyUpdateForNewDrbs_ok {new : List (ℕ × UpDrbContext)} (hlinked : LinkedWith sessions p session ctx)
    (h : Progress cfg used (new ++ drbs) removals ctx) :
    Yields (new.foldlM addDrb (session, ctx)) (fun s => LinkedWith sessions p s.1 s.2 ∧
      Progress cfg (used ++ new.map Prod.fst) drbs removals s.2 ∧ s.2.pduSessions = ctx.pduSessions ∧
      ∀ d, session.drbs.contains d = true → s.1.drbs.contains d = true) fun _ => False := by
  induction new generalizing session ctx used with
  | nil => exact ⟨hlinked, by simpa using h, rfl, fun d hd => hd⟩
  | cons drb new ih =>
    rw [List.foldlM_cons]
    apply yields_bind (addDrb_ok hlinked h)
    rintro ⟨session', ctx'⟩ ⟨hlinked', h', hsessions, hkept⟩
    apply (ih hlinked' h').post
    rintro s ⟨hlinked'', h'', hsessions', hkept'⟩
    rw [List.append_assoc] at h''
    exact ⟨hlinked'', h'', hsessions'.trans hsessions, fun d hd => hkept' d (hkept d hd)⟩

lemma removeDrb_ok {d : ℕ} (hlinked : LinkedWith sessions p session ctx) (hd : session.drbs.contains d = true)
    (h : Progress cfg used drbs (removals + 1) ctx) :
    Yields (removeDrb (session, ctx) d) (fun s => LinkedWith sessions p s.1 s.2 ∧
      Progress cfg used drbs removals s.2 ∧ s.2.pduSessions = ctx.pduSessions ∧
      ∀ d', d' ≠ d → session.drbs.contains d' = true → s.1.drbs.contains d' = true) fun _ => False := by
  obtain ⟨drb, hdrb⟩ := FlatMap.contains_iff.mp hd
  have hmap : ctx.drbMap.contains d = true :=
    FlatMap.contains_iff.mpr ⟨p, (hlinked.drb d p).mpr (Or.inl ⟨rfl, hd⟩)⟩
  unfold removeDrb
  dsimp only
  rw [hdrb]
  refine ⟨linkedWith_drop hlinked hdrb, progress_drop hmap drb h, rfl, fun d' hne hd' => ?_⟩
  rw [FlatMap.contains_erase, hd', Bool.and_true]
  exact decide_eq_true hne

lemma applyUpdateForRemovedDrbs_ok {old : List ℕ} (hlinked : LinkedWith sessions p session ctx) (hnodup : old.Nodup)
    (hold : ∀ d ∈ old, session.drbs.contains d = true) (h : Progress cfg used drbs (old.length + removals) ctx) :
    Yields (old.foldlM removeDrb (session, ctx)) (fun s => LinkedWith sessions p s.1 s.2 ∧
      Progress cfg used drbs removals s.2 ∧ s.2.pduSessions = ctx.pduSessions) fun _ => False := by
  induction old generalizing session ctx with
  | nil => exact ⟨hlinked, by simpa using h, rfl⟩
  | cons d old ih =>
    obtain ⟨hd, hnodup⟩ := List.nodup_cons.mp hnodup
    rw [List.foldlM_cons]
    have hcount : (d :: old).length + removals = old.length + removals + 1 := by
      rw [List.length_cons]
      omega
    rw [hcount] at h
    apply yields_bind (removeDrb_ok hlinked (hold d List.mem_cons_self) h)
    rintro ⟨session', ctx'⟩ ⟨hlinked', h', hsessions, hkept⟩
    have hold' : ∀ d' ∈ old, session'.drbs.contains d' = true := fun d' hd' =>
      hkept d' (fun heq => hd (heq ▸ hd')) (hold d' (List.mem_cons_of_mem _ hd'))
    apply (ih hlinked' hnodup hold' h').post
    rintro s ⟨hlinked'', h'', hsessions'⟩
    exact ⟨hlinked'', h'', hsessions'.trans hsessions⟩

lemma Progress.mono (h : Progress cfg used drbs removals ctx) {removals' : ℕ} (hle : removals ≤ removals') :
    Progress cfg used drbs removals' ctx := by
  have hlimit := h.room.limit
  exact ⟨{ h.room with limit := by omega }, h.marked⟩

lemma dropDrbs_ok {es : List (ℕ × UpDrbContext)} (hes : session.drbs.entries = es)
    (hlinked : LinkedWith sessions p session ctx) (h : Progress cfg used drbs removals ctx) :
    Linked (Function.update sessions p none) (es.foldl (fun ctx drb => dropDrb ctx drb.1 drb.2) ctx) ∧
      Progress cfg used drbs removals (es.foldl (fun ctx drb => dropDrb ctx drb.1 drb.2) ctx) ∧
      (es.foldl (fun ctx drb => dropDrb ctx drb.1 drb.2) ctx).pduSessions = ctx.pduSessions := by
  induction es generalizing session ctx with
  | nil =>
    have hsession : session = ⟨p, FlatMap.empty⟩ := by
      obtain ⟨id, entries, hs⟩ := session
      cases hes
      cases hlinked.id
      rfl
    rw [hsession] at hlinked
    exact ⟨linkedWith_empty_iff.mp hlinked, h, rfl⟩
  | cons e es ih =>
    have hfind : session.drbs.find? e.1 = some e.2 := by
      rw [FlatMap.find?_eq_some_iff, hes]
      exact List.mem_cons_self
    have hmap : ctx.drbMap.contains e.1 = true :=
      FlatMap.contains_iff.mpr ⟨p, (hlinked.drb e.1 p).mpr (Or.inl ⟨rfl, FlatMap.contains_iff.mpr ⟨e.2, hfind⟩⟩)⟩
    have hrest : (session.drbs.erase e.1).entries = es := by
      have hsorted := session.drbs.sorted
      rw [hes, List.pairwise_cons] at hsorted
      unfold FlatMap.erase
      dsimp only
      rw [hes, List.filter_cons_of_neg (by simp), List.filter_eq_self]
      intro a ha
      have := hsorted.1 a ha
      simp only [decide_eq_true_eq]
      omega
    have hlinked' := linkedWith_drop hlinked hfind
    exact ih hrest hlinked' (progress_drop hmap e.2 (h.mono (Nat.le_succ removals)))

end Steps

section Sessions

variable {cfg : UpResourceManagerCfg} {ctx : UpContext} {used : List ℕ} {drbs : List (ℕ × UpDrbContext)}
  {removals : ℕ}

structure Applying (cfg : UpResourceManagerCfg) (used : List ℕ) (drbs : List (ℕ × UpDrbContext)) (removals : ℕ)
    (ctx : UpContext) : Prop where
  linked : Linked ctx.pduSessions.find? ctx
  progress : Progress cfg used drbs removals ctx

lemma applying_store {sessions : ℕ → Option UpPduSessionContext} (hlinked : Linked sessions ctx)
    (h : Progress cfg used drbs removals ctx) {table : FlatMap UpPduSessionContext} (htable : table.find? = sessions) :
    Applying cfg used drbs removals { ctx with pduSessions := table } := by
  subst htable
  obtain ⟨hroom, hmarked⟩ := h
  exact ⟨⟨hlinked.id, hlinked.drb, hlinked.flow⟩,
    ⟨⟨hroom.ids, hroom.fresh, hroom.flows, hroom.unmapped, hroom.limit⟩,
      ⟨hmarked.nodup, hmarked.dirty, hmarked.valid⟩⟩⟩

lemma applyAddedSession_ok {session : UpPduSessionContextUpdate} (hnew : ctx.pduSessions.find? session.id = none)
    (h : Applying cfg used (session.drbToAdd.entries ++ drbs) removals ctx) :
    Yields (applyAddedSession ctx session) (fun ctx' =>
      Applying cfg (used ++ session.drbToAdd.keys) drbs removals ctx' ∧
      ∃ stored, ctx'.pduSessions.find? = Function.update ctx.pduSessions.find? session.id (some stored))
      fun _ => False := by
  have hlinked : LinkedWith ctx.pduSessions.find? session.id ⟨session.id, FlatMap.empty⟩ ctx := by
    apply linkedWith_empty_iff.mpr
    rw [← hnew, Function.update_eq_self]
    exact h.linked
  have hdrbs := applyUpdateForNewDrbs_ok hlinked h.progress
  unfold applyAddedSession applyUpdateForNewDrbs
  cases hres : session.drbToAdd.entries.foldlM addDrb (⟨session.id, FlatMap.empty⟩, ctx) with
  | error e => exact (hdrbs.of_error hres).elim
  | ok s =>
    obtain ⟨hlinked', hprogress, hsessions, -⟩ := hdrbs.of_ok hres
    have htable : (s.2.pduSessions.emplace s.1.id s.1).find? =
        Function.update ctx.pduSessions.find? session.id (some s.1) := by
      rw [hlinked'.id, hsessions]
      exact FlatMap.find?_emplace_eq_update hnew s.1
    exact ⟨applying_store (linked_update_iff.mpr hlinked') hprogress htable, s.1, htable⟩

lemma applyModifiedSession_ok {modSession : UpPduSessionContextUpdate} {session : UpPduSessionContext}
    (hsession : ctx.pduSessions.find? modSession.id = some session) (hnodup : modSession.drbToRemove.Nodup)
    (hremove : ∀ d ∈ modSession.drbToRemove, session.drbs.contains d = true)
    (h : Applying cfg used (modSession.drbToAdd.entries ++ drbs) (modSession.drbToRemove.length + removals) ctx) :
    Yields (applyModifiedSession ctx modSession) (fun ctx' =>
      Applying cfg (used ++ modSession.drbToAdd.keys) drbs removals ctx' ∧
      ∃ stored, ctx'.pduSessions.find? = Function.update ctx.pduSessions.find? modSession.id (some stored))
      fun _ => False := by
  have hlinked : LinkedWith ctx.pduSessions.find? modSession.id session ctx := by
    apply linked_update_iff.mp
    rw [← hsession, Function.update_eq_self]
    exact h.linked
  unfold applyModifiedSession
  rw [hsession]
  apply yields_bind (applyUpdateForNewDrbs_ok hlinked h.progress)
  rintro ⟨session', ctx'⟩ ⟨hlinked', hprogress, hsessions, hkept⟩
  apply yields_bind (applyUpdateForRemovedDrbs_ok hlinked' hnodup (fun d hd => hkept d (hremove d hd)) hprogress)
  rintro s ⟨hlinked'', hprogress', hsessions'⟩
  have hsame : s.2.pduSessions = ctx.pduSessions := hsessions'.trans hsessions
  have htable : (s.2.pduSessions.modify modSession.id fun _ => s.1).find? =
      Function.update ctx.pduSessions.find? modSession.id (some s.1) := by
    rw [hsame]
    exact FlatMap.find?_modify_eq_update hsession fun _ => s.1
  exact ⟨applying_store (linked_update_iff.mpr hlinked'') hprogress' htable, s.1, htable⟩

lemma applyRemovedSession_ok {id : ℕ} (hid : ctx.pduSessions.contains id = true)
    (h : Applying cfg used drbs removals ctx) :
    Yields (applyRemovedSession ctx id) (fun ctx' => Applying cfg used drbs removals ctx' ∧
      ctx'.pduSessions.find? = Function.update ctx.pduSessions.find? id none) fun _ => False := by
  obtain ⟨session, hsession⟩ := FlatMap.contains_iff.mp hid
  have hlinked : LinkedWith ctx.pduSessions.find? id session ctx := by
    apply linked_update_iff.mp
    rw [← hsession, Function.update_eq_self]
    exact h.linked
  obtain ⟨hall, hprogress, hsessions⟩ := dropDrbs_ok rfl hlinked h.progress
  unfold applyRemovedSession
  rw [hsession]
  have htable : ((session.drbs.entries.foldl (fun ctx drb => dropDrb ctx drb.1 drb.2) ctx).pduSessions.erase id).find? =
      Function.update ctx.pduSessions.find? id none := by
    rw [hsessions]
    exact FlatMap.find?_erase_eq_update ctx.pduSessions id
  exact ⟨applying_store hall hprogress htable, htable⟩

end Sessions

end OwlsRan.CuCp
