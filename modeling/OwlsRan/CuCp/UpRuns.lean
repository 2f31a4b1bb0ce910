import Mathlib.Data.List.Pairwise
import OwlsRan.CuCp.UpConsistency

/-!
# Runs of requests

The context stays consistent in every run in which the DRBs fit in, a QFI is used by one session at a time, and a session
releases flows of its own only.
-/

namespace OwlsRan.CuCp

open Lib Adt

/-- Some of the sessions of an update, each with some of the DRBs to add and to remove. -/
structure IsPart (sessions updates : List UpPduSessionContextUpdate) : Prop where
  distinct : (sessions.map UpPduSessionContextUpdate.id).Nodup
  part : ∀ session ∈ sessions, ∃ update ∈ updates, update.id = session.id ∧
    session.drbToAdd.entries ⊆ update.drbToAdd.entries ∧ session.drbToRemove.Sublist update.drbToRemove

structure PartOf (result : UpConfigUpdateResult) (u : UpConfigUpdate) : Prop where
  added : IsPart result.pduSessionsAddedList u.setupSessions
  modified : IsPart result.pduSessionsModifiedList u.modifySessions
  removed : result.pduSessionsRemovedList.Nodup
  removes : result.pduSessionsRemovedList ⊆ u.pduSessionsToRemoveList

def UpConfigUpdateResult.nofRemovals (result : UpConfigUpdateResult) : ℕ :=
  (result.pduSessionsModifiedList.map fun session => session.drbToRemove.length).sum

section Application

variable {cfg : UpResourceManagerCfg} {ctx : UpContext} {used : List ℕ} {drbs : List (ℕ × UpDrbContext)}
  {removals : ℕ}

lemma newDrbs_cons (session : UpPduSessionContextUpdate) (sessions : List UpPduSessionContextUpdate) :
    newDrbs (session :: sessions) = session.drbToAdd.entries ++ newDrbs sessions := rfl

lemma newDrbs_append (sessions sessions' : List UpPduSessionContextUpdate) :
    newDrbs (sessions ++ sessions') = newDrbs sessions ++ newDrbs sessions' :=
  List.flatMap_append

variable {sessions : List UpPduSessionContextUpdate}

lemma applyAddedSessions_ok (hdistinct : (sessions.map UpPduSessionContextUpdate.id).Nodup)
    (hnew : ∀ session ∈ sessions, ctx.pduSessions.find? session.id = none)
    (h : Applying cfg used (newDrbs sessions ++ drbs) removals ctx) :
    Yields (sessions.foldlM applyAddedSession ctx) (fun ctx' =>
      Applying cfg (used ++ (newDrbs sessions).map Prod.fst) drbs removals ctx' ∧
      ∀ p, (∀ session ∈ sessions, session.id ≠ p) → ctx'.pduSessions.find? p = ctx.pduSessions.find? p)
      fun _ => False := by
  induction sessions generalizing ctx used with
  | nil => exact ⟨by simpa [newDrbs] using h, fun p _ => rfl⟩
  | cons session sessions ih =>
    rw [List.map_cons] at hdistinct
    obtain ⟨hid, hdistinct⟩ := List.nodup_cons.mp hdistinct
    rw [newDrbs_cons, List.append_assoc] at h
    rw [List.foldlM_cons]
    apply yields_bind (applyAddedSession_ok (hnew session List.mem_cons_self) h)
    rintro ctx' ⟨h', stored, htable⟩
    have hnew' : ∀ s ∈ sessions, ctx'.pduSessions.find? s.id = none := by
      intro s hs
      have hne : s.id ≠ session.id := fun heq => hid (heq ▸ List.mem_map_of_mem hs)
      rw [htable, Function.update_of_ne hne]
      exact hnew s (List.mem_cons_of_mem _ hs)
    apply (ih hdistinct hnew' h').post
    rintro ctx'' ⟨h'', hothers⟩
    refine ⟨?_, fun p hp => ?_⟩
    · rw [newDrbs_cons, List.map_append, ← List.append_assoc]
      exact h''
    · rw [hothers p fun s hs => hp s (List.mem_cons_of_mem _ hs), htable,
        Function.update_of_ne (hp session List.mem_cons_self).symm]

lemma applyModifiedSessions_ok (hdistinct : (sessions.map UpPduSessionContextUpdate.id).Nodup)
    (hstored : ∀ session ∈ sessions, ∃ stored, ctx.pduSessions.find? session.id = some stored ∧
      session.drbToRemove.Nodup ∧ ∀ d ∈ session.drbToRemove, stored.drbs.contains d = true)
    (h : Applying cfg used (newDrbs sessions ++ drbs)
      ((sessions.map fun session => session.drbToRemove.length).sum + removals) ctx) :
    Yields (sessions.foldlM applyModifiedSession ctx) (fun ctx' =>
      Applying cfg (used ++ (newDrbs sessions).map Prod.fst) drbs removals ctx' ∧
      ∀ p, ctx.pduSessions.contains p = true → ctx'.pduSessions.contains p = true)
      fun _ => False := by
  induction sessions generalizing ctx used with
  | nil => exact ⟨by simpa [newDrbs] using h, fun p hp => hp⟩
  | cons session sessions ih =>
    rw [List.map_cons] at hdistinct
    obtain ⟨hid, hdistinct⟩ := List.nodup_cons.mp hdistinct
    rw [newDrbs_cons, List.append_assoc, List.map_cons, List.sum_cons, Nat.add_assoc] at h
    obtain ⟨stored, hfind, hnodup, hremove⟩ := hstored session List.mem_cons_self
    rw [List.foldlM_cons]
    apply yields_bind (applyModifiedSession_ok hfind hnodup hremove h)
    rintro ctx' ⟨h', stored', htable⟩
    have hstored' : ∀ s ∈ sessions, ∃ stored, ctx'.pduSessions.find? s.id = some stored ∧ s.drbToRemove.Nodup ∧
        ∀ d ∈ s.drbToRemove, stored.drbs.contains d = true := by
      intro s hs
      have hne : s.id ≠ session.id := fun heq => hid (heq ▸ List.mem_map_of_mem hs)
      rw [htable, Function.update_of_ne hne]
      exact hstored s (List.mem_cons_of_mem _ hs)
    apply (ih hdistinct hstored' h').post
    rintro ctx'' ⟨h'', hkept⟩
    refine ⟨?_, fun p hp => hkept p ?_⟩
    · rw [newDrbs_cons, List.map_append, ← List.append_assoc]
      exact h''
    · unfold FlatMap.contains at hp ⊢
      rw [htable, Function.update_apply]
      split
      case isTrue => rfl
      case isFalse => exact hp

lemma applyRemovedSessions_ok {ids : List ℕ} (hnodup : ids.Nodup)
    (hstored : ∀ id ∈ ids, ctx.pduSessions.contains id = true) (h : Applying cfg used drbs removals ctx) :
    Yields (ids.foldlM applyRemovedSession ctx) (Applying cfg used drbs removals) fun _ => False := by
  induction ids generalizing ctx with
  | nil => exact h
  | cons id ids ih =>
    obtain ⟨hid, hnodup⟩ := List.nodup_cons.mp hnodup
    rw [List.foldlM_cons]
    apply yields_bind (applyRemovedSession_ok (hstored id List.mem_cons_self) h)
    rintro ctx' ⟨h', htable⟩
    apply ih hnodup _ h'
    intro q hq
    have hne : q ≠ id := fun heq => hid (heq ▸ hq)
    unfold FlatMap.contains
    rw [htable, Function.update_of_ne hne]
    exact hstored q (List.mem_cons_of_mem _ hq)

lemma IsPart.assigned {updates : List UpPduSessionContextUpdate} (h : IsPart sessions updates)
    (hassigned : Assigned ctx ((newDrbs updates).map Prod.fst)) : Assigned ctx ((newDrbs sessions).map Prod.fst) := by
  have hkeys : ∀ l : List UpPduSessionContextUpdate, (newDrbs l).map Prod.fst = l.flatMap fun s => s.drbToAdd.keys :=
    fun l => List.map_flatMap
  rw [hkeys] at hassigned ⊢
  obtain ⟨-, hpairwise⟩ := List.nodup_flatMap.mp hassigned.nodup
  have hpart : ∀ s ∈ sessions, ∃ u ∈ updates, u.id = s.id ∧ s.drbToAdd.keys ⊆ u.drbToAdd.keys := by
    intro s hs
    obtain ⟨u, hu, hid, hsub, -⟩ := h.part s hs
    exact ⟨u, hu, hid, List.map_subset Prod.fst hsub⟩
  refine ⟨List.nodup_flatMap.mpr ⟨fun s _ => s.drbToAdd.keys_nodup, ?_⟩, fun d hd => ?_⟩
  · have hids : sessions.Pairwise fun a b => a.id ≠ b.id := List.pairwise_map.mp h.distinct
    apply hids.imp_of_mem
    intro a b ha hb hne
    obtain ⟨u, hu, hua, hsubA⟩ := hpart a ha
    obtain ⟨v, hv, hvb, hsubB⟩ := hpart b hb
    have huv : u ≠ v := by
      rintro rfl
      exact hne (hua.symm.trans hvb)
    have hsymm : Std.Symm (Function.onFun List.Disjoint fun s : UpPduSessionContextUpdate => s.drbToAdd.keys) :=
      ⟨fun _ _ hxy _ ha hb => hxy hb ha⟩
    have hdisjoint : List.Disjoint u.drbToAdd.keys v.drbToAdd.keys := hpairwise.forall hu hv huv
    exact fun d hda hdb => hdisjoint (hsubA hda) (hsubB hdb)
  · obtain ⟨s, hs, hds⟩ := List.mem_flatMap.mp hd
    obtain ⟨u, hu, -, hsub⟩ := hpart s hs
    exact hassigned.fresh d (List.mem_flatMap.mpr ⟨u, hu, hsub hds⟩)

lemma applyConfigUpdate_ok {u : UpConfigUpdate} (hu : Calculated ctx u) {result : UpConfigUpdateResult}
    (hpart : PartOf result u) (hlinked : Linked ctx.pduSessions.find? ctx) (hmarked : Marked ctx used)
    (hflows : (result.newDrbs.flatMap fun drb => drb.2.qosFlows.keys).Nodup)
    (hunmapped : ∀ drb ∈ result.newDrbs, ∀ qfi ∈ drb.2.qosFlows.keys, ctx.qosFlowMap.find? qfi = none)
    (hlimit : ctx.drbMap.size + result.newDrbs.length ≤ cfg.maxNofDrbsPerUe + result.nofRemovals) :
    Yields (applyConfigUpdate ctx result) (Applying cfg (used ++ result.newDrbs.map Prod.fst) [] 0)
      fun _ => False := by
  have hsource : ∀ s ∈ result.pduSessionsAddedList, ctx.pduSessions.find? s.id = none := by
    intro s hs
    obtain ⟨update, hupdate, hid, -⟩ := hpart.added.part s hs
    obtain ⟨e, he, rfl⟩ := List.mem_map.mp hupdate
    obtain ⟨heq, hnone⟩ := hu.setup e he
    rw [← hid, heq]
    exact hnone
  have hstored : ∀ s ∈ result.pduSessionsModifiedList, ∃ stored, ctx.pduSessions.find? s.id = some stored ∧
      s.drbToRemove.Nodup ∧ ∀ d ∈ s.drbToRemove, stored.drbs.contains d = true := by
    intro s hs
    obtain ⟨update, hupdate, hid, -, hsub⟩ := hpart.modified.part s hs
    obtain ⟨e, he, rfl⟩ := List.mem_map.mp hupdate
    obtain ⟨heq, stored, hfind, hnodup, hremove⟩ := hu.modify e he
    refine ⟨stored, ?_, hnodup.sublist hsub, fun d hd => hremove d (hsub.subset hd)⟩
    rw [← hid, heq]
    exact hfind
  -- the two lists are a part of all sessions of the update
  have hall : IsPart (result.pduSessionsAddedList ++ result.pduSessionsModifiedList)
      (u.setupSessions ++ u.modifySessions) := by
    refine ⟨?_, fun s hs => ?_⟩
    · rw [List.map_append]
      refine hpart.added.distinct.append hpart.modified.distinct fun id hadded hmodified => ?_
      obtain ⟨a, ha, rfl⟩ := List.mem_map.mp hadded
      obtain ⟨b, hb, hba⟩ := List.mem_map.mp hmodified
      obtain ⟨stored, hfind, -⟩ := hstored b hb
      rw [hba, hsource a ha] at hfind
      cases hfind
    · rcases List.mem_append.mp hs with hs | hs
      · obtain ⟨update, hupdate, hrest⟩ := hpart.added.part s hs
        exact ⟨update, List.mem_append_left _ hupdate, hrest⟩
      · obtain ⟨update, hupdate, hrest⟩ := hpart.modified.part s hs
        exact ⟨update, List.mem_append_right _ hupdate, hrest⟩
  have hassigned := hall.assigned hu.assigned
  have hnew : result.newDrbs = newDrbs result.pduSessionsAddedList ++ (newDrbs result.pduSessionsModifiedList ++ []) := by
    rw [List.append_nil]
    exact newDrbs_append _ _
  have hstart : Applying cfg used result.newDrbs (result.nofRemovals + 0) ctx :=
    ⟨hlinked, ⟨hassigned.nodup, fun drb hdrb => hassigned.fresh drb.1 (List.mem_map_of_mem hdrb), hflows, hunmapped,
      hlimit⟩, hmarked⟩
  rw [hnew] at hstart
  unfold applyConfigUpdate
  apply yields_bind (applyAddedSessions_ok hpart.added.distinct hsource hstart)
  rintro ctx₁ ⟨h₁, hothers⟩
  have hkept : ∀ p, ctx.pduSessions.contains p = true → ctx₁.pduSessions.find? p = ctx.pduSessions.find? p := by
    intro p hp
    apply hothers
    rintro s hs rfl
    rw [FlatMap.contains, hsource s hs] at hp
    cases hp
  have hstored₁ : ∀ s ∈ result.pduSessionsModifiedList, ∃ stored, ctx₁.pduSessions.find? s.id = some stored ∧
      s.drbToRemove.Nodup ∧ ∀ d ∈ s.drbToRemove, stored.drbs.contains d = true := by
    intro s hs
    obtain ⟨stored, hfind, hrest⟩ := hstored s hs
    exact ⟨stored, (hkept s.id (FlatMap.contains_iff.mpr ⟨stored, hfind⟩)).trans hfind, hrest⟩
  apply yields_bind (applyModifiedSessions_ok hpart.modified.distinct hstored₁ h₁)
  rintro ctx₂ ⟨h₂, hkept₂⟩
  rw [List.append_assoc, ← List.map_append] at h₂
  rw [List.append_nil] at hnew
  rw [hnew]
  refine applyRemovedSessions_ok hpart.removed (fun id hid => hkept₂ id ?_) h₂
  have hcontains := hu.remove.2 id (hpart.removes hid)
  unfold FlatMap.contains at hcontains ⊢
  rw [hkept id hcontains, hcontains]

end Application

section Runs

variable (cfg : UpResourceManagerCfg)

def UpResourceManager.validateRequest (s : UpResourceManager) : UpResourceManagerEvent → Bool
  | .setup items _ => isValidSetup cfg s.context items
  | .modify items _ => isValidModify cfg s.context items
  | .release items _ => isValidRelease s.context items
  | .refreshDrbIdAfterKeyChange => false

/-- The result that comes with an accepted request is a part of the update calculated for it. -/
def Delivered (s : UpResourceManager) (e : UpResourceManagerEvent) : Prop :=
  ∀ u, s.calculateUpdate cfg e = some (.ok u) → PartOf (UpResourceManager.result e) u

/-- The DRBs to add stay within the limit and carry QFIs that no flow has yet, and sessions release flows of their own. -/
structure Fits (s : UpResourceManager) (e : UpResourceManagerEvent) : Prop where
  limit : s.context.drbMap.size + (UpResourceManager.result e).newDrbs.length ≤
    cfg.maxNofDrbsPerUe + (UpResourceManager.result e).nofRemovals
  flows : ((UpResourceManager.result e).newDrbs.flatMap fun drb => drb.2.qosFlows.keys).Nodup
  unmapped : ∀ drb ∈ (UpResourceManager.result e).newDrbs, ∀ qfi ∈ drb.2.qosFlows.keys,
    s.context.qosFlowMap.find? qfi = none
  release : ∀ items result, e = .modify items result → ∀ item ∈ items.entries,
    ∀ qfi ∈ item.2.qosFlowToReleaseList.keys, s.context.HasFlow item.1 qfi

/-- The maps describe the stored sessions, the number of DRBs is within the limit, and between two key changes no DRB
identity is assigned twice. -/
structure Consistent (s : UpResourceManager) : Prop where
  linked : Linked s.context.pduSessions.find? s.context
  limit : s.context.drbMap.size ≤ cfg.maxNofDrbsPerUe
  once : s.used.Nodup

variable {cfg} {s : UpResourceManager}

lemma calculateUpdate_ok {e : UpResourceManagerEvent} {r : Except UpAbort UpConfigUpdate}
    (hr : s.calculateUpdate cfg e = some r) (hfits : s.validateRequest cfg e = true → Fits cfg s e) :
    Fits cfg s e ∧ Yields r (Calculated s.context) fun _ => False := by
  cases e with
  | setup items result =>
    change (if isValidSetup cfg s.context items then some _ else none) = some r at hr
    split at hr
    case isTrue hvalid =>
      cases hr
      exact ⟨hfits hvalid, calculateUpdateSetup_ok hvalid⟩
    case isFalse => cases hr
  | modify items result =>
    change (if isValidModify cfg s.context items then some _ else none) = some r at hr
    split at hr
    case isTrue hvalid =>
      cases hr
      exact ⟨hfits hvalid, calculateUpdateModify_ok hvalid ((hfits hvalid).release items result rfl)⟩
    case isFalse => cases hr
  | release items result =>
    change (if isValidRelease s.context items then some _ else none) = some r at hr
    split at hr
    case isTrue hvalid =>
      cases hr
      exact ⟨hfits hvalid, calculateUpdateRelease_ok hvalid⟩
    case isFalse => cases hr
  | refreshDrbIdAfterKeyChange => cases hr

lemma refreshDrbIdAfterKeyChange_ok (h : Applying cfg s.used [] 0 s.context) :
    Yields s.refreshDrbIdAfterKeyChange (fun s' => Applying cfg s'.used [] 0 s'.context) fun _ => False := by
  obtain ⟨hlinked, hroom, hmarked⟩ := h
  have hfold : ∀ (ds : List ℕ) (drbDirty : ℕ → Bool), (∀ d ∈ ds, 0 < d ∧ d ≤ MAX_NOF_DRBS) →
      Yields (ds.foldlM markDirty drbDirty) (fun drbDirty' => (∀ i, drbDirty i = true → drbDirty' i = true) ∧
        ∀ d ∈ ds, drbDirty' (getDirtyDrbIndex d) = true) fun _ => False := by
    intro ds
    induction ds with
    | nil => exact fun drbDirty _ => ⟨fun i hi => hi, fun d hd => nomatch hd⟩
    | cons d ds ih =>
      intro drbDirty hds
      rw [List.foldlM_cons, markDirty_ok (hds d List.mem_cons_self)]
      apply (ih _ fun d' hd' => hds d' (List.mem_cons_of_mem _ hd')).post
      rintro drbDirty' ⟨hmono, hall⟩
      refine ⟨fun i hi => hmono i (by simp [hi]), fun d' hd' => ?_⟩
      rcases List.mem_cons.mp hd' with rfl | hd'
      · exact hmono _ (by simp)
      · exact hall d' hd'
  have hdirty := hfold s.context.drbMap.keys (fun _ => false) fun d hd => hmarked.valid d (FlatMap.mem_keys_iff.mp hd)
  unfold UpResourceManager.refreshDrbIdAfterKeyChange
  cases hres : s.context.drbMap.keys.foldlM markDirty fun _ => false with
  | error e => exact (hdirty.of_error hres).elim
  | ok drbDirty =>
    obtain ⟨-, hall⟩ := hdirty.of_ok hres
    refine ⟨⟨hlinked.id, hlinked.drb, hlinked.flow⟩, ⟨List.nodup_nil, fun drb hdrb => (nomatch hdrb), List.nodup_nil,
      fun drb hdrb => (nomatch hdrb), hroom.limit⟩, s.context.drbMap.keys_nodup, hall, hmarked.valid⟩

lemma apply_ok {result : UpConfigUpdateResult}
    (h : Yields (applyConfigUpdate s.context result) (Applying cfg (s.used ++ result.newDrbs.map Prod.fst) [] 0)
      fun _ => False) :
    Yields (s.apply result) (fun s' => Applying cfg s'.used [] 0 s'.context) fun _ => False := by
  unfold UpResourceManager.apply
  cases hres : applyConfigUpdate s.context result with
  | error a => exact (h.of_error hres).elim
  | ok context => exact h.of_ok hres

lemma step_ok {e : UpResourceManagerEvent} (hdelivered : Delivered cfg s e)
    (hfits : s.validateRequest cfg e = true → Fits cfg s e) (h : Applying cfg s.used [] 0 s.context) :
    Yields (s.step cfg e) (fun s' => Applying cfg s'.used [] 0 s'.context) fun _ => False := by
  unfold UpResourceManager.step
  split
  case h_1 => exact refreshDrbIdAfterKeyChange_ok h
  case h_2 => exact h
  case h_3 _ _ u _ hu =>
    obtain ⟨hfits, hcalculated⟩ := calculateUpdate_ok hu hfits
    exact apply_ok (applyConfigUpdate_ok hcalculated (hdelivered u hu) h.linked h.progress.marked hfits.flows
      hfits.unmapped hfits.limit)
  case h_4 _ _ a ha => exact (calculateUpdate_ok ha hfits).2.of_error rfl

lemma Applying.consistent (h : Applying cfg s.used [] 0 s.context) : Consistent cfg s :=
  ⟨h.linked, h.progress.room.limit, h.progress.marked.nodup⟩

lemma applying_init : Applying cfg UpResourceManager.init.used [] 0 UpResourceManager.init.context := by
  refine ⟨⟨fun p session h => (nomatch h), fun d p => ⟨fun h => (nomatch h), fun ⟨session, h, _⟩ => (nomatch h)⟩,
    fun qfi d => ⟨fun h => (nomatch h), fun ⟨p, session, h, _⟩ => (nomatch h)⟩⟩,
    ⟨List.nodup_nil, fun drb h => (nomatch h), List.nodup_nil, fun drb h => (nomatch h), Nat.zero_le _⟩,
    List.nodup_nil, fun d h => (nomatch h), fun d h => (nomatch h)⟩

end Runs

/-- A run whose requests fit in does not abort, and it is consistent throughout. -/
theorem up_run_consistent {cfg : UpResourceManagerCfg} {es : List UpResourceManagerEvent}
    (h : RunsWithin (UpResourceManager.step cfg)
      (fun s e => Delivered cfg s e ∧ (s.validateRequest cfg e = true → Fits cfg s e)) UpResourceManager.init es) :
    (∃ s, runEvents (UpResourceManager.step cfg) UpResourceManager.init es = .ok s) ∧
      HoldsThroughout (UpResourceManager.step cfg) (Consistent cfg) UpResourceManager.init es := by
  obtain ⟨hthroughout, hrun⟩ := runsWithin_yields (fun s => Applying cfg s.used [] 0 s.context)
    (fun s e hC hs => step_ok hC.1 hC.2 hs) h applying_init
  refine ⟨?_, holdsThroughout_mono (fun s hs => hs.consistent) hthroughout⟩
  cases hres : runEvents (UpResourceManager.step cfg) UpResourceManager.init es with
  | error a => exact (hrun.of_error hres).elim
  | ok s => exact ⟨s, rfl⟩

def oneFlow (qfi : ℕ) : QosFlows := FlatMap.empty.emplace qfi (some 9)

def oneFlowSession (id drbId qfi : ℕ) : UpPduSessionContextUpdate :=
  ⟨id, FlatMap.empty.emplace drbId ⟨drbId, id, oneFlow qfi⟩, FlatMap.empty, []⟩

lemma isPart_self {updates : List UpPduSessionContextUpdate}
    (h : (updates.map UpPduSessionContextUpdate.id).Nodup) : IsPart updates updates :=
  ⟨h, fun update hupdate => ⟨update, hupdate, rfl, fun _ hd => hd, List.Sublist.refl _⟩⟩

/-- A session with two flows is set up, and a third flow takes the place of the second. -/
theorem up_run_consistent_modify :
    HoldsThroughout (UpResourceManager.step ⟨fun _ => true, 3⟩) (Consistent ⟨fun _ => true, 3⟩) UpResourceManager.init
      [.setup (FlatMap.empty.emplace 1 ((oneFlow 1).emplace 2 (some 9)))
        ⟨[⟨1, (FlatMap.empty.emplace 1 ⟨1, 1, oneFlow 1⟩).emplace 2 ⟨2, 1, oneFlow 2⟩, FlatMap.empty, []⟩], [], []⟩,
      .modify (FlatMap.empty.emplace 1 ⟨oneFlow 3, FlatMap.empty.emplace 2 ()⟩)
        ⟨[], [⟨1, FlatMap.empty.emplace 3 ⟨3, 1, oneFlow 3⟩, FlatMap.empty, [2]⟩], []⟩] := by
  set cfg : UpResourceManagerCfg := ⟨fun _ => true, 3⟩
  set session : UpPduSessionContextUpdate :=
    ⟨1, (FlatMap.empty.emplace 1 ⟨1, 1, oneFlow 1⟩).emplace 2 ⟨2, 1, oneFlow 2⟩, FlatMap.empty, []⟩ with hsession
  set modSession : UpPduSessionContextUpdate :=
    ⟨1, FlatMap.empty.emplace 3 ⟨3, 1, oneFlow 3⟩, FlatMap.empty, [2]⟩ with hmodSession
  set setup : UpResourceManagerEvent :=
    .setup (FlatMap.empty.emplace 1 ((oneFlow 1).emplace 2 (some 9))) ⟨[session], [], []⟩ with hsetup
  set modify : UpResourceManagerEvent :=
    .modify (FlatMap.empty.emplace 1 ⟨oneFlow 3, FlatMap.empty.emplace 2 ()⟩) ⟨[], [modSession], []⟩ with hmodify
  have hsetupDelivered : Delivered cfg UpResourceManager.init setup := by
    intro u hu
    have hcalculate : UpResourceManager.init.calculateUpdate cfg setup = some (.ok
        ⟨true, FlatMap.empty.emplace 1 session, FlatMap.empty, [], [], []⟩) := rfl
    rw [hcalculate] at hu
    cases hu
    exact ⟨isPart_self (by decide), isPart_self (by decide), List.nodup_nil, List.Subset.refl _⟩
  have hsetupFits : Fits cfg UpResourceManager.init setup :=
    ⟨by decide, by decide, by decide, fun _ _ h => (nomatch h)⟩
  have hstep : ∃ s, UpResourceManager.init.step cfg setup = .ok s ∧
      s.calculateUpdate cfg modify = some (.ok ⟨false, FlatMap.empty, FlatMap.empty.emplace 1 modSession, [], [], []⟩) ∧
      s.context.drbMap.size = 2 ∧ s.context.qosFlowMap.find? 3 = none ∧ s.context.HasFlow 1 2 :=
    ⟨_, rfl, rfl, rfl, rfl, 2, _, _, rfl, rfl, rfl, rfl⟩
  obtain ⟨s, hs, hcalculate, hsize, hfree, hflow⟩ := hstep
  have hmodifyDelivered : Delivered cfg s modify := by
    intro u hu
    rw [hcalculate] at hu
    cases hu
    exact ⟨isPart_self (by decide), isPart_self (by decide), List.nodup_nil, List.Subset.refl _⟩
  have hmodifyFits : Fits cfg s modify := by
    refine ⟨?_, by decide, fun drb hdrb qfi hqfi => ?_, fun items result h item hitem qfi hqfi => ?_⟩
    · rw [hsize]
      decide
    · obtain rfl := List.mem_singleton.mp hdrb
      obtain rfl := List.mem_singleton.mp hqfi
      exact hfree
    · rw [hmodify, UpResourceManagerEvent.modify.injEq] at h
      rw [← h.1] at hitem
      obtain rfl := List.mem_singleton.mp hitem
      obtain rfl := List.mem_singleton.mp hqfi
      exact hflow
  have hruns : RunsWithin (UpResourceManager.step cfg)
      (fun s e => Delivered cfg s e ∧ (s.validateRequest cfg e = true → Fits cfg s e)) UpResourceManager.init
      [setup, modify] := by
    refine ⟨⟨hsetupDelivered, fun _ => hsetupFits⟩, fun s' hs' => ?_⟩
    obtain rfl := Except.ok.inj (hs.symm.trans hs')
    exact ⟨⟨hmodifyDelivered, fun _ => hmodifyFits⟩, fun _ _ => trivial⟩
  exact (up_run_consistent hruns).2

/-- Two sessions with the same QFI: the flow of the second one resolves to the DRB of the first. -/
theorem shared_qfi_inconsistent : ¬∀ (cfg : UpResourceManagerCfg) (es : List UpResourceManagerEvent),
    RunsWithin (UpResourceManager.step cfg) (Delivered cfg) UpResourceManager.init es →
      (∃ s, runEvents (UpResourceManager.step cfg) UpResourceManager.init es = .ok s) ∧
        HoldsThroughout (UpResourceManager.step cfg) (Consistent cfg) UpResourceManager.init es := by
  intro h
  set e : UpResourceManagerEvent := .setup ((FlatMap.empty.emplace 1 (oneFlow 1)).emplace 2 (oneFlow 1))
    ⟨[oneFlowSession 1 1 1, oneFlowSession 2 2 1], [], []⟩ with he
  have hdelivered : Delivered ⟨fun _ => true, 8⟩ UpResourceManager.init e := by
    intro u hu
    have hcalculate : UpResourceManager.init.calculateUpdate ⟨fun _ => true, 8⟩ e = some (.ok
        ⟨true, (FlatMap.empty.emplace 1 (oneFlowSession 1 1 1)).emplace 2 (oneFlowSession 2 2 1), FlatMap.empty, [], [],
          []⟩) := rfl
    rw [hcalculate] at hu
    cases hu
    exact ⟨isPart_self (by decide), isPart_self (by decide), List.nodup_nil, List.Subset.refl _⟩
  have hstep : ∃ s, UpResourceManager.init.step ⟨fun _ => true, 8⟩ e = .ok s ∧ s.context.qosFlowMap.find? 1 = some 1 ∧
      s.context.pduSessions.find? 2 = some ⟨2, FlatMap.empty.emplace 2 ⟨2, 2, oneFlow 1⟩⟩ := ⟨_, rfl, rfl, rfl⟩
  obtain ⟨s, hs, hflow, hsession⟩ := hstep
  have hconsistent := ((h ⟨fun _ => true, 8⟩ [e] ⟨hdelivered, fun _ _ => trivial⟩).2.2 s hs).linked
  have hresolved := (hconsistent.flow 1 2).mpr ⟨2, _, hsession, _, rfl, rfl⟩
  rw [hflow] at hresolved
  cases hresolved

end OwlsRan.CuCp
