import Mathlib.Data.List.Nodup
import Mathlib.Data.List.Perm.Basic
import OwlsRan.Lib.Outcome
import OwlsRan.CuCp.UpResourceManager

/-!
# Calculated updates

An update assigns DRB identities that are fresh and differ, whatever the sessions they are for, and it removes DRBs that
their sessions have.
-/

namespace OwlsRan.CuCp

open Lib Adt

def newDrbs (sessions : List UpPduSessionContextUpdate) : List (ℕ × UpDrbContext) :=
  sessions.flatMap fun session => session.drbToAdd.entries

namespace UpConfigUpdate

def setupSessions (u : UpConfigUpdate) : List UpPduSessionContextUpdate := u.pduSessionsToSetupList.entries.map Prod.snd

def modifySessions (u : UpConfigUpdate) : List UpPduSessionContextUpdate := u.pduSessionsToModifyList.entries.map Prod.snd

def newIds (u : UpConfigUpdate) : List ℕ := (newDrbs (u.setupSessions ++ u.modifySessions)).map Prod.fst

end UpConfigUpdate

def UpContext.IsFresh (ctx : UpContext) (drbId : ℕ) : Prop :=
  0 < drbId ∧ drbId ≤ MAX_NOF_DRBS ∧ ctx.drbMap.find? drbId = none ∧ ctx.drbDirty (getDirtyDrbIndex drbId) = false

structure Assigned (ctx : UpContext) (drbIds : List ℕ) : Prop where
  nodup : drbIds.Nodup
  fresh : ∀ d ∈ drbIds, ctx.IsFresh d

lemma Assigned.perm {ctx : UpContext} {ds ds' : List ℕ} (h : Assigned ctx ds) (hperm : ds.Perm ds') : Assigned ctx ds' :=
  ⟨hperm.nodup_iff.mp h.nodup, fun d hd => h.fresh d (hperm.mem_iff.mpr hd)⟩

lemma Assigned.sublist {ctx : UpContext} {ds ds' : List ℕ} (h : Assigned ctx ds) (hsub : ds'.Sublist ds) :
    Assigned ctx ds' :=
  ⟨h.nodup.sublist hsub, fun d hd => h.fresh d (hsub.subset hd)⟩

lemma Assigned.cons {ctx : UpContext} {ds : List ℕ} {d : ℕ} (h : Assigned ctx ds) (hd : ctx.IsFresh d)
    (hnew : d ∉ ds) : Assigned ctx (d :: ds) := by
  refine ⟨List.nodup_cons.mpr ⟨hnew, h.nodup⟩, fun d' hd' => ?_⟩
  rcases List.mem_cons.mp hd' with rfl | hd'
  · exact hd
  · exact h.fresh d' hd'

lemma entries_emplace_perm {α : Type} {m : FlatMap α} {k : ℕ} (hk : m.find? k = none) (v : α) :
    (m.emplace k v).entries.Perm ((k, v) :: m.entries) := by
  unfold FlatMap.emplace
  rw [dif_pos hk]
  exact FlatMap.insertEntry_perm k v m.entries

lemma mem_newIds {u : UpConfigUpdate} {d : ℕ} :
    d ∈ u.newIds ↔ ∃ e, (e ∈ u.pduSessionsToSetupList.entries ∨ e ∈ u.pduSessionsToModifyList.entries) ∧
      e.2.drbToAdd.contains d = true := by
  unfold UpConfigUpdate.newIds newDrbs UpConfigUpdate.setupSessions UpConfigUpdate.modifySessions
  constructor
  · intro h
    obtain ⟨drb, hdrb, rfl⟩ := List.mem_map.mp h
    obtain ⟨session, hsession, hmem⟩ := List.mem_flatMap.mp hdrb
    have hcontains : session.drbToAdd.contains drb.1 = true :=
      FlatMap.contains_iff.mpr ⟨drb.2, FlatMap.find?_eq_some_iff.mpr hmem⟩
    rcases List.mem_append.mp hsession with hs | hs
    · obtain ⟨e, he, rfl⟩ := List.mem_map.mp hs
      exact ⟨e, Or.inl he, hcontains⟩
    · obtain ⟨e, he, rfl⟩ := List.mem_map.mp hs
      exact ⟨e, Or.inr he, hcontains⟩
  · rintro ⟨e, he, hcontains⟩
    obtain ⟨drb, hdrb⟩ := FlatMap.contains_iff.mp hcontains
    refine List.mem_map.mpr ⟨(d, drb), List.mem_flatMap.mpr ⟨e.2, ?_, FlatMap.find?_eq_some_iff.mp hdrb⟩, rfl⟩
    rcases he with he | he
    · exact List.mem_append_left _ (List.mem_map.mpr ⟨e, he, rfl⟩)
    · exact List.mem_append_right _ (List.mem_map.mpr ⟨e, he, rfl⟩)

lemma containsDrb_iff {u : UpConfigUpdate} {d : ℕ} : containsDrb u d = true ↔ d ∈ u.newIds := by
  rw [mem_newIds, containsDrb, Bool.or_eq_true, List.any_eq_true, List.any_eq_true]
  constructor
  · rintro (⟨e, he, hd⟩ | ⟨e, he, hd⟩)
    · exact ⟨e, Or.inl he, hd⟩
    · exact ⟨e, Or.inr he, hd⟩
  · rintro ⟨e, he | he, hd⟩
    · exact Or.inl ⟨e, he, hd⟩
    · exact Or.inr ⟨e, he, hd⟩

section Calculation

variable {cfg : UpResourceManagerCfg} {ctx : UpContext}

variable {newSession : UpPduSessionContextUpdate} {update : UpConfigUpdate}

lemma allocateDrbId_fresh {d : ℕ} (h : allocateDrbId cfg ctx newSession update = some d) :
    ctx.IsFresh d ∧ d ∉ update.newIds ∧ newSession.drbToAdd.find? d = none := by
  unfold allocateDrbId at h
  split at h
  case isTrue => cases h
  case isFalse =>
    have hrange := List.mem_range'.mp (List.mem_of_find?_eq_some h)
    have hfree := List.find?_some h
    simp only [Bool.not_eq_true', Bool.or_eq_false_iff] at hfree
    obtain ⟨⟨⟨hmap, hupdate⟩, hsession⟩, hdirty⟩ := hfree
    refine ⟨⟨by omega, ?_, FlatMap.contains_eq_false_iff.mp hmap, hdirty⟩, fun hmem => ?_,
      FlatMap.contains_eq_false_iff.mp hsession⟩
    · unfold MAX_NOF_DRBS at hrange ⊢
      omega
    · rw [containsDrb_iff.mpr hmem] at hupdate
      cases hupdate

def assignedIds (update : UpConfigUpdate) (newSession : UpPduSessionContextUpdate) : List ℕ :=
  newSession.drbToAdd.keys ++ update.newIds

lemma allocateQosFlow_ok (h : Assigned ctx (assignedIds update newSession)) (qfi : ℕ) {fiveQi : Option ℕ}
    (hvalid : (getFiveQi cfg fiveQi).isSome = true) :
    ∃ o newSession', allocateQosFlow cfg ctx newSession update qfi fiveQi = .ok (o, newSession') ∧
      Assigned ctx (assignedIds update newSession') ∧ newSession'.id = newSession.id ∧
      newSession'.drbToRemove = newSession.drbToRemove ∧
      ∀ d, o = some d → newSession'.drbToAdd.contains d = true := by
  have hnone : (getFiveQi cfg fiveQi).isNone = false := by
    rw [← Option.not_isSome, hvalid]
    rfl
  unfold allocateQosFlow
  simp only [hnone, Bool.false_eq_true, if_false]
  split
  case isTrue => exact ⟨none, newSession, rfl, h, rfl, rfl, fun d hd => nomatch hd⟩
  case isFalse =>
    cases hd : allocateDrbId cfg ctx newSession update with
    | none => exact ⟨none, newSession, rfl, h, rfl, rfl, fun d hd => nomatch hd⟩
    | some d =>
      obtain ⟨hfresh, hupdate, hsession⟩ := allocateDrbId_fresh hd
      set drb : UpDrbContext := ⟨d, newSession.id, FlatMap.empty.emplace qfi fiveQi⟩ with hdrb
      have hperm : (newSession.drbToAdd.emplace d drb).keys.Perm (d :: newSession.drbToAdd.keys) :=
        (entries_emplace_perm hsession drb).map Prod.fst
      have hnew : d ∉ assignedIds update newSession := by
        rw [assignedIds, List.mem_append, not_or]
        refine ⟨fun hmem => ?_, hupdate⟩
        obtain ⟨w, hw⟩ := FlatMap.contains_iff.mp (FlatMap.mem_keys_iff.mp hmem)
        rw [hsession] at hw
        cases hw
      refine ⟨some d, _, rfl, (h.cons hfresh hnew).perm ?_, rfl, rfl, fun d' hd' => ?_⟩
      · exact (hperm.append_right update.newIds).symm
      · cases hd'
        rw [FlatMap.contains_emplace hsession]
        simp

lemma setupFlow_ok (h : Assigned ctx (assignedIds update newSession)) {flow : ℕ × Option ℕ}
    (hvalid : (getFiveQi cfg flow.2).isSome = true) :
    Yields (setupFlow cfg ctx update newSession flow)
      (fun newSession' => Assigned ctx (assignedIds update newSession') ∧ newSession'.id = newSession.id)
      fun _ => False := by
  obtain ⟨o, newSession', hok, hassigned, hid, -, hcontains⟩ :=
    allocateQosFlow_ok h flow.1 hvalid
  unfold setupFlow
  rw [hok]
  cases o with
  | none => exact ⟨hassigned, hid⟩
  | some d =>
    simp only [hcontains d rfl, if_true]
    exact ⟨hassigned, hid⟩

end Calculation

lemma newIds_eq (u : UpConfigUpdate) : u.newIds =
    (u.pduSessionsToSetupList.entries ++ u.pduSessionsToModifyList.entries).flatMap fun e => e.2.drbToAdd.keys := by
  unfold UpConfigUpdate.newIds newDrbs UpConfigUpdate.setupSessions UpConfigUpdate.modifySessions
  rw [← List.map_append, List.flatMap_map, List.map_flatMap]
  rfl

structure Calculated (ctx : UpContext) (u : UpConfigUpdate) : Prop where
  setup : ∀ e ∈ u.pduSessionsToSetupList.entries, e.2.id = e.1 ∧ ctx.pduSessions.find? e.1 = none
  modify : ∀ e ∈ u.pduSessionsToModifyList.entries, e.2.id = e.1 ∧
    ∃ session, ctx.pduSessions.find? e.1 = some session ∧ e.2.drbToRemove.Nodup ∧
      ∀ d ∈ e.2.drbToRemove, session.drbs.contains d = true
  remove : u.pduSessionsToRemoveList.Nodup ∧ ∀ p ∈ u.pduSessionsToRemoveList, ctx.pduSessions.contains p = true
  assigned : Assigned ctx u.newIds

section Requests

variable {cfg : UpResourceManagerCfg} {ctx : UpContext}

lemma calculated_init (b : Bool) : Calculated ctx (UpConfigUpdate.init b) := by
  refine ⟨fun e he => ?_, fun e he => ?_, ⟨List.nodup_nil, fun p hp => ?_⟩, ⟨List.nodup_nil, fun d hd => ?_⟩⟩
  · cases he
  · cases he
  · cases hp
  · cases hd

lemma mem_entries_emplace {α : Type} {m : FlatMap α} {k : ℕ} {v : α} {e : ℕ × α} (he : e ∈ (m.emplace k v).entries) :
    e ∈ m.entries ∨ e = (k, v) := by
  by_cases hk : m.find? k = none
  · rcases List.mem_cons.mp ((entries_emplace_perm hk v).mem_iff.mp he) with rfl | he
    · exact Or.inr rfl
    · exact Or.inl he
  · obtain ⟨w, hw⟩ := Option.ne_none_iff_exists'.mp hk
    rw [FlatMap.emplace_of_some hw] at he
    exact Or.inl he

lemma assigned_emplace {l l' l₀ : List (ℕ × UpPduSessionContextUpdate)} {newSession : UpPduSessionContextUpdate}
    {k : ℕ} (hperm : l'.Perm ((k, newSession) :: l) ∨ l' = l)
    (h : Assigned ctx (newSession.drbToAdd.keys ++ (l ++ l₀).flatMap fun e => e.2.drbToAdd.keys)) :
    Assigned ctx ((l' ++ l₀).flatMap fun e => e.2.drbToAdd.keys) := by
  rcases hperm with hperm | rfl
  · refine h.perm ?_
    exact ((hperm.append_right l₀).flatMap_right fun e => e.2.drbToAdd.keys).symm
  · exact h.sublist (List.sublist_append_right _ _)

lemma entries_emplace_cases {α : Type} (m : FlatMap α) (k : ℕ) (v : α) :
    (m.emplace k v).entries.Perm ((k, v) :: m.entries) ∨ (m.emplace k v).entries = m.entries := by
  by_cases hk : m.find? k = none
  · exact Or.inl (entries_emplace_perm hk v)
  · obtain ⟨w, hw⟩ := Option.ne_none_iff_exists'.mp hk
    rw [FlatMap.emplace_of_some hw]
    exact Or.inr rfl

variable {update : UpConfigUpdate}

lemma setupSession_ok (h : Calculated ctx update) {item : ℕ × QosFlows}
    (hvalid : (!ctx.pduSessions.contains item.1 && areFlowsValid cfg item.2) = true) :
    Yields (setupSession cfg ctx update item) (Calculated ctx) fun _ => False := by
  obtain ⟨hnew, hflows⟩ := (Bool.and_eq_true _ _).mp hvalid
  have hnone : ctx.pduSessions.contains item.1 = false := by simpa using hnew
  unfold setupSession
  rw [hnone]
  simp only [Bool.false_eq_true, if_false]
  have hfold := yields_foldlM (f := setupFlow cfg ctx update)
    (I := fun newSession => Assigned ctx (assignedIds update newSession) ∧ newSession.id = item.1)
    (E := fun _ => False) (l := item.2.entries) (b := UpPduSessionContextUpdate.init item.1) ⟨h.assigned, rfl⟩
    fun newSession flow hflow hI => by
      have hok := setupFlow_ok hI.1 (List.all_eq_true.mp hflows flow hflow)
      exact hok.post fun _ hs => ⟨hs.1, hs.2.trans hI.2⟩
  cases hres : item.2.entries.foldlM (setupFlow cfg ctx update) (UpPduSessionContextUpdate.init item.1) with
  | error e => exact (hfold.of_error hres).elim
  | ok newSession =>
    obtain ⟨hassigned, hid⟩ := hfold.of_ok hres
    simp only [Except.map, yields_ok]
    split
    · exact h
    · refine { h with setup := fun e he => ?_, assigned := ?_ }
      · rcases mem_entries_emplace he with he | rfl
        · exact h.setup e he
        · refine ⟨rfl, ?_⟩
          rw [hid]
          exact FlatMap.contains_eq_false_iff.mp hnone
      · rw [assignedIds, newIds_eq] at hassigned
        rw [newIds_eq]
        exact assigned_emplace (entries_emplace_cases _ _ _) hassigned

lemma calculateUpdateSetup_ok {items : FlatMap QosFlows} (hvalid : isValidSetup cfg ctx items = true) :
    Yields (calculateUpdateSetup cfg ctx items) (Calculated ctx) fun _ => False := by
  obtain ⟨-, hall⟩ := (Bool.and_eq_true _ _).mp hvalid
  exact yields_foldlM (calculated_init _) fun update item hitem h =>
    setupSession_ok h (List.all_eq_true.mp hall item hitem)

lemma addOrModifyFlow_ok {s : UpPduSessionContextUpdate × List ℕ}
    (h : Assigned ctx (assignedIds update s.1)) {flow : ℕ × Option ℕ}
    (hvalid : (getFiveQi cfg flow.2).isSome = true) :
    Yields (addOrModifyFlow cfg ctx update s flow)
      (fun s' => Assigned ctx (assignedIds update s'.1) ∧ s'.1.id = s.1.id ∧ s'.1.drbToRemove = s.1.drbToRemove)
      fun _ => False := by
  have hnone : (getFiveQi cfg flow.2).isNone = false := by
    rw [← Option.not_isSome, hvalid]
    rfl
  unfold addOrModifyFlow
  split
  case isTrue hcontains =>
    obtain ⟨d, hd⟩ := FlatMap.contains_iff.mp hcontains
    unfold modifyQosFlow
    simp only [hd, hnone, Bool.false_eq_true, if_false]
    have hmodified : ∀ v, (s.1.drbToModify.emplace d v).contains d = true := by
      intro v
      by_cases hk : s.1.drbToModify.find? d = none
      · rw [FlatMap.contains_emplace hk]
        simp
      · obtain ⟨w, hw⟩ := Option.ne_none_iff_exists'.mp hk
        rw [FlatMap.emplace_of_some hw]
        exact FlatMap.contains_iff.mpr ⟨w, hw⟩
    simp only [hmodified, Bool.or_true, if_true]
    exact ⟨h, rfl, rfl⟩
  case isFalse =>
    obtain ⟨o, newSession', hok, hassigned, hid, hremove, hadded⟩ := allocateQosFlow_ok h flow.1 hvalid
    rw [hok]
    cases o with
    | none => exact ⟨hassigned, hid, hremove⟩
    | some d =>
      simp only [hadded d rfl, Bool.or_true, if_true]
      exact ⟨hassigned, hid, hremove⟩

def UpContext.HasFlow (ctx : UpContext) (id qfi : ℕ) : Prop :=
  ∃ d session drb, ctx.qosFlowMap.find? qfi = some d ∧ ctx.pduSessions.find? id = some session ∧
    session.drbs.find? d = some drb ∧ drb.qosFlows.contains qfi = true

lemma eq_of_size_one {α : Type} {m : FlatMap α} (hsize : m.size = 1) {k k' : ℕ} (hk : m.contains k = true)
    (hk' : m.contains k' = true) : k = k' := by
  obtain ⟨e, he⟩ := List.length_eq_one_iff.mp hsize
  obtain ⟨v, hv⟩ := FlatMap.contains_iff.mp hk
  obtain ⟨v', hv'⟩ := FlatMap.contains_iff.mp hk'
  have hmem := FlatMap.find?_eq_some_iff.mp hv
  have hmem' := FlatMap.find?_eq_some_iff.mp hv'
  rw [he, List.mem_singleton] at hmem hmem'
  exact congrArg Prod.fst (hmem.trans hmem'.symm)

lemma releaseFlows_ok {id : ℕ} {session : UpPduSessionContext} (hsession : ctx.pduSessions.find? id = some session) :
    ∀ (qfis pre : List ℕ) (newSession : UpPduSessionContextUpdate), (pre ++ qfis).Nodup →
      (∀ qfi ∈ qfis, ctx.HasFlow id qfi) → newSession.id = id → newSession.drbToRemove.Nodup →
      (∀ d ∈ newSession.drbToRemove, ∃ qfi ∈ pre, ∃ drb, session.drbs.find? d = some drb ∧
        drb.qosFlows.contains qfi = true ∧ drb.qosFlows.size = 1) →
      Yields (qfis.foldlM (releaseFlow ctx) newSession) (fun newSession' => newSession'.id = id ∧
        newSession'.drbToAdd = newSession.drbToAdd ∧ newSession'.drbToRemove.Nodup ∧
        ∀ d ∈ newSession'.drbToRemove, session.drbs.contains d = true) fun _ => False := by
  intro qfis
  induction qfis with
  | nil =>
    intro pre newSession _ _ hid hnodup hremove
    refine ⟨hid, rfl, hnodup, fun d hd => ?_⟩
    obtain ⟨qfi, -, drb, hdrb, -⟩ := hremove d hd
    exact FlatMap.contains_iff.mpr ⟨drb, hdrb⟩
  | cons qfi qfis ih =>
    intro pre newSession hpre hflows hid hnodup hremove
    obtain ⟨d, session', drb, hd, hsession', hdrb, hcontains⟩ := hflows qfi List.mem_cons_self
    rw [hsession] at hsession'
    obtain rfl := Option.some.inj hsession'
    have hpre' : (pre ++ [qfi] ++ qfis).Nodup := by simpa using hpre
    have hrest : ∀ q ∈ qfis, ctx.HasFlow id q := fun q hq => hflows q (List.mem_cons_of_mem _ hq)
    have hone : releaseFlow ctx newSession qfi = .ok (if drb.qosFlows.size = 1 then
        { newSession with drbToRemove := newSession.drbToRemove ++ [d] } else newSession) := by
      unfold releaseFlow
      simp only [hd, hid, hsession, hdrb, hcontains, if_true]
    rw [List.foldlM_cons, hone]
    have hwiden : ∀ d ∈ newSession.drbToRemove, ∃ q ∈ pre ++ [qfi], ∃ drb, session.drbs.find? d = some drb ∧
        drb.qosFlows.contains q = true ∧ drb.qosFlows.size = 1 := by
      intro d' hd'
      obtain ⟨q, hq, hfacts⟩ := hremove d' hd'
      exact ⟨q, List.mem_append_left _ hq, hfacts⟩
    by_cases hsize : drb.qosFlows.size = 1
    · rw [if_pos hsize]
      refine ih (pre ++ [qfi]) _ hpre' hrest hid ?_ fun d' hd' => ?_
      · refine hnodup.append (List.nodup_singleton d) fun d' hd' hmem => ?_
        obtain rfl := List.mem_singleton.mp hmem
        obtain ⟨q, hq, drb', hdrb', hq', -⟩ := hremove d' hd'
        rw [hdrb] at hdrb'
        obtain rfl := Option.some.inj hdrb'
        obtain rfl := eq_of_size_one hsize hcontains hq'
        exact (List.nodup_append.mp hpre).2.2 _ hq _ List.mem_cons_self rfl
      · rcases List.mem_append.mp hd' with hd' | hd'
        · exact hwiden d' hd'
        · obtain rfl := List.mem_singleton.mp hd'
          exact ⟨qfi, List.mem_append_right _ List.mem_cons_self, drb, hdrb, hcontains, hsize⟩
    · rw [if_neg hsize]
      exact ih (pre ++ [qfi]) _ hpre' hrest hid hnodup hwiden

lemma modifySession_ok (h : Calculated ctx update) {item : ℕ × PduSessionModifyItem}
    (hsession : ctx.pduSessions.contains item.1 = true)
    (hvalid : areFlowsValid cfg item.2.qosFlowAddOrModifyRequestList = true)
    (hflows : ∀ qfi ∈ item.2.qosFlowToReleaseList.keys, ctx.HasFlow item.1 qfi) :
    Yields (modifySession cfg ctx update item) (Calculated ctx) fun _ => False := by
  obtain ⟨session, hfind⟩ := FlatMap.contains_iff.mp hsession
  unfold modifySession
  rw [if_pos hsession]
  have hadded := yields_foldlM (f := addOrModifyFlow cfg ctx update)
    (I := fun s => Assigned ctx (assignedIds update s.1) ∧ s.1.id = item.1 ∧ s.1.drbToRemove = [])
    (E := fun _ => False) (l := item.2.qosFlowAddOrModifyRequestList.entries)
    (b := (UpPduSessionContextUpdate.init item.1, [])) ⟨h.assigned, rfl, rfl⟩ fun s flow hflow hI => by
      have hok := addOrModifyFlow_ok hI.1 (List.all_eq_true.mp hvalid flow hflow)
      exact hok.post fun _ hs => ⟨hs.1, hs.2.1.trans hI.2.1, hs.2.2.trans hI.2.2⟩
  refine yields_bind hadded fun s hs => ?_
  obtain ⟨hassigned, hid, hremove⟩ := hs
  have hnil : s.1.drbToRemove.Nodup := by
    rw [hremove]
    exact List.nodup_nil
  have hreleased := releaseFlows_ok hfind item.2.qosFlowToReleaseList.keys [] s.1
    item.2.qosFlowToReleaseList.keys_nodup hflows hid hnil fun d hd => by
      rw [hremove] at hd
      cases hd
  refine yields_bind hreleased fun newSession hnew => ?_
  obtain ⟨hid', hadd, hnodup, hcontained⟩ := hnew
  refine { h with modify := fun e he => ?_, assigned := ?_ }
  · rcases mem_entries_emplace he with he | rfl
    · exact h.modify e he
    · dsimp only
      rw [hid']
      exact ⟨rfl, session, hfind, hnodup, hcontained⟩
  · rw [assignedIds, newIds_eq] at hassigned
    rw [newIds_eq]
    have hcomm : ∀ l l' : List (ℕ × UpPduSessionContextUpdate),
        ((l ++ l').flatMap fun e => e.2.drbToAdd.keys).Perm ((l' ++ l).flatMap fun e => e.2.drbToAdd.keys) :=
      fun l l' => List.perm_append_comm.flatMap_right _
    refine (assigned_emplace (entries_emplace_cases _ _ _) ?_).perm (hcomm _ _)
    rw [hadd]
    exact hassigned.perm ((hcomm _ _).append_left _)

lemma calculateUpdateModify_ok {items : FlatMap PduSessionModifyItem} (hvalid : isValidModify cfg ctx items = true)
    (hflows : ∀ item ∈ items.entries, ∀ qfi ∈ item.2.qosFlowToReleaseList.keys, ctx.HasFlow item.1 qfi) :
    Yields (calculateUpdateModify cfg ctx items) (Calculated ctx) fun _ => False := by
  obtain ⟨-, hall⟩ := (Bool.and_eq_true _ _).mp hvalid
  refine yields_foldlM (calculated_init _) fun update item hitem h => ?_
  have hitem' := List.all_eq_true.mp hall item hitem
  simp only [Bool.and_eq_true] at hitem'
  exact modifySession_ok h hitem'.1.1.1 hitem'.1.1.2 (hflows item hitem)

lemma calculateUpdateRelease_ok {items : FlatMap Unit} (hvalid : isValidRelease ctx items = true) :
    Yields (calculateUpdateRelease ctx items) (Calculated ctx) fun _ => False := by
  obtain ⟨-, hall⟩ := (Bool.and_eq_true _ _).mp hvalid
  have hfold : ∀ (ids : List ℕ) (update : UpConfigUpdate), Calculated ctx update →
      (update.pduSessionsToRemoveList ++ ids).Nodup → (∀ id ∈ ids, ctx.pduSessions.contains id = true) →
      Yields (ids.foldlM (releaseSession ctx) update) (Calculated ctx) fun _ => False := by
    intro ids
    induction ids with
    | nil => exact fun update h _ _ => h
    | cons id ids ih =>
      intro update h hnodup hids
      obtain ⟨session, hsession⟩ := FlatMap.contains_iff.mp (hids id List.mem_cons_self)
      rw [List.foldlM_cons, releaseSession, hsession]
      have hnodup' : (update.pduSessionsToRemoveList ++ [id] ++ ids).Nodup := by simpa using hnodup
      refine ih _ { h with remove := ⟨(List.nodup_append.mp hnodup').1, fun p hp => ?_⟩ } hnodup'
        fun p hp => hids p (List.mem_cons_of_mem _ hp)
      rcases List.mem_append.mp hp with hp | hp
      · exact h.remove.2 p hp
      · rw [List.mem_singleton.mp hp]
        exact hids id List.mem_cons_self
  exact hfold _ _ (calculated_init _) items.keys_nodup fun id hid => List.all_eq_true.mp hall id hid

end Requests

end OwlsRan.CuCp
