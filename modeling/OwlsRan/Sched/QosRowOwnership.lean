import OwlsRan.Sched.QosRows

/-!
# Owners of the QoS rows

As long as only UEs that hold no QoS row are deactivated, each row of the two QoS tables is held by exactly one channel
or LCG of one UE, and no call on a UE touches the rows of another.
-/

namespace OwlsRan.Sched
open OwlsRan.Lib OwlsRan.Adt OwlsRan.Ran

section Rows

variable {α β : Type} {t t' : SoaTable α} {rid : Nat} {rest : Nat × Nat → Option Nat}
  {own : Nat → Option Nat}

lemma eraseRows_spec (row : β → Option Nat) (entries : List (Nat × β)) (t : SoaTable α) :
    Yields (entries.foldlM (fun t e => eraseRow t (row e.2)) t)
      (fun t' => ∀ r, ((∃ e ∈ entries, row e.2 = some r) → t'.row? r = none) ∧
        ((∀ e ∈ entries, row e.2 ≠ some r) → t'.row? r = t.row? r)) AnyAbort := by
  induction entries generalizing t with
  | nil => exact fun r => ⟨fun ⟨_, he, _⟩ => absurd he List.not_mem_nil, fun _ => rfl⟩
  | cons e entries ih =>
    rw [List.foldlM_cons]
    refine yields_bind ((yields_eraseRow t (row e.2)).mono (fun _ h => h) fun _ _ => trivial) fun t₁ h₁ => ?_
    refine (ih t₁).post fun t' h' r => ⟨?_, fun hnone => ?_⟩
    · rintro ⟨e', he', hrow⟩
      by_cases hin : ∃ e ∈ entries, row e.2 = some r
      · exact (h' r).1 hin
      · have heq : e' = e := (List.mem_cons.mp he').resolve_right fun hmem => hin ⟨e', hmem, hrow⟩
        rw [(h' r).2 fun e he hr => hin ⟨e, he, hr⟩, h₁, if_pos (by rw [← heq, hrow])]
    · rw [(h' r).2 fun e he => hnone e (List.mem_cons_of_mem _ he), h₁,
        if_neg fun heq => hnone e List.mem_cons_self heq.symm]

lemma exists_entry_iff {row : β → Option Nat} {m : FlatMap β} {r : Nat} :
    (∃ e ∈ m.entries, row e.2 = some r) ↔ ∃ key, rowOf row m key = some r := by
  constructor
  · rintro ⟨e, he, hr⟩
    refine ⟨e.1, ?_⟩
    unfold rowOf
    rw [FlatMap.find?_eq_some_iff.mpr he]
    exact hr
  · rintro ⟨key, hr⟩
    obtain ⟨b, hb, hr⟩ := Option.bind_eq_some_iff.mp hr
    exact ⟨(key, b), FlatMap.find?_eq_some_iff.mp hb, hr⟩

lemma rowsKept_releaseAll (h : RowOwners (withOwn rid rest own) t)
    (herased : ∀ r l, own l = some r → t'.row? r = none)
    (hkept : ∀ r, (∀ l, own l ≠ some r) → t'.row? r = t.row? r) :
    RowsKept rid rest t (fun _ => none) t' := by
  have hother : ∀ k r, withOwn rid rest (fun _ => none) k = some r → k.1 ≠ rid ∧ withOwn rid rest own k = some r := by
    intro k r hk
    unfold withOwn at hk ⊢
    by_cases hrid : k.1 = rid
    · rw [if_pos hrid] at hk
      cases hk
    · rw [if_neg hrid] at hk ⊢
      exact ⟨hrid, hk⟩
  have hothers : OthersKept rid rest t t' := othersKept_of_rows h hkept
  refine ⟨⟨fun k r hk => ?_, fun r a ha => ?_, fun k k' r hk hk' => ?_⟩, hothers⟩
  · obtain ⟨hrid, hold⟩ := hother k r hk
    obtain ⟨a, ha⟩ := h.row k r hold
    refine ⟨a, (hothers k r hrid ?_).trans ha⟩
    unfold withOwn at hold
    rwa [if_neg hrid] at hold
  · have hfree : ∀ l, own l ≠ some r := by
      intro l hl
      rw [herased r l hl] at ha
      cases ha
    rw [hkept r hfree] at ha
    obtain ⟨k, hk⟩ := h.owner r a ha
    refine ⟨k, ?_⟩
    have hrid : k.1 ≠ rid := by
      intro hrid
      unfold withOwn at hk
      rw [if_pos hrid] at hk
      exact hfree k.2 hk
    unfold withOwn at hk ⊢
    rwa [if_neg hrid] at hk ⊢
  · exact h.unique k k' r (hother k r hk).2 (hother k' r hk').2

end Rows

section Scope

variable {rid : Nat} {rest restLcg : Nat × Nat → Option Nat} {ue : UeView} {x : LcScope}

def Untracked (lc : UeLcState) : Prop :=
  (∀ e ∈ lc.channels.entries, e.2.qosRow = none) ∧ ∀ e ∈ lc.lcgs.entries, e.2.qosRow = none

instance (lc : UeLcState) : Decidable (Untracked lc) := inferInstanceAs (Decidable (_ ∧ _))

lemma deactivateBearers_rows :
    Yields (x.deactivateBearers ue)
      (fun x' => SameBearers x.lc x'.lc ∧
        (∀ r, (∃ l, channelRow x.lc l = some r) → x'.qosChannels.row? r = none) ∧
        (∀ r, (∀ l, channelRow x.lc l ≠ some r) → x'.qosChannels.row? r = x.qosChannels.row? r) ∧
        (∀ r, (∃ g, lcgRow x.lc g = some r) → x'.qosLcgs.row? r = none) ∧
        ∀ r, (∀ g, lcgRow x.lc g ≠ some r) → x'.qosLcgs.row? r = x.qosLcgs.row? r) AnyAbort := by
  refine deactivateBearers_sameBearers.and ?_
  unfold LcScope.deactivateBearers
  refine yields_bind (eraseRows_spec DlLogicalChannelContext.qosRow _ _) fun qosChannels hchannels => ?_
  refine yields_bind (eraseRows_spec UlLogicalChannelGroupContext.qosRow _ _) fun qosLcgs hlcgs => ?_
  refine yields_bind (yields_true _) fun slices _ => yields_bind (yields_true _) fun slices' _ => ?_
  refine ⟨fun r hr => (hchannels r).1 (exists_entry_iff.mpr hr), fun r hr => (hchannels r).2 fun e he hrow => ?_,
    fun r hr => (hlcgs r).1 (exists_entry_iff.mpr hr), fun r hr => (hlcgs r).2 fun e he hrow => ?_⟩
  · obtain ⟨l, hl⟩ := exists_entry_iff.mp ⟨e, he, hrow⟩
    exact hr l hl
  · obtain ⟨g, hg⟩ := exists_entry_iff.mp ⟨e, he, hrow⟩
    exact hr g hg

lemma Untracked.rows (h : Untracked x.lc) : (∀ l, channelRow x.lc l = none) ∧ ∀ g, lcgRow x.lc g = none := by
  constructor
  · intro l
    refine Option.eq_none_iff_forall_ne_some.mpr fun r hr => ?_
    obtain ⟨e, he, hrow⟩ := exists_entry_iff.mpr ⟨l, hr⟩
    rw [h.1 e he] at hrow
    cases hrow
  · intro g
    refine Option.eq_none_iff_forall_ne_some.mpr fun r hr => ?_
    obtain ⟨e, he, hrow⟩ := exists_entry_iff.mpr ⟨g, hr⟩
    rw [h.2 e he] at hrow
    cases hrow

lemma deactivateBearers_released (hx : QosOwned rid rest restLcg x) :
    Yields (x.deactivateBearers ue)
      (fun x' => RowsKept rid rest x.qosChannels (fun _ => none) x'.qosChannels ∧
        RowsKept rid restLcg x.qosLcgs (fun _ => none) x'.qosLcgs) AnyAbort := by
  refine deactivateBearers_rows.post fun x' h => ?_
  obtain ⟨-, herased, hkept, herased', hkept'⟩ := h
  exact ⟨rowsKept_releaseAll hx.channels (fun r l hl => herased r ⟨l, hl⟩) hkept,
    rowsKept_releaseAll hx.lcgs (fun r l hl => herased' r ⟨l, hl⟩) hkept'⟩

lemma deactivateBearers_qosKept (hx : QosOwned rid rest restLcg x) (hfree : Untracked x.lc) :
    Yields (x.deactivateBearers ue) (QosKept rid rest restLcg x) AnyAbort := by
  refine (deactivateBearers_sameBearers.and (deactivateBearers_released hx)).post fun x' h => ?_
  obtain ⟨hsame, hchannels, hlcgs⟩ := h
  have hnone := hfree.rows
  have heq : channelRow x'.lc = fun _ => none := hsame.channelRow_eq.trans (funext hnone.1)
  have heq' : lcgRow x'.lc = fun _ => none := hsame.lcgRow_eq.trans (funext hnone.2)
  constructor
  · rw [heq]
    exact hchannels
  · rw [heq']
    exact hlcgs

end Scope

namespace LogicalChannelSystem

variable {st st' st'' : LogicalChannelSystem} {rid : Nat}

/-- The row that LCID `k.2` of the UE in row `k.1` holds. -/
def heldChannelRow (st : LogicalChannelSystem) (k : Nat × Nat) : Option Nat :=
  (st.ues.row? k.1).bind fun u => channelRow u.lc k.2

/-- The row that LCG `k.2` of the UE in row `k.1` holds. -/
def heldLcgRow (st : LogicalChannelSystem) (k : Nat × Nat) : Option Nat :=
  (st.ues.row? k.1).bind fun u => lcgRow u.lc k.2

/-- Each row of the QoS tables is held by exactly one context, and no context holds another id. -/
structure QosRowsOwned (st : LogicalChannelSystem) : Prop where
  channels : RowOwners st.heldChannelRow st.qosChannels
  lcgs : RowOwners st.heldLcgRow st.qosLcgs

def ueOf (st : LogicalChannelSystem) : LcEvent → Option Nat
  | .slotIndication => none
  | .createUe .. => some st.ues.nextRowId
  | .removeUe rid | .configure rid _ | .deactivate rid | .setFallbackState rid _ | .setLcidRanSlice rid _ _
  | .setLcgRanSlice rid _ _ | .resetLcidRanSlice rid _ | .resetLcgRanSlice rid _
  | .handleDlBufferStatusIndication rid _ _ _ | .handleMacCeIndication rid _ | .handleBsrIndication rid _
  | .handleSrIndication rid | .resetSrIndication rid | .allocateMacSdu rid _ _ _ | .allocateMacCe rid _ _
  | .allocateUeConResIdMacCe rid _ _ | .handleUlGrant rid _ => some rid

/-- The rows that other UEs than `rid` hold are what they were. -/
structure OtherRowsKept (rid : Nat) (st st' : LogicalChannelSystem) : Prop where
  channels : OthersKept rid st.heldChannelRow st.qosChannels st'.qosChannels
  lcgs : OthersKept rid st.heldLcgRow st.qosLcgs st'.qosLcgs

def KeepsOtherRows (st : LogicalChannelSystem) (e : LcEvent) : Prop :=
  ∀ rid st', st.ueOf e = some rid → st.step e = .ok st' → OtherRowsKept rid st st'

/-- If the call is `deactivate`, then the UE tracks no QoS. -/
def DeactivatesUntracked (st : LogicalChannelSystem) : LcEvent → Prop
  | .deactivate rid =>
    match st.ues.row? rid with
    | none => True
    | some u => Untracked u.lc
  | _ => True

instance (st : LogicalChannelSystem) : ∀ e, Decidable (DeactivatesUntracked st e)
  | .deactivate rid => by
    dsimp only [DeactivatesUntracked]
    exact Option.casesOn (st.ues.row? rid) (isTrue trivial) fun _ => inferInstance
  | .slotIndication | .createUe .. | .removeUe _ | .configure .. | .setFallbackState ..
  | .setLcidRanSlice .. | .setLcgRanSlice .. | .resetLcidRanSlice .. | .resetLcgRanSlice ..
  | .handleDlBufferStatusIndication .. | .handleMacCeIndication .. | .handleBsrIndication .. | .handleSrIndication _
  | .resetSrIndication _ | .allocateMacSdu .. | .allocateMacCe .. | .allocateUeConResIdMacCe .. | .handleUlGrant .. =>
    isTrue trivial

/-- A step on the UE `rid` that keeps the rows owned. -/
structure OwnershipKept (rid : Nat) (st st' : LogicalChannelSystem) : Prop where
  owned : QosRowsOwned st'
  others : OtherRowsKept rid st st'

structure SameRows (st st' : LogicalChannelSystem) : Prop where
  channels : st'.heldChannelRow = st.heldChannelRow
  lcgs : st'.heldLcgRow = st.heldLcgRow
  qosChannels : st'.qosChannels = st.qosChannels
  qosLcgs : st'.qosLcgs = st.qosLcgs

lemma SameRows.refl (st : LogicalChannelSystem) : SameRows st st := ⟨rfl, rfl, rfl, rfl⟩

lemma SameRows.trans (h : SameRows st st') (h' : SameRows st' st'') : SameRows st st'' :=
  ⟨h'.channels.trans h.channels, h'.lcgs.trans h.lcgs, h'.qosChannels.trans h.qosChannels, h'.qosLcgs.trans h.qosLcgs⟩

lemma SameRows.owned (h : SameRows st st') (hst : QosRowsOwned st) : QosRowsOwned st' := by
  constructor
  · rw [h.channels, h.qosChannels]
    exact hst.channels
  · rw [h.lcgs, h.qosLcgs]
    exact hst.lcgs

lemma SameRows.otherRowsKept (h : SameRows st st') : OtherRowsKept rid st st' :=
  ⟨fun _ _ _ _ => by rw [h.qosChannels], fun _ _ _ _ => by rw [h.qosLcgs]⟩

lemma SameRows.kept (h : SameRows st st') (hst : QosRowsOwned st) : OwnershipKept rid st st' :=
  ⟨h.owned hst, h.otherRowsKept⟩

lemma OwnershipKept.after_same (h : SameRows st st') (h' : OwnershipKept rid st' st'') : OwnershipKept rid st st'' := by
  refine ⟨h'.owned, ?_, ?_⟩
  · rw [← h.channels, ← h.qosChannels]
    exact h'.others.channels
  · rw [← h.lcgs, ← h.qosLcgs]
    exact h'.others.lcgs

lemma OwnershipKept.before_same (h : OwnershipKept rid st st') (h' : SameRows st' st'') : OwnershipKept rid st st'' := by
  refine ⟨h'.owned h.owned, ?_, ?_⟩
  · rw [h'.qosChannels]
    exact h.others.channels
  · rw [h'.qosLcgs]
    exact h.others.lcgs

lemma SameLcs.sameRows (h : SameLcs st st') : SameRows st st' := by
  refine ⟨?_, ?_, h.qosChannels, h.qosLcgs⟩
  · funext k
    have hrow := congrArg (fun o => o.bind fun p => channelRow p.2 k.2) (h.rows k.1)
    simp only [Option.bind_map] at hrow
    exact hrow
  · funext k
    have hrow := congrArg (fun o => o.bind fun p => lcgRow p.2 k.2) (h.rows k.1)
    simp only [Option.bind_map] at hrow
    exact hrow

lemma sameRows_of_ues (hues : st'.ues = st.ues) (hqos : st'.qosChannels = st.qosChannels)
    (hqos' : st'.qosLcgs = st.qosLcgs) : SameRows st st' := by
  refine ⟨?_, ?_, hqos, hqos'⟩
  · unfold heldChannelRow
    rw [hues]
  · unfold heldLcgRow
    rw [hues]

lemma init_qosRowsOwned : QosRowsOwned init := by
  have hchannels : init.heldChannelRow = fun _ => none := funext fun k => by simp [heldChannelRow, init]
  have hlcgs : init.heldLcgRow = fun _ => none := funext fun k => by simp [heldLcgRow, init]
  constructor
  · rw [hchannels]
    exact RowOwners.empty
  · rw [hlcgs]
    exact RowOwners.empty

variable {u : UeRow}

lemma heldChannelRow_eq (hu : st.ues.row? rid = some u) :
    st.heldChannelRow = withOwn rid st.heldChannelRow (channelRow u.lc) := by
  funext k
  unfold withOwn heldChannelRow
  split
  case isTrue hk =>
    rw [hk, hu]
    rfl
  case isFalse => rfl

lemma heldLcgRow_eq (hu : st.ues.row? rid = some u) : st.heldLcgRow = withOwn rid st.heldLcgRow (lcgRow u.lc) := by
  funext k
  unfold withOwn heldLcgRow
  split
  case isTrue hk =>
    rw [hk, hu]
    rfl
  case isFalse => rfl

lemma QosRowsOwned.scope (h : QosRowsOwned st) (hu : st.ues.row? rid = some u) :
    QosOwned rid st.heldChannelRow st.heldLcgRow (st.scope u) := by
  constructor
  · refine (congrArg (RowOwners · st.qosChannels) (heldChannelRow_eq hu)).mp h.channels
  · refine (congrArg (RowOwners · st.qosLcgs) (heldLcgRow_eq hu)).mp h.lcgs

lemma heldChannelRow_withScope (hu : st.ues.row? rid = some u) (x : LcScope) :
    (st.withScope rid x).heldChannelRow = withOwn rid st.heldChannelRow (channelRow x.lc) := by
  funext k
  unfold withOwn heldChannelRow
  rw [row?_withScope]
  split
  case isTrue hk =>
    rw [hk, hu]
    rfl
  case isFalse => rfl

lemma heldLcgRow_withScope (hu : st.ues.row? rid = some u) (x : LcScope) :
    (st.withScope rid x).heldLcgRow = withOwn rid st.heldLcgRow (lcgRow x.lc) := by
  funext k
  unfold withOwn heldLcgRow
  rw [row?_withScope]
  split
  case isTrue hk =>
    rw [hk, hu]
    rfl
  case isFalse => rfl

lemma updateLcs_ownershipKept (h : QosRowsOwned st) {f : UeView → LcScope → Except LcAbort LcScope}
    (hf : ∀ u, st.ues.row? rid = some u → QosOwned rid st.heldChannelRow st.heldLcgRow (st.scope u) →
      Yields (f u.view (st.scope u)) (QosKept rid st.heldChannelRow st.heldLcgRow (st.scope u)) AnyAbort) :
    Yields (st.updateLcs rid f) (OwnershipKept rid st) AnyAbort := by
  unfold updateLcs
  refine yields_bind ((yields_rowAt _ _).mono (fun _ h => h) fun _ _ => trivial) fun u hu => ?_
  refine yields_bind (hf u hu (h.scope hu)) fun x hx => ⟨⟨?_, ?_⟩, hx.channels.others, hx.lcgs.others⟩
  · rw [heldChannelRow_withScope hu]
    exact hx.channels.owned
  · rw [heldLcgRow_withScope hu]
    exact hx.lcgs.owned

lemma updateLcs_sameQos (h : QosRowsOwned st) {f : UeView → LcScope → Except LcAbort LcScope}
    (hf : ∀ ue x, Yields (f ue x) (SameQos x) AnyAbort) :
    Yields (st.updateLcs rid f) (OwnershipKept rid st) AnyAbort :=
  updateLcs_ownershipKept h fun _ _ hx => (hf _ _).post fun _ hs => hs.kept hx

lemma modifyUe_sameRows {f : UeRow → UeRow} (hf : ∀ u, (f u).lc = u.lc) : SameRows st (st.modifyUe rid f) := by
  have hrow : ∀ r (g : UeLcState → Option Nat), ((st.modifyUe rid f).ues.row? r).bind (fun u => g u.lc) =
      (st.ues.row? r).bind fun u => g u.lc := by
    intro r g
    refine (congrArg (fun o => Option.bind o fun u : UeRow => g u.lc) (SoaTable.row?_modify f r)).trans ?_
    split
    case isTrue =>
      cases st.ues.row? r with
      | none => rfl
      | some u => exact congrArg g (hf u)
    case isFalse => rfl
  exact ⟨funext fun k => hrow k.1 fun lc => channelRow lc k.2, funext fun k => hrow k.1 fun lc => lcgRow lc k.2, rfl, rfl⟩

lemma resetSrIndication_sameRows : Yields (st.resetSrIndication rid) (SameRows st) AnyAbort :=
  resetSrIndication_sameLcs.mono (fun _ h => SameLcs.sameRows h) fun _ _ => trivial

lemma clearCes_sameRows : Yields (st.clearCes rid) (SameRows st) AnyAbort :=
  clearCes_sameLcs.mono (fun _ h => SameLcs.sameRows h) fun _ _ => trivial

lemma slotIndication_owned (h : QosRowsOwned st) : Yields st.slotIndication QosRowsOwned AnyAbort := by
  unfold slotIndication
  refine yields_bind (yields_refl _) fun qosChannels hok => ⟨?_, h.lcgs⟩
  refine h.channels.rows fun r => ?_
  rcases SoaTable.row?_mapRows hok r with ⟨hnone, hnone'⟩ | ⟨a, b, ha, -, hb⟩
  · rw [hnone, hnone']
  · rw [ha, hb]
    rfl

lemma configure_ownershipKept (h : QosRowsOwned st) (cfgs : LogicalChannelConfigList) :
    Yields (st.configure rid cfgs) (OwnershipKept rid st) AnyAbort :=
  updateLcs_ownershipKept h fun _ _ hx => configure_qosKept hx cfgs

lemma addUeRow_sameRows (ueIndex scsCommon : Nat) (startsInFallback : Bool) :
    SameRows st (st.addUeRow (.create ueIndex scsCommon startsInFallback)) := by
  have hrow : ∀ r (g : UeLcState → Option Nat), g .init = none →
      ((st.addUeRow (.create ueIndex scsCommon startsInFallback)).ues.row? r).bind (fun u => g u.lc) =
        (st.ues.row? r).bind fun u => g u.lc := by
    intro r g hg
    refine (congrArg (fun o => Option.bind o fun u : UeRow => g u.lc) (SoaTable.row?_insert _ r)).trans ?_
    split
    case isTrue hr =>
      rw [hr, SoaTable.row?_nextRowId]
      exact hg
    case isFalse => rfl
  exact ⟨funext fun k => hrow k.1 (fun lc => channelRow lc k.2) rfl, funext fun k => hrow k.1 (fun lc => lcgRow lc k.2) rfl,
    rfl, rfl⟩

lemma createUe_ownershipKept (h : QosRowsOwned st) (ueIndex scsCommon : Nat) (startsInFallback : Bool)
    (cfgs : Option LogicalChannelConfigList) :
    Yields (st.createUe ueIndex scsCommon startsInFallback cfgs) (OwnershipKept st.ues.nextRowId st) AnyAbort := by
  unfold createUe
  refine yields_ite (fun _ => trivial) fun _ => ?_
  refine yields_bind ((growUes_spec ueIndex).mono (fun _ h => h) fun _ _ => trivial) fun st₁ h₁ => ?_
  refine yields_bind (yields_true _) fun configuredUes _ => ?_
  have hadd : SameRows st { st₁ with configuredUes := configuredUes } :=
    (addUeRow_sameRows ueIndex scsCommon startsInFallback).trans (sameRows_of_ues h₁.ues h₁.qosChannels h₁.qosLcgs)
  cases cfgs with
  | none => exact hadd.kept h
  | some cfgs => exact (configure_ownershipKept (hadd.owned h) cfgs).post fun _ h' => .after_same hadd h'

lemma deactivate_ownershipKept (h : QosRowsOwned st) (hfree : ∀ u, st.ues.row? rid = some u → Untracked u.lc) :
    Yields (st.deactivate rid) (OwnershipKept rid st) AnyAbort := by
  unfold deactivate
  refine yields_bind (clearCes_sameLcs.mono (fun _ h => h) fun _ _ => trivial) fun st₁ h₁ => ?_
  refine yields_bind (resetSrIndication_sameLcs.mono (fun _ h => h) fun _ _ => trivial) fun st₂ h₂ => ?_
  have hsame := SameLcs.sameRows (h₁.trans h₂)
  refine (updateLcs_ownershipKept (hsame.owned h) fun u₂ hu₂ hx => deactivateBearers_qosKept hx ?_).post fun _ h' =>
    .after_same hsame h'
  obtain ⟨u, hu, -, hlc⟩ := (h₁.trans h₂).row_some hu₂
  have hfree' := hfree u hu
  rw [hlc] at hfree'
  exact hfree'

/-- A UE that goes takes its rows along, whether or not it has been deactivated while it held any. -/
lemma removeUe_ownershipKept (h : QosRowsOwned st) : Yields (st.removeUe rid) (OwnershipKept rid st) AnyAbort := by
  unfold removeUe
  refine yields_bind (yields_true _) fun u _ => yields_ite (fun _ => trivial) fun _ => ?_
  unfold deactivate updateLcs
  refine yields_bind (Q := fun st₄ => ∃ st₃ u₃ x, SameRows st st₃ ∧ st₃.ues.row? rid = some u₃ ∧
      st₄ = st₃.withScope rid x ∧
      RowsKept rid st₃.heldChannelRow st₃.qosChannels (fun _ => none) x.qosChannels ∧
      RowsKept rid st₃.heldLcgRow st₃.qosLcgs (fun _ => none) x.qosLcgs) ?_ ?_
  · refine yields_bind clearCes_sameRows fun st₁ h₁ => yields_bind resetSrIndication_sameRows fun st₂ h₂ => ?_
    have hsame := h₁.trans h₂
    refine yields_bind ((yields_rowAt _ _).mono (fun _ h => h) fun _ _ => trivial) fun u₂ hu₂ => ?_
    refine yields_bind (deactivateBearers_released ((hsame.owned h).scope hu₂)) fun x hx => ?_
    exact ⟨st₂, u₂, x, hsame, hu₂, rfl, hx⟩
  · rintro st₄ ⟨st₃, u₃, x, hsame, hu₃, rfl, hchannels, hlcgs⟩
    refine yields_bind ((yields_lift fun _ => trivial : Yields _ _ AnyAbort)) ?_
    rintro ⟨ues, erased⟩ herase
    refine yields_bind (yields_true _) fun configuredUes _ => ?_
    have hrows : ∀ r, ues.row? r = if r = rid then none else st₃.ues.row? r := by
      intro r
      rw [SoaTable.row?_erase herase, row?_withScope]
      split
      case isTrue => rfl
      case isFalse => rfl
    have hgone : OwnershipKept rid st₃ { st₃.withScope rid x with ues := ues, configuredUes := configuredUes } := by
      refine ⟨⟨?_, ?_⟩, hchannels.others, hlcgs.others⟩
      · refine (congrArg (RowOwners · x.qosChannels) ?_).mp hchannels.owned
        funext k
        unfold withOwn heldChannelRow
        rw [hrows]
        split
        case isTrue => rfl
        case isFalse => rfl
      · refine (congrArg (RowOwners · x.qosLcgs) ?_).mp hlcgs.owned
        funext k
        unfold withOwn heldLcgRow
        rw [hrows]
        split
        case isTrue => rfl
        case isFalse => rfl
    refine (stripUes_spec.mono (fun _ h => h) fun _ _ => trivial).post fun st₅ h₅ => ?_
    rcases h₅ with rfl | ⟨n, hr, -⟩
    · exact .after_same hsame hgone
    · exact .after_same hsame (hgone.before_same (sameRows_of_ues hr.ues hr.qosChannels hr.qosLcgs))

lemma setFallbackState_ownershipKept (h : QosRowsOwned st) (enterFallback : Bool) :
    Yields (st.setFallbackState rid enterFallback) (OwnershipKept rid st) AnyAbort := by
  unfold setFallbackState
  refine yields_bind (yields_true _) fun u _ => yields_ite (fun _ => (SameRows.refl st).kept h) fun _ => ?_
  have hflag : SameRows st (st.modifyUe rid fun u => { u with fallbackState := enterFallback }) :=
    modifyUe_sameRows fun _ => rfl
  refine yields_ite (fun _ => ?_) fun _ => ?_
  · refine yields_bind (updateLcs_sameQos (hflag.owned h) fun _ _ => enterFallback_sameQos) fun st₁ h₁ => ?_
    refine yields_bind (yields_true _) fun bits _ => ?_
    exact (OwnershipKept.after_same hflag h₁).before_same (sameRows_of_ues rfl rfl rfl)
  · refine yields_bind (updateLcs_sameQos (hflag.owned h) fun _ _ => exitFallback_sameQos) fun st₁ h₁ => ?_
    have hkept := OwnershipKept.after_same hflag h₁
    refine yields_ite (fun _ => yields_bind (yields_true _) fun bits _ => ?_) fun _ => hkept
    exact hkept.before_same (sameRows_of_ues rfl rfl rfl)

lemma allocateMacSdu_ownershipKept (h : QosRowsOwned st) (subpdu : DlMsgLcInfo) (remBytes lcid : Nat) :
    Yields (st.allocateMacSdu rid subpdu remBytes lcid) (fun r => OwnershipKept rid st r.2) AnyAbort := by
  unfold allocateMacSdu
  refine yields_bind ((yields_rowAt _ _).mono (fun _ h => h) fun _ _ => trivial) fun u hu => ?_
  refine yields_bind (allocateMacSdu_qosKept (h.scope hu) subpdu remBytes lcid) ?_
  rintro ⟨alloc, x⟩ hx
  refine ⟨⟨?_, ?_⟩, hx.channels.others, hx.lcgs.others⟩
  · rw [heldChannelRow_withScope hu]
    exact hx.channels.owned
  · rw [heldLcgRow_withScope hu]
    exact hx.lcgs.owned

lemma step_ownershipKept (h : QosRowsOwned st) {e : LcEvent} (he : st.ueOf e = some rid)
    (hfree : DeactivatesUntracked st e) : Yields (st.step e) (OwnershipKept rid st) AnyAbort := by
  have hcalls : ∀ {r : Except LcAbort LogicalChannelSystem}, Yields r (SameLcs st) DlSafe →
      Yields r (OwnershipKept rid st) AnyAbort :=
    fun hs => hs.mono (fun _ hs => (SameLcs.sameRows hs).kept h) fun _ _ => trivial
  unfold step
  cases e with
  | slotIndication => cases he
  | createUe ueIndex scsCommon startsInFallback cfgs =>
    obtain rfl := Option.some.inj he
    exact createUe_ownershipKept h ueIndex scsCommon startsInFallback cfgs
  | removeUe => exact Option.some.inj he ▸ removeUe_ownershipKept h
  | configure _ cfgs => exact Option.some.inj he ▸ configure_ownershipKept h cfgs
  | deactivate rid' =>
    obtain rfl : rid' = rid := Option.some.inj he
    refine deactivate_ownershipKept h fun u hu => ?_
    unfold DeactivatesUntracked at hfree
    dsimp only at hfree
    rwa [hu] at hfree
  | setFallbackState _ enterFallback => exact Option.some.inj he ▸ setFallbackState_ownershipKept h enterFallback
  | setLcidRanSlice => exact Option.some.inj he ▸ updateLcs_sameQos h fun _ _ => setLcidRanSlice_sameQos _ _ _
  | setLcgRanSlice => exact Option.some.inj he ▸ updateLcs_sameQos h fun _ _ => setLcgRanSlice_sameQos _ _ _
  | resetLcidRanSlice => exact Option.some.inj he ▸ updateLcs_sameQos h fun _ _ => deregisterLcRanSlice_sameQos _
  | resetLcgRanSlice => exact Option.some.inj he ▸ updateLcs_sameQos h fun _ _ => deregisterLcgRanSlice_sameQos _
  | handleDlBufferStatusIndication =>
    exact Option.some.inj he ▸ updateLcs_sameQos h fun _ _ => handleDlBufferStatusIndication_sameQos _ _ _
  | handleMacCeIndication _ ce => exact hcalls (handleMacCeIndication_sameLcs ce)
  | handleBsrIndication _ msg =>
    exact Option.some.inj he ▸ updateLcs_ownershipKept h fun _ _ hx => handleBsrIndication_qosKept hx msg
  | handleSrIndication => exact hcalls handleSrIndication_sameLcs
  | resetSrIndication => exact hcalls resetSrIndication_sameLcs
  | allocateMacSdu _ subpdu remBytes lcid =>
    exact Option.some.inj he ▸ yields_bind (allocateMacSdu_ownershipKept h subpdu remBytes lcid) fun _ h => h
  | allocateMacCe _ subpdu remBytes =>
    exact hcalls (yields_bind (allocateMacCe_sameLcs subpdu remBytes) fun _ h => h)
  | allocateUeConResIdMacCe _ subpdu remBytes =>
    exact hcalls (yields_bind (allocateUeConResIdMacCe_sameLcs subpdu remBytes) fun _ h => h)
  | handleUlGrant rid' grantSize =>
    obtain rfl : rid' = rid := Option.some.inj he
    refine yields_bind resetSrIndication_sameRows fun st₁ h₁ => ?_
    exact (updateLcs_ownershipKept (h₁.owned h) fun _ _ hx => handleUlGrant_qosKept hx grantSize).post fun _ h' =>
      .after_same h₁ h'

lemma step_owned (h : QosRowsOwned st) {e : LcEvent} (hfree : DeactivatesUntracked st e) :
    Yields (st.step e) QosRowsOwned AnyAbort := by
  cases hue : st.ueOf e with
  | some rid => exact (step_ownershipKept h hue hfree).post fun _ h' => h'.owned
  | none =>
    cases e with
    | slotIndication => exact slotIndication_owned h
    | _ => cases hue

/-- In a run that deactivates no UE while it tracks QoS, the QoS rows are owned, and no call on a UE concerns those of
others. -/
theorem qos_rows_owned (es : List LcEvent) (hes : RunsWithin step DeactivatesUntracked init es) :
    HoldsThroughout step QosRowsOwned init es ∧ RunsWithin step KeepsOtherRows init es :=
  runsWithin_establishes QosRowsOwned (fun _ h => h) (fun _ _ _ h hfree hs => (step_owned h hfree).of_ok hs)
    (fun _ _ h hfree _ _ hue hs => ((step_ownershipKept h hue hfree).of_ok hs).others) init_qosRowsOwned hes

/-- Two UEs with GBR channels; the second gets the rows of the first, which stops tracking its QoS and is removed. -/
lemma srbAndDrb_sorted :
    [(⟨1, 0, none⟩ : LogicalChannelConfig), ⟨4, 1, none⟩].Pairwise fun a b => a.lcid ≤ b.lcid := by simp

def recycledRowsRun : List LcEvent :=
  [.createUe 0 1 false (some ⟨[⟨1, 0, none⟩, ⟨4, 1, some ⟨10, 1, true, some 2⟩⟩], by simp⟩),
    .configure 0 ⟨[⟨1, 0, none⟩, ⟨4, 1, none⟩], srbAndDrb_sorted⟩, .deactivate 0,
    .createUe 1 1 false (some ⟨[⟨1, 0, none⟩, ⟨5, 2, some ⟨10, 1, true, some 2⟩⟩], by simp⟩), .removeUe 0]

theorem qos_rows_owned_recycled :
    (run recycledRowsRun).toOption.isSome = true ∧
      HoldsThroughout step QosRowsOwned init recycledRowsRun ∧ RunsWithin step KeepsOtherRows init recycledRowsRun :=
  ⟨by decide, qos_rows_owned recycledRowsRun (by decide)⟩

def gbrList : LogicalChannelConfigList := ⟨[⟨4, 1, some ⟨10, 1, true, some 2⟩⟩], by simp⟩

/-- After its deactivation a UE holds a row that is gone, and when it is removed it takes the row of the UE that has got
it in the meantime. -/
theorem qos_rows_not_owned :
    (∃ st, run [.createUe 0 1 false (some gbrList), .deactivate 0] = .ok st ∧ ¬QosRowsOwned st) ∧
    ∃ st, run [.createUe 0 1 false (some gbrList), .deactivate 0, .createUe 1 1 false (some gbrList)] = .ok st ∧
      ¬KeepsOtherRows st (.removeUe 0) := by
  refine ⟨⟨_, rfl, fun h => ?_⟩, _, rfl, fun h => ?_⟩
  · obtain ⟨a, ha⟩ := h.channels.row (0, 4) 0 rfl
    cases ha
  · have hrow := (h 0 _ rfl rfl).channels (1, 4) 0 Nat.one_ne_zero rfl
    cases hrow

end LogicalChannelSystem

end OwlsRan.Sched
