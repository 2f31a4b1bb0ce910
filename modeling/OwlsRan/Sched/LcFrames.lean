import OwlsRan.Sched.LogicalChannelSystem

/-!
# What the calls on CEs and SRs leave alone

The logical channels of the UEs, their slices and their QoS rows are the same before and after a call that is
about CEs or SRs only.
-/

namespace OwlsRan.Sched
open OwlsRan.Lib OwlsRan.Adt OwlsRan.Ran

def DlSafe (a : LcAbort) : Prop := a ≠ .invalidDlSlicePendingBytes ∧ a ≠ .sliceNotTracked

@[simp] lemma dlSafe_table (a : TableAbort) : DlSafe (.table a) := ⟨nofun, nofun⟩

@[simp] lemma dlSafe_bitset (a : BitsetAbort) : DlSafe (.bitset a) := ⟨nofun, nofun⟩

@[simp] lemma dlSafe_averager (a : AveragerAbort) : DlSafe (.averager a) := ⟨nofun, nofun⟩

@[simp] lemma dlSafe_keyNotFound : DlSafe .keyNotFound := ⟨nofun, nofun⟩

@[simp] lemma dlSafe_capacityExceeded : DlSafe .capacityExceeded := ⟨nofun, nofun⟩

lemma yields_rowAt {α : Type} (t : SoaTable α) (rid : Nat) :
    Yields (rowAt t rid) (fun a => t.row? rid = some a) DlSafe := by
  unfold rowAt
  split
  case h_1 hrow => exact hrow
  case h_2 => exact dlSafe_table _

lemma yields_atKey {α : Type} (m : FlatMap α) (k : Nat) : Yields (atKey m k) (fun a => m.find? k = some a) DlSafe := by
  unfold atKey
  split
  case h_1 hfind => exact hfind
  case h_2 => exact dlSafe_keyNotFound

lemma yields_emplaceWithin {α : Type} (capacity : Nat) (m : FlatMap α) (k : Nat) (v : α) :
    Yields (emplaceWithin capacity m k v)
      (fun m' => (m.contains k = true ∧ m' = m) ∨ (m.find? k = none ∧ m.size < capacity ∧ m' = m.emplace k v))
      DlSafe := by
  unfold emplaceWithin
  refine yields_ite (fun hc => Or.inl ⟨hc, rfl⟩) fun hc => yields_ite (fun hs => Or.inr ⟨?_, hs, rfl⟩) fun _ => ?_
  · exact FlatMap.contains_eq_false_iff.mp (by simpa using hc)
  · exact dlSafe_capacityExceeded

lemma yields_eraseRow {α : Type} (t : SoaTable α) (row : Option Nat) :
    Yields (eraseRow t row) (fun t' => ∀ r, t'.row? r = if some r = row then none else t.row? r) DlSafe := by
  unfold eraseRow
  split
  case h_1 => simp
  case h_2 rid =>
    refine yields_bind (yields_lift dlSafe_table) fun res hres => ?_
    obtain ⟨t', b⟩ := res
    intro r
    rw [SoaTable.row?_erase hres]
    simp

def dlBit (slices : FlatMap RanSliceContext) (s idx : Nat) : Bool :=
  match slices.find? s with
  | some ctx => ctx.pendingDlUes.bit idx
  | none => false

/-- `st'` has the logical channels of `st`. -/
structure SameLcs (st st' : LogicalChannelSystem) : Prop where
  slices : st'.slices = st.slices
  configuredUes : st'.configuredUes = st.configuredUes
  qosChannels : st'.qosChannels = st.qosChannels
  qosLcgs : st'.qosLcgs = st.qosLcgs
  rows : ∀ rid, (st'.ues.row? rid).map (fun u => (u.view, u.lc)) = (st.ues.row? rid).map fun u => (u.view, u.lc)

namespace SameLcs

variable {st st' st'' : LogicalChannelSystem}

lemma refl (st : LogicalChannelSystem) : SameLcs st st := ⟨rfl, rfl, rfl, rfl, fun _ => rfl⟩

lemma trans (h : SameLcs st st') (h' : SameLcs st' st'') : SameLcs st st'' :=
  ⟨h'.slices.trans h.slices, h'.configuredUes.trans h.configuredUes, h'.qosChannels.trans h.qosChannels,
    h'.qosLcgs.trans h.qosLcgs, fun rid => (h'.rows rid).trans (h.rows rid)⟩

lemma row_some (h : SameLcs st st') {rid : Nat} {u' : UeRow} (hu : st'.ues.row? rid = some u') :
    ∃ u, st.ues.row? rid = some u ∧ u.view = u'.view ∧ u.lc = u'.lc := by
  have hrow := h.rows rid
  rw [hu] at hrow
  obtain ⟨u, hu, heq⟩ := Option.map_eq_some_iff.mp hrow.symm
  exact ⟨u, hu, congrArg Prod.fst heq, congrArg Prod.snd heq⟩

lemma scope_eq (h : SameLcs st st') {u u' : UeRow} (hlc : u.lc = u'.lc) : st'.scope u' = st.scope u := by
  unfold LogicalChannelSystem.scope
  rw [h.slices, h.qosChannels, h.qosLcgs, hlc]

end SameLcs

namespace LogicalChannelSystem

variable {st : LogicalChannelSystem} {rid : Nat} {f : UeRow → UeRow}

lemma row?_modify_map (hf : ∀ u, (f u).view = u.view ∧ (f u).lc = u.lc) (r : Nat) :
    ((st.ues.modify rid f).row? r).map (fun u => (u.view, u.lc)) = (st.ues.row? r).map fun u => (u.view, u.lc) := by
  rw [SoaTable.row?_modify]
  split
  case isTrue =>
    rw [Option.map_map]
    congr 1
    funext u
    exact Prod.ext (hf u).1 (hf u).2
  case isFalse => rfl

lemma sameLcs_modifyUe (hf : ∀ u, (f u).view = u.view ∧ (f u).lc = u.lc) : SameLcs st (st.modifyUe rid f) :=
  ⟨rfl, rfl, rfl, rfl, row?_modify_map hf⟩

lemma clearCes_sameLcs : Yields (st.clearCes rid) (SameLcs st) DlSafe := by
  have hces : ∀ fuel (t : SoaTable MacCeContext) it, Yields (eraseCes fuel t it) (fun _ => True) DlSafe := by
    intro fuel
    induction fuel with
    | zero =>
      intro t it
      cases it with
      | none => trivial
      | some rid => exact dlSafe_table _
    | succ fuel ih =>
      intro t it
      cases it with
      | none => trivial
      | some rid =>
        exact yields_bind (yields_rowAt t rid) fun ctx _ => yields_bind (yields_lift dlSafe_table) fun res _ => ih _ _
  unfold clearCes
  refine yields_bind (yields_rowAt _ _) fun u _ => yields_bind (hces _ _ _) fun pendingCes _ => ?_
  refine yields_bind (yields_lift dlSafe_bitset) fun bits _ => ?_
  exact ⟨rfl, rfl, rfl, rfl, row?_modify_map fun u => ⟨rfl, rfl⟩⟩

lemma resetSrIndication_sameLcs : Yields (st.resetSrIndication rid) (SameLcs st) DlSafe := by
  unfold resetSrIndication
  refine yields_bind (yields_rowAt _ _) fun u _ => yields_bind (yields_lift dlSafe_bitset) fun bits _ => ?_
  exact ⟨rfl, rfl, rfl, rfl, fun _ => rfl⟩

lemma handleSrIndication_sameLcs : Yields (st.handleSrIndication rid) (SameLcs st) DlSafe := by
  unfold handleSrIndication
  refine yields_bind (yields_rowAt _ _) fun u _ => yields_bind (yields_lift dlSafe_bitset) fun bits _ => ?_
  exact ⟨rfl, rfl, rfl, rfl, fun _ => rfl⟩

lemma yields_findCeSlot (t : SoaTable MacCeContext) (ceLcid : LcidDlSch) (fuel : Nat) (prev it : Option Nat) :
    Yields (findCeSlot t ceLcid fuel prev it) (fun _ => True) DlSafe := by
  induction fuel generalizing prev it with
  | zero =>
    cases it with
    | none => trivial
    | some rid => exact ⟨nofun, nofun⟩
  | succ fuel ih =>
    cases it with
    | none => trivial
    | some rid =>
      refine yields_bind (yields_rowAt t rid) fun ctx _ => yields_ite (fun _ => ?_) fun _ => ih _ _
      trivial

lemma handleMacCeIndication_sameLcs (ce : MacCeInfo) :
    Yields (st.handleMacCeIndication rid ce) (SameLcs st) DlSafe := by
  unfold handleMacCeIndication
  refine yields_bind (yields_rowAt _ _) fun u _ => yields_ite (fun _ => ?_) fun _ => ?_
  · exact sameLcs_modifyUe fun u => ⟨rfl, rfl⟩
  refine yields_bind (yields_findCeSlot _ _ _ _ _) fun slot _ => ?_
  cases slot with
  | overwrite ceRid => exact ⟨rfl, rfl, rfl, rfl, fun _ => rfl⟩
  | append prev =>
    have happend : SameLcs st (st.appendCe rid ce prev) := by
      unfold appendCe
      cases prev with
      | none => exact ⟨rfl, rfl, rfl, rfl, row?_modify_map fun u => ⟨rfl, rfl⟩⟩
      | some prevRid => exact ⟨rfl, rfl, rfl, rfl, fun _ => rfl⟩
    refine yields_bind (yields_lift dlSafe_bitset) fun bits _ => ?_
    exact happend.trans ⟨rfl, rfl, rfl, rfl, row?_modify_map fun u => ⟨rfl, rfl⟩⟩

lemma allocateUeConResIdMacCe_sameLcs (subpdu : DlMsgLcInfo) (remBytes : Nat) :
    Yields (st.allocateUeConResIdMacCe rid subpdu remBytes) (fun r => SameLcs st r.2) DlSafe := by
  unfold allocateUeConResIdMacCe
  refine yields_bind (yields_rowAt _ _) fun u _ => yields_ite (fun _ => SameLcs.refl st) fun _ => ?_
  exact yields_ite (fun _ => SameLcs.refl st) fun _ => sameLcs_modifyUe fun u => ⟨rfl, rfl⟩

lemma popCe_sameLcs (ceRid : Nat) (ctx : MacCeContext) : Yields (st.popCe rid ceRid ctx) (SameLcs st) DlSafe := by
  unfold popCe
  refine yields_bind (yields_rowAt _ _) fun u _ => yields_bind (yields_lift dlSafe_table) fun res _ => ?_
  have hpop : SameLcs st ({ st with pendingCes := res.1 }.modifyUe rid fun u =>
      { u with
        pendingCes := ctx.nextUeCe
        pendingCeBytes := wrap32 (u.pendingCeBytes + (4294967296 - ceRequiredBytes ctx.info.ceLcid)) }) :=
    ⟨rfl, rfl, rfl, rfl, row?_modify_map fun u => ⟨rfl, rfl⟩⟩
  refine yields_ite (fun _ => yields_bind (yields_lift dlSafe_bitset) fun bits _ => ?_) fun _ => hpop
  exact hpop.trans ⟨rfl, rfl, rfl, rfl, fun _ => rfl⟩

lemma allocateMacCe_sameLcs (subpdu : DlMsgLcInfo) (remBytes : Nat) :
    Yields (st.allocateMacCe rid subpdu remBytes) (fun r => SameLcs st r.2) DlSafe := by
  unfold allocateMacCe
  refine yields_bind (allocateUeConResIdMacCe_sameLcs _ _) fun r hr => yields_ite (fun _ => hr) fun _ => ?_
  refine yields_bind (yields_rowAt _ _) fun u _ => ?_
  split
  · exact hr
  · refine yields_bind (yields_rowAt _ _) fun ctx _ => yields_ite (fun _ => hr) fun _ => ?_
    exact yields_bind (popCe_sameLcs _ _) fun st' h => hr.trans h

/-- What a resize of the bitsets keeps: everything below the new size. -/
structure Resized (n : Nat) (st st' : LogicalChannelSystem) : Prop where
  ues : st'.ues = st.ues
  pendingCes : st'.pendingCes = st.pendingCes
  qosChannels : st'.qosChannels = st.qosChannels
  qosLcgs : st'.qosLcgs = st.qosLcgs
  configuredUes : ∀ i, st'.configuredUes.bit i = (decide (i < n) && st.configuredUes.bit i)
  uesWithPendingCes : ∀ i, st'.uesWithPendingCes.bit i = (decide (i < n) && st.uesWithPendingCes.bit i)
  size : st'.configuredUes.size = n ∧ st'.uesWithPendingCes.size = n
  dlBit : ∀ s i, dlBit st'.slices s i = (decide (i < n) && dlBit st.slices s i)
  slices : ∀ s, st'.slices.contains s = st.slices.contains s

lemma resizeUes_spec (n : Nat) : Yields (st.resizeUes n) (Resized n st) DlSafe := by
  unfold resizeUes
  refine yields_bind (yields_lift dlSafe_bitset) fun configuredUes hconf => ?_
  refine yields_bind (yields_lift dlSafe_bitset) fun ces hces => ?_
  refine yields_bind (yields_lift dlSafe_bitset) fun sr _ => ?_
  refine yields_bind (FlatMap.yields_mapValuesM (fun ctx => ?_) _) fun slices hslices => ?_
  · refine yields_bind (yields_lift dlSafe_bitset) fun dl _ => ?_
    exact yields_bind (yields_lift dlSafe_bitset) fun ul _ => trivial
  refine ⟨rfl, rfl, rfl, rfl, BoundedBitset.bit_resize hconf, BoundedBitset.bit_resize hces,
    ⟨BoundedBitset.size_resize hconf, BoundedBitset.size_resize hces⟩, ?_, ?_⟩
  · intro s i
    unfold OwlsRan.Sched.dlBit
    rcases FlatMap.find?_mapValuesM hslices s with ⟨h, h'⟩ | ⟨ctx, ctx', h, hctx, h'⟩
    · dsimp only
      rw [h, h']
      simp
    · obtain ⟨dl, hdl, hctx⟩ := bind_eq_ok.mp hctx
      obtain ⟨ul, -, hctx⟩ := bind_eq_ok.mp hctx
      cases hctx
      dsimp only
      rw [h, h']
      exact BoundedBitset.bit_resize (mapError_eq_ok.mp hdl) i
  · intro s
    unfold FlatMap.contains
    rcases FlatMap.find?_mapValuesM hslices s with ⟨h, h'⟩ | ⟨ctx, ctx', h, -, h'⟩ <;> rw [h, h']
    rfl

lemma stripUes_spec : Yields st.stripUes
    (fun st' => st' = st ∨ ∃ n, Resized n st st' ∧ ∀ i, st.configuredUes.bit i = true → i < n) DlSafe := by
  unfold stripUes
  refine yields_ite (fun _ => (resizeUes_spec _).post fun st' hr => Or.inr ⟨_, hr, fun i hi => ?_⟩) fun _ => Or.inl rfl
  split
  case h_1 hnone =>
    rw [BoundedBitset.findHighest_eq_none hnone i] at hi
    cases hi
  case h_2 highest hhighest =>
    have := BoundedBitset.findHighest_lt hhighest hi
    omega

/-- What growing the bitsets for a new UE keeps, given that UEs that do not exist have no bits. -/
structure Grown (st st' : LogicalChannelSystem) : Prop where
  ues : st'.ues = st.ues
  pendingCes : st'.pendingCes = st.pendingCes
  qosChannels : st'.qosChannels = st.qosChannels
  qosLcgs : st'.qosLcgs = st.qosLcgs
  configuredUes : ∀ i, st'.configuredUes.bit i = st.configuredUes.bit i
  uesWithPendingCes : ∀ i, (st.configuredUes.bit i = false → st.uesWithPendingCes.bit i = false) →
    st'.uesWithPendingCes.bit i = st.uesWithPendingCes.bit i
  size : st.uesWithPendingCes.size = st.configuredUes.size → st'.uesWithPendingCes.size = st'.configuredUes.size
  dlBit : ∀ s i, (st.configuredUes.bit i = false → dlBit st.slices s i = false) →
    dlBit st'.slices s i = dlBit st.slices s i
  slices : ∀ s, st'.slices.contains s = st.slices.contains s

lemma growUes_spec (ueIndex : Nat) :
    Yields (if st.configuredUes.size ≤ ueIndex then st.resizeUes (ueIndex + 1) else .ok st) (Grown st) DlSafe := by
  refine yields_ite (fun hsize => (resizeUes_spec _).post fun st' hr => ?_) fun _ =>
    ⟨rfl, rfl, rfl, rfl, fun _ => rfl, fun _ _ => rfl, id, fun _ _ _ => rfl, fun _ => rfl⟩
  have hkeep : ∀ i b, (st.configuredUes.bit i = false → b = false) → (decide (i < ueIndex + 1) && b) = b := by
    intro i b hb
    by_cases hi : i < ueIndex + 1
    · rw [decide_eq_true hi, Bool.true_and]
    · rw [hb (BoundedBitset.bit_of_size_le (by omega)), Bool.and_false]
  exact ⟨hr.ues, hr.pendingCes, hr.qosChannels, hr.qosLcgs, fun i => (hr.configuredUes i).trans (hkeep i _ id),
    fun i hi => (hr.uesWithPendingCes i).trans (hkeep i _ hi), fun _ => hr.size.2.trans hr.size.1.symm,
    fun s i hi => (hr.dlBit s i).trans (hkeep i _ hi), hr.slices⟩

/-- What `updateLcs` does: the code runs on the scope of the row, which is then put back. -/
lemma updateLcs_ok {f : UeView → LcScope → Except LcAbort LcScope} {st' : LogicalChannelSystem}
    (h : st.updateLcs rid f = .ok st') :
    ∃ u x, st.ues.row? rid = some u ∧ f u.view (st.scope u) = .ok x ∧ st' = st.withScope rid x := by
  obtain ⟨u, hu, h⟩ := bind_eq_ok.mp h
  obtain ⟨x, hx, h⟩ := bind_eq_ok.mp h
  exact ⟨u, x, (yields_rowAt _ _).of_ok hu, hx, (Except.ok.inj h).symm⟩

lemma yields_updateLcs {f : UeView → LcScope → Except LcAbort LcScope} {Q : LogicalChannelSystem → Prop}
    (h : ∀ u, st.ues.row? rid = some u → Yields (f u.view (st.scope u)) (fun x => Q (st.withScope rid x)) DlSafe) :
    Yields (st.updateLcs rid f) Q DlSafe :=
  yields_bind (yields_rowAt _ _) fun u hu => yields_bind (h u hu) fun _ hx => hx

lemma row?_modify_of_some {u : UeRow} (hu : st.ues.row? rid = some u) (r : Nat) :
    (st.ues.modify rid f).row? r = if r = rid then some (f u) else st.ues.row? r := by
  rw [SoaTable.row?_modify]
  by_cases hr : r = rid
  · rw [if_pos hr, if_pos hr, hr, hu]
    rfl
  · rw [if_neg hr, if_neg hr]

lemma row?_withScope (x : LcScope) (r : Nat) :
    (st.withScope rid x).ues.row? r =
      if r = rid then (st.ues.row? r).map fun u => { u with lc := x.lc } else st.ues.row? r :=
  SoaTable.row?_modify _ _

end LogicalChannelSystem

end OwlsRan.Sched
