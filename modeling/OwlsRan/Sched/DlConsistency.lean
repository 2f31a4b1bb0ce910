import OwlsRan.Sched.DlAccounting

namespace OwlsRan.Sched
open OwlsRan.Lib OwlsRan.Adt OwlsRan.Ran

namespace LogicalChannelSystem

structure DlConsistent (st : LogicalChannelSystem) : Prop where
  accounted : ∀ rid u, st.ues.row? rid = some u → DlAccounted u.view (st.scope u)
  configured : ∀ rid u, st.ues.row? rid = some u → st.configuredUes.bit u.ueIndex = true
  unique : ∀ rid rid' u u', st.ues.row? rid = some u → st.ues.row? rid' = some u' → u.ueIndex = u'.ueIndex → rid = rid'
  idle : ∀ i s, st.configuredUes.bit i = false → dlBit st.slices s i = false

variable {st st' : LogicalChannelSystem} {rid : Nat}

lemma dlAccounted_frame {ue : UeView} {x x' : LcScope} (h : DlAccounted ue x) (hlc : x'.lc = x.lc)
    (hbit : ∀ s, dlBit x'.slices s ue.ueIndex = dlBit x.slices s ue.ueIndex)
    (hknown : ∀ s, x.slices.contains s = true → x'.slices.contains s = true) : DlAccounted ue x' := by
  constructor
  · rw [hlc]
    exact h.attached
  · rw [hlc]
    exact ⟨h.pending.value, fun s => (hbit s).trans (h.pending.bit s), fun s hs => hknown s (h.pending.known s hs)⟩
  · rw [hlc]
    exact h.bufSt
  · rw [hlc]
    exact h.few
  · rw [hlc]
    exact h.lcgSlice

lemma init_dlConsistent : DlConsistent init :=
  ⟨fun _ _ h => by simp [init] at h, fun _ _ h => by simp [init] at h, fun _ _ _ _ h => by simp [init] at h,
    fun _ _ _ => rfl⟩

lemma DlConsistent.sameLcs (h : DlConsistent st) (hs : SameLcs st st') : DlConsistent st' := by
  refine ⟨fun rid u' hu' => ?_, fun rid u' hu' => ?_, fun rid rid' u u' hu hu' heq => ?_, fun i s hi => ?_⟩
  · obtain ⟨u, hu, hview, hlc⟩ := hs.row_some hu'
    rw [← hview, hs.scope_eq hlc]
    exact h.accounted rid u hu
  · obtain ⟨u, hu, hview, -⟩ := hs.row_some hu'
    have hidx : u.ueIndex = u'.ueIndex := congrArg UeView.ueIndex hview
    rw [hs.configuredUes, ← hidx]
    exact h.configured rid u hu
  · obtain ⟨v, hv, hview, -⟩ := hs.row_some hu
    obtain ⟨v', hv', hview', -⟩ := hs.row_some hu'
    refine h.unique rid rid' v v' hv hv' ?_
    have h₁ : v.ueIndex = u.ueIndex := congrArg UeView.ueIndex hview
    have h₂ : v'.ueIndex = u'.ueIndex := congrArg UeView.ueIndex hview'
    omega
  · rw [hs.slices]
    rw [hs.configuredUes] at hi
    exact h.idle i s hi

lemma DlConsistent.replaceRow (h : DlConsistent st) (u' : UeRow) {u : UeRow} (hu : st.ues.row? rid = some u)
    (hrows : ∀ r, st'.ues.row? r = if r = rid then some u' else st.ues.row? r)
    (hconf : st'.configuredUes = st.configuredUes) (hidx : u'.ueIndex = u.ueIndex)
    (hacc : DlAccounted u'.view (st'.scope u')) (hframe : DlFrame u.ueIndex st.slices st'.slices) :
    DlConsistent st' := by
  have hold : ∀ r v, st'.ues.row? r = some v → ∃ v₀, st.ues.row? r = some v₀ ∧ v₀.ueIndex = v.ueIndex := by
    intro r v hv
    rw [hrows] at hv
    split at hv
    case isTrue heq =>
      obtain rfl := Option.some.inj hv
      exact ⟨u, heq ▸ hu, hidx.symm⟩
    case isFalse => exact ⟨v, hv, rfl⟩
  refine ⟨fun r v hv => ?_, fun r v hv => ?_, fun r r' v v' hv hv' heq => ?_, fun i s hi => ?_⟩
  · have hr := hrows r
    rw [hv] at hr
    split at hr
    case isTrue =>
      obtain rfl := Option.some.inj hr
      exact hacc
    case isFalse hne =>
      have hother : v.ueIndex ≠ u.ueIndex := fun heq => hne (h.unique r rid v u hr.symm hu heq)
      exact dlAccounted_frame (h.accounted r v hr.symm) rfl (fun s => hframe.bit s v.ueIndex hother) hframe.known
  · obtain ⟨v₀, hv₀, heq⟩ := hold r v hv
    rw [hconf, ← heq]
    exact h.configured r v₀ hv₀
  · obtain ⟨v₀, hv₀, heq₀⟩ := hold r v hv
    obtain ⟨v₀', hv₀', heq₀'⟩ := hold r' v' hv'
    exact h.unique r r' v₀ v₀' hv₀ hv₀' (by omega)
  · rw [hconf] at hi
    have hne : i ≠ u.ueIndex := by
      rintro rfl
      rw [h.configured rid u hu] at hi
      cases hi
    rw [hframe.bit s i hne]
    exact h.idle i s hi

lemma DlConsistent.updateLcs (h : DlConsistent st) {f : UeView → LcScope → Except LcAbort LcScope}
    (hf : ∀ u, DlAccounted u.view (st.scope u) → Yields (f u.view (st.scope u)) (DlKept u.view (st.scope u)) DlSafe) :
    Yields (st.updateLcs rid f) DlConsistent DlSafe := by
  refine yields_updateLcs fun u hu => (hf u (h.accounted rid u hu)).post fun x hx => ?_
  refine h.replaceRow { u with lc := x.lc } hu (fun r => ?_) rfl rfl hx.1 hx.2
  exact row?_modify_of_some hu r

lemma DlConsistent.resized (h : DlConsistent st) {n : Nat} (hr : Resized n st st')
    (hn : ∀ i, st.configuredUes.bit i = true → i < n) : DlConsistent st' := by
  refine ⟨fun rid u hu => ?_, fun rid u hu => ?_, fun rid rid' u u' hu hu' => ?_, fun i s hi => ?_⟩
  · rw [hr.ues] at hu
    refine dlAccounted_frame (h.accounted rid u hu) rfl (fun s => ?_) fun s hs => (hr.slices s).trans hs
    change dlBit st'.slices s u.ueIndex = dlBit st.slices s u.ueIndex
    rw [hr.dlBit, decide_eq_true (hn _ (h.configured rid u hu)), Bool.true_and]
  · rw [hr.ues] at hu
    rw [hr.configuredUes, decide_eq_true (hn _ (h.configured rid u hu)), h.configured rid u hu]
    rfl
  · rw [hr.ues] at hu hu'
    exact h.unique rid rid' u u' hu hu'
  · rw [hr.dlBit]
    rw [hr.configuredUes] at hi
    by_cases hlt : i < n
    · rw [decide_eq_true hlt, Bool.true_and] at hi ⊢
      exact h.idle i s hi
    · rw [decide_eq_false hlt, Bool.false_and]

lemma DlConsistent.lt_size {i : Nat} (hi : st.configuredUes.bit i = true) : i < st.configuredUes.size := by
  by_contra hge
  rw [BoundedBitset.bit_of_size_le (by omega)] at hi
  cases hi

lemma DlConsistent.addUe (h : DlConsistent st) {ueIndex : Nat} {u : UeRow} {scsCommon : Nat} {startsInFallback : Bool}
    (hnew : st.configuredUes.bit ueIndex = false)
    (hrows : ∀ r, st'.ues.row? r = if r = st.ues.nextRowId then some u else st.ues.row? r)
    (hu : u.view = ⟨ueIndex, 2 ^ scsCommon, startsInFallback⟩) (hlc : u.lc = .init)
    (hconf : ∀ i, st'.configuredUes.bit i = (decide (i = ueIndex) || st.configuredUes.bit i))
    (hbit : ∀ s i, dlBit st'.slices s i = dlBit st.slices s i)
    (hslices : ∀ s, st'.slices.contains s = st.slices.contains s) : DlConsistent st' := by
  have hidx : u.ueIndex = ueIndex := congrArg UeView.ueIndex hu
  have hother : ∀ r v, st.ues.row? r = some v → v.ueIndex ≠ ueIndex := by
    intro r v hv heq
    rw [← heq, h.configured r v hv] at hnew
    cases hnew
  refine ⟨fun r v hv => ?_, fun r v hv => ?_, fun r r' v v' hv hv' heq => ?_, fun i s hi => ?_⟩
  · rw [hrows] at hv
    split at hv
    case isTrue =>
      obtain rfl := Option.some.inj hv
      have hempty : (st'.scope u).lc = .init := hlc
      refine ⟨?_, ⟨?_, fun s => ?_, ?_⟩, ?_, ?_, ?_⟩ <;> rw [hempty]
      · exact fun _ _ _ hch => nomatch hch
      · exact fun _ _ hv => nomatch hv
      · change dlBit st'.slices s u.ueIndex = false
        rw [hbit, hidx]
        exact h.idle ueIndex s hnew
      · exact fun _ hs => nomatch hs
      · exact fun _ _ hch => nomatch hch
      · exact Nat.zero_le _
      · exact fun _ _ hlcg => nomatch hlcg
    case isFalse =>
      refine dlAccounted_frame (h.accounted r v hv) rfl (fun s => hbit s _) fun s hs => (hslices s).trans hs
  · rw [hconf]
    rw [hrows] at hv
    split at hv
    case isTrue =>
      obtain rfl := Option.some.inj hv
      rw [hidx, decide_eq_true rfl, Bool.true_or]
    case isFalse => rw [h.configured r v hv, Bool.or_true]
  · rw [hrows] at hv hv'
    split at hv <;> split at hv'
    case isTrue.isTrue hr hr' => rw [hr, hr']
    case isTrue.isFalse =>
      obtain rfl := Option.some.inj hv
      exact absurd (heq.symm.trans hidx) (hother r' v' hv')
    case isFalse.isTrue =>
      obtain rfl := Option.some.inj hv'
      exact absurd (heq.trans hidx) (hother r v hv)
    case isFalse.isFalse => exact h.unique r r' v v' hv hv' heq
  · rw [hconf, Bool.or_eq_false_iff] at hi
    rw [hbit]
    exact h.idle i s hi.2

lemma configure_dlConsistent (h : DlConsistent st) (rid : Nat) (cfgs : LogicalChannelConfigList) :
    Yields (st.configure rid cfgs) DlConsistent DlSafe :=
  h.updateLcs fun _ hu => configure_kept hu cfgs

lemma createUe_dlConsistent (h : DlConsistent st) (ueIndex scsCommon : Nat) (startsInFallback : Bool)
    (cfgs : Option LogicalChannelConfigList) :
    Yields (st.createUe ueIndex scsCommon startsInFallback cfgs) DlConsistent DlSafe := by
  unfold createUe
  refine yields_ite (fun _ => ⟨nofun, nofun⟩) fun hnew => ?_
  have hnew : st.configuredUes.bit ueIndex = false := by simpa using hnew
  refine yields_bind (growUes_spec ueIndex) fun st₁ h₁ => yields_bind (yields_lift dlSafe_bitset) fun configuredUes hset => ?_
  have hadd : DlConsistent { st₁ with configuredUes := configuredUes } := by
    refine h.addUe hnew (fun r => ?_) (u := .create ueIndex scsCommon startsInFallback) rfl rfl (fun i => ?_)
      (fun s i => h₁.dlBit s i (h.idle i s)) h₁.slices
    · change st₁.ues.row? r = _
      rw [h₁.ues]
      exact SoaTable.row?_insert _ r
    · rw [BoundedBitset.bit_set hset, h₁.configuredUes]
      by_cases hi : i = ueIndex
      · simp [hi]
      · simp [hi, addUeRow]
  cases cfgs with
  | none => exact hadd
  | some cfgs => exact configure_dlConsistent hadd _ cfgs

lemma deactivate_dlConsistent (h : DlConsistent st) (rid : Nat) :
    Yields (st.deactivate rid) (fun st' => DlConsistent st' ∧ st'.configuredUes = st.configuredUes ∧
      ∀ u, st.ues.row? rid = some u → (∃ u', st'.ues.row? rid = some u' ∧ u'.ueIndex = u.ueIndex) ∧
        ∀ s, dlBit st'.slices s u.ueIndex = false) DlSafe := by
  unfold deactivate
  refine yields_bind clearCes_sameLcs fun st₁ h₁ => yields_bind resetSrIndication_sameLcs fun st₂ h₂ => ?_
  have hs := h₁.trans h₂
  have hd : DlConsistent st₂ := h.sameLcs hs
  refine yields_updateLcs fun u hu => (deactivateBearers_kept (hd.accounted rid u hu)).post fun x hx => ?_
  have hrows : ∀ r, (st₂.withScope rid x).ues.row? r = if r = rid then some { u with lc := x.lc } else st₂.ues.row? r :=
    row?_modify_of_some hu
  refine ⟨hd.replaceRow { u with lc := x.lc } hu hrows rfl rfl hx.1.1 hx.1.2, hs.configuredUes,
    fun u₀ hu₀ => ?_⟩
  obtain ⟨v, hv, hview, -⟩ := hs.row_some hu
  obtain rfl := Option.some.inj (hv.symm.trans hu₀)
  have hidx : u.ueIndex = v.ueIndex := (congrArg UeView.ueIndex hview).symm
  refine ⟨⟨_, (hrows rid).trans (if_pos rfl), hidx⟩, fun s => ?_⟩
  rw [← hidx]
  exact hx.2 s

lemma stripUes_dlConsistent (h : DlConsistent st) : Yields st.stripUes DlConsistent DlSafe := by
  refine stripUes_spec.post fun st' hst' => ?_
  rcases hst' with rfl | ⟨n, hr, hn⟩
  · exact h
  · exact h.resized hr hn

lemma removeUe_dlConsistent (h : DlConsistent st) (rid : Nat) : Yields (st.removeUe rid) DlConsistent DlSafe := by
  unfold removeUe
  refine yields_bind (yields_rowAt _ _) fun u hu => yields_ite (fun _ => ⟨nofun, nofun⟩) fun _ => ?_
  refine yields_bind (deactivate_dlConsistent h rid) ?_
  rintro st₁ ⟨h₁, -, hu₁⟩
  obtain ⟨⟨u₁, hrow₁, hidx⟩, hoff⟩ := hu₁ u hu
  refine yields_bind (yields_lift dlSafe_table) ?_
  rintro ⟨ues, erased⟩ hues
  refine yields_bind (yields_lift dlSafe_bitset) fun configuredUes hreset => stripUes_dlConsistent ?_
  have hrows : ∀ r v, ues.row? r = some v → st₁.ues.row? r = some v ∧ v.ueIndex ≠ u.ueIndex := by
    intro r v hv
    rw [SoaTable.row?_erase hues] at hv
    split at hv
    case isTrue => cases hv
    case isFalse hne => exact ⟨hv, fun heq => hne (h₁.unique r rid v u₁ hv hrow₁ (heq.trans hidx.symm))⟩
  refine ⟨fun r v hv => h₁.accounted r v (hrows r v hv).1, fun r v hv => ?_, fun r r' v v' hv hv' => ?_,
    fun i s hi => ?_⟩
  · rw [BoundedBitset.bit_set hreset, if_neg (hrows r v hv).2]
    exact h₁.configured r v (hrows r v hv).1
  · exact h₁.unique r r' v v' (hrows r v hv).1 (hrows r' v' hv').1
  · rw [BoundedBitset.bit_set hreset] at hi
    split at hi
    case isTrue heq =>
      rw [heq]
      exact hoff s
    case isFalse => exact h₁.idle i s hi

lemma setFallbackState_dlConsistent (h : DlConsistent st) (rid : Nat) (enterFallback : Bool) :
    Yields (st.setFallbackState rid enterFallback) DlConsistent DlSafe := by
  unfold setFallbackState
  refine yields_bind (yields_rowAt _ _) fun u hu => yields_ite (fun _ => h) fun hne => ?_
  have hswitch : ∀ {f : UeView → LcScope → Except LcAbort LcScope},
      Yields (f ⟨u.ueIndex, u.slotsPerMsec, enterFallback⟩ (st.scope u))
        (DlKept ⟨u.ueIndex, u.slotsPerMsec, enterFallback⟩ (st.scope u)) DlSafe →
      Yields ((st.modifyUe rid fun u => { u with fallbackState := enterFallback }).updateLcs rid f)
        DlConsistent DlSafe := by
    intro f hf
    refine yields_updateLcs fun u' hu' => ?_
    have hmod : ∀ r, (st.modifyUe rid fun u => { u with fallbackState := enterFallback }).ues.row? r =
        if r = rid then some { u with fallbackState := enterFallback } else st.ues.row? r :=
      row?_modify_of_some hu
    obtain rfl := Option.some.inj (((hmod rid).trans (if_pos rfl)).symm.trans hu')
    refine hf.post fun x hx => h.replaceRow { u with fallbackState := enterFallback, lc := x.lc } hu
      (fun r => ?_) rfl rfl hx.1 hx.2
    rw [row?_withScope, hmod]
    by_cases hr : r = rid
    · rw [if_pos hr, if_pos hr, if_pos hr]
      rfl
    · rw [if_neg hr, if_neg hr, if_neg hr]
  refine yields_ite (fun henter => ?_) fun hexit => ?_
  · refine yields_bind (hswitch (enterFallback_kept (h.accounted rid u hu) rfl henter)) fun st₁ h₁ => ?_
    exact yields_bind (yields_lift dlSafe_bitset) fun bits _ => h₁.sameLcs ⟨rfl, rfl, rfl, rfl, fun _ => rfl⟩
  · have hold : u.fallbackState = true := by
      cases hfb : u.fallbackState with
      | true => rfl
      | false =>
        rw [hfb] at hne
        exact absurd (by simpa using hexit) (Ne.symm hne)
    refine yields_bind (hswitch (exitFallback_kept (h.accounted rid u hu) rfl hold)) fun st₁ h₁ => ?_
    refine yields_ite (fun _ => yields_bind (yields_lift dlSafe_bitset) fun bits _ => ?_) fun _ => h₁
    exact h₁.sameLcs ⟨rfl, rfl, rfl, rfl, fun _ => rfl⟩

lemma slotIndication_dlConsistent (h : DlConsistent st) : Yields st.slotIndication DlConsistent DlSafe := by
  unfold slotIndication
  refine yields_bind (Q := fun _ => True) ?_ fun qosChannels _ => ?_
  · refine SoaTable.yields_mapRows (fun item => ?_) _
    exact yields_bind (yields_lift dlSafe_averager) fun _ _ => trivial
  · exact ⟨fun rid u hu => dlAccounted_frame (h.accounted rid u hu) rfl (fun _ => rfl) fun _ hs => hs,
      h.configured, h.unique, h.idle⟩

lemma allocateMacSdu_dlConsistent (h : DlConsistent st) (rid : Nat) (subpdu : DlMsgLcInfo) (remBytes lcid : Nat) :
    Yields (st.allocateMacSdu rid subpdu remBytes lcid) (fun r => DlConsistent r.2) DlSafe := by
  unfold allocateMacSdu
  refine yields_bind (yields_rowAt _ _) fun u hu => ?_
  refine yields_bind (allocateMacSdu_kept (h.accounted rid u hu) subpdu remBytes lcid) ?_
  rintro ⟨alloc, x⟩ hx
  refine h.replaceRow { u with lc := x.lc } hu (fun r => ?_) rfl rfl hx.1 hx.2
  exact row?_modify_of_some hu r

def setsLcgSlice : LcEvent → Bool
  | .setLcgRanSlice .. => true
  | _ => false

lemma step_dlConsistent (e : LcEvent) (he : setsLcgSlice e = false) (h : DlConsistent st) :
    Yields (st.step e) DlConsistent DlSafe := by
  unfold step
  cases e with
  | slotIndication => exact slotIndication_dlConsistent h
  | createUe ueIndex scsCommon startsInFallback cfgs => exact createUe_dlConsistent h _ _ _ _
  | removeUe rid => exact removeUe_dlConsistent h rid
  | configure rid cfgs => exact configure_dlConsistent h rid cfgs
  | deactivate rid => exact (deactivate_dlConsistent h rid).post fun _ h' => h'.1
  | setFallbackState rid enterFallback => exact setFallbackState_dlConsistent h rid enterFallback
  | setLcidRanSlice rid lcid sliceId => exact h.updateLcs fun _ hu => setLcidRanSlice_kept hu _ lcid sliceId
  | setLcgRanSlice rid lcgid sliceId => cases he
  | resetLcidRanSlice rid lcid => exact h.updateLcs fun _ hu => (deregisterLcRanSlice_kept hu lcid).post fun _ h' => h'.1
  | resetLcgRanSlice rid lcgid =>
    refine h.updateLcs fun u hu => ?_
    rw [deregisterLcgRanSlice_eq hu.lcgSlice]
    exact hu.kept_refl
  | handleDlBufferStatusIndication rid lcid bufferStatus holToa =>
    exact h.updateLcs fun _ hu => handleDlBufferStatusIndication_kept hu lcid bufferStatus holToa
  | handleMacCeIndication rid ce => exact (handleMacCeIndication_sameLcs ce).post fun _ => h.sameLcs
  | handleBsrIndication rid msg => exact h.updateLcs fun _ hu => handleBsrIndication_kept hu msg
  | handleSrIndication rid => exact handleSrIndication_sameLcs.post fun _ => h.sameLcs
  | resetSrIndication rid => exact resetSrIndication_sameLcs.post fun _ => h.sameLcs
  | allocateMacSdu rid subpdu remBytes lcid =>
    exact yields_bind (allocateMacSdu_dlConsistent h rid subpdu remBytes lcid) fun _ h' => h'
  | allocateMacCe rid subpdu remBytes =>
    exact yields_bind (allocateMacCe_sameLcs subpdu remBytes) fun _ h' => h.sameLcs h'
  | allocateUeConResIdMacCe rid subpdu remBytes =>
    exact yields_bind (allocateUeConResIdMacCe_sameLcs subpdu remBytes) fun _ h' => h.sameLcs h'
  | handleUlGrant rid grantSize =>
    refine yields_bind resetSrIndication_sameLcs fun st₁ h₁ => ?_
    exact (h.sameLcs h₁).updateLcs fun _ hu => handleUlGrant_kept hu grantSize

def attachedBytes (u : UeRow) (s : Nat) : Nat :=
  u.lc.channels.weight fun _ ch =>
    if ch.active = true ∧ ch.sliceId = some s then getMacSduRequiredBytes ch.bufSt else 0

def DlBytesAccounted (st : LogicalChannelSystem) : Prop :=
  ∀ rid u, st.ues.row? rid = some u →
    (∀ lcid ch s, u.lc.channels.find? lcid = some ch → ch.sliceId = some s →
      u.lc.dlPendingBytesPerSlice.contains s = true) ∧
    ∀ s bytes, u.lc.dlPendingBytesPerSlice.find? s = some bytes →
      bytes = (if u.fallbackState then 0 else attachedBytes u s) ∧
      ∃ ctx, st.slices.find? s = some ctx ∧ ctx.pendingDlUes.bit u.ueIndex = decide (bytes > 0)

lemma DlConsistent.bytesAccounted (h : DlConsistent st) : DlBytesAccounted st := by
  intro rid u hu
  have hacc := h.accounted rid u hu
  refine ⟨hacc.attached, fun s bytes hbytes => ⟨?_, ?_⟩⟩
  · have htotal : dlTotal u.view u.lc.channels s = if u.fallbackState then 0 else attachedBytes u s := by
      unfold dlTotal attachedBytes countedBytes
      change u.lc.channels.weight (fun _ ch => if ch.active = true ∧ ch.sliceId = some s ∧ u.fallbackState = false
        then getMacSduRequiredBytes ch.bufSt else 0) = _
      cases u.fallbackState with
      | true => exact FlatMap.weight_eq_zero fun _ _ _ => by simp
      | false => simp
    rw [← htotal]
    exact hacc.pending.value s bytes hbytes
  · have hknown := hacc.pending.known s (FlatMap.contains_iff.mpr ⟨bytes, hbytes⟩)
    obtain ⟨ctx, hctx⟩ := FlatMap.contains_iff.mp hknown
    refine ⟨ctx, hctx, ?_⟩
    have hctx' : st.slices.find? s = some ctx := hctx
    have hbit : dlBit st.slices s u.ueIndex = decide (0 < (u.lc.dlPendingBytesPerSlice.find? s).getD 0) :=
      hacc.pending.bit s
    unfold dlBit at hbit
    rw [hctx', hbytes] at hbit
    exact hbit

/-- In every state that a run reaches, the pending bytes of each slice of a UE and the bit of the UE are in order,
and no run is stopped by an update of the bytes. The one call left out is the one that attaches LCGs to slices. -/
theorem dl_slice_bytes_accounted (es : List LcEvent) (hes : ∀ e ∈ es, setsLcgSlice e = false) :
    Yields (run es) DlBytesAccounted DlSafe :=
  (runEvents_yields DlConsistent (fun _ e he h => step_dlConsistent e he h) hes init_dlConsistent).post
    fun _ h => h.bytesAccounted

/-- A UE with an SRB in slice 0 and a DRB that moves from slice 1 to slice 2 while the UE is in fallback. -/
def handoverRun : List LcEvent :=
  [.createUe 3 1 false (some ⟨[⟨1, 0, none⟩, ⟨4, 1, none⟩], by simp⟩),
    .setLcidRanSlice 0 1 0, .setLcidRanSlice 0 4 1, .handleDlBufferStatusIndication 0 4 1000 .invalid,
    .setFallbackState 0 true, .setLcidRanSlice 0 4 2, .setFallbackState 0 false,
    .allocateMacSdu 0 ⟨0, 0, .dummy 0⟩ 500 4]

theorem dl_slice_bytes_accounted_handover :
    (run handoverRun).toOption.isSome = true ∧ Yields (run handoverRun) DlBytesAccounted DlSafe :=
  ⟨by decide, dl_slice_bytes_accounted handoverRun (by decide)⟩

end LogicalChannelSystem

end OwlsRan.Sched
