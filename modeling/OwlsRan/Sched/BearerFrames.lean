import OwlsRan.Sched.LcFrames
import OwlsRan.Sched.LcgAssignment

/-!
# What the calls on slices and buffer states leave alone

These calls create and remove no logical channel and no LCG, move none between LCGs, and leave alone which rows the
contexts track their QoS in.
-/

namespace OwlsRan.Sched
open OwlsRan.Lib OwlsRan.Adt OwlsRan.Ran

structure SameBearers (lc lc' : UeLcState) : Prop where
  configs : lc'.channelConfigs = lc.channelConfigs
  size : lc'.channels.size = lc.channels.size
  channels : ∀ lcid, (lc'.channels.find? lcid).map (·.qosRow) = (lc.channels.find? lcid).map (·.qosRow)
  lcgs : ∀ lcgid, (lc'.lcgs.find? lcgid).map (fun g => (g.lcCount, g.qosRow)) =
    (lc.lcgs.find? lcgid).map fun g => (g.lcCount, g.qosRow)

/-- `SameBearers` up to the QoS rows of the contexts. -/
structure SameGroups (lc lc' : UeLcState) : Prop where
  configs : lc'.channelConfigs = lc.channelConfigs
  size : lc'.channels.size = lc.channels.size
  channels : ∀ lcid, lc'.channels.contains lcid = lc.channels.contains lcid
  counts : ∀ lcgid, (lc'.lcgs.find? lcgid).map (·.lcCount) = (lc.lcgs.find? lcgid).map (·.lcCount)

/-- `SameBearers`, and no QoS row changes. -/
structure SameQos (x x' : LcScope) : Prop where
  bearers : SameBearers x.lc x'.lc
  qosChannels : x'.qosChannels = x.qosChannels
  qosLcgs : x'.qosLcgs = x.qosLcgs

def AnyAbort (_ : LcAbort) : Prop := True

section Frames

variable {ue : UeView} {lc lc' lc'' : UeLcState} {x x' x'' : LcScope}

lemma SameBearers.refl (lc : UeLcState) : SameBearers lc lc := ⟨rfl, rfl, fun _ => rfl, fun _ => rfl⟩

lemma SameBearers.trans (h : SameBearers lc lc') (h' : SameBearers lc' lc'') : SameBearers lc lc'' :=
  ⟨h'.configs.trans h.configs, h'.size.trans h.size, fun l => (h'.channels l).trans (h.channels l),
    fun g => (h'.lcgs g).trans (h.lcgs g)⟩

lemma SameQos.of_eq (hconfigs : x'.lc.channelConfigs = x.lc.channelConfigs) (hchannels : x'.lc.channels = x.lc.channels)
    (hlcgs : x'.lc.lcgs = x.lc.lcgs) (hqos : x'.qosChannels = x.qosChannels) (hqos' : x'.qosLcgs = x.qosLcgs) :
    SameQos x x' :=
  ⟨⟨hconfigs, by rw [hchannels], fun _ => by rw [hchannels], fun _ => by rw [hlcgs]⟩, hqos, hqos'⟩

lemma SameQos.refl (x : LcScope) : SameQos x x := SameQos.of_eq rfl rfl rfl rfl rfl

lemma SameQos.trans (h : SameQos x x') (h' : SameQos x' x'') : SameQos x x'' :=
  ⟨h.bearers.trans h'.bearers, h'.qosChannels.trans h.qosChannels, h'.qosLcgs.trans h.qosLcgs⟩

lemma SameBearers.contains_channels (h : SameBearers lc lc') (lcid : Nat) :
    lc'.channels.contains lcid = lc.channels.contains lcid := by
  have := congrArg Option.isSome (h.channels lcid)
  rwa [Option.isSome_map, Option.isSome_map] at this

lemma SameBearers.groups (h : SameBearers lc lc') : SameGroups lc lc' := by
  refine ⟨h.configs, h.size, h.contains_channels, fun g => ?_⟩
  have := congrArg (Option.map Prod.fst) (h.lcgs g)
  rwa [Option.map_map, Option.map_map] at this

lemma SameGroups.trans (h : SameGroups lc lc') (h' : SameGroups lc' lc'') : SameGroups lc lc'' :=
  ⟨h'.configs.trans h.configs, h'.size.trans h.size, fun l => (h'.channels l).trans (h.channels l),
    fun g => (h'.counts g).trans (h.counts g)⟩

lemma sameQos_modifyChannel {f : DlLogicalChannelContext → DlLogicalChannelContext}
    (hf : ∀ c, (f c).qosRow = c.qosRow) (lcid : Nat) :
    SameQos x { x with lc.channels := x.lc.channels.modify lcid f } := by
  refine ⟨⟨rfl, FlatMap.size_modify f, fun l => ?_, fun _ => rfl⟩, rfl, rfl⟩
  dsimp only
  rw [FlatMap.find?_modify]
  split
  case isTrue heq =>
    rw [heq, Option.map_map]
    congr 1
    funext c
    exact hf c
  case isFalse => rfl

lemma sameQos_modifyLcg {f : UlLogicalChannelGroupContext → UlLogicalChannelGroupContext}
    (hf : ∀ g, (f g).lcCount = g.lcCount ∧ (f g).qosRow = g.qosRow) (lcgid : Nat) :
    SameQos x { x with lc.lcgs := x.lc.lcgs.modify lcgid f } := by
  refine ⟨⟨rfl, rfl, fun _ => rfl, fun g => ?_⟩, rfl, rfl⟩
  dsimp only
  rw [FlatMap.find?_modify]
  split
  case isTrue heq =>
    rw [heq, Option.map_map]
    congr 1
    funext c
    exact Prod.ext (hf c).1 (hf c).2
  case isFalse => rfl

lemma onSingleChannelBufStUpdate_sameQos (active : Bool) (sliceId : Option Nat) (newBufSt prevBufSt : Nat) :
    Yields (x.onSingleChannelBufStUpdate ue active sliceId newBufSt prevBufSt) (SameQos x) AnyAbort := by
  unfold LcScope.onSingleChannelBufStUpdate
  split
  case h_1 => exact SameQos.refl x
  case h_2 s =>
    refine yields_ite (fun _ => SameQos.refl x) fun _ => yields_ite (fun _ => SameQos.refl x) fun _ => ?_
    split
    case h_1 => trivial
    case h_2 =>
      refine yields_ite (fun _ => trivial) fun _ => yields_ite (fun _ => ?_) fun _ => SameQos.of_eq rfl rfl rfl rfl rfl
      exact yields_bind (yields_true _) fun slices _ => SameQos.of_eq rfl rfl rfl rfl rfl

lemma onSingleLcgBufStUpdate_sameQos (active : Bool) (lcgid : Nat) (sliceId : Option Nat) (newBufSt prevBufSt : Nat) :
    Yields (x.onSingleLcgBufStUpdate ue active lcgid sliceId newBufSt prevBufSt) (SameQos x) AnyAbort := by
  unfold LcScope.onSingleLcgBufStUpdate
  split
  case h_1 => exact SameQos.refl x
  case h_2 s =>
    refine yields_ite (fun _ => SameQos.refl x) fun _ => yields_ite (fun _ => SameQos.refl x) fun _ => ?_
    split
    case h_1 => trivial
    case h_2 =>
      refine yields_ite (fun _ => trivial) fun _ => yields_ite (fun _ => ?_) fun _ => SameQos.of_eq rfl rfl rfl rfl rfl
      exact yields_bind (yields_true _) fun slices _ => SameQos.of_eq rfl rfl rfl rfl rfl

lemma deregisterLcRanSlice_sameQos (lcid : Nat) : Yields (x.deregisterLcRanSlice ue lcid) (SameQos x) AnyAbort := by
  unfold LcScope.deregisterLcRanSlice
  split
  case h_1 => exact SameQos.refl x
  case h_2 ch _ =>
    refine yields_bind (onSingleChannelBufStUpdate_sameQos _ _ _ _) fun x₁ h₁ => ?_
    split
    case h_1 => exact h₁
    case h_2 prev _ =>
      refine (h₁.trans (sameQos_modifyChannel (f := fun c => { c with sliceId := none }) (fun _ => rfl) lcid)).trans ?_
      unfold LcScope.dropDlSlice
      split
      · exact SameQos.refl _
      · exact SameQos.of_eq rfl rfl rfl rfl rfl

lemma deregisterLcgRanSlice_sameQos (lcgid : Nat) :
    Yields (x.deregisterLcgRanSlice ue lcgid) (SameQos x) AnyAbort := by
  unfold LcScope.deregisterLcgRanSlice
  split
  case h_1 => exact SameQos.refl x
  case h_2 lcg _ =>
    refine yields_bind (onSingleLcgBufStUpdate_sameQos _ _ _ _ _) fun x₁ h₁ => ?_
    split
    case h_1 => exact h₁
    case h_2 prev _ =>
      have h₂ := h₁.trans (sameQos_modifyLcg (f := fun g => { g with sliceId := none }) (fun _ => ⟨rfl, rfl⟩) lcgid)
      refine h₂.trans ?_
      split
      · exact SameQos.refl _
      · exact SameQos.of_eq rfl rfl rfl rfl rfl

lemma addDlSlice_sameQos (bits : BoundedBitset MAX_NOF_DU_UES) (sliceId : Nat) :
    Yields (x.addDlSlice bits sliceId) (SameQos x) AnyAbort := by
  unfold LcScope.addDlSlice
  refine yields_ite (fun _ => SameQos.refl x) fun _ => ?_
  exact yields_bind (yields_true _) fun pending _ => SameQos.of_eq rfl rfl rfl rfl rfl

lemma addUlSlice_sameQos (bits : BoundedBitset MAX_NOF_DU_UES) (sliceId : Nat) :
    Yields (x.addUlSlice bits sliceId) (SameQos x) AnyAbort := by
  unfold LcScope.addUlSlice
  refine yields_ite (fun _ => SameQos.refl x) fun _ => ?_
  exact yields_bind (yields_true _) fun pending _ => SameQos.of_eq rfl rfl rfl rfl rfl

lemma setLcidRanSlice_sameQos (bits : BoundedBitset MAX_NOF_DU_UES) (lcid sliceId : Nat) :
    Yields (x.setLcidRanSlice ue bits lcid sliceId) (SameQos x) AnyAbort := by
  unfold LcScope.setLcidRanSlice
  split
  case h_1 => trivial
  case h_2 ch _ =>
    refine yields_ite (fun _ => SameQos.refl x) fun _ => ?_
    refine yields_bind (deregisterLcRanSlice_sameQos lcid) fun x₁ h₁ => ?_
    refine yields_bind (addDlSlice_sameQos bits sliceId) fun x₂ h₂ => ?_
    have h₃ := sameQos_modifyChannel (x := x₂) (f := fun c => { c with sliceId := some sliceId }) (fun _ => rfl) lcid
    exact (onSingleChannelBufStUpdate_sameQos _ _ _ _).post fun _ h₄ => ((h₁.trans h₂).trans h₃).trans h₄

lemma setLcgRanSlice_sameQos (bits : BoundedBitset MAX_NOF_DU_UES) (lcgid sliceId : Nat) :
    Yields (x.setLcgRanSlice ue bits lcgid sliceId) (SameQos x) AnyAbort := by
  unfold LcScope.setLcgRanSlice
  split
  case h_1 => trivial
  case h_2 lcg _ =>
    refine yields_ite (fun _ => SameQos.refl x) fun _ => ?_
    refine yields_bind (deregisterLcgRanSlice_sameQos lcgid) fun x₁ h₁ => ?_
    refine yields_bind (addUlSlice_sameQos bits sliceId) fun x₂ h₂ => ?_
    have h₃ := sameQos_modifyLcg (x := x₂) (f := fun g => { g with sliceId := some sliceId }) (fun _ => ⟨rfl, rfl⟩) lcgid
    exact (onSingleLcgBufStUpdate_sameQos _ _ _ _ _).post fun _ h₄ => ((h₁.trans h₂).trans h₃).trans h₄

lemma handleDlBufferStatusIndication_sameQos (lcid bufferStatus : Nat) (holToa : SlotPoint) :
    Yields (x.handleDlBufferStatusIndication ue lcid bufferStatus holToa) (SameQos x) AnyAbort := by
  unfold LcScope.handleDlBufferStatusIndication
  refine yields_ite (fun _ => trivial) fun _ => ?_
  split
  case h_1 => exact SameQos.refl x
  case h_2 ch _ =>
    have h := sameQos_modifyChannel (x := x)
      (f := fun c => { c with bufSt := min bufferStatus maxBufferStatus, holToa := holToa }) (fun _ => rfl) lcid
    exact (onSingleChannelBufStUpdate_sameQos _ _ _ _).post fun _ h' => h.trans h'

lemma activate_sameQos (chCfg : LogicalChannelConfig) : Yields (x.activate ue chCfg) (SameQos x) AnyAbort := by
  unfold LcScope.activate
  refine yields_bind (yields_true _) fun lcg _ => yields_bind (yields_true _) fun ch _ => ?_
  refine yields_bind (Q := SameQos x) (yields_ite (fun _ => onSingleChannelBufStUpdate_sameQos _ _ _ _)
    fun _ => SameQos.refl x) fun x₁ h₁ => ?_
  have h₂ := h₁.trans (sameQos_modifyChannel (f := fun c => { c with active := true }) (fun _ => rfl) chCfg.lcid)
  refine yields_bind (Q := SameQos x) (yields_ite (fun _ => ?_) fun _ => h₂) fun x₂ h₃ => ?_
  · exact (onSingleLcgBufStUpdate_sameQos _ _ _ _ _).post fun _ h => h₂.trans h
  · exact h₃.trans (sameQos_modifyLcg (f := fun g => { g with active := true }) (fun _ => ⟨rfl, rfl⟩) chCfg.lcGroup)

lemma exitFallback_sameQos : Yields (x.exitFallback ue) (SameQos x) AnyAbort := by
  unfold LcScope.exitFallback
  refine yields_bind (yields_foldlM (I := SameQos x) (SameQos.refl x) fun x₁ e _ h₁ => ?_) fun x₁ h₁ => ?_
  · exact (onSingleChannelBufStUpdate_sameQos _ _ _ _).post fun _ h => h₁.trans h
  · refine yields_foldlM (I := SameQos x) h₁ fun x₂ e _ h₂ => ?_
    exact (onSingleLcgBufStUpdate_sameQos _ _ _ _ _).post fun _ h => h₂.trans h

lemma enterFallback_sameQos : Yields (x.enterFallback ue) (SameQos x) AnyAbort := by
  unfold LcScope.enterFallback
  refine yields_bind (yields_true _) fun slices _ => yields_bind (yields_true _) fun slices' _ => ?_
  exact SameQos.of_eq rfl rfl rfl rfl rfl

lemma deactivateBearers_sameBearers :
    Yields (x.deactivateBearers ue) (fun x' => SameBearers x.lc x'.lc) AnyAbort := by
  unfold LcScope.deactivateBearers
  refine yields_bind (yields_true _) fun _ _ => yields_bind (yields_true _) fun _ _ => ?_
  refine yields_bind (yields_true _) fun _ _ => yields_bind (yields_true _) fun _ _ => ?_
  refine ⟨rfl, FlatMap.size_mapValues _, fun l => ?_, fun g => ?_⟩
  · dsimp only
    rw [FlatMap.find?_mapValues, Option.map_map]
    rfl
  · dsimp only
    rw [FlatMap.find?_mapValues, Option.map_map]
    rfl

lemma allocateMacSdu_sameBearers (subpdu : DlMsgLcInfo) (remBytes lcid : Nat) :
    Yields (x.allocateMacSdu ue subpdu remBytes lcid) (fun r => SameBearers x.lc r.2.lc) AnyAbort := by
  unfold LcScope.allocateMacSdu
  refine yields_ite (fun _ => SameBearers.refl _) fun _ => ?_
  generalize (if lcid = INVALID_LCID then x.getMaxPrioLcid else lcid) = lcid'
  unfold LcScope.allocateMacSduOf
  split
  case isFalse => trivial
  case isTrue =>
    refine yields_ite (fun _ => SameBearers.refl _) fun _ => ?_
    split
    case h_1 => exact SameBearers.refl _
    case h_2 ch _ =>
      refine yields_ite (fun _ => SameBearers.refl _) fun _ => ?_
      dsimp only
      generalize LcScope.bufStAfterSched lcid' ch.bufSt _ = newBufSt
      have h₁ := sameQos_modifyChannel (x := x) (f := fun c => { c with bufSt := newBufSt }) (fun _ => rfl) lcid'
      refine yields_bind (onSingleChannelBufStUpdate_sameQos _ _ _ _) fun x₁ h => ?_
      have h₂ := (h₁.trans h).bearers
      split
      case h_1 => exact h₂
      case h_2 => exact yields_bind (yields_true _) fun _ _ => h₂

lemma handleBsrIndication_sameBearers (msg : UlBsrIndicationMessage) :
    Yields (x.handleBsrIndication ue msg) (fun x' => SameBearers x.lc x'.lc) AnyAbort := by
  unfold LcScope.handleBsrIndication
  refine yields_foldlM (I := fun x' : LcScope => SameBearers x.lc x'.lc) (SameBearers.refl _) fun x₁ report _ h₁ => ?_
  unfold LcScope.handleLcgReport
  split
  case h_1 => exact h₁
  case h_2 lcg _ =>
    refine yields_ite (fun _ => ?_) fun _ => h₁
    have h₂ := h₁.trans (sameQos_modifyLcg (x := x₁) (f := fun g => { g with
      bufSt := min report.nofBytes maxBufferStatus }) (fun _ => ⟨rfl, rfl⟩) report.lcgId).bearers
    refine yields_bind (Q := fun x' : LcScope => SameBearers x.lc x'.lc) ?_ fun x₂ h₃ => ?_
    · split
      · exact h₂
      · exact yields_bind (yields_true _) fun _ _ => h₂
    · exact (onSingleLcgBufStUpdate_sameQos _ _ _ _ _).post fun _ h₄ => h₃.trans h₄.bearers

lemma handleUlGrant_sameBearers (grantSize : Nat) :
    Yields (x.handleUlGrant grantSize) (fun x' => SameBearers x.lc x'.lc) AnyAbort := by
  unfold LcScope.handleUlGrant
  exact yields_bind (yields_true _) fun _ _ => SameBearers.refl _

/-- What `remove_lcg` does: it forgets the QoS row of the LCG `ueLcg` and the context of `lcgid`. -/
def LcgRemoved (x : LcScope) (lcgid ueLcg : Nat) (x' : LcScope) : Prop :=
  ∃ lcg qosLcgs x₁, x.lc.lcgs.find? ueLcg = some lcg ∧ lcg.lcCount = 0 ∧
    eraseRow x.qosLcgs lcg.qosRow = .ok qosLcgs ∧ SameQos { x with qosLcgs := qosLcgs } x₁ ∧
    x' = { x₁ with lc.lcgs := x₁.lc.lcgs.erase lcgid }

lemma yields_refl {α : Type} (r : Except LcAbort α) : Yields r (fun a => r = .ok a) AnyAbort := by
  cases r <;> trivial

lemma removeLcg_spec (lcgid ueLcg : Nat) :
    Yields (x.removeLcg ue lcgid ueLcg) (LcgRemoved x lcgid ueLcg) AnyAbort := by
  unfold LcScope.removeLcg
  refine yields_bind ((yields_atKey _ _).mono (fun _ h => h) fun _ _ => trivial) fun lcg hlcg => ?_
  refine yields_ite (fun _ => trivial) fun hcount => ?_
  refine yields_bind (yields_refl _) fun qosLcgs hqos => ?_
  refine yields_bind (deregisterLcgRanSlice_sameQos lcgid) fun x₁ h₁ => ?_
  exact ⟨lcg, qosLcgs, x₁, hlcg, not_not.mp hcount, hqos, h₁, rfl⟩

def LcgCountedDown (x : LcScope) (lcgid ueLcg : Nat) (x' : LcScope) : Prop :=
  ∃ lcg x₁, x.lc.lcgs.find? ueLcg = some lcg ∧
    x₁ = { x with lc.lcgs := x.lc.lcgs.modify ueLcg fun c => { c with lcCount := wrap8 (lcg.lcCount + 255) } } ∧
    if wrap8 (lcg.lcCount + 255) = 0 then LcgRemoved x₁ lcgid ueLcg x' else x' = x₁

lemma removeLc_spec (oldLc : LogicalChannelConfig) :
    Yields (x.removeLc ue oldLc)
      (fun x' => ∃ ch qosChannels x₁, x.lc.channels.find? oldLc.lcid = some ch ∧
        eraseRow x.qosChannels ch.qosRow = .ok qosChannels ∧ SameQos { x with qosChannels := qosChannels } x₁ ∧
        LcgCountedDown { x₁ with lc.channels := x₁.lc.channels.erase oldLc.lcid } oldLc.lcGroup oldLc.lcGroup x')
      AnyAbort := by
  unfold LcScope.removeLc
  refine yields_bind ((yields_atKey _ _).mono (fun _ h => h) fun _ _ => trivial) fun ch hch => ?_
  refine yields_bind (yields_refl _) fun qosChannels hqos => ?_
  refine yields_bind (deregisterLcRanSlice_sameQos _) fun x₁ h₁ => ?_
  refine yields_bind ((yields_atKey _ _).mono (fun _ h => h) fun _ _ => trivial) fun lcg hlcg => ?_
  refine yields_ite (fun hzero => ?_) fun hne => ?_
  · exact (removeLcg_spec _ _).post fun x' h' => ⟨ch, qosChannels, x₁, hch, hqos, h₁, lcg, _, hlcg, rfl, (if_pos hzero).mpr h'⟩
  · exact ⟨ch, qosChannels, x₁, hch, hqos, h₁, lcg, _, hlcg, rfl, (if_neg hne).mpr rfl⟩

def ChannelEnsured (x : LcScope) (lcid : Nat) (channels : FlatMap DlLogicalChannelContext) : Prop :=
  (x.lc.channels.contains lcid = true ∧ channels = x.lc.channels) ∨
    (x.lc.channels.find? lcid = none ∧ x.lc.channels.size < MAX_NOF_RB_LCIDS ∧
      channels = x.lc.channels.emplace lcid DlLogicalChannelContext.init)

/-- The ways in which the first half of a round of the second loop of `configure` ends. -/
inductive LcgAttached (old : Option LogicalChannelConfigList) (chCfg : LogicalChannelConfig) (x : LcScope) :
    LcScope → Prop
  | newLcg {channels : FlatMap DlLogicalChannelContext} (hchannels : ChannelEnsured x chCfg.lcid channels)
      (hlcg : x.lc.lcgs.find? chCfg.lcGroup = none) :
      LcgAttached old chCfg x { x with
        lc.channels := channels
        lc.lcgs := x.lc.lcgs.emplace chCfg.lcGroup { UlLogicalChannelGroupContext.init with lcCount := 1 } }
  | newLc {channels : FlatMap DlLogicalChannelContext} (hchannels : ChannelEnsured x chCfg.lcid channels)
      (hlc : x.lc.channels.find? chCfg.lcid = none) (hlcg : x.lc.lcgs.contains chCfg.lcGroup = true) :
      LcgAttached old chCfg x { x with
        lc.channels := channels
        lc.lcgs := x.lc.lcgs.modify chCfg.lcGroup fun c => { c with lcCount := wrap8 (c.lcCount + 1) } }
  | stays (hlc : x.lc.channels.contains chCfg.lcid = true) (hlcg : x.lc.lcgs.contains chCfg.lcGroup = true)
      (hgroup : oldGroup old chCfg = chCfg.lcGroup) : LcgAttached old chCfg x x
  | moves {x' : LcScope} (hlc : x.lc.channels.contains chCfg.lcid = true)
      (hlcg : x.lc.lcgs.contains chCfg.lcGroup = true) (hgroup : oldGroup old chCfg ≠ chCfg.lcGroup)
      (hdown : LcgCountedDown { x with
          lc.lcgs := x.lc.lcgs.modify chCfg.lcGroup fun c => { c with lcCount := wrap8 (c.lcCount + 1) } }
        chCfg.lcGroup (oldGroup old chCfg) x') : LcgAttached old chCfg x x'

lemma attachLcg_spec (old : Option LogicalChannelConfigList) (chCfg : LogicalChannelConfig) :
    Yields (x.attachLcg ue old chCfg) (LcgAttached old chCfg x) AnyAbort := by
  unfold LcScope.attachLcg
  refine yields_bind ((yields_emplaceWithin _ _ _ _).mono (fun _ h => h) fun _ _ => trivial) fun channels hchannels => ?_
  refine yields_ite (fun hnew => ?_) fun hlcg => ?_
  · refine yields_bind ((yields_emplaceWithin _ _ _ _).mono (fun _ h => h) fun _ _ => trivial) fun lcgs hlcgs => ?_
    rcases hlcgs with ⟨hin, -⟩ | ⟨hnone, -, rfl⟩
    · rw [hin] at hnew
      cases hnew
    · exact .newLcg hchannels hnone
  · replace hlcg : x.lc.lcgs.contains chCfg.lcGroup = true := by simpa using hlcg
    dsimp only
    refine yields_ite (fun hlc => ?_) fun hlc => ?_
    · exact .newLc hchannels (FlatMap.contains_eq_false_iff.mp (by simpa using hlc)) hlcg
    · replace hlc : x.lc.channels.contains chCfg.lcid = true := by simpa using hlc
      obtain rfl : channels = x.lc.channels := by
        rcases hchannels with ⟨-, heq⟩ | ⟨hnone, -⟩
        · exact heq
        · rw [FlatMap.contains_eq_false_iff.mpr hnone] at hlc
          cases hlc
      split
      case h_1 => exact .stays hlc hlcg rfl
      case h_2 old =>
        split
        case h_1 => trivial
        case h_2 oldLc hold =>
          have hgroup : oldGroup (some old) chCfg = oldLc.lcGroup := by
            unfold oldGroup
            rw [Option.bind_some, hold]
          refine yields_ite (fun hsame => .stays hlc hlcg (hgroup.trans hsame)) fun hmoved => ?_
          refine yields_bind ((yields_atKey _ _).mono (fun _ h => h) fun _ _ => trivial) fun lcg hlcg' => ?_
          refine yields_ite (fun hzero => ?_) fun hne => ?_
          · refine (removeLcg_spec _ _).post fun x' h' => .moves hlc hlcg (hgroup ▸ hmoved) ?_
            rw [hgroup]
            exact ⟨lcg, _, hlcg', rfl, (if_pos hzero).mpr h'⟩
          · refine LcgAttached.moves hlc hlcg (hgroup ▸ hmoved) ?_
            rw [hgroup]
            exact ⟨lcg, _, hlcg', rfl, (if_neg hne).mpr rfl⟩

end Frames

namespace LogicalChannelSystem

variable {st st' : LogicalChannelSystem}

/-- `st'` has no UE that `st` has not, and its UEs have the same bearers. -/
def KeepsBearers (st st' : LogicalChannelSystem) : Prop :=
  ∀ rid u', st'.ues.row? rid = some u' → ∃ u, st.ues.row? rid = some u ∧ SameBearers u.lc u'.lc

lemma KeepsBearers.refl (st : LogicalChannelSystem) : KeepsBearers st st := fun _ u' hu' => ⟨u', hu', .refl _⟩

lemma KeepsBearers.trans {st'' : LogicalChannelSystem} (h : KeepsBearers st st') (h' : KeepsBearers st' st'') :
    KeepsBearers st st'' := by
  intro rid u'' hu''
  obtain ⟨u', hu', hs'⟩ := h' rid u'' hu''
  obtain ⟨u, hu, hs⟩ := h rid u' hu'
  exact ⟨u, hu, hs.trans hs'⟩

lemma SameLcs.keepsBearers (h : SameLcs st st') : KeepsBearers st st' := by
  intro rid u' hu'
  obtain ⟨u, hu, -, hlc⟩ := h.row_some hu'
  exact ⟨u, hu, hlc ▸ .refl _⟩

lemma keepsBearers_withScope {rid : Nat} {u : UeRow} {x : LcScope} (hu : st.ues.row? rid = some u)
    (hx : SameBearers u.lc x.lc) : KeepsBearers st (st.withScope rid x) := by
  intro r u' hu'
  rw [row?_withScope] at hu'
  split at hu'
  case isTrue hr =>
    rw [hr, hu] at hu'
    obtain rfl := Option.some.inj hu'
    exact ⟨u, hr ▸ hu, hx⟩
  case isFalse => exact ⟨u', hu', .refl _⟩

lemma updateLcs_keepsBearers {rid : Nat} {f : UeView → LcScope → Except LcAbort LcScope}
    (hf : ∀ ue x, Yields (f ue x) (fun x' => SameBearers x.lc x'.lc) AnyAbort) :
    Yields (st.updateLcs rid f) (KeepsBearers st) AnyAbort := by
  unfold updateLcs
  refine yields_bind ((yields_rowAt _ _).mono (fun _ h => h) fun _ _ => trivial) fun u hu => ?_
  exact yields_bind (hf _ _) fun x hx => keepsBearers_withScope hu hx

def setsConfiguration : LcEvent → Bool
  | .configure .. | .createUe .. => true
  | _ => false

lemma clearCes_keepsBearers (rid : Nat) : Yields (st.clearCes rid) (KeepsBearers st) AnyAbort :=
  clearCes_sameLcs.mono (fun _ h => SameLcs.keepsBearers h) fun _ _ => trivial

lemma deactivate_keepsBearers (rid : Nat) : Yields (st.deactivate rid) (KeepsBearers st) AnyAbort := by
  unfold deactivate
  refine yields_bind (clearCes_keepsBearers rid) fun st₁ h₁ => ?_
  refine yields_bind (resetSrIndication_sameLcs.mono (fun _ h => SameLcs.keepsBearers h) fun _ _ => trivial) fun st₂ h₂ => ?_
  exact (updateLcs_keepsBearers fun ue x => deactivateBearers_sameBearers).post fun st₃ h₃ => (h₁.trans h₂).trans h₃

lemma removeUe_keepsBearers (rid : Nat) : Yields (st.removeUe rid) (KeepsBearers st) AnyAbort := by
  unfold removeUe
  refine yields_bind (yields_true _) fun u _ => yields_ite (fun _ => trivial) fun _ => ?_
  refine yields_bind (deactivate_keepsBearers rid) fun st₁ h₁ => ?_
  refine yields_bind ((yields_lift fun _ => trivial : Yields _ _ AnyAbort)) ?_
  rintro ⟨ues, erased⟩ herase
  refine yields_bind (yields_true _) fun configuredUes _ => ?_
  have hrows := SoaTable.row?_erase herase
  have herased : KeepsBearers st { st₁ with ues := ues, configuredUes := configuredUes } := by
    intro r u' hu'
    dsimp only at hu'
    rw [hrows] at hu'
    split at hu'
    case isTrue => cases hu'
    case isFalse => exact h₁ r u' hu'
  refine (stripUes_spec.mono (fun _ h => h) fun _ _ => trivial).post fun st₂ h₂ => ?_
  rcases h₂ with rfl | ⟨n, hr, -⟩
  · exact herased
  · intro r u' hu'
    rw [hr.ues] at hu'
    exact herased r u' hu'

lemma setFallbackState_keepsBearers (rid : Nat) (enterFallback : Bool) :
    Yields (st.setFallbackState rid enterFallback) (KeepsBearers st) AnyAbort := by
  unfold setFallbackState
  refine yields_bind (yields_true _) fun u _ => yields_ite (fun _ => KeepsBearers.refl st) fun _ => ?_
  have hflag : KeepsBearers st (st.modifyUe rid fun u => { u with fallbackState := enterFallback }) := by
    intro r u' hu'
    unfold modifyUe at hu'
    dsimp only at hu'
    rw [SoaTable.row?_modify] at hu'
    split at hu'
    case isTrue hr =>
      obtain ⟨u, hu, rfl⟩ := Option.map_eq_some_iff.mp hu'
      exact ⟨u, hu, .refl _⟩
    case isFalse => exact ⟨u', hu', .refl _⟩
  refine yields_ite (fun _ => ?_) fun _ => ?_
  · refine yields_bind (updateLcs_keepsBearers fun ue x => enterFallback_sameQos.post fun _ h => h.bearers) fun st₁ h₁ => ?_
    exact yields_bind (yields_true _) fun bits _ => hflag.trans h₁
  · refine yields_bind (updateLcs_keepsBearers fun ue x => exitFallback_sameQos.post fun _ h => h.bearers) fun st₁ h₁ => ?_
    exact yields_ite (fun _ => yields_bind (yields_true _) fun bits _ => hflag.trans h₁) fun _ => hflag.trans h₁

lemma allocateMacSdu_keepsBearers (rid : Nat) (subpdu : DlMsgLcInfo) (remBytes lcid : Nat) :
    Yields (st.allocateMacSdu rid subpdu remBytes lcid) (fun r => KeepsBearers st r.2) AnyAbort := by
  unfold allocateMacSdu
  refine yields_bind ((yields_rowAt _ _).mono (fun _ h => h) fun _ _ => trivial) fun u hu => ?_
  refine yields_bind (allocateMacSdu_sameBearers subpdu remBytes lcid) ?_
  rintro ⟨alloc, x⟩ hx
  exact keepsBearers_withScope hu hx

lemma step_keepsBearers {e : LcEvent} (he : setsConfiguration e = false) :
    Yields (st.step e) (KeepsBearers st) AnyAbort := by
  have hcalls : ∀ {r : Except LcAbort LogicalChannelSystem}, Yields r (SameLcs st) DlSafe →
      Yields r (KeepsBearers st) AnyAbort := fun h => h.mono (fun _ h => SameLcs.keepsBearers h) fun _ _ => trivial
  unfold step
  cases e with
  | configure rid cfgs => cases he
  | createUe ueIndex scsCommon startsInFallback cfgs => cases he
  | slotIndication => exact yields_bind (yields_true _) fun _ _ => KeepsBearers.refl st
  | removeUe rid => exact removeUe_keepsBearers rid
  | deactivate rid => exact deactivate_keepsBearers rid
  | setFallbackState rid enterFallback => exact setFallbackState_keepsBearers rid enterFallback
  | setLcidRanSlice rid lcid sliceId =>
    exact updateLcs_keepsBearers fun _ _ => (setLcidRanSlice_sameQos _ _ _).post fun _ h => h.bearers
  | setLcgRanSlice rid lcgid sliceId =>
    exact updateLcs_keepsBearers fun _ _ => (setLcgRanSlice_sameQos _ _ _).post fun _ h => h.bearers
  | resetLcidRanSlice rid lcid =>
    exact updateLcs_keepsBearers fun _ _ => (deregisterLcRanSlice_sameQos _).post fun _ h => h.bearers
  | resetLcgRanSlice rid lcgid =>
    exact updateLcs_keepsBearers fun _ _ => (deregisterLcgRanSlice_sameQos _).post fun _ h => h.bearers
  | handleDlBufferStatusIndication rid lcid bufferStatus holToa =>
    exact updateLcs_keepsBearers fun _ _ => (handleDlBufferStatusIndication_sameQos _ _ _).post fun _ h => h.bearers
  | handleMacCeIndication rid ce => exact hcalls (handleMacCeIndication_sameLcs ce)
  | handleBsrIndication rid msg => exact updateLcs_keepsBearers fun _ _ => handleBsrIndication_sameBearers msg
  | handleSrIndication rid => exact hcalls handleSrIndication_sameLcs
  | resetSrIndication rid => exact hcalls resetSrIndication_sameLcs
  | allocateMacSdu rid subpdu remBytes lcid =>
    exact yields_bind (allocateMacSdu_keepsBearers rid subpdu remBytes lcid) fun _ h => h
  | allocateMacCe rid subpdu remBytes =>
    exact hcalls (yields_bind (allocateMacCe_sameLcs subpdu remBytes) fun _ h => h)
  | allocateUeConResIdMacCe rid subpdu remBytes =>
    exact hcalls (yields_bind (allocateUeConResIdMacCe_sameLcs subpdu remBytes) fun _ h => h)
  | handleUlGrant rid grantSize =>
    refine yields_bind (hcalls resetSrIndication_sameLcs) fun st₁ h₁ => ?_
    exact (updateLcs_keepsBearers fun _ _ => handleUlGrant_sameBearers grantSize).post fun _ h₂ => h₁.trans h₂

end LogicalChannelSystem

end OwlsRan.Sched
