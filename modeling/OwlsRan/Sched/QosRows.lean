import OwlsRan.Adt.LinkedRows
import OwlsRan.Sched.BearerFrames

/-!
# The QoS rows of one UE

Channels and LCGs that track their QoS hold the id of a row in a table that all UEs share.
-/

namespace OwlsRan.Sched
open OwlsRan.Lib OwlsRan.Adt OwlsRan.Ran

def rowOf {β : Type} (row : β → Option Nat) (m : FlatMap β) (key : Nat) : Option Nat := (m.find? key).bind row

def channelRow (lc : UeLcState) : Nat → Option Nat := rowOf DlLogicalChannelContext.qosRow lc.channels

def lcgRow (lc : UeLcState) : Nat → Option Nat := rowOf UlLogicalChannelGroupContext.qosRow lc.lcgs

/-- The rows held by all UEs: those of the UE `rid` are `own`, those of the others `rest`. -/
def withOwn (rid : Nat) (rest : Nat × Nat → Option Nat) (own : Nat → Option Nat) (k : Nat × Nat) : Option Nat :=
  if k.1 = rid then own k.2 else rest k

/-- The rows of the UEs other than `rid` are the same. -/
def OthersKept {α : Type} (rid : Nat) (rest : Nat × Nat → Option Nat) (t t' : SoaTable α) : Prop :=
  ∀ k r, k.1 ≠ rid → rest k = some r → t'.row? r = t.row? r

/-- The UE now holds `own'`, and its table `t'`, once `t`, still has the rows of the others. -/
structure RowsKept {α : Type} (rid : Nat) (rest : Nat × Nat → Option Nat) (t : SoaTable α) (own' : Nat → Option Nat)
    (t' : SoaTable α) : Prop where
  owned : RowOwners (withOwn rid rest own') t'
  others : OthersKept rid rest t t'

structure QosOwned (rid : Nat) (rest restLcg : Nat × Nat → Option Nat) (x : LcScope) : Prop where
  channels : RowOwners (withOwn rid rest (channelRow x.lc)) x.qosChannels
  lcgs : RowOwners (withOwn rid restLcg (lcgRow x.lc)) x.qosLcgs

structure QosKept (rid : Nat) (rest restLcg : Nat × Nat → Option Nat) (x x' : LcScope) : Prop where
  channels : RowsKept rid rest x.qosChannels (channelRow x'.lc) x'.qosChannels
  lcgs : RowsKept rid restLcg x.qosLcgs (lcgRow x'.lc) x'.qosLcgs

section Rows

variable {α β : Type} {row : β → Option Nat} {m : FlatMap β} {key rid l : Nat} {rest : Nat × Nat → Option Nat}
  {own own' : Nat → Option Nat} {t t' t'' : SoaTable α}

lemma rowOf_modify {f : β → β} {b : β} (hkey : m.find? key = some b) :
    rowOf row (m.modify key f) = Function.update (rowOf row m) key (row (f b)) := by
  funext k
  unfold rowOf
  rw [FlatMap.find?_modify]
  by_cases hk : k = key
  · rw [if_pos hk, hk, hkey, Function.update_self]
    rfl
  · rw [if_neg hk, Function.update_of_ne hk]

lemma rowOf_modify_same {f : β → β} (hf : ∀ b, row (f b) = row b) : rowOf row (m.modify key f) = rowOf row m := by
  funext k
  unfold rowOf
  rw [FlatMap.find?_modify]
  split
  case isTrue =>
    cases m.find? k with
    | none => rfl
    | some b => exact hf b
  case isFalse => rfl

lemma rowOf_erase : rowOf row (m.erase key) = Function.update (rowOf row m) key none := by
  funext k
  unfold rowOf
  rw [FlatMap.find?_erase]
  by_cases hk : k = key
  · rw [if_pos hk, hk, Function.update_self]
    rfl
  · rw [if_neg hk, Function.update_of_ne hk]

lemma rowOf_emplace {b : β} (hkey : m.find? key = none) (hb : row b = none) :
    rowOf row (m.emplace key b) = rowOf row m := by
  funext k
  unfold rowOf
  rw [FlatMap.find?_emplace hkey]
  by_cases hk : k = key
  · rw [if_pos hk, hk, hkey]
    exact hb
  · rw [if_neg hk]

lemma withOwn_update (v : Option Nat) :
    withOwn rid rest (Function.update own l v) = Function.update (withOwn rid rest own) (rid, l) v := by
  funext k
  unfold withOwn
  by_cases hk : k = (rid, l)
  · rw [hk, Function.update_self, if_pos rfl, Function.update_self]
  · rw [Function.update_of_ne hk]
    by_cases hrid : k.1 = rid
    · have hl : k.2 ≠ l := fun hl => hk (Prod.ext hrid hl)
      rw [if_pos hrid, if_pos hrid, Function.update_of_ne hl]
    · rw [if_neg hrid, if_neg hrid]

lemma withOwn_self : withOwn rid rest own (rid, l) = own l := if_pos rfl

lemma OthersKept.refl (rid : Nat) (rest : Nat × Nat → Option Nat) (t : SoaTable α) : OthersKept rid rest t t :=
  fun _ _ _ _ => rfl

lemma OthersKept.trans (h : OthersKept rid rest t t') (h' : OthersKept rid rest t' t'') : OthersKept rid rest t t'' :=
  fun k r hk hr => (h' k r hk hr).trans (h k r hk hr)

lemma othersKept_of_rows (h : RowOwners (withOwn rid rest own) t)
    (hrows : ∀ r, (∀ l, own l ≠ some r) → t'.row? r = t.row? r) : OthersKept rid rest t t' := by
  intro k r hk hr
  refine hrows r fun l hl => hk ?_
  have hother : withOwn rid rest own k = some r := by
    unfold withOwn
    rw [if_neg hk]
    exact hr
  have hkey : k = (rid, l) := h.unique k (rid, l) r hother (withOwn_self.trans hl)
  rw [hkey]

lemma rowsKept_eraseRow (h : RowOwners (withOwn rid rest own) t) (hok : eraseRow t (own l) = .ok t') :
    RowsKept rid rest t (Function.update own l none) t' := by
  have hrows := (yields_eraseRow t (own l)).of_ok hok
  constructor
  · rw [withOwn_update]
    cases hrow : own l with
    | none =>
      have hsame : Function.update (withOwn rid rest own) (rid, l) none = withOwn rid rest own := by
        have hown : withOwn rid rest own (rid, l) = none := withOwn_self.trans hrow
        rw [← hown, Function.update_eq_self]
      rw [hsame]
      refine h.rows fun r => ?_
      rw [hrows, hrow, if_neg (Option.some_ne_none r)]
    | some r =>
      refine h.release (withOwn_self.trans hrow) fun r' => ?_
      rw [hrows, hrow]
      by_cases hr : r' = r
      · rw [if_pos hr, if_pos (by rw [hr])]
      · rw [if_neg hr, if_neg (fun heq => hr (Option.some.inj heq))]
  · refine othersKept_of_rows h fun r hr => ?_
    rw [hrows, if_neg (fun heq => hr l heq.symm)]

lemma rowsKept_ensureRow (h : RowOwners (withOwn rid rest own) t) (a : α) :
    RowsKept rid rest t (Function.update own l (some (LcScope.ensureRow t (own l) a).2))
      (LcScope.ensureRow t (own l) a).1 := by
  unfold LcScope.ensureRow
  cases hrow : own l with
  | none =>
    constructor
    · rw [withOwn_update]
      exact h.acquire (withOwn_self.trans hrow) a
    · intro k r hk hr
      have hother : withOwn rid rest own k = some r := (if_neg hk).trans hr
      obtain ⟨b, hb⟩ := h.row k r hother
      have hne : r ≠ t.nextRowId := by
        rintro rfl
        rw [t.row?_nextRowId] at hb
        cases hb
      dsimp only
      rw [SoaTable.row?_insert, if_neg hne]
  | some r =>
    dsimp only
    rw [← hrow, Function.update_eq_self]
    exact ⟨h, .refl _ _ _⟩

lemma rowsKept_modify (h : RowOwners (withOwn rid rest own) t) {r : Nat} (hrow : own l = some r) (f : α → α) :
    RowsKept rid rest t own (t.modify r f) := by
  constructor
  · refine h.rows fun r' => ?_
    rw [SoaTable.row?_modify]
    split
    · exact Option.isSome_map
    · rfl
  · refine othersKept_of_rows h fun r' hr' => ?_
    rw [SoaTable.row?_modify, if_neg]
    rintro rfl
    exact hr' l hrow

lemma RowsKept.trans (h : RowsKept rid rest t own t') (h' : RowsKept rid rest t' own' t'') :
    RowsKept rid rest t own' t'' :=
  ⟨h'.owned, h.others.trans h'.others⟩

end Rows

section Scope

variable {rid : Nat} {rest restLcg : Nat × Nat → Option Nat} {ue : UeView} {x x' x'' : LcScope}

lemma QosKept.owned (h : QosKept rid rest restLcg x x') : QosOwned rid rest restLcg x' :=
  ⟨h.channels.owned, h.lcgs.owned⟩

lemma QosOwned.kept (h : QosOwned rid rest restLcg x) : QosKept rid rest restLcg x x :=
  ⟨⟨h.channels, .refl _ _ _⟩, ⟨h.lcgs, .refl _ _ _⟩⟩

lemma QosKept.trans (h : QosKept rid rest restLcg x x') (h' : QosKept rid rest restLcg x' x'') :
    QosKept rid rest restLcg x x'' :=
  ⟨h.channels.trans h'.channels, h.lcgs.trans h'.lcgs⟩

lemma SameBearers.channelRow_eq {lc lc' : UeLcState} (h : SameBearers lc lc') : channelRow lc' = channelRow lc := by
  funext l
  have hrow := congrArg (fun o => o.bind id) (h.channels l)
  simp only [Option.bind_map] at hrow
  exact hrow

lemma SameBearers.lcgRow_eq {lc lc' : UeLcState} (h : SameBearers lc lc') : lcgRow lc' = lcgRow lc := by
  funext g
  have hrow := congrArg (fun o => o.bind Prod.snd) (h.lcgs g)
  simp only [Option.bind_map] at hrow
  exact hrow

lemma QosOwned.kept_of_eq (hx : QosOwned rid rest restLcg x) (hchannels : channelRow x'.lc = channelRow x.lc)
    (hlcgs : lcgRow x'.lc = lcgRow x.lc) (hqos : x'.qosChannels = x.qosChannels) (hqos' : x'.qosLcgs = x.qosLcgs) :
    QosKept rid rest restLcg x x' := by
  constructor
  · rw [hqos, hchannels]
    exact ⟨hx.channels, .refl _ _ _⟩
  · rw [hqos', hlcgs]
    exact ⟨hx.lcgs, .refl _ _ _⟩

lemma SameQos.kept (h : SameQos x x') (hx : QosOwned rid rest restLcg x) : QosKept rid rest restLcg x x' :=
  hx.kept_of_eq h.bearers.channelRow_eq h.bearers.lcgRow_eq h.qosChannels h.qosLcgs

lemma lcgRemoved_qosKept (hx : QosOwned rid rest restLcg x) {lcgid : Nat} (h : LcgRemoved x lcgid lcgid x') :
    QosKept rid rest restLcg x x' := by
  obtain ⟨lcg, qosLcgs, x₁, hlcg, -, hok, hsame, rfl⟩ := h
  have hrow : lcgRow x.lc lcgid = lcg.qosRow := by
    unfold lcgRow rowOf
    rw [hlcg]
    rfl
  rw [← hrow] at hok
  have hkept := rowsKept_eraseRow hx.lcgs hok
  constructor
  · change RowsKept rid rest x.qosChannels (channelRow x₁.lc) x₁.qosChannels
    rw [hsame.qosChannels, hsame.bearers.channelRow_eq]
    exact ⟨hx.channels, .refl _ _ _⟩
  · have herased : lcgRow ({ x₁ with lc.lcgs := x₁.lc.lcgs.erase lcgid } : LcScope).lc =
        Function.update (lcgRow x.lc) lcgid none := by
      refine rowOf_erase.trans ?_
      exact congrArg (fun own => Function.update own lcgid none) hsame.bearers.lcgRow_eq
    rw [herased]
    change RowsKept rid restLcg x.qosLcgs _ x₁.qosLcgs
    rw [hsame.qosLcgs]
    exact hkept

lemma lcgCountedDown_qosKept (hx : QosOwned rid rest restLcg x) {lcgid ueLcg : Nat}
    (h : LcgCountedDown x lcgid ueLcg x') : (lcgid = ueLcg → QosKept rid rest restLcg x x') ∧
      (QosKept rid rest restLcg x x' ∨ x'.lc.lcgs.find? lcgid = none) := by
  obtain ⟨lcg, x₁, -, hx₁, h⟩ := h
  have hkept : QosKept rid rest restLcg x x₁ := by
    rw [hx₁]
    exact hx.kept_of_eq rfl (rowOf_modify_same fun _ => rfl) rfl rfl
  split at h
  case isTrue =>
    refine ⟨?_, Or.inr ?_⟩
    · rintro rfl
      exact hkept.trans (lcgRemoved_qosKept hkept.owned h)
    · obtain ⟨-, -, x₂, -, -, -, -, rfl⟩ := h
      exact (FlatMap.find?_erase _ _ _).trans (if_pos rfl)
  case isFalse =>
    rw [h]
    exact ⟨fun _ => hkept, Or.inl hkept⟩

lemma removeLc_qosKept (hx : QosOwned rid rest restLcg x) (oldLc : LogicalChannelConfig) :
    Yields (x.removeLc ue oldLc) (QosKept rid rest restLcg x) AnyAbort := by
  refine (removeLc_spec oldLc).post fun x' h => ?_
  obtain ⟨ch, qosChannels, x₁, hch, hok, hsame, hdown⟩ := h
  have hrow : channelRow x.lc oldLc.lcid = ch.qosRow := by
    unfold channelRow rowOf
    rw [hch]
    rfl
  rw [← hrow] at hok
  have hreleased : QosKept rid rest restLcg x { x₁ with lc.channels := x₁.lc.channels.erase oldLc.lcid } := by
    constructor
    · have herased : channelRow ({ x₁ with lc.channels := x₁.lc.channels.erase oldLc.lcid } : LcScope).lc =
          Function.update (channelRow x.lc) oldLc.lcid none := by
        refine rowOf_erase.trans ?_
        exact congrArg (fun own => Function.update own oldLc.lcid none) hsame.bearers.channelRow_eq
      rw [herased]
      change RowsKept rid rest x.qosChannels _ x₁.qosChannels
      rw [hsame.qosChannels]
      exact rowsKept_eraseRow hx.channels hok
    · change RowsKept rid restLcg x.qosLcgs (lcgRow x₁.lc) x₁.qosLcgs
      rw [hsame.qosLcgs, hsame.bearers.lcgRow_eq]
      exact ⟨hx.lcgs, .refl _ _ _⟩
  exact hreleased.trans ((lcgCountedDown_qosKept hreleased.owned hdown).1 rfl)

lemma channelEnsured_row {lcid : Nat} {channels : FlatMap DlLogicalChannelContext}
    (h : ChannelEnsured x lcid channels) : rowOf DlLogicalChannelContext.qosRow channels = channelRow x.lc := by
  rcases h with ⟨-, rfl⟩ | ⟨hnone, -, rfl⟩
  · rfl
  · exact rowOf_emplace hnone rfl

lemma attachLcg_qosKept (hx : QosOwned rid rest restLcg x) (old : Option LogicalChannelConfigList)
    (chCfg : LogicalChannelConfig) :
    Yields (x.attachLcg ue old chCfg)
      (fun x' => QosKept rid rest restLcg x x' ∨ x'.lc.lcgs.find? chCfg.lcGroup = none) AnyAbort := by
  refine (attachLcg_spec old chCfg).post fun x' h => ?_
  cases h with
  | newLcg hchannels hlcg =>
    exact Or.inl (hx.kept_of_eq (channelEnsured_row hchannels) (rowOf_emplace hlcg rfl) rfl rfl)
  | newLc hchannels hlc hlcg =>
    exact Or.inl (hx.kept_of_eq (channelEnsured_row hchannels) (rowOf_modify_same fun _ => rfl) rfl rfl)
  | stays => exact Or.inl hx.kept
  | moves hlc hlcg hgroup hdown =>
    have hjoined : QosKept rid rest restLcg x { x with
        lc.lcgs := x.lc.lcgs.modify chCfg.lcGroup fun c => { c with lcCount := wrap8 (c.lcCount + 1) } } :=
      hx.kept_of_eq rfl (rowOf_modify_same fun _ => rfl) rfl rfl
    rcases (lcgCountedDown_qosKept hjoined.owned hdown).2 with hkept | hnone
    · exact Or.inl (hjoined.trans hkept)
    · exact Or.inr hnone

lemma trackQos_qosKept (hx : QosOwned rid rest restLcg x) (chCfg : LogicalChannelConfig) :
    Yields (x.trackQos ue chCfg) (QosKept rid rest restLcg x) AnyAbort := by
  unfold LcScope.trackQos
  refine yields_bind ((yields_atKey _ _).mono (fun _ h => h) fun _ _ => trivial) fun ch hch => ?_
  refine yields_bind ((yields_atKey _ _).mono (fun _ h => h) fun _ _ => trivial) fun lcg hlcg => ?_
  have hchRow : channelRow x.lc chCfg.lcid = ch.qosRow := by
    unfold channelRow rowOf
    rw [hch]
    rfl
  have hlcgRow : lcgRow x.lc chCfg.lcGroup = lcg.qosRow := by
    unfold lcgRow rowOf
    rw [hlcg]
    rfl
  refine yields_ite (fun _ => ?_) fun _ => ?_
  · split
    case h_1 => trivial
    case h_2 winSizeMsec _ =>
      have hch' := rowsKept_ensureRow (l := chCfg.lcid) hx.channels QosContext.init
      have hlcg' := rowsKept_ensureRow (l := chCfg.lcGroup) hx.lcgs LcgQosContext.init
      rw [hchRow] at hch'
      rw [hlcgRow] at hlcg'
      refine yields_bind (yields_true _) fun _ _ => yields_bind (yields_true _) fun _ _ => ?_
      constructor
      · dsimp only [channelRow]
        rw [rowOf_modify hch]
        exact hch'.trans (rowsKept_modify hch'.owned (Function.update_self _ _ _) _)
      · dsimp only [lcgRow]
        rw [rowOf_modify hlcg]
        exact hlcg'.trans (rowsKept_modify hlcg'.owned (Function.update_self _ _ _) _)
  · refine yields_bind (yields_refl _) fun qosChannels hok => yields_bind (yields_refl _) fun qosLcgs hok' => ?_
    rw [← hchRow] at hok
    rw [← hlcgRow] at hok'
    constructor
    · dsimp only [channelRow]
      rw [rowOf_modify hch]
      exact rowsKept_eraseRow hx.channels hok
    · dsimp only [lcgRow]
      rw [rowOf_modify hlcg]
      exact rowsKept_eraseRow hx.lcgs hok'

lemma applyLc_qosKept (hx : QosOwned rid rest restLcg x) (old : Option LogicalChannelConfigList)
    (chCfg : LogicalChannelConfig) : Yields (LcScope.applyLc ue old x chCfg) (QosKept rid rest restLcg x) AnyAbort := by
  unfold LcScope.applyLc
  refine yields_bind (attachLcg_qosKept hx old chCfg) fun x₁ h₁ => ?_
  rcases h₁ with h₁ | hnone
  · refine yields_bind (activate_sameQos chCfg) fun x₂ h₂ => ?_
    have hkept := h₁.trans (h₂.kept h₁.owned)
    exact (trackQos_qosKept hkept.owned chCfg).post fun x₃ h₃ => hkept.trans h₃
  · -- the LCG has been erased by mistake, and the lookup fails
    unfold LcScope.activate atKey
    rw [hnone]
    trivial

lemma configure_qosKept (hx : QosOwned rid rest restLcg x) (cfgs : LogicalChannelConfigList) :
    Yields (x.configure ue cfgs) (QosKept rid rest restLcg x) AnyAbort := by
  unfold LcScope.configure
  have hstart : QosKept rid rest restLcg x { x with lc.channelConfigs := some cfgs } := hx.kept_of_eq rfl rfl rfl rfl
  refine yields_bind (Q := QosKept rid rest restLcg x) ?_ fun x₁ h₁ => ?_
  · unfold LcScope.removeOldLcs
    split
    case h_1 => exact hstart
    case h_2 old _ =>
      refine yields_foldlM (I := QosKept rid rest restLcg x) hstart fun x₁ oldLc _ h₁ => ?_
      exact yields_ite (fun _ => h₁) fun _ => (removeLc_qosKept h₁.owned oldLc).post fun _ h => h₁.trans h
  · refine yields_bind (yields_foldlM (I := QosKept rid rest restLcg x) h₁ fun x₂ chCfg _ h₂ => ?_) fun x₂ h₂ => ?_
    · exact (applyLc_qosKept h₂.owned _ chCfg).post fun _ h => h₂.trans h
    · exact yields_ite (fun _ => trivial) fun _ => h₂.trans (h₂.owned.kept_of_eq rfl rfl rfl rfl)

lemma handleUlGrant_qosKept (hx : QosOwned rid rest restLcg x) (grantSize : Nat) :
    Yields (x.handleUlGrant grantSize) (QosKept rid rest restLcg x) AnyAbort := by
  unfold LcScope.handleUlGrant
  refine yields_bind (Q := fun s => RowsKept rid restLcg x.qosLcgs (lcgRow x.lc) s.2) ?_ fun s hs => ?_
  · refine yields_foldlM (I := fun s : Nat × SoaTable LcgQosContext => RowsKept rid restLcg x.qosLcgs (lcgRow x.lc) s.2)
      ⟨hx.lcgs, .refl _ _ _⟩ fun s e he hs => ?_
    have hrow : lcgRow x.lc e.1 = e.2.qosRow := by
      unfold lcgRow rowOf
      rw [FlatMap.find?_eq_some_iff.mpr he]
      rfl
    unfold LcScope.attributeGrant
    refine yields_ite (fun _ => hs) fun _ => ?_
    split
    case h_1 => exact hs
    case h_2 r hr =>
      refine yields_ite (fun _ => ?_) fun _ => hs
      refine yields_bind (yields_true _) fun qos _ => yields_ite (fun _ => ?_) fun _ => hs
      exact hs.trans (rowsKept_modify hs.owned (hrow.trans hr) _)
  · exact ⟨⟨hx.channels, .refl _ _ _⟩, hs⟩

lemma handleBsrIndication_qosKept (hx : QosOwned rid rest restLcg x) (msg : UlBsrIndicationMessage) :
    Yields (x.handleBsrIndication ue msg) (QosKept rid rest restLcg x) AnyAbort := by
  unfold LcScope.handleBsrIndication
  refine yields_foldlM (I := QosKept rid rest restLcg x) hx.kept fun x₁ report _ h₁ => ?_
  unfold LcScope.handleLcgReport
  split
  case h_1 => exact h₁
  case h_2 lcg hlcg =>
    refine yields_ite (fun _ => ?_) fun _ => h₁
    have h₂ : QosKept rid rest restLcg x₁ { x₁ with lc.lcgs := x₁.lc.lcgs.modify report.lcgId fun c => { c with
        bufSt := min report.nofBytes maxBufferStatus } } :=
      h₁.owned.kept_of_eq rfl (rowOf_modify_same fun _ => rfl) rfl rfl
    refine yields_bind (Q := QosKept rid rest restLcg x) ?_ fun x₂ h₃ => ?_
    · split
      case h_1 => exact h₁.trans h₂
      case h_2 r hr =>
        refine yields_bind (yields_true _) fun _ _ => (h₁.trans h₂).trans ?_
        refine ⟨⟨h₂.owned.channels, .refl _ _ _⟩, rowsKept_modify (l := report.lcgId) h₂.owned.lcgs ?_ _⟩
        have hsame : rowOf UlLogicalChannelGroupContext.qosRow (x₁.lc.lcgs.modify report.lcgId fun c => { c with
            bufSt := min report.nofBytes maxBufferStatus }) = lcgRow x₁.lc := rowOf_modify_same fun _ => rfl
        refine (congrFun hsame _).trans ?_
        unfold lcgRow rowOf
        rw [hlcg]
        exact hr
    · exact (onSingleLcgBufStUpdate_sameQos _ _ _ _ _).post fun _ h => h₃.trans (h.kept h₃.owned)

lemma allocateMacSdu_qosKept (hx : QosOwned rid rest restLcg x) (subpdu : DlMsgLcInfo) (remBytes lcid : Nat) :
    Yields (x.allocateMacSdu ue subpdu remBytes lcid) (fun r => QosKept rid rest restLcg x r.2) AnyAbort := by
  unfold LcScope.allocateMacSdu
  refine yields_ite (fun _ => hx.kept) fun _ => ?_
  generalize (if lcid = INVALID_LCID then x.getMaxPrioLcid else lcid) = lcid'
  unfold LcScope.allocateMacSduOf
  split
  case isFalse => trivial
  case isTrue =>
    refine yields_ite (fun _ => hx.kept) fun _ => ?_
    split
    case h_1 => exact hx.kept
    case h_2 ch hch =>
      refine yields_ite (fun _ => hx.kept) fun _ => ?_
      dsimp only
      generalize LcScope.bufStAfterSched lcid' ch.bufSt _ = newBufSt
      have h₁ := sameQos_modifyChannel (x := x) (f := fun c => { c with bufSt := newBufSt }) (fun _ => rfl) lcid'
      refine yields_bind (onSingleChannelBufStUpdate_sameQos _ _ _ _) fun x₁ h => ?_
      have h₂ := (h₁.trans h).kept hx
      split
      case h_1 => exact h₂
      case h_2 r hr =>
        refine yields_bind (yields_true _) fun _ _ => h₂.trans ?_
        refine ⟨rowsKept_modify (l := lcid') h₂.owned.channels ?_ _, ⟨h₂.owned.lcgs, .refl _ _ _⟩⟩
        rw [(h₁.trans h).bearers.channelRow_eq]
        unfold channelRow rowOf
        rw [hch]
        exact hr

end Scope

end OwlsRan.Sched
