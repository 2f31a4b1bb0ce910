import OwlsRan.Sched.BearerFrames

/-!
# The LCGs of a UE and their counts

`configure` keeps the number of LCIDs of each LCG by hand.
-/

namespace OwlsRan.Sched
open OwlsRan.Lib OwlsRan.Adt OwlsRan.Ran

/-- The contexts of a UE agree with the assignment `a`. -/
structure LcgsCounted (a : FlatMap Nat) (lc : UeLcState) : Prop where
  size : lc.channels.size = a.size
  few : a.size ≤ MAX_NOF_RB_LCIDS
  channels : ∀ lcid, lc.channels.contains lcid = a.contains lcid
  counts : ∀ lcgid, (lc.lcgs.find? lcgid).map (·.lcCount) =
    if members a lcgid = 0 then none else some (members a lcgid)

section Rounds

variable {a : FlatMap Nat} {lc lc' : UeLcState} {x : LcScope} {ue : UeView}
  {old : Option LogicalChannelConfigList} {cfgs : LogicalChannelConfigList}

lemma LcgsCounted.sameGroups (h : LcgsCounted a lc) (hs : SameGroups lc lc') : LcgsCounted a lc' :=
  ⟨hs.size.trans h.size, h.few, fun l => (hs.channels l).trans (h.channels l), fun g => (hs.counts g).trans (h.counts g)⟩

lemma LcgsCounted.contains_iff (h : LcgsCounted a lc) (lcgid : Nat) :
    lc.lcgs.contains lcgid = true ↔ 0 < members a lcgid := by
  have hcount := congrArg Option.isSome (h.counts lcgid)
  rw [Option.isSome_map] at hcount
  unfold FlatMap.contains
  rw [hcount]
  split
  case isTrue hzero => simp [hzero]
  case isFalse hne => simpa using Nat.pos_of_ne_zero hne

lemma LcgsCounted.lcCount (h : LcgsCounted a lc) {lcgid : Nat} {lcg : UlLogicalChannelGroupContext}
    (hlcg : lc.lcgs.find? lcgid = some lcg) : lcg.lcCount = members a lcgid ∧ 0 < members a lcgid := by
  have hcount := h.counts lcgid
  rw [hlcg] at hcount
  split at hcount
  case isTrue => cases hcount
  case isFalse hne => exact ⟨Option.some.inj hcount, Nat.pos_of_ne_zero hne⟩

lemma LcgsCounted.members_lt (h : LcgsCounted a lc) (lcgid : Nat) : members a lcgid ≤ 33 := by
  have hsize := h.few
  have hle := members_le_size a lcgid
  unfold MAX_NOF_RB_LCIDS at hsize
  omega

lemma map_lcCount_modify (lcgs : FlatMap UlLogicalChannelGroupContext)
    {f : UlLogicalChannelGroupContext → UlLogicalChannelGroupContext} {n : Nat → Nat}
    (hf : ∀ c, (f c).lcCount = n c.lcCount) (lcgid g : Nat) :
    ((lcgs.modify lcgid f).find? g).map (·.lcCount) =
      if g = lcgid then ((lcgs.find? g).map (·.lcCount)).map n else (lcgs.find? g).map (·.lcCount) := by
  rw [FlatMap.find?_modify]
  split
  case isTrue =>
    rw [Option.map_map, Option.map_map]
    congr 1
    funext c
    exact hf c
  case isFalse => rfl

/-- An LCG loses a member. Removing the last member removes the LCG, under the name of `ueLcg`. -/
lemma lcgCountedDown_counts {n : Nat → Nat} {lcgid ueLcg : Nat} {x' : LcScope} (h : LcgCountedDown x lcgid ueLcg x')
    (hn : ∀ g, (x.lc.lcgs.find? g).map (·.lcCount) = if n g = 0 then none else some (n g)) (hsmall : n ueLcg ≤ 34)
    (hsame : lcgid = ueLcg ∨ 1 < n ueLcg) :
    SameGroups { x.lc with lcgs := x'.lc.lcgs } x'.lc ∧
      ∀ g, (x'.lc.lcgs.find? g).map (·.lcCount) =
        if n g - (if g = ueLcg then 1 else 0) = 0 then none else some (n g - if g = ueLcg then 1 else 0) := by
  obtain ⟨lcg, x₁, hlcg, hx₁, h⟩ := h
  have hcount : lcg.lcCount = n ueLcg ∧ n ueLcg ≠ 0 := by
    have := hn ueLcg
    rw [hlcg] at this
    split at this
    case isTrue => cases this
    case isFalse hne => exact ⟨Option.some.inj this, hne⟩
  have hwrap : wrap8 (lcg.lcCount + 255) = n ueLcg - 1 := by
    unfold wrap8
    omega
  have hcounts : ∀ g, (x₁.lc.lcgs.find? g).map (·.lcCount) =
      if g = ueLcg then some (n ueLcg - 1) else (x.lc.lcgs.find? g).map (·.lcCount) := by
    intro g
    rw [hx₁]
    refine (map_lcCount_modify _ (n := fun _ => n ueLcg - 1) (fun _ => hwrap) ueLcg g).trans ?_
    by_cases hg : g = ueLcg
    · rw [if_pos hg, if_pos hg, hg, hlcg]
      rfl
    · rw [if_neg hg, if_neg hg]
  rw [hwrap] at h
  by_cases hlast : n ueLcg - 1 = 0
  · rw [if_pos hlast] at h
    obtain ⟨lcg', qosLcgs, x₂, -, -, -, hx₂, rfl⟩ := h
    have hgroups := hx₂.bearers.groups
    have hid : lcgid = ueLcg := hsame.resolve_right (by omega)
    refine ⟨⟨?_, ?_, ?_, fun _ => rfl⟩, fun g => ?_⟩
    · refine hgroups.configs.trans ?_
      rw [hx₁]
    · refine hgroups.size.trans ?_
      rw [hx₁]
    · intro l
      refine (hgroups.channels l).trans ?_
      rw [hx₁]
    · dsimp only
      rw [FlatMap.find?_erase, hid]
      by_cases hg : g = ueLcg
      · rw [if_pos hg, if_pos hg, if_pos (by rw [hg]; exact hlast)]
        rfl
      · rw [if_neg hg, if_neg hg, Nat.sub_zero]
        exact (hgroups.counts g).trans ((hcounts g).trans ((if_neg hg).trans (hn g)))
  · rw [if_neg hlast] at h
    rw [h]
    refine ⟨⟨?_, ?_, ?_, fun _ => rfl⟩, fun g => ?_⟩
    · rw [hx₁]
    · rw [hx₁]
    · intro l
      rw [hx₁]
    · rw [hcounts]
      by_cases hg : g = ueLcg
      · rw [if_pos hg, if_pos hg, if_neg (by rw [hg]; exact hlast), hg]
      · rw [if_neg hg, if_neg hg, Nat.sub_zero]
        exact hn g

lemma trackQos_sameGroups (chCfg : LogicalChannelConfig) :
    Yields (x.trackQos ue chCfg) (fun x' => SameGroups x.lc x'.lc) AnyAbort := by
  have hgroups : ∀ {x' : LcScope} (row row' : Option Nat),
      x'.lc.channelConfigs = x.lc.channelConfigs →
      x'.lc.channels = x.lc.channels.modify chCfg.lcid (fun c => { c with qosRow := row }) →
      x'.lc.lcgs = x.lc.lcgs.modify chCfg.lcGroup (fun c => { c with qosRow := row' }) → SameGroups x.lc x'.lc := by
    intro x' row row' hconfigs hchannels hlcgs
    refine ⟨hconfigs, ?_, fun l => ?_, fun g => ?_⟩
    · rw [hchannels, FlatMap.size_modify]
    · rw [hchannels, FlatMap.contains_modify]
    · rw [hlcgs]
      refine (map_lcCount_modify _ (f := fun c => { c with qosRow := row' }) (n := id) (fun _ => rfl) _ g).trans ?_
      rw [Option.map_id]
      exact ite_self _
  unfold LcScope.trackQos
  refine yields_bind (yields_true _) fun ch _ => yields_bind (yields_true _) fun lcg _ => yields_ite (fun _ => ?_) fun _ => ?_
  · split
    case h_1 => trivial
    case h_2 winSizeMsec _ =>
      refine yields_bind (yields_true _) fun _ _ => yields_bind (yields_true _) fun _ _ => ?_
      exact hgroups _ _ rfl rfl rfl
  · refine yields_bind (yields_true _) fun _ _ => yields_bind (yields_true _) fun _ _ => ?_
    exact hgroups _ _ rfl rfl rfl

lemma removeLc_counted (h : LcgsCounted a x.lc) {oldLc : LogicalChannelConfig}
    (hsafe : a.find? oldLc.lcid = some oldLc.lcGroup) :
    Yields (x.removeLc ue oldLc)
      (fun x' => LcgsCounted (a.erase oldLc.lcid) x'.lc ∧ x'.lc.channelConfigs = x.lc.channelConfigs) AnyAbort := by
  refine (removeLc_spec oldLc).post fun x' h' => ?_
  obtain ⟨ch, qosChannels, x₁, hch, -, h₁, hdown⟩ := h'
  have hg₁ := h₁.bearers.groups
  have hcounted₁ := h.sameGroups hg₁
  obtain ⟨hgroups, hcounts⟩ := lcgCountedDown_counts hdown hcounted₁.counts
    ((h.members_lt _).trans (by omega)) (Or.inl rfl)
  obtain ⟨ch₁, hch₁⟩ := FlatMap.contains_iff.mp ((hg₁.channels oldLc.lcid).trans (FlatMap.contains_iff.mpr ⟨ch, hch⟩))
  refine ⟨⟨?_, ?_, fun l => ?_, fun g => ?_⟩, hgroups.configs.trans hg₁.configs⟩
  · have hsize : x'.lc.channels.size = (x₁.lc.channels.erase oldLc.lcid).size := hgroups.size
    have hchannels := FlatMap.size_erase hch₁
    have hassigned := FlatMap.size_erase hsafe
    have heq := hcounted₁.size
    omega
  · have hassigned := FlatMap.size_erase hsafe
    have hfew := h.few
    omega
  · rw [hgroups.channels, FlatMap.contains_erase, FlatMap.contains_erase, hcounted₁.channels]
  · have hmembers := members_erase hsafe g
    have heq : members (a.erase oldLc.lcid) g = members a g - if g = oldLc.lcGroup then 1 else 0 := by
      by_cases hg : g = oldLc.lcGroup
      · rw [if_pos hg.symm] at hmembers
        rw [if_pos hg]
        omega
      · rw [if_neg (Ne.symm hg)] at hmembers
        rw [if_neg hg]
        omega
    rw [hcounts, heq]

lemma channelEnsured_counted (h : LcgsCounted a x.lc) {chCfg : LogicalChannelConfig}
    {channels : FlatMap DlLogicalChannelContext} (hch : ChannelEnsured x chCfg.lcid channels) :
    channels.size = (assign a chCfg).size ∧ (assign a chCfg).size ≤ MAX_NOF_RB_LCIDS ∧
      ∀ lcid, channels.contains lcid = (assign a chCfg).contains lcid := by
  rcases hch with ⟨hin, rfl⟩ | ⟨hnone, hsize, rfl⟩
  · have hassigned : assign a chCfg = a.modify chCfg.lcid fun _ => chCfg.lcGroup := if_pos ((h.channels _).symm.trans hin)
    rw [hassigned, FlatMap.size_modify]
    refine ⟨h.size, h.few, fun l => ?_⟩
    rw [FlatMap.contains_modify]
    exact h.channels l
  · have hfree : a.contains chCfg.lcid = false := by
      rw [← h.channels]
      exact FlatMap.contains_eq_false_iff.mpr hnone
    have hassigned : assign a chCfg = a.emplace chCfg.lcid chCfg.lcGroup := if_neg (by rw [hfree]; exact Bool.false_ne_true)
    have hnone' := FlatMap.contains_eq_false_iff.mp hfree
    have hcount := h.size
    rw [hassigned, FlatMap.size_emplace hnone, FlatMap.size_emplace hnone']
    refine ⟨by omega, by omega, fun l => ?_⟩
    rw [FlatMap.contains_emplace hnone, FlatMap.contains_emplace hnone', h.channels]

lemma attachLcg_counted (h : LcgsCounted a x.lc) {chCfg : LogicalChannelConfig}
    (hsafe : RoundSafe old cfgs a (.attach chCfg)) :
    Yields (x.attachLcg ue old chCfg)
      (fun x' => LcgsCounted (assign a chCfg) x'.lc ∧ x'.lc.channelConfigs = x.lc.channelConfigs) AnyAbort := by
  refine (attachLcg_spec old chCfg).post fun x' h' => ?_
  unfold RoundSafe at hsafe
  dsimp only at hsafe
  have hassigned : x.lc.channels.contains chCfg.lcid = true → ∃ g, a.find? chCfg.lcid = some g := fun hin =>
    FlatMap.contains_iff.mp ((h.channels _).symm.trans hin)
  have hunassigned : x.lc.channels.find? chCfg.lcid = none → a.find? chCfg.lcid = none := fun hnone =>
    FlatMap.contains_eq_false_iff.mp ((h.channels _).symm.trans (FlatMap.contains_eq_false_iff.mpr hnone))
  cases h' with
  | newLcg hchannels hlcg =>
    have hnomember : ¬0 < members a chCfg.lcGroup := by
      rw [← h.contains_iff, FlatMap.contains_eq_false_iff.mpr hlcg]
      exact Bool.false_ne_true
    have hnone : a.find? chCfg.lcid = none := by
      cases hfind : a.find? chCfg.lcid with
      | none => rfl
      | some g =>
        rw [hfind] at hsafe
        rcases hsafe.2 with hsame | ⟨hmember, -⟩
        · exact absurd (members_pos (hfind.trans (congrArg some hsame.symm))) hnomember
        · exact absurd hmember hnomember
    obtain ⟨hsize, hfew, hcontains⟩ := channelEnsured_counted h hchannels
    refine ⟨⟨hsize, hfew, hcontains, fun g => ?_⟩, rfl⟩
    dsimp only
    rw [FlatMap.find?_emplace hlcg, members_assign_new hnone]
    by_cases hg : g = chCfg.lcGroup
    · rw [if_pos hg, if_pos hg.symm, hg, Nat.eq_zero_of_not_pos hnomember]
      rfl
    · rw [if_neg hg, if_neg (Ne.symm hg), Nat.add_zero]
      exact h.counts g
  | newLc hchannels hlc hlcg =>
    obtain ⟨hsize, hfew, hcontains⟩ := channelEnsured_counted h hchannels
    refine ⟨⟨hsize, hfew, hcontains, fun g => ?_⟩, rfl⟩
    dsimp only
    rw [members_assign_new (hunassigned hlc)]
    refine (map_lcCount_modify _ (n := fun n => wrap8 (n + 1)) (fun _ => rfl) chCfg.lcGroup g).trans ?_
    by_cases hg : g = chCfg.lcGroup
    · have hpos := (h.contains_iff chCfg.lcGroup).mp hlcg
      have hle := h.members_lt chCfg.lcGroup
      have hwrap : wrap8 (members a chCfg.lcGroup + 1) = members a chCfg.lcGroup + 1 := by
        unfold wrap8
        omega
      rw [if_pos hg, if_pos hg.symm, hg, h.counts, if_neg (by omega), if_neg (by omega), Option.map_some, hwrap]
    · rw [if_neg hg, if_neg (Ne.symm hg), Nat.add_zero]
      exact h.counts g
  | stays hlc hlcg hgroup =>
    obtain ⟨g, hg⟩ := hassigned hlc
    rw [hg] at hsafe
    rw [assign_same (hg.trans (congrArg some (hsafe.1.trans hgroup)))]
    exact ⟨h, rfl⟩
  | moves hlc hlcg hgroup hdown =>
    obtain ⟨g, hg⟩ := hassigned hlc
    rw [hg] at hsafe
    obtain ⟨rfl, hmove⟩ := hsafe
    obtain ⟨hmember, hleft⟩ := hmove.resolve_left (Ne.symm hgroup)
    have hjoined : ∀ g', ((x.lc.lcgs.modify chCfg.lcGroup
        fun c => { c with lcCount := wrap8 (c.lcCount + 1) }).find? g').map (·.lcCount) =
        if members a g' + (if g' = chCfg.lcGroup then 1 else 0) = 0 then none
        else some (members a g' + if g' = chCfg.lcGroup then 1 else 0) := by
      intro g'
      refine (map_lcCount_modify _ (n := fun n => wrap8 (n + 1)) (fun _ => rfl) chCfg.lcGroup g').trans ?_
      by_cases hg' : g' = chCfg.lcGroup
      · have hle := h.members_lt chCfg.lcGroup
        have hwrap : wrap8 (members a chCfg.lcGroup + 1) = members a chCfg.lcGroup + 1 := by
          unfold wrap8
          omega
        rw [if_pos hg', if_pos hg', hg', h.counts, if_neg (by omega), if_neg (by omega), Option.map_some, hwrap]
      · rw [if_neg hg', if_neg hg', Nat.add_zero]
        exact h.counts g'
    have hle := h.members_lt (oldGroup old chCfg)
    obtain ⟨hgroups, hcounts⟩ := lcgCountedDown_counts hdown hjoined (by rw [if_neg hgroup]; omega)
      (Or.inr (by rw [if_neg hgroup]; omega))
    obtain ⟨hsize, hfew, hcontains⟩ := channelEnsured_counted h (Or.inl ⟨hlc, rfl⟩)
    refine ⟨⟨hgroups.size.trans hsize, hfew, fun l => (hgroups.channels l).trans (hcontains l), fun g' => ?_⟩,
      hgroups.configs⟩
    have hmembers := members_assign_old hg g'
    have heq : members (assign a chCfg) g' =
        members a g' + (if g' = chCfg.lcGroup then 1 else 0) - if g' = oldGroup old chCfg then 1 else 0 := by
      split_ifs at hmembers ⊢ <;> omega
    rw [hcounts, heq]

lemma run_counted (ue : UeView) (h : LcgsCounted a x.lc) {r : LcRound} (hsafe : RoundSafe old cfgs a r) :
    Yields (r.run ue old x)
      (fun x' => LcgsCounted (r.reassign a) x'.lc ∧ x'.lc.channelConfigs = x.lc.channelConfigs) AnyAbort := by
  cases r with
  | remove oldLc => exact removeLc_counted h hsafe.1
  | attach chCfg => exact attachLcg_counted h hsafe
  | settle chCfg =>
    refine yields_bind (activate_sameQos chCfg) fun x₁ h₁ => (trackQos_sameGroups chCfg).post fun x₂ h₂ => ?_
    have hgroups := h₁.bearers.groups.trans h₂
    exact ⟨h.sameGroups hgroups, hgroups.configs⟩

def KeepsLcgsInUse (ue : UeView) (old : Option LogicalChannelConfigList) (cfgs : LogicalChannelConfigList) (x : LcScope)
    (r : LcRound) : Prop :=
  ∀ x', r.run ue old x = .ok x' → ∀ c ∈ cfgs.lcList, x.lc.lcgs.contains c.lcGroup = true →
    x'.lc.lcgs.contains c.lcGroup = true

lemma rounds_counted (ue : UeView) (h : LcgsCounted a x.lc) {rs : List LcRound}
    (hsafe : RunsWithin (fun a r => (.ok (LcRound.reassign a r) : Except LcAbort _)) (RoundSafe old cfgs) a rs) :
    Yields (runEvents (LcRound.run ue old) x rs)
        (fun x' => LcgsCounted (rs.foldl LcRound.reassign a) x'.lc ∧ x'.lc.channelConfigs = x.lc.channelConfigs)
        AnyAbort ∧
      RunsWithin (LcRound.run ue old) (KeepsLcgsInUse ue old cfgs) x rs := by
  induction rs generalizing a x with
  | nil => exact ⟨⟨h, rfl⟩, trivial⟩
  | cons r rs ih =>
    have hround := run_counted ue h hsafe.1
    refine ⟨yields_bind hround fun x₁ h₁ => ?_, fun x₁ hx₁ c hc hin => ?_, fun x₁ hx₁ => ?_⟩
    · exact (ih h₁.1 (hsafe.2 _ rfl)).1.post fun x' h' => ⟨h'.1, h'.2.trans h₁.2⟩
    · rw [(hround.of_ok hx₁).1.contains_iff]
      exact hsafe.1.members_pos ⟨c, hc, rfl⟩ ((h.contains_iff _).mp hin)
    · exact (ih (hround.of_ok hx₁).1 (hsafe.2 _ rfl)).2

lemma foldlM_removeLc (cs : List LogicalChannelConfig) (x : LcScope) :
    cs.foldlM (fun x oldLc => if cfgs.contains oldLc.lcid then .ok x else LcScope.removeLc ue oldLc x) x =
      runEvents (LcRound.run ue old) x ((cs.filter fun c => !cfgs.contains c.lcid).map .remove) := by
  induction cs generalizing x with
  | nil => rfl
  | cons c cs ih =>
    rw [List.foldlM_cons]
    by_cases hc : cfgs.contains c.lcid = true
    · rw [if_pos hc, List.filter_cons_of_neg (by simp [hc])]
      exact ih x
    · rw [if_neg hc, List.filter_cons_of_pos (by simpa using hc), List.map_cons, runEvents_cons]
      exact congrArg _ (funext ih)

lemma foldlM_applyLc (cs : List LogicalChannelConfig) (x : LcScope) :
    cs.foldlM (LcScope.applyLc ue old) x =
      runEvents (LcRound.run ue old) x (cs.flatMap fun c => [.attach c, .settle c]) := by
  induction cs generalizing x with
  | nil => rfl
  | cons c cs ih =>
    rw [List.foldlM_cons, List.flatMap_cons, runEvents_append]
    have hround : runEvents (LcRound.run ue old) x [.attach c, .settle c] = LcScope.applyLc ue old x c := by
      unfold runEvents LcScope.applyLc
      simp only [List.foldlM_cons, List.foldlM_nil, bind_pure]
      rfl
    rw [hround]
    exact congrArg _ (funext ih)

lemma configure_eq_rounds (cfgs : LogicalChannelConfigList) :
    x.configure ue cfgs =
      (runEvents (LcRound.run ue x.lc.channelConfigs) { x with lc.channelConfigs := some cfgs }
        (lcRounds x.lc.channelConfigs cfgs) >>= fun x =>
        if MAX_NOF_RB_LCIDS < cfgs.lcList.length then .error .capacityExceeded
        else .ok { x with lc.sortedChannels := LcScope.sortByPrio cfgs }) := by
  have hremove : LcScope.removeOldLcs ue x.lc.channelConfigs cfgs { x with lc.channelConfigs := some cfgs } =
      runEvents (LcRound.run ue x.lc.channelConfigs) { x with lc.channelConfigs := some cfgs }
        (removeRounds cfgs x.lc.channelConfigs) := by
    unfold LcScope.removeOldLcs removeRounds
    cases x.lc.channelConfigs with
    | none => rfl
    | some old => exact foldlM_removeLc old.lcList _
  unfold LcScope.configure lcRounds applyRounds
  rw [runEvents_append]
  simp only [hremove, foldlM_applyLc]
  exact (bind_assoc _ _ _).symm

def LcgsRight (lc : UeLcState) : Prop :=
  LcgsCounted (assignmentOf lc.channelConfigs) lc ∧
    ∀ cfgs, lc.channelConfigs = some cfgs → ∀ c ∈ cfgs.lcList, 0 < members (assignmentOf (some cfgs)) c.lcGroup

lemma init_lcgsRight : LcgsRight .init :=
  ⟨⟨rfl, Nat.zero_le _, fun _ => rfl, fun _ => rfl⟩, fun _ h => nomatch h⟩

lemma LcgsRight.sameGroups (h : LcgsRight lc) (hs : SameGroups lc lc') : LcgsRight lc' := by
  unfold LcgsRight
  rw [hs.configs]
  exact ⟨h.1.sameGroups hs, h.2⟩

lemma configure_lcgsRight (ue : UeView) (h : LcgsRight x.lc) (hsafe : ReconfiguresSafely x.lc.channelConfigs cfgs) :
    Yields (x.configure ue cfgs) (fun x' => LcgsRight x'.lc) AnyAbort ∧
      RunsWithin (LcRound.run ue x.lc.channelConfigs) (KeepsLcgsInUse ue x.lc.channelConfigs cfgs)
        { x with lc.channelConfigs := some cfgs } (lcRounds x.lc.channelConfigs cfgs) := by
  have hstart : LcgsCounted (assignmentOf x.lc.channelConfigs)
      ({ x with lc.channelConfigs := some cfgs } : LcScope).lc := ⟨h.1.size, h.1.few, h.1.channels, h.1.counts⟩
  obtain ⟨hrounds, hkeeps⟩ := rounds_counted ue hstart hsafe
  refine ⟨?_, hkeeps⟩
  rw [configure_eq_rounds]
  refine yields_bind hrounds fun x' hx' => yields_ite (fun _ => trivial) fun _ => ?_
  rw [foldl_lcRounds] at hx'
  unfold LcgsRight
  dsimp only at hx' ⊢
  rw [hx'.2]
  refine ⟨⟨hx'.1.size, hx'.1.few, hx'.1.channels, hx'.1.counts⟩, fun cfgs' hcfgs' c hc => ?_⟩
  obtain rfl := Option.some.inj hcfgs'
  have hmem : LcRound.attach c ∈ lcRounds x.lc.channelConfigs cfgs := by
    unfold lcRounds applyRounds
    exact List.mem_append_right _ (List.mem_flatMap.mpr ⟨c, hc, List.mem_cons_self⟩)
  have hpos := members_pos_of_attach hsafe hc hmem
  rwa [foldl_lcRounds] at hpos

end Rounds

namespace LogicalChannelSystem

variable {st st' : LogicalChannelSystem}

def LcgsMatch (st : LogicalChannelSystem) : Prop :=
  ∀ rid u, st.ues.row? rid = some u →
    match u.lc.channelConfigs with
    | none => ∀ lcgid, u.lc.lcgs.contains lcgid = false
    | some cfgs =>
      (∀ lcgid, u.lc.lcgs.contains lcgid = true ↔ ∃ c ∈ cfgs.lcList, c.lcGroup = lcgid) ∧
      ∀ lcgid lcg, u.lc.lcgs.find? lcgid = some lcg → lcg.lcCount = nofLcids cfgs lcgid

def KeepsLcgs (st : LogicalChannelSystem) : LcEvent → Prop
  | .configure rid cfgs =>
    ∀ u, st.ues.row? rid = some u →
      RunsWithin (LcRound.run u.view u.lc.channelConfigs) (KeepsLcgsInUse u.view u.lc.channelConfigs cfgs)
        { st.scope u with lc.channelConfigs := some cfgs } (lcRounds u.lc.channelConfigs cfgs)
  | .createUe ueIndex scsCommon startsInFallback (some cfgs) =>
    ∀ x : LcScope, x.lc = .init →
      RunsWithin (LcRound.run (UeRow.create ueIndex scsCommon startsInFallback).view none)
        (KeepsLcgsInUse (UeRow.create ueIndex scsCommon startsInFallback).view none cfgs)
        { x with lc.channelConfigs := some cfgs } (lcRounds none cfgs)
  | _ => True

/-- The configuration that the call sets can be reached in safe rounds from the one that is in force. -/
def ConfiguresSafely (st : LogicalChannelSystem) : LcEvent → Prop
  | .configure rid cfgs =>
    match st.ues.row? rid with
    | none => True
    | some u => ReconfiguresSafely u.lc.channelConfigs cfgs
  | .createUe _ _ _ (some cfgs) => ReconfiguresSafely none cfgs
  | _ => True

instance (st : LogicalChannelSystem) : ∀ e, Decidable (ConfiguresSafely st e)
  | .configure rid cfgs => by
    dsimp only [ConfiguresSafely]
    exact Option.casesOn (st.ues.row? rid) (isTrue trivial) fun _ => inferInstance
  | .createUe _ _ _ (some cfgs) => by unfold ConfiguresSafely; infer_instance
  | .createUe _ _ _ none | .slotIndication | .removeUe _ | .deactivate _ | .setFallbackState ..
  | .setLcidRanSlice .. | .setLcgRanSlice .. | .resetLcidRanSlice .. | .resetLcgRanSlice ..
  | .handleDlBufferStatusIndication .. | .handleMacCeIndication .. | .handleBsrIndication .. | .handleSrIndication _
  | .resetSrIndication _ | .allocateMacSdu .. | .allocateMacCe .. | .allocateUeConResIdMacCe .. | .handleUlGrant .. =>
    isTrue trivial

def LcgsConsistent (st : LogicalChannelSystem) : Prop := ∀ rid u, st.ues.row? rid = some u → LcgsRight u.lc

lemma init_lcgsConsistent : LcgsConsistent init := fun _ _ hu => by simp [init] at hu

lemma LcgsConsistent.keepsBearers (h : LcgsConsistent st) (hs : KeepsBearers st st') : LcgsConsistent st' := by
  intro rid u' hu'
  obtain ⟨u, hu, hsame⟩ := hs rid u' hu'
  exact (h rid u hu).sameGroups hsame.groups

lemma configure_lcgsConsistent (h : LcgsConsistent st) {rid : Nat} {cfgs : LogicalChannelConfigList}
    (hsafe : ∀ u, st.ues.row? rid = some u → ReconfiguresSafely u.lc.channelConfigs cfgs) :
    Yields (st.configure rid cfgs) LcgsConsistent AnyAbort := by
  unfold configure updateLcs
  refine yields_bind ((yields_rowAt _ _).mono (fun _ h => h) fun _ _ => trivial) fun u hu => ?_
  have hright : LcgsRight (st.scope u).lc := h rid u hu
  refine yields_bind (configure_lcgsRight _ hright (hsafe u hu)).1 fun x hx r u' hu' => ?_
  rw [row?_withScope] at hu'
  split at hu'
  case isTrue hr =>
    rw [hr, hu] at hu'
    obtain rfl := Option.some.inj hu'
    exact hx
  case isFalse => exact h r u' hu'

lemma createUe_lcgsConsistent (h : LcgsConsistent st) {ueIndex scsCommon : Nat} {startsInFallback : Bool}
    {cfgs : Option LogicalChannelConfigList} (hsafe : ∀ c, cfgs = some c → ReconfiguresSafely none c) :
    Yields (st.createUe ueIndex scsCommon startsInFallback cfgs) LcgsConsistent AnyAbort := by
  unfold createUe
  refine yields_ite (fun _ => trivial) fun _ => ?_
  refine yields_bind ((growUes_spec ueIndex).mono (fun _ h => h) fun _ _ => trivial) fun st₁ h₁ => ?_
  refine yields_bind (yields_true _) fun configuredUes _ => ?_
  have hrows : ∀ r, st₁.ues.row? r = if r = st.ues.nextRowId then some (.create ueIndex scsCommon startsInFallback)
      else st.ues.row? r := by
    intro r
    rw [h₁.ues]
    exact SoaTable.row?_insert _ r
  have hadd : LcgsConsistent { st₁ with configuredUes := configuredUes } := by
    intro r u hu
    rw [show ({ st₁ with configuredUes := configuredUes } : LogicalChannelSystem).ues = st₁.ues from rfl, hrows] at hu
    split at hu
    case isTrue =>
      obtain rfl := Option.some.inj hu
      exact init_lcgsRight
    case isFalse => exact h r u hu
  cases cfgs with
  | none => exact hadd
  | some c =>
    refine configure_lcgsConsistent hadd fun u hu => ?_
    obtain rfl := Option.some.inj (((hrows _).trans (if_pos rfl)).symm.trans hu)
    exact hsafe c rfl

lemma step_lcgsConsistent (h : LcgsConsistent st) {e : LcEvent} (hsafe : ConfiguresSafely st e) :
    Yields (st.step e) LcgsConsistent AnyAbort ∧ KeepsLcgs st e := by
  cases e with
  | configure rid cfgs =>
    have hsafe' : ∀ u, st.ues.row? rid = some u → ReconfiguresSafely u.lc.channelConfigs cfgs := by
      intro u hu
      unfold ConfiguresSafely at hsafe
      dsimp only at hsafe
      rwa [hu] at hsafe
    refine ⟨configure_lcgsConsistent h hsafe', fun u hu => ?_⟩
    have hright : LcgsRight (st.scope u).lc := h rid u hu
    exact (configure_lcgsRight _ hright (hsafe' u hu)).2
  | createUe ueIndex scsCommon startsInFallback cfgs =>
    have hcreate : (∀ c, cfgs = some c → ReconfiguresSafely none c) →
        Yields (st.createUe ueIndex scsCommon startsInFallback cfgs) LcgsConsistent AnyAbort :=
      createUe_lcgsConsistent h
    cases cfgs with
    | none => exact ⟨hcreate nofun, trivial⟩
    | some cfgs =>
      refine ⟨hcreate fun c hc => Option.some.inj hc ▸ hsafe, fun x hx => ?_⟩
      have hconfigs : x.lc.channelConfigs = none := by rw [hx]; rfl
      have hright : LcgsRight x.lc := by rw [hx]; exact init_lcgsRight
      have hsafe' : ReconfiguresSafely x.lc.channelConfigs cfgs := by rw [hconfigs]; exact hsafe
      have hrounds := (configure_lcgsRight (UeRow.create ueIndex scsCommon startsInFallback).view hright hsafe').2
      rwa [hconfigs] at hrounds
  | _ => exact ⟨(step_keepsBearers rfl).post fun _ hs => h.keepsBearers hs, trivial⟩

lemma LcgsConsistent.lcgsMatch (h : LcgsConsistent st) : LcgsMatch st := by
  intro rid u hu
  obtain ⟨hcounted, hused⟩ := h rid u hu
  split
  case h_1 hnone =>
    rw [hnone] at hcounted
    intro g
    by_contra hin
    exact absurd ((hcounted.contains_iff g).mp (by simpa using hin)) (Nat.lt_irrefl 0)
  case h_2 cfgs hcfgs =>
    rw [hcfgs] at hcounted
    refine ⟨fun g => ?_, fun g lcg hlcg => ?_⟩
    · rw [hcounted.contains_iff]
      constructor
      · intro hpos
        obtain ⟨l, hl⟩ := exists_of_members_pos hpos
        rw [find?_assignmentOf] at hl
        obtain ⟨c, hc, hg⟩ := Option.map_eq_some_iff.mp hl
        exact ⟨c, (LogicalChannelConfigList.lookup?_lcid hc).1, hg⟩
      · rintro ⟨c, hc, rfl⟩
        exact hused cfgs hcfgs c hc
    · rw [(hcounted.lcCount hlcg).1, members_assignmentOf]

/-- In a run whose configurations are all reached in safe rounds, the LCGs always match the configuration, and no call
erases an LCG that is in use. -/
theorem lcgs_match_configuration (es : List LcEvent) (hes : RunsWithin step ConfiguresSafely init es) :
    HoldsThroughout step LcgsMatch init es ∧ RunsWithin step KeepsLcgs init es :=
  runsWithin_establishes LcgsConsistent (fun _ h => h.lcgsMatch)
    (fun _ _ _ h hsafe hs => (step_lcgsConsistent h hsafe).1.of_ok hs) (fun _ _ h hsafe => (step_lcgsConsistent h hsafe).2)
    init_lcgsConsistent hes

/-- LCID 4 moves to LCG 2, which has a member, and LCID 6 makes room for LCID 7 with an LCG of its own. -/
def reconfigurationRun : List LcEvent :=
  [.createUe 0 1 false (some ⟨[⟨1, 0, none⟩, ⟨4, 1, none⟩, ⟨5, 1, none⟩, ⟨6, 2, none⟩], by simp⟩),
    .configure 0 ⟨[⟨1, 0, none⟩, ⟨4, 2, none⟩, ⟨5, 1, none⟩, ⟨6, 2, none⟩], by simp⟩,
    .configure 0 ⟨[⟨1, 0, none⟩, ⟨4, 2, none⟩, ⟨5, 1, none⟩, ⟨7, 3, none⟩], by simp⟩]

theorem lcgs_match_configuration_reconfigured :
    (run reconfigurationRun).toOption.isSome = true ∧
      HoldsThroughout step LcgsMatch init reconfigurationRun ∧ RunsWithin step KeepsLcgs init reconfigurationRun :=
  ⟨by decide, lcgs_match_configuration reconfigurationRun (by decide)⟩

/-- An LCID that moves to a new LCG stays in the count of the old one; and the last LCID that leaves an LCG for one
that exists has the wrong one of the two erased, which the next lookup notices. -/
theorem lcgs_mismatch_after_move :
    (∃ st, run [.createUe 0 1 false (some ⟨[⟨4, 1, none⟩], by simp⟩), .configure 0 ⟨[⟨4, 2, none⟩], by simp⟩] = .ok st ∧
      ¬LcgsMatch st) ∧
    (match run [.createUe 0 1 false (some ⟨[⟨4, 1, none⟩, ⟨5, 2, none⟩], by simp⟩),
        .configure 0 ⟨[⟨4, 2, none⟩, ⟨5, 2, none⟩], by simp⟩] with
      | .error a => some a
      | .ok _ => none) = some .keyNotFound := by
  refine ⟨⟨_, rfl, fun h => ?_⟩, by decide⟩
  obtain ⟨hgroups, -⟩ := h 0 _ rfl
  obtain ⟨c, hc, hg⟩ := (hgroups 1).mp (by decide)
  have hfour : c = ⟨4, 2, none⟩ := List.mem_singleton.mp hc
  rw [hfour] at hg
  cases hg

end LogicalChannelSystem

end OwlsRan.Sched
