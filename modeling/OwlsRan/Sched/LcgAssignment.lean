import OwlsRan.Sched.LogicalChannelSystem
import Mathlib.Data.List.Dedup

/-!
# Which LCG each LCID belongs to

A configuration assigns LCIDs to LCGs, and `configure` works through the difference between two configurations in
rounds.
-/

namespace OwlsRan.Sched
open OwlsRan.Lib OwlsRan.Adt OwlsRan.Ran

def assign (a : FlatMap Nat) (c : LogicalChannelConfig) : FlatMap Nat :=
  if a.contains c.lcid then a.modify c.lcid fun _ => c.lcGroup else a.emplace c.lcid c.lcGroup

def assignmentOf : Option LogicalChannelConfigList → FlatMap Nat
  | none => .empty
  | some cfgs => cfgs.lcList.foldl assign .empty

def members (a : FlatMap Nat) (lcgid : Nat) : Nat := a.weight fun _ g => if g = lcgid then 1 else 0

/-- A round of `configure`: one of the loop over the old configuration, or one half of one of the loop over the
new configuration. The first half creates, counts and removes LCGs, the second takes the channel into use. -/
inductive LcRound where
  | remove (oldLc : LogicalChannelConfig)
  | attach (chCfg : LogicalChannelConfig)
  | settle (chCfg : LogicalChannelConfig)
deriving DecidableEq

def removeRounds (cfgs : LogicalChannelConfigList) : Option LogicalChannelConfigList → List LcRound
  | none => []
  | some old => (old.lcList.filter fun c => !cfgs.contains c.lcid).map .remove

def applyRounds (cfgs : LogicalChannelConfigList) : List LcRound :=
  cfgs.lcList.flatMap fun c => [.attach c, .settle c]

def lcRounds (old : Option LogicalChannelConfigList) (cfgs : LogicalChannelConfigList) : List LcRound :=
  removeRounds cfgs old ++ applyRounds cfgs

namespace LcRound

def run (ue : UeView) (old : Option LogicalChannelConfigList) (x : LcScope) : LcRound → Except LcAbort LcScope
  | .remove oldLc => x.removeLc ue oldLc
  | .attach chCfg => x.attachLcg ue old chCfg
  | .settle chCfg => do
    let x ← x.activate ue chCfg
    x.trackQos ue chCfg

def reassign (a : FlatMap Nat) : LcRound → FlatMap Nat
  | .remove oldLc => a.erase oldLc.lcid
  | .attach chCfg => assign a chCfg
  | .settle _ => a

end LcRound

def oldGroup (old : Option LogicalChannelConfigList) (c : LogicalChannelConfig) : Nat :=
  match old.bind fun old => old.lookup? c.lcid with
  | some oldLc => oldLc.lcGroup
  | none => c.lcGroup

/-- The rounds that the code gets right: an LCID is only removed last from its LCG if the new configuration has no use
for that LCG, and it only moves to an LCG that has a member already, from one that keeps a member. -/
def RoundSafe (old : Option LogicalChannelConfigList) (cfgs : LogicalChannelConfigList) (a : FlatMap Nat) :
    LcRound → Prop
  | .remove oldLc => a.find? oldLc.lcid = some oldLc.lcGroup ∧
      (1 < members a oldLc.lcGroup ∨ ∀ c ∈ cfgs.lcList, c.lcGroup ≠ oldLc.lcGroup)
  | .attach chCfg =>
    match a.find? chCfg.lcid with
    | none => True
    | some g => g = oldGroup old chCfg ∧
        (chCfg.lcGroup = g ∨ (0 < members a chCfg.lcGroup ∧ 1 < members a g))
  | .settle _ => True

def ReconfiguresSafely (old : Option LogicalChannelConfigList) (cfgs : LogicalChannelConfigList) : Prop :=
  RunsWithin (fun a r => (.ok (LcRound.reassign a r) : Except LcAbort _)) (RoundSafe old cfgs)
    (assignmentOf old) (lcRounds old cfgs)

instance (old : Option LogicalChannelConfigList) (cfgs : LogicalChannelConfigList) (a : FlatMap Nat) :
    ∀ r, Decidable (RoundSafe old cfgs a r)
  | .remove oldLc => by unfold RoundSafe; infer_instance
  | .attach chCfg => by
    unfold RoundSafe
    dsimp only
    cases a.find? chCfg.lcid <;> infer_instance
  | .settle _ => isTrue trivial

instance (old : Option LogicalChannelConfigList) (cfgs : LogicalChannelConfigList) :
    Decidable (ReconfiguresSafely old cfgs) := by
  unfold ReconfiguresSafely
  infer_instance

section Assignment

variable {a : FlatMap Nat} {c : LogicalChannelConfig} {lcid lcgid g : Nat}

lemma find?_assign (a : FlatMap Nat) (c : LogicalChannelConfig) (lcid : Nat) :
    (assign a c).find? lcid = if lcid = c.lcid then some c.lcGroup else a.find? lcid := by
  unfold assign
  by_cases hc : a.contains c.lcid = true
  · rw [if_pos hc, FlatMap.find?_modify]
    obtain ⟨g, hg⟩ := FlatMap.contains_iff.mp hc
    split
    case isTrue heq => rw [heq, hg, Option.map_some]
    case isFalse => rfl
  · rw [if_neg hc]
    exact FlatMap.find?_emplace (FlatMap.contains_eq_false_iff.mp (by simpa using hc)) _ _

lemma find?_foldl_assign (cs : List LogicalChannelConfig) (a : FlatMap Nat) (lcid : Nat) :
    (cs.foldl assign a).find? lcid =
      match cs.reverse.find? fun c => c.lcid = lcid with
      | some c => some c.lcGroup
      | none => a.find? lcid := by
  induction cs generalizing a with
  | nil => rfl
  | cons c cs ih =>
    rw [List.foldl_cons, ih, List.reverse_cons, List.find?_append]
    cases cs.reverse.find? fun c => c.lcid = lcid with
    | some c' => rfl
    | none =>
      rw [find?_assign]
      by_cases hc : lcid = c.lcid
      · simp [hc]
      · simp [hc, Ne.symm hc]

lemma find?_assignmentOf (cfgs : LogicalChannelConfigList) (lcid : Nat) :
    (assignmentOf (some cfgs)).find? lcid = (cfgs.lookup? lcid).map LogicalChannelConfig.lcGroup := by
  refine (find?_foldl_assign cfgs.lcList .empty lcid).trans ?_
  unfold LogicalChannelConfigList.lookup?
  cases cfgs.lcList.reverse.find? fun c => c.lcid = lcid <;> rfl

lemma members_pos (h : a.find? lcid = some lcgid) : 0 < members a lcgid := by
  have := FlatMap.le_weight (f := fun _ g => if g = lcgid then 1 else 0) h
  rw [if_pos rfl] at this
  exact this

lemma exists_of_members_pos (h : 0 < members a lcgid) : ∃ lcid, a.find? lcid = some lcgid := by
  by_contra hnone
  rw [not_exists] at hnone
  have hzero : members a lcgid = 0 := FlatMap.weight_eq_zero fun l g hg => by
    rw [if_neg]
    rintro rfl
    exact hnone l hg
  omega

lemma members_le_size (a : FlatMap Nat) (lcgid : Nat) : members a lcgid ≤ a.size := by
  have := FlatMap.weight_le (m := a) (c := 1) (f := fun _ g => if g = lcgid then 1 else 0) fun k v _ => by split <;> omega
  unfold members
  omega

lemma members_assign_new (h : a.find? c.lcid = none) (lcgid : Nat) :
    members (assign a c) lcgid = members a lcgid + if c.lcGroup = lcgid then 1 else 0 := by
  unfold assign
  rw [if_neg (by rw [FlatMap.contains_eq_false_iff.mpr h]; exact Bool.false_ne_true)]
  exact FlatMap.weight_emplace h

lemma members_assign_old (h : a.find? c.lcid = some g) (lcgid : Nat) :
    members (assign a c) lcgid + (if g = lcgid then 1 else 0) =
      members a lcgid + if c.lcGroup = lcgid then 1 else 0 := by
  unfold assign
  rw [if_pos (FlatMap.contains_iff.mpr ⟨g, h⟩)]
  exact FlatMap.weight_modify h _

lemma assign_same (h : a.find? c.lcid = some c.lcGroup) : assign a c = a := by
  refine FlatMap.eq_of_find? fun l => ?_
  rw [find?_assign]
  split
  case isTrue hl => rw [hl, h]
  case isFalse => rfl

lemma members_erase (h : a.find? lcid = some g) (lcgid : Nat) :
    members (a.erase lcid) lcgid + (if g = lcgid then 1 else 0) = members a lcgid :=
  FlatMap.weight_erase h

end Assignment

section Rounds

variable {old : Option LogicalChannelConfigList} {cfgs : LogicalChannelConfigList} {a : FlatMap Nat}

lemma RoundSafe.members_pos {r : LcRound} (h : RoundSafe old cfgs a r) {lcgid : Nat}
    (hused : ∃ c ∈ cfgs.lcList, c.lcGroup = lcgid) (hpos : 0 < members a lcgid) :
    0 < members (r.reassign a) lcgid := by
  cases r with
  | settle chCfg => exact hpos
  | remove oldLc =>
    obtain ⟨hfind, hlast⟩ := h
    have hmembers := members_erase hfind lcgid
    change 0 < members (a.erase oldLc.lcid) lcgid
    by_cases hg : oldLc.lcGroup = lcgid
    · rcases hlast with hlast | hunused
      · rw [if_pos hg] at hmembers
        rw [hg] at hlast
        omega
      · obtain ⟨c, hc, hcg⟩ := hused
        exact absurd (hcg.trans hg.symm) (hunused c hc)
    · rw [if_neg hg] at hmembers
      omega
  | attach chCfg =>
    change 0 < members (assign a chCfg) lcgid
    unfold RoundSafe at h
    dsimp only at h
    cases hfind : a.find? chCfg.lcid with
    | none =>
      rw [members_assign_new hfind]
      omega
    | some g =>
      rw [hfind] at h
      have hmembers := members_assign_old hfind lcgid
      by_cases hg : g = lcgid
      · rcases h.2 with hsame | ⟨-, hleft⟩
        · rw [hsame] at hmembers
          omega
        · rw [if_pos hg] at hmembers
          rw [hg] at hleft
          omega
      · rw [if_neg hg] at hmembers
        omega

lemma members_pos_foldl {rs : List LcRound}
    (h : RunsWithin (fun a r => (.ok (LcRound.reassign a r) : Except LcAbort _)) (RoundSafe old cfgs) a rs)
    {lcgid : Nat} (hused : ∃ c ∈ cfgs.lcList, c.lcGroup = lcgid) (hpos : 0 < members a lcgid) :
    0 < members (rs.foldl LcRound.reassign a) lcgid := by
  induction rs generalizing a with
  | nil => exact hpos
  | cons r rs ih => exact ih (h.2 _ rfl) (h.1.members_pos hused hpos)

lemma members_pos_of_attach {rs : List LcRound}
    (h : RunsWithin (fun a r => (.ok (LcRound.reassign a r) : Except LcAbort _)) (RoundSafe old cfgs) a rs)
    {c : LogicalChannelConfig} (hc : c ∈ cfgs.lcList) (hmem : LcRound.attach c ∈ rs) :
    0 < members (rs.foldl LcRound.reassign a) c.lcGroup := by
  induction rs generalizing a with
  | nil => exact absurd hmem List.not_mem_nil
  | cons r rs ih =>
    rw [List.foldl_cons]
    rcases List.mem_cons.mp hmem with rfl | hmem
    · refine members_pos_foldl (h.2 _ rfl) ⟨c, hc, rfl⟩ ?_
      exact OwlsRan.Sched.members_pos ((find?_assign a c c.lcid).trans (if_pos rfl))
    · exact ih (h.2 _ rfl) hmem

lemma foldl_applyRounds (a : FlatMap Nat) : (applyRounds cfgs).foldl LcRound.reassign a = cfgs.lcList.foldl assign a := by
  unfold applyRounds
  generalize cfgs.lcList = cs
  induction cs generalizing a with
  | nil => rfl
  | cons c cs ih => exact ih _

lemma find?_foldl_remove (cs : List LogicalChannelConfig) (a : FlatMap Nat) (lcid : Nat) :
    ((cs.map LcRound.remove).foldl LcRound.reassign a).find? lcid =
      if lcid ∈ cs.map LogicalChannelConfig.lcid then none else a.find? lcid := by
  induction cs generalizing a with
  | nil => simp
  | cons c cs ih =>
    refine (ih _).trans ?_
    change (if _ then none else (a.erase c.lcid).find? lcid) = _
    rw [FlatMap.find?_erase, List.map_cons]
    by_cases hc : lcid = c.lcid
    · simp [hc]
    · simp [hc]

lemma foldl_lcRounds (old : Option LogicalChannelConfigList) (cfgs : LogicalChannelConfigList) :
    (lcRounds old cfgs).foldl LcRound.reassign (assignmentOf old) = assignmentOf (some cfgs) := by
  unfold lcRounds
  rw [List.foldl_append, foldl_applyRounds]
  refine FlatMap.eq_of_find? fun lcid => ?_
  refine Eq.trans ?_ (find?_foldl_assign cfgs.lcList .empty lcid).symm
  rw [find?_foldl_assign]
  -- an LCID that is not listed has been removed
  cases hlisted : cfgs.lcList.reverse.find? fun c => c.lcid = lcid with
  | some c => rfl
  | none =>
    have hno : cfgs.contains lcid = false := by
      unfold LogicalChannelConfigList.contains LogicalChannelConfigList.lookup?
      rw [hlisted]
      rfl
    cases old with
    | none => rfl
    | some old =>
      change ((((old.lcList.filter fun c => !cfgs.contains c.lcid).map LcRound.remove).foldl LcRound.reassign _).find? lcid) = none
      rw [find?_foldl_remove]
      split
      case isTrue => rfl
      case isFalse hmem =>
        rw [find?_assignmentOf]
        cases hold : old.lookup? lcid with
        | none => rfl
        | some c =>
          obtain ⟨hc, hlcid⟩ := LogicalChannelConfigList.lookup?_lcid hold
          refine absurd ?_ hmem
          refine List.mem_map.mpr ⟨c, List.mem_filter.mpr ⟨hc, ?_⟩, hlcid⟩
          rw [hlcid, hno]
          rfl

end Rounds

def nofLcids (cfgs : LogicalChannelConfigList) (lcgid : Nat) : Nat :=
  (cfgs.lcList.map LogicalChannelConfig.lcid).dedup.countP fun lcid =>
    (cfgs.lookup? lcid).map LogicalChannelConfig.lcGroup = some lcgid

lemma members_eq_countP (a : FlatMap Nat) (lcgid : Nat) :
    members a lcgid = a.keys.countP fun lcid => a.find? lcid = some lcgid := by
  have hcount : ∀ es : List (Nat × Nat), (∀ e ∈ es, a.find? e.1 = some e.2) →
      (es.map fun e => if e.2 = lcgid then 1 else 0).sum =
        (es.map Prod.fst).countP fun lcid => a.find? lcid = some lcgid := by
    intro es hes
    induction es with
    | nil => rfl
    | cons e es ih =>
      rw [List.map_cons, List.sum_cons, List.map_cons, List.countP_cons, hes e List.mem_cons_self,
        ih fun e' he' => hes e' (List.mem_cons_of_mem _ he')]
      by_cases he : e.2 = lcgid
      · simp [he, Nat.add_comm]
      · simp [he]
  exact hcount a.entries fun e he => FlatMap.find?_eq_some_iff.mpr he

lemma members_assignmentOf (cfgs : LogicalChannelConfigList) (lcgid : Nat) :
    members (assignmentOf (some cfgs)) lcgid = nofLcids cfgs lcgid := by
  rw [members_eq_countP]
  unfold nofLcids
  have hperm : (assignmentOf (some cfgs)).keys.Perm (cfgs.lcList.map LogicalChannelConfig.lcid).dedup := by
    refine (List.perm_ext_iff_of_nodup (FlatMap.keys_nodup _) (List.nodup_dedup _)).mpr fun l => ?_
    rw [FlatMap.mem_keys_iff, List.mem_dedup]
    have hcontains : (assignmentOf (some cfgs)).contains l = cfgs.contains l := by
      unfold FlatMap.contains LogicalChannelConfigList.contains
      rw [find?_assignmentOf, Option.isSome_map]
    rw [hcontains, LogicalChannelConfigList.contains_iff, List.mem_map]
  rw [hperm.countP_eq]
  congr 1
  funext l
  rw [find?_assignmentOf]

end OwlsRan.Sched
