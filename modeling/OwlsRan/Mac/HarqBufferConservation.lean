import Mathlib.Data.List.Perm.Subperm
import Mathlib.Order.Fin.Basic
import OwlsRan.Mac.CellDlHarqBufferPool

/-!
# Conservation of the DL HARQ buffers

No event loses a buffer or files it twice.
-/

namespace OwlsRan.Mac
open OwlsRan.Lib

namespace CellDlHarqBufferPool

structure Inv (s : CellDlHarqBufferPool) : Prop where
  conserved : s.Conserved
  fresh : ∀ b < s.poolElemIndex, s.refCnt b = 0
  preallocated : s.poolElemIndex + DL_HARQ_ALLOC_BATCH ≤ POOL_SIZE
  flag : s.poolGrowthCancelled = some s.flags.length
  flags : ∀ f ∈ s.flags, f < s.flags.length
  tasks : ∀ f ∈ s.deferred, f.isSome

structure SameTasks (s s' : CellDlHarqBufferPool) : Prop where
  refCnt : s'.refCnt = s.refCnt
  flag : s'.poolGrowthCancelled = s.poolGrowthCancelled
  flags : s'.flags = s.flags
  deferred : s'.deferred = s.deferred
  pool : s'.poolElemIndex ≤ s.poolElemIndex

section Moves

variable {s s' t : CellDlHarqBufferPool} {ue : DuUeIndex} {b : Nat}

lemma SameTasks.refl (s : CellDlHarqBufferPool) : SameTasks s s := ⟨rfl, rfl, rfl, rfl, Nat.le_refl _⟩

lemma SameTasks.trans (h : SameTasks s s') (h' : SameTasks s' t) : SameTasks s t :=
  ⟨h'.refCnt.trans h.refCnt, h'.flag.trans h.flag, h'.flags.trans h.flags, h'.deferred.trans h.deferred,
    Nat.le_trans h'.pool h.pool⟩

lemma Inv.moved (hs : Inv s) (h : SameTasks s s') (hc : s'.Conserved) : Inv s' where
  conserved := hc
  fresh b hb := by
    rw [h.refCnt]
    exact hs.fresh b (Nat.lt_of_lt_of_le hb h.pool)
  preallocated := Nat.le_trans (Nat.add_le_add_right h.pool _) hs.preallocated
  flag := by rw [h.flag, h.flags, hs.flag]
  flags := by
    rw [h.flags]
    exact hs.flags
  tasks := by
    rw [h.deferred]
    exact hs.tasks

lemma holders_give (s : CellDlHarqBufferPool) (ue : DuUeIndex) (b : Nat) :
    (s.give ue b).holders = Function.update s.holders (some ue) (s.holders (some ue) ++ [b]) := by
  funext k
  cases k with
  | none => rfl
  | some ue' =>
    by_cases h : ue' = ue
    · subst h
      simp [holders, give]
    · simp [holders, give, h]

lemma holders_cache (s : CellDlHarqBufferPool) (b : Nat) :
    (s.cache b).holders = Function.update s.holders none (s.holders none ++ [b]) := by
  funext k
  cases k <;> simp [holders, cache]

lemma holders_deallocateUeBuffers (s : CellDlHarqBufferPool) (ue : DuUeIndex) :
    (s.deallocateUeBuffers ue).holders =
      Function.update (Function.update s.holders (some ue) []) none (s.holders none ++ s.holders (some ue)) := by
  funext k
  cases k with
  | none => simp [holders, deallocateUeBuffers]
  | some ue' =>
    by_cases h : ue' = ue
    · subst h
      simp [holders, deallocateUeBuffers]
    · simp [holders, deallocateUeBuffers, h]

lemma conserved_fromPool (hs : s.Conserved) (hle : s.poolElemIndex ≤ POOL_SIZE) (hpool : s.poolElemIndex ≠ 0)
    (k : Option DuUeIndex)
    (hholders : s'.holders = Function.update s.holders k (s.holders k ++ [s.poolElemIndex - 1]))
    (hindex : s'.poolElemIndex = s.poolElemIndex - 1) : s'.Conserved := by
  have hfree : ¬s.Taken (s.poolElemIndex - 1) := by
    unfold Taken
    omega
  have hstock : ∀ x, (s.Taken x ∨ x = s.poolElemIndex - 1) ↔ s'.Taken x := by
    intro x
    unfold Taken
    rw [hindex]
    omega
  unfold Conserved
  rw [hholders]
  exact (Custody.enter hs k hfree).congr hstock

lemma conserved_deallocateUeBuffers (hs : s.Conserved) (ue : DuUeIndex) : (s.deallocateUeBuffers ue).Conserved := by
  unfold Conserved
  rw [holders_deallocateUeBuffers]
  have hne : some ue ≠ (none : Option DuUeIndex) := nofun
  have hsplit : (s.holders (some ue)).Perm ([] ++ s.holders (some ue)) := List.Perm.refl _
  exact Custody.move hs hne hsplit

lemma sameTasks_deallocateUeBuffers (s : CellDlHarqBufferPool) (ue : DuUeIndex) :
    SameTasks s (s.deallocateUeBuffers ue) := ⟨rfl, rfl, rfl, rfl, Nat.le_refl _⟩

lemma allocateFromCache_spec (h : s.allocateFromCache = some (b, s')) :
    ∃ kept, s' = { s with bufferCache := kept } ∧ s.refCnt b = 0 ∧ s.bufferCache.Perm (b :: kept) := by
  unfold allocateFromCache at h
  split at h
  · cases h
  case h_2 b' hfind =>
    obtain ⟨rfl, rfl⟩ := Prod.mk.inj (Option.some.inj h)
    refine ⟨_, rfl, by simpa using List.find?_some hfind, ?_⟩
    have hmem := List.mem_of_find?_eq_some hfind
    have hperm : s.bufferCache.reverse.Perm (b' :: s.bufferCache.reverse.erase b') := List.perm_cons_erase hmem
    exact (List.reverse_perm _).symm.trans (hperm.trans ((List.reverse_perm _).symm.cons b'))

lemma allocateFromCache_isSome (h : 0 < s.freeInCache) : ∃ r, s.allocateFromCache = some r := by
  obtain ⟨b, hb, hfree⟩ := List.countP_pos_iff.mp h
  have hfind : (s.bufferCache.reverse.find? fun b => s.refCnt b = 0).isSome := by
    rw [List.find?_isSome]
    exact ⟨b, List.mem_reverse.mpr hb, hfree⟩
  obtain ⟨b', hb'⟩ := Option.isSome_iff_exists.mp hfind
  exact ⟨_, by rw [allocateFromCache, hb']⟩

lemma conserved_fromCache (hs : s.Conserved) {kept : List Nat} (hperm : s.bufferCache.Perm (b :: kept))
    (ue : DuUeIndex) : ({ s with bufferCache := kept }.give ue b).Conserved := by
  have hholders : ({ s with bufferCache := kept }.give ue b).holders =
      Function.update (Function.update s.holders none kept) (some ue) (s.holders (some ue) ++ [b]) := by
    rw [holders_give]
    funext k
    cases k <;> simp [holders, Function.update_apply]
  unfold Conserved
  rw [hholders]
  have hne : none ≠ some ue := nofun
  have hsplit : (s.holders none).Perm (kept ++ [b]) := hperm.trans (List.perm_append_singleton b kept).symm
  exact Custody.move hs hne hsplit

end Moves

section Giving

variable {s s' : CellDlHarqBufferPool} {b : Nat}

/-- Where the loop of `allocate_ue_buffers` takes a buffer from. -/
def takeBuffer (s : CellDlHarqBufferPool) : Option (Nat × CellDlHarqBufferPool) :=
  if s.bufferCache = [] then s.allocateFromPool else s.allocateFromCache

/-- The cache has a free buffer for each of `n` requests, or holds free buffers only. -/
def Supplies (s : CellDlHarqBufferPool) (n : Nat) : Prop := n ≤ s.freeInCache ∨ s.freeInCache = s.bufferCache.length

lemma takeBuffer_spec (hs : Inv s) (ue : DuUeIndex) (h : s.takeBuffer = some (b, s')) :
    s.refCnt b = 0 ∧ s'.cellBuffers = s.cellBuffers ∧ SameTasks s (s'.give ue b) ∧ Inv (s'.give ue b) ∧
      ∀ n, s.Supplies (n + 1) → (s'.give ue b).Supplies n := by
  unfold takeBuffer at h
  split at h
  case isTrue hempty =>
    unfold allocateFromPool at h
    split at h
    · cases h
    case isFalse hdepleted =>
      obtain ⟨rfl, rfl⟩ := Prod.mk.inj (Option.some.inj h)
      have hpool : s.poolElemIndex ≠ 0 := by simpa [isPoolDepleted] using hdepleted
      let s₁ : CellDlHarqBufferPool := { s with poolElemIndex := s.poolElemIndex - 1 }
      have hsame : SameTasks s (s₁.give ue (s.poolElemIndex - 1)) := ⟨rfl, rfl, rfl, rfl, Nat.sub_le _ _⟩
      have hc : (s₁.give ue (s.poolElemIndex - 1)).Conserved := by
        refine conserved_fromPool hs.conserved (Nat.le_of_add_right_le hs.preallocated) hpool (some ue) ?_ rfl
        rw [holders_give]
        rfl
      refine ⟨hs.fresh _ (by omega), rfl, hsame, hs.moved hsame hc, fun n _ => Or.inr ?_⟩
      simp [freeInCache, give, hempty]
  case isFalse hne =>
    obtain ⟨kept, rfl, hfree, hperm⟩ := allocateFromCache_spec h
    have hsame : SameTasks s ({ s with bufferCache := kept }.give ue b) := ⟨rfl, rfl, rfl, rfl, Nat.le_refl _⟩
    have hcount : s.freeInCache = ({ s with bufferCache := kept }.give ue b).freeInCache + 1 := by
      unfold freeInCache
      rw [hperm.countP_eq, List.countP_cons_of_pos (by simpa using hfree)]
      rfl
    have hlength : s.bufferCache.length = ({ s with bufferCache := kept }.give ue b).bufferCache.length + 1 := by
      rw [hperm.length_eq]
      rfl
    refine ⟨hfree, rfl, hsame, hs.moved hsame (conserved_fromCache hs.conserved hperm ue), fun n hn => ?_⟩
    unfold Supplies at hn ⊢
    omega

lemma takeBuffer_eq_none {n : Nat} (hn : s.Supplies (n + 1)) (h : s.takeBuffer = none) : s.poolElemIndex = 0 := by
  unfold takeBuffer at h
  split at h
  · unfold allocateFromPool at h
    split at h
    case isTrue hdepleted => simpa [isPoolDepleted] using hdepleted
    · cases h
  case isFalse hne =>
    have hpos : 0 < s.freeInCache := by
      have hlength : 0 < s.bufferCache.length := List.length_pos_iff.mpr hne
      rcases hn with hn | hn
      · omega
      · omega
    obtain ⟨r, hr⟩ := allocateFromCache_isSome hpos
    rw [hr] at h
    cases h

lemma giveBuffers_succ (s : CellDlHarqBufferPool) (ue : DuUeIndex) (n : Nat) :
    s.giveBuffers ue (n + 1) = match s.takeBuffer with
      | none => (false, s)
      | some (b, s') => (s'.give ue b).giveBuffers ue n := rfl

/-- The loop adds free buffers to those of the UE and stops early only when it must. -/
theorem giveBuffers_spec (hs : Inv s) (ue : DuUeIndex) (n : Nat) :
    Inv (s.giveBuffers ue n).2 ∧ SameTasks s (s.giveBuffers ue n).2 ∧
      (∀ ue' ≠ ue, (s.giveBuffers ue n).2.cellBuffers ue' = s.cellBuffers ue') ∧
      (∃ given, (s.giveBuffers ue n).2.cellBuffers ue = s.cellBuffers ue ++ given ∧ (∀ b ∈ given, s.refCnt b = 0) ∧
        ((s.giveBuffers ue n).1 = true → given.length = n)) ∧
      (s.Supplies n → (s.giveBuffers ue n).1 = true ∨ (s.giveBuffers ue n).2.poolElemIndex = 0) := by
  induction n generalizing s with
  | zero =>
    exact ⟨hs, SameTasks.refl s, fun _ _ => rfl, ⟨[], (List.append_nil _).symm, nofun, fun _ => rfl⟩,
      fun _ => Or.inl rfl⟩
  | succ n ih =>
    rw [giveBuffers_succ]
    cases htake : s.takeBuffer with
    | none =>
      exact ⟨hs, SameTasks.refl s, fun _ _ => rfl, ⟨[], (List.append_nil _).symm, nofun, nofun⟩,
        fun hn => Or.inr (takeBuffer_eq_none hn htake)⟩
    | some r =>
      obtain ⟨b, s'⟩ := r
      obtain ⟨hfree, hcell, hsame, hinv, hsupplies⟩ := takeBuffer_spec hs ue htake
      obtain ⟨hinv', hsame', hothers, ⟨given, hgiven, hall, hlength⟩, hdone⟩ := ih hinv
      refine ⟨hinv', hsame.trans hsame', fun ue' hne => ?_, ⟨b :: given, ?_, ?_, fun hd => ?_⟩,
        fun hn => hdone (hsupplies n hn)⟩
      · rw [hothers ue' hne]
        simp [give, hne, hcell]
      · rw [hgiven]
        simp [give, hcell]
      · intro x hx
        rcases List.mem_cons.mp hx with rfl | hx
        · exact hfree
        · rw [← hsame.refCnt]
          exact hall x hx
      · rw [List.length_cons, hlength hd]

end Giving

section Events

variable {s s' : CellDlHarqBufferPool}

lemma isCancelled_flag (hs : Inv s) : s.isCancelled s.poolGrowthCancelled = false := by
  have hfresh : s.flags.length ∉ s.flags := fun h => Nat.lt_irrefl _ (hs.flags _ h)
  simp [isCancelled, hs.flag, hfresh]

lemma growCacheInBackground_spec (hs : Inv s) :
    Inv s.growCacheInBackground ∧ s.growCacheInBackground.Replenished ∧
      s.growCacheInBackground.cellBuffers = s.cellBuffers ∧
      s.growCacheInBackground.poolElemIndex = s.poolElemIndex := by
  unfold growCacheInBackground
  by_cases hdepleted : s.poolElemIndex = 0
  · simp only [isPoolDepleted, hdepleted, decide_true, if_true]
    exact ⟨hs, fun _ => Or.inr hdepleted, trivial, trivial⟩
  · by_cases hfull : s.bufferCache.length ≥ DL_HARQ_ALLOC_BATCH
    · simp only [isPoolDepleted, hdepleted, hfull, decide_false, Bool.false_eq_true, if_false, if_true]
      exact ⟨hs, fun _ => Or.inl hfull, trivial, trivial⟩
    · simp only [isPoolDepleted, hdepleted, hfull, decide_false, Bool.false_eq_true, if_false]
      refine ⟨⟨hs.conserved, hs.fresh, hs.preallocated, hs.flag, hs.flags, fun f hf => ?_⟩, fun hall => ?_, trivial, trivial⟩
      · rcases List.mem_append.mp hf with hf | hf
        · exact hs.tasks f hf
        · rw [List.mem_singleton.mp hf, hs.flag]
          rfl
      · have hcancelled : s.isCancelled s.poolGrowthCancelled = true := hall _ (by simp)
        rw [isCancelled_flag hs] at hcancelled
        cases hcancelled

lemma growCache_spec (hs : s.Conserved) (hle : s.poolElemIndex ≤ POOL_SIZE) {n : Nat} (hn : n ≤ s.poolElemIndex) :
    (s.growCache n).2.Conserved ∧ (s.growCache n).2.poolElemIndex = s.poolElemIndex - n ∧
      (s.growCache n).2.bufferCache.length = s.bufferCache.length + n ∧
      (s.growCache n).2.refCnt = s.refCnt ∧ (s.growCache n).2.poolGrowthCancelled = s.poolGrowthCancelled ∧
      (s.growCache n).2.flags = s.flags ∧ (s.growCache n).2.deferred = s.deferred := by
  induction n generalizing s with
  | zero => exact ⟨hs, rfl, rfl, rfl, rfl, rfl, rfl⟩
  | succ n ih =>
    have hpool : s.poolElemIndex ≠ 0 := by omega
    let s₁ : CellDlHarqBufferPool := { s with poolElemIndex := s.poolElemIndex - 1 }
    have hgrow : s.growCache (n + 1) = (s₁.cache (s.poolElemIndex - 1)).growCache n := by
      simp [growCache, allocateFromPool, isPoolDepleted, hpool, s₁]
    have hc : (s₁.cache (s.poolElemIndex - 1)).Conserved := by
      refine conserved_fromPool hs hle hpool none ?_ rfl
      rw [holders_cache]
      rfl
    obtain ⟨hc', hindex, hlength, hsame⟩ := ih hc
      (Nat.le_trans (Nat.sub_le _ _) hle) (show n ≤ s.poolElemIndex - 1 by omega)
    rw [hgrow]
    refine ⟨hc', ?_, ?_, hsame⟩
    · rw [hindex]
      change s.poolElemIndex - 1 - n = s.poolElemIndex - (n + 1)
      omega
    · rw [hlength]
      simp only [cache, s₁, List.length_append, List.length_singleton]
      omega

theorem inv_init : Inv init ∧ init.Replenished := by
  let s₀ : CellDlHarqBufferPool :=
    { cellBuffers := fun _ => [], bufferCache := [], poolElemIndex := POOL_SIZE, refCnt := fun _ => 0,
      poolGrowthCancelled := some 0, flags := [], deferred := [] }
  have hnone : ∀ k, s₀.holders k = [] := by
    intro k
    cases k <;> rfl
  have hs₀ : s₀.Conserved := by
    refine ⟨fun k => ?_, fun k k' b hb => ?_, fun b => ⟨fun ⟨k, hk⟩ => ?_, fun hb => ?_⟩⟩
    · rw [hnone]
      exact List.nodup_nil
    · rw [hnone] at hb
      cases hb
    · rw [hnone] at hk
      cases hk
    · exact absurd hb.1 (Nat.not_le.mpr hb.2)
  have hinit : init = (s₀.growCache DL_HARQ_ALLOC_BATCH).2 := rfl
  obtain ⟨hc, hindex, hlength, hrefCnt, hflag, hflags, hdeferred⟩ := growCache_spec hs₀
    (show s₀.poolElemIndex ≤ POOL_SIZE from Nat.le_refl POOL_SIZE) (show DL_HARQ_ALLOC_BATCH ≤ POOL_SIZE by decide)
  rw [hinit]
  constructor
  · refine ⟨hc, fun b _ => congrFun hrefCnt b, ?_, ?_, ?_, ?_⟩
    · rw [hindex]
      decide
    · rw [hflag, hflags]
      rfl
    · rw [hflags]
      exact nofun
    · rw [hdeferred]
      exact nofun
  · refine fun _ => Or.inl ?_
    rw [hlength]
    exact Nat.le_add_left _ _

lemma allocateUeBuffers_ok {ue : DuUeIndex} {nofHarqs : Nat} (h : s.allocateUeBuffers ue nofHarqs = .ok s') :
    (s.cellBuffers ue ≠ [] ∧ s' = s) ∨
      (s.cellBuffers ue = [] ∧ s' = if (s.giveBuffers ue nofHarqs).1 then
        (s.giveBuffers ue nofHarqs).2.growCacheInBackground else (s.giveBuffers ue nofHarqs).2) := by
  unfold allocateUeBuffers at h
  split at h
  · cases h
  · split at h
    case isTrue hne => exact Or.inl ⟨hne, (Except.ok.inj h).symm⟩
    case isFalse hempty => exact Or.inr ⟨by simpa using hempty, (Except.ok.inj h).symm⟩

lemma allocateUeBuffers_spec (hs : Inv s) {ue : DuUeIndex} {nofHarqs : Nat}
    (h : s.allocateUeBuffers ue nofHarqs = .ok s') :
    Inv s' ∧ (∀ ue', ∀ b ∈ s'.cellBuffers ue', b ∈ s.cellBuffers ue' ∨ s.refCnt b = 0) ∧
      (s.Replenished → s.Sustained (.allocateUeBuffers ue nofHarqs) → s'.Replenished ∧
        (s.cellBuffers ue = [] → s'.poolElemIndex ≠ 0 → (s'.cellBuffers ue).length = nofHarqs)) := by
  rcases allocateUeBuffers_ok h with ⟨hne, rfl⟩ | ⟨hempty, rfl⟩
  · exact ⟨hs, fun _ _ hb => Or.inl hb, fun hr _ => ⟨hr, fun hempty => absurd hempty hne⟩⟩
  obtain ⟨hinv, hsame, hothers, ⟨given, hgiven, hfree, hlength⟩, hdone⟩ := giveBuffers_spec hs ue nofHarqs
  have hcells : ∀ ue', ∀ b ∈ (s.giveBuffers ue nofHarqs).2.cellBuffers ue',
      b ∈ s.cellBuffers ue' ∨ s.refCnt b = 0 := by
    intro ue' b hb
    by_cases hue : ue' = ue
    · subst hue
      rw [hgiven, hempty, List.nil_append] at hb
      exact Or.inr (hfree b hb)
    · rw [hothers ue' hue] at hb
      exact Or.inl hb
  have hsustained : s.Sustained (.allocateUeBuffers ue nofHarqs) →
      (s.giveBuffers ue nofHarqs).1 = true ∨ (s.giveBuffers ue nofHarqs).2.poolElemIndex = 0 := by
    intro hsus
    rcases hsus hempty with hpool | hsupplies
    · exact Or.inr (Nat.le_zero.mp (hpool ▸ hsame.pool))
    · exact hdone hsupplies
  by_cases hd : (s.giveBuffers ue nofHarqs).1 = true
  · obtain ⟨hinv', hr', hcell', hindex'⟩ := growCacheInBackground_spec hinv
    rw [if_pos hd]
    refine ⟨hinv', ?_, fun _ _ => ⟨hr', fun _ _ => ?_⟩⟩
    · rw [hcell']
      exact hcells
    · rw [hcell', hgiven, hempty, List.nil_append, hlength hd]
  · rw [if_neg hd]
    refine ⟨hinv, hcells, fun _ hsus => ?_⟩
    have hzero : (s.giveBuffers ue nofHarqs).2.poolElemIndex = 0 := (hsustained hsus).resolve_left hd
    exact ⟨fun _ => Or.inr hzero, fun _ hne => absurd hzero hne⟩

lemma cacheGrows_replenished (hr : s.Replenished) (hsame : SameTasks s s')
    (hle : s.bufferCache.length ≤ s'.bufferCache.length) : s'.Replenished := by
  intro hall
  have hall' : ∀ f ∈ s.deferred, s.isCancelled f := by
    intro f hf
    have hf' := hall f (by rwa [hsame.deferred])
    unfold isCancelled at hf' ⊢
    rwa [hsame.flags] at hf'
  rcases hr hall' with hfull | hzero
  · exact Or.inl (Nat.le_trans hfull hle)
  · exact Or.inr (Nat.le_zero.mp (hzero ▸ hsame.pool))

lemma deallocateAll_spec (hs : Inv s) (ues : List DuUeIndex) :
    Inv (ues.foldl deallocateUeBuffers s) ∧
      (∀ ue, (ues.foldl deallocateUeBuffers s).cellBuffers ue = if ue ∈ ues then [] else s.cellBuffers ue) := by
  induction ues generalizing s with
  | nil => exact ⟨hs, fun ue => by simp⟩
  | cons ue ues ih =>
    have hinv := hs.moved (sameTasks_deallocateUeBuffers s ue) (conserved_deallocateUeBuffers hs.conserved ue)
    obtain ⟨hinv', hcells⟩ := ih hinv
    refine ⟨hinv', fun ue' => ?_⟩
    rw [List.foldl_cons, hcells ue']
    by_cases hmem : ue' ∈ ues
    · simp [hmem]
    · by_cases hue : ue' = ue
      · simp [hue, deallocateUeBuffers]
      · simp [hmem, hue, deallocateUeBuffers]

lemma length_bufferCache_of_noUe (hs : Inv s) (hnone : ∀ ue, s.cellBuffers ue = []) :
    DL_HARQ_ALLOC_BATCH ≤ s.bufferCache.length := by
  have hsubset : List.range' s.poolElemIndex (POOL_SIZE - s.poolElemIndex) ⊆ s.bufferCache := by
    intro b hb
    obtain ⟨hlo, hhi⟩ := List.mem_range'_1.mp hb
    have htaken : s.Taken b := ⟨hlo, by omega⟩
    obtain ⟨k, hk⟩ := (hs.conserved.mem_iff b).mpr htaken
    cases k with
    | none => exact hk
    | some ue =>
      simp only [holders, hnone] at hk
      cases hk
  have hle := (List.Nodup.subperm (List.nodup_range' 1) hsubset).length_le
  have hpre := hs.preallocated
  rw [List.length_range'] at hle
  omega

lemma clear_spec (hs : Inv s) :
    Inv s.clear ∧ s.clear.Replenished ∧ ∀ ue, s.clear.cellBuffers ue = [] := by
  let flags := s.poolGrowthCancelled.toList ++ s.flags
  let s₁ : CellDlHarqBufferPool := { s with flags := flags, poolGrowthCancelled := some flags.length }
  have hflags : flags = s.flags.length :: s.flags := by simp [flags, hs.flag]
  have hs₁ : Inv s₁ := by
    refine ⟨hs.conserved, hs.fresh, hs.preallocated, rfl, fun f hf => ?_, hs.tasks⟩
    change f ∈ flags at hf
    change f < flags.length
    rw [hflags] at hf ⊢
    rw [List.length_cons]
    rcases List.mem_cons.mp hf with hf | hf
    · omega
    · have := hs.flags f hf
      omega
  have hclear : s.clear = (List.finRange MAX_NOF_UES).foldl deallocateUeBuffers s₁ := by
    unfold clear
    rfl
  obtain ⟨hinv, hcells⟩ := deallocateAll_spec hs₁ (List.finRange MAX_NOF_UES)
  rw [← hclear] at hinv hcells
  have hnone : ∀ ue, s.clear.cellBuffers ue = [] := by
    intro ue
    rw [hcells, if_pos (List.mem_finRange ue)]
  exact ⟨hinv, fun _ => Or.inl (length_bufferCache_of_noUe hinv hnone), hnone⟩

lemma runTask_eq (hs : Inv s) : s.runTask = { s with deferred := s.deferred.tail } := by
  unfold runTask
  cases h : s.deferred with
  | nil =>
    change s = { s with deferred := [] }
    rw [← h]
  | cons f deferred =>
    have hsome : f.isSome := hs.tasks f (by rw [h]; exact List.mem_cons_self)
    simp [growthTask, hsome]

lemma runTask_replenished (hs : Inv s) (hr : s.Replenished) (hsus : s.Sustained .runTask) :
    s.runTask.Replenished := by
  rw [runTask_eq hs]
  cases h : s.deferred with
  | nil =>
    intro _
    exact hr (by rw [h]; exact nofun)
  | cons f deferred =>
    intro hall
    by_cases hcancelled : s.isCancelled f = true
    · refine hr fun g hg => ?_
      rw [h] at hg
      rcases List.mem_cons.mp hg with rfl | hg
      · exact hcancelled
      · exact hall g hg
    · exact hsus f (by rw [h]; rfl) (by simpa using hcancelled)

lemma inv_refCnt (hs : Inv s) {b n : Nat} (hb : s.refCnt b ≠ 0 ∨ s.Taken b) :
    Inv { s with refCnt := Function.update s.refCnt b n } := by
  refine ⟨hs.conserved, fun b' hb' => ?_, hs.preallocated, hs.flag, hs.flags, hs.tasks⟩
  have hne : b' ≠ b := by
    rintro rfl
    rcases hb with hb | hb
    · exact hb (hs.fresh b' hb')
    · exact Nat.not_le.mpr hb' hb.1
  change Function.update s.refCnt b n b' = 0
  rw [Function.update_of_ne hne]
  exact hs.fresh b' hb'

/-- What an event keeps, and what it keeps and gives when it does not need the deferred tasks. -/
theorem step_spec (hs : Inv s) {e : HarqPoolEvent} (h : s.step e = .ok s') :
    Inv s' ∧ (∀ ue, ∀ b ∈ s'.cellBuffers ue, b ∈ s.cellBuffers ue ∨ s.refCnt b = 0) ∧
      (s.Replenished → s.Sustained e → s'.Replenished ∧ ∀ ue nofHarqs, e = .allocateUeBuffers ue nofHarqs →
        s.cellBuffers ue = [] → s'.poolElemIndex ≠ 0 → (s'.cellBuffers ue).length = nofHarqs) := by
  cases e with
  | allocateUeBuffers ue nofHarqs =>
    obtain ⟨hinv, hcells, hsus⟩ := allocateUeBuffers_spec hs h
    refine ⟨hinv, hcells, fun hr he => ⟨(hsus hr he).1, ?_⟩⟩
    rintro _ _ ⟨⟩
    exact (hsus hr he).2
  | deallocateUeBuffers ue =>
    cases h
    have hsame := sameTasks_deallocateUeBuffers s ue
    refine ⟨hs.moved hsame (conserved_deallocateUeBuffers hs.conserved ue), fun ue' b hb => Or.inl ?_,
      fun hr _ => ⟨cacheGrows_replenished hr hsame ?_, nofun⟩⟩
    · by_cases hue : ue' = ue
      · simp [deallocateUeBuffers, hue] at hb
      · simpa [deallocateUeBuffers, hue] using hb
    · simp [deallocateUeBuffers]
  | clear =>
    obtain rfl := Except.ok.inj h
    obtain ⟨hinv, hr', hnone⟩ := clear_spec hs
    refine ⟨hinv, fun ue b hb => ?_, fun _ _ => ⟨hr', nofun⟩⟩
    rw [hnone] at hb
    cases hb
  | allocateDlHarqBuffer ue hId =>
    simp only [step, allocateDlHarqBuffer] at h
    split at h
    · cases h
    case h_2 b hget =>
      have htaken : s.Taken b :=
        (hs.conserved.mem_iff b).mp ⟨some ue, List.mem_of_getElem? hget⟩
      split at h
      · cases h
        exact ⟨hs, fun _ _ hb => Or.inl hb, fun hr _ => ⟨hr, nofun⟩⟩
      · cases h
        exact ⟨inv_refCnt hs (Or.inr htaken), fun _ _ hb => Or.inl hb, fun hr _ => ⟨hr, nofun⟩⟩
  | shareBuffer b =>
    simp only [step, shareBuffer] at h
    split at h
    · cases h
      exact ⟨hs, fun _ _ hb => Or.inl hb, fun hr _ => ⟨hr, nofun⟩⟩
    case isFalse hb =>
      cases h
      exact ⟨inv_refCnt hs (Or.inl hb), fun _ _ hb => Or.inl hb, fun hr _ => ⟨hr, nofun⟩⟩
  | releaseBuffer b =>
    simp only [step, releaseBuffer] at h
    split at h
    · cases h
      exact ⟨hs, fun _ _ hb => Or.inl hb, fun hr _ => ⟨hr, nofun⟩⟩
    case isFalse hb =>
      cases h
      exact ⟨inv_refCnt hs (Or.inl hb), fun _ _ hb => Or.inl hb, fun hr _ => ⟨hr, nofun⟩⟩
  | runTask =>
    cases h
    have hcells : s.runTask.cellBuffers = s.cellBuffers := by rw [runTask_eq hs]
    have hinv : Inv s.runTask := by
      rw [runTask_eq hs]
      exact ⟨hs.conserved, hs.fresh, hs.preallocated, hs.flag, hs.flags, fun f hf => hs.tasks f (List.mem_of_mem_tail hf)⟩
    refine ⟨hinv, fun ue b hb => Or.inl (by rwa [hcells] at hb), fun hr hsus => ⟨runTask_replenished hs hr hsus, nofun⟩⟩

end Events

section Runs

instance (s : CellDlHarqBufferPool) (e : HarqPoolEvent) : Decidable (s.Sustained e) :=
  match e with
  | .allocateUeBuffers _ _ => inferInstanceAs (Decidable (_ → _))
  | .runTask => inferInstanceAs (Decidable (∀ f ∈ s.deferred.head?, _))
  | .deallocateUeBuffers _ | .clear | .allocateDlHarqBuffer _ _ | .shareBuffer _ | .releaseBuffer _ => isTrue trivial

/-- As long as no event needs the deferred tasks, every buffer is in one place and given to one UE, new UEs get all
their buffers, and the cache is filled whenever no task is left. -/
theorem buffers_conserved_and_replenished (es : List HarqPoolEvent) (h : RunsWithin step Sustained init es) :
    HoldsThroughout step (fun s => s.Conserved ∧ s.Replenished) init es ∧ RunsWithin step Gives init es := by
  refine runsWithin_establishes (fun s => Inv s ∧ s.Replenished) (fun s hs => ⟨hs.1.conserved, hs.2⟩) ?_ ?_ inv_init h
  · intro s e s' hs hsus hs'
    obtain ⟨hinv, -, hkeeps⟩ := step_spec hs.1 hs'
    exact ⟨hinv, (hkeeps hs.2 hsus).1⟩
  · intro s e hs hsus s' hs'
    obtain ⟨-, hcells, hkeeps⟩ := step_spec hs.1 hs'
    exact ⟨hcells, (hkeeps hs.2 hsus).2⟩

/-- A UE comes and goes before the task that its buffers gave rise to runs. -/
theorem buffers_conserved_and_replenished_return :
    HoldsThroughout step (fun s => s.Conserved ∧ s.Replenished) init
        [.allocateUeBuffers 0 16, .allocateDlHarqBuffer 0 3, .deallocateUeBuffers 0, .runTask] ∧
      RunsWithin step Gives init
        [.allocateUeBuffers 0 16, .allocateDlHarqBuffer 0 3, .deallocateUeBuffers 0, .runTask] :=
  buffers_conserved_and_replenished _ (by decide +kernel)

/-- After the first UE and the task that it gave rise to, the cache stays short of its target. A UE that comes while a
buffer of a removed UE is in use does not get all its buffers. -/
theorem cache_not_replenished :
    (¬∀ es, HoldsThroughout step Replenished init es) ∧ ¬∀ es, RunsWithin step Gives init es := by
  constructor
  · intro h
    have hrun : (runEvents step init [.allocateUeBuffers 0 16, .runTask]).toOption.any (fun s =>
        s.deferred = [] ∧ s.bufferCache.length = 48 ∧ s.poolElemIndex ≠ 0) = true := by decide +kernel
    cases hs : runEvents step init [.allocateUeBuffers 0 16, .runTask] with
    | error a =>
      rw [hs] at hrun
      simp [Except.toOption] at hrun
    | ok s =>
      rw [hs] at hrun
      obtain ⟨htasks, hlength, hpool⟩ : s.deferred = [] ∧ s.bufferCache.length = 48 ∧ s.poolElemIndex ≠ 0 := by
        simpa [Except.toOption] using hrun
      have hr : s.Replenished := holdsThroughout_iff_prefix.mp (h _) _ [] s (List.append_nil _).symm hs
      rcases hr (by rw [htasks]; exact nofun) with hfull | hzero
      · rw [hlength] at hfull
        exact absurd hfull (by decide)
      · exact hpool hzero
  · intro h
    let es : List HarqPoolEvent :=
      [.allocateUeBuffers 0 32, .allocateUeBuffers 1 32, .allocateDlHarqBuffer 0 0, .deallocateUeBuffers 0]
    have hrun : (runEvents step init es).toOption.any (fun s => s.cellBuffers 2 = [] ∧
        (s.step (.allocateUeBuffers 2 32)).toOption.any fun s' =>
          s'.poolElemIndex ≠ 0 ∧ (s'.cellBuffers 2).length = 31) = true := by decide +kernel
    cases hs : runEvents step init es with
    | error a =>
      rw [hs] at hrun
      simp [Except.toOption] at hrun
    | ok s =>
      rw [hs] at hrun
      simp only [Except.toOption, Option.any_some, Bool.decide_and, Bool.and_eq_true, decide_eq_true_eq] at hrun
      obtain ⟨hempty, hlast⟩ := hrun
      cases hs' : s.step (.allocateUeBuffers 2 32) with
      | error a => simp [hs'] at hlast
      | ok s' =>
        obtain ⟨hpool, hlength⟩ : s'.poolElemIndex ≠ 0 ∧ (s'.cellBuffers 2).length = 31 := by
          simpa [hs'] using hlast
        have hgives : s.Gives (.allocateUeBuffers 2 32) :=
          runsWithin_at (h (es ++ [.allocateUeBuffers 2 32])) hs
        have hall := (hgives s' hs').2 2 32 rfl hempty hpool
        rw [hlength] at hall
        exact absurd hall (by decide)

end Runs

end CellDlHarqBufferPool

end OwlsRan.Mac
