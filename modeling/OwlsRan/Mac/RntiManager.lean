import Mathlib.Algebra.Group.Nat.Defs
import OwlsRan.Lib.EventRun
import Mathlib.Data.Finset.Card
import Mathlib.Data.Finset.Range
import Mathlib.Data.Finset.Filter
import Mathlib.Tactic.Lemma

/-!
# The RNTIs of a DU

The table maps the C-RNTI of each UE to a value, and the manager hands out TC-RNTIs from a 16-bit counter. An RNTI that
was handed out is not in the table before its UE is added. Failed assertions abort.
-/

namespace OwlsRan.Mac
open OwlsRan.Lib

def MIN_CRNTI : Nat := 0x1

def MAX_CRNTI : Nat := 0xffef

def INVALID_RNTI : Nat := 0x0

def MAX_NOF_DU_UES : Nat := 1024

def CRNTI_RANGE : Nat := MAX_CRNTI + 1 - MIN_CRNTI

/-- The number of values of a `uint16_t`. -/
def COUNTER_SPAN : Nat := 2 ^ 16

def isCrnti (rnti : Nat) : Bool := decide (rnti ≤ MAX_CRNTI) && decide (MIN_CRNTI ≤ rnti)

inductive RntiAbort where
  | invalidCrnti
  | invalidValue
  | invalidTableState
  | endlessSearch
deriving DecidableEq

/-- `rnti_value_table<T, SentinelValue>` -/
structure RntiValueTable (T : Type*) where
  rntiToUeIndexMap : Nat → T
  nofUes : Nat

namespace RntiValueTable

variable {T : Type*} [DecidableEq T] (sentinel : T) (t : RntiValueTable T)

def empty : RntiValueTable T := ⟨fun _ => sentinel, 0⟩

def get (rnti : Nat) : T := t.rntiToUeIndexMap (rnti - MIN_CRNTI)

def hasRnti (crnti : Nat) : Bool := decide (t.get crnti ≠ sentinel)

def addUe (crnti : Nat) (value : T) : Except RntiAbort (Bool × RntiValueTable T) :=
  if isCrnti crnti = false then .error .invalidCrnti
  else if value = sentinel then .error .invalidValue
  else
    let map := Function.update t.rntiToUeIndexMap (crnti - MIN_CRNTI) value
    if t.get crnti = sentinel then .ok (true, ⟨map, (t.nofUes + 1) % 2 ^ 64⟩) else .ok (false, ⟨map, t.nofUes⟩)

def remUe (crnti : Nat) : Except RntiAbort (RntiValueTable T) :=
  if isCrnti crnti = false then .error .invalidCrnti
  else
    let map := Function.update t.rntiToUeIndexMap (crnti - MIN_CRNTI) sentinel
    if t.get crnti = sentinel then .ok ⟨map, t.nofUes⟩
    else
      let nofUes := (t.nofUes + (2 ^ 64 - 1)) % 2 ^ 64
      if nofUes ≤ CRNTI_RANGE then .ok ⟨map, nofUes⟩ else .error .invalidTableState

end RntiValueTable

structure RntiManager (T : Type*) extends RntiValueTable T where
  rntiCounter : Nat

inductive RntiCall (T : Type*) where
  | allocate
  | addUe (crnti : Nat) (value : T)
  | remUe (crnti : Nat)
deriving DecidableEq

namespace RntiManager

section Operations

variable {T : Type*} [DecidableEq T] (sentinel : T) (m : RntiManager T)

def start (initialRnti : Nat) : Except RntiAbort (RntiManager T) :=
  if isCrnti initialRnti = false then .error .invalidCrnti
  else .ok ⟨.empty sentinel, initialRnti - MIN_CRNTI⟩

/-- The loop over the counter, which stops after `fuel` steps. -/
def allocateLoop (hasRnti : Nat → Bool) : Nat → Nat → Option (Nat × Nat)
  | 0, _ => none
  | fuel + 1, rntiCounter =>
    let tempCrnti := rntiCounter % CRNTI_RANGE + MIN_CRNTI
    let next := (rntiCounter + 1) % COUNTER_SPAN
    if hasRnti tempCrnti then allocateLoop hasRnti fuel next else some (tempCrnti, next)

def allocate : Except RntiAbort (Nat × RntiManager T) :=
  if MAX_NOF_DU_UES ≤ m.nofUes then .ok (INVALID_RNTI, m)
  else
    -- the counter repeats after `COUNTER_SPAN` steps, and so does the search
    match allocateLoop (m.hasRnti sentinel) COUNTER_SPAN m.rntiCounter with
    | none => .error .endlessSearch
    | some (tempCrnti, next) => .ok (tempCrnti, { m with rntiCounter := next })

def step (m : RntiManager T) : RntiCall T → Except RntiAbort (RntiManager T)
  | .allocate => (m.allocate sentinel).map Prod.snd
  | .addUe crnti value => (m.addUe sentinel crnti value).map fun r => ⟨r.2, m.rntiCounter⟩
  | .remUe crnti => (m.remUe sentinel crnti).map fun t => ⟨t, m.rntiCounter⟩

end Operations

section Invariant

variable {T : Type*} [DecidableEq T] {sentinel : T} {m m' : RntiManager T}

def mapped (sentinel : T) (map : Nat → T) : Finset Nat := {i ∈ Finset.range CRNTI_RANGE | map i ≠ sentinel}

variable {i crnti : Nat}

lemma mem_mapped {map : Nat → T} : i ∈ mapped sentinel map ↔ i < CRNTI_RANGE ∧ map i ≠ sentinel := by
  unfold mapped
  rw [Finset.mem_filter, Finset.mem_range]

lemma card_mapped_le (sentinel : T) (map : Nat → T) : (mapped sentinel map).card ≤ CRNTI_RANGE := by
  have h := Finset.card_filter_le (Finset.range CRNTI_RANGE) fun i => map i ≠ sentinel
  rwa [Finset.card_range] at h

lemma mapped_update {map : Nat → T} {value : T} (hi : i < CRNTI_RANGE) (hvalue : value ≠ sentinel) :
    mapped sentinel (Function.update map i value) = insert i (mapped sentinel map) := by
  ext j
  rw [Finset.mem_insert, mem_mapped, mem_mapped]
  by_cases hj : j = i
  · subst hj
    rw [Function.update_self]
    exact ⟨fun _ => .inl rfl, fun _ => ⟨hi, hvalue⟩⟩
  · rw [Function.update_of_ne hj]
    exact ⟨.inr, fun h => h.resolve_left hj⟩

lemma mapped_clear {map : Nat → T} :
    mapped sentinel (Function.update map i sentinel) = (mapped sentinel map).erase i := by
  ext j
  rw [Finset.mem_erase, mem_mapped, mem_mapped]
  by_cases hj : j = i
  · subst hj
    rw [Function.update_self]
    exact ⟨fun h => absurd rfl h.2, fun h => absurd rfl h.1⟩
  · rw [Function.update_of_ne hj]
    exact ⟨fun h => ⟨hj, h⟩, fun h => h.2⟩

structure Inv (sentinel : T) (m : RntiManager T) : Prop where
  nofUes : m.nofUes = (mapped sentinel m.rntiToUeIndexMap).card
  counter : m.rntiCounter < COUNTER_SPAN

lemma index_lt {rnti : Nat} (h : isCrnti rnti = true) : rnti - MIN_CRNTI < CRNTI_RANGE := by
  simp only [isCrnti, Bool.and_eq_true, decide_eq_true_eq] at h
  unfold CRNTI_RANGE
  omega

lemma isCrnti_of_lt (h : i < CRNTI_RANGE) : isCrnti (i + MIN_CRNTI) = true := by
  unfold CRNTI_RANGE at h
  unfold isCrnti
  rw [Bool.and_eq_true, decide_eq_true_eq, decide_eq_true_eq]
  exact ⟨by omega, Nat.le_add_left _ _⟩

lemma hasRnti_index {t : RntiValueTable T} :
    t.hasRnti sentinel (i + MIN_CRNTI) = true ↔ t.rntiToUeIndexMap i ≠ sentinel := by
  unfold RntiValueTable.hasRnti RntiValueTable.get
  rw [Nat.add_sub_cancel, decide_eq_true_eq]

lemma Inv.start {initialRnti : Nat} (h : start sentinel initialRnti = .ok m) : Inv sentinel m := by
  unfold RntiManager.start at h
  split at h
  · cases h
  · rename_i hcrnti
    cases h
    refine ⟨?_, ?_⟩
    · have hnone : mapped sentinel (fun _ : Nat => sentinel) = ∅ := by
        apply Finset.eq_empty_of_forall_notMem
        intro i hi
        exact (mem_mapped.mp hi).2 rfl
      exact (Finset.card_eq_zero.mpr hnone).symm
    · have := index_lt (Bool.eq_true_of_not_eq_false hcrnti)
      exact this.trans (by decide)

variable {t' : RntiValueTable T}

lemma addUe_spec {t : RntiValueTable T} {value : T} {isNew : Bool}
    (h : t.addUe sentinel crnti value = .ok (isNew, t')) :
    isCrnti crnti = true ∧ value ≠ sentinel ∧
      t'.rntiToUeIndexMap = Function.update t.rntiToUeIndexMap (crnti - MIN_CRNTI) value ∧
      (isNew = true ↔ t.get crnti = sentinel) ∧
      t'.nofUes = if t.get crnti = sentinel then (t.nofUes + 1) % 2 ^ 64 else t.nofUes := by
  unfold RntiValueTable.addUe at h
  split at h
  · cases h
  · rename_i hcrnti
    split at h
    · cases h
    · rename_i hvalue
      dsimp only at h
      refine ⟨Bool.eq_true_of_not_eq_false hcrnti, hvalue, ?_⟩
      split at h
      · rename_i hfree
        cases h
        exact ⟨rfl, ⟨fun _ => hfree, fun _ => rfl⟩, (if_pos hfree).symm⟩
      · rename_i hused
        cases h
        exact ⟨rfl, ⟨fun hf => (nomatch hf), fun hf => absurd hf hused⟩, (if_neg hused).symm⟩

lemma remUe_spec {t : RntiValueTable T} (h : t.remUe sentinel crnti = .ok t') :
    isCrnti crnti = true ∧ t'.rntiToUeIndexMap = Function.update t.rntiToUeIndexMap (crnti - MIN_CRNTI) sentinel ∧
      t'.nofUes = if t.get crnti = sentinel then t.nofUes else (t.nofUes + (2 ^ 64 - 1)) % 2 ^ 64 := by
  unfold RntiValueTable.remUe at h
  split at h
  · cases h
  · rename_i hcrnti
    dsimp only at h
    refine ⟨Bool.eq_true_of_not_eq_false hcrnti, ?_⟩
    split at h
    · rename_i hfree
      cases h
      exact ⟨rfl, (if_pos hfree).symm⟩
    · rename_i hused
      split at h
      · cases h
        exact ⟨rfl, (if_neg hused).symm⟩
      · cases h

lemma Inv.addUe (hinv : Inv sentinel m) {value : T} {isNew : Bool}
    (h : m.toRntiValueTable.addUe sentinel crnti value = .ok (isNew, t')) :
    t'.nofUes = (mapped sentinel t'.rntiToUeIndexMap).card := by
  obtain ⟨hcrnti, hvalue, hmap, -, hnof⟩ := addUe_spec h
  have hindex := index_lt hcrnti
  have hle := card_mapped_le sentinel t'.rntiToUeIndexMap
  rw [hmap, mapped_update hindex hvalue] at hle ⊢
  rw [hnof]
  by_cases hfree : m.get crnti = sentinel
  · have hnew : crnti - MIN_CRNTI ∉ mapped sentinel m.rntiToUeIndexMap := fun hmem => (mem_mapped.mp hmem).2 hfree
    rw [Finset.card_insert_of_notMem hnew] at hle ⊢
    rw [if_pos hfree, hinv.nofUes]
    apply Nat.mod_eq_of_lt
    exact hle.trans_lt (by decide)
  · have hold : crnti - MIN_CRNTI ∈ mapped sentinel m.rntiToUeIndexMap := mem_mapped.mpr ⟨hindex, hfree⟩
    rw [if_neg hfree, Finset.insert_eq_of_mem hold, hinv.nofUes]

lemma Inv.remUe (hinv : Inv sentinel m) (h : m.toRntiValueTable.remUe sentinel crnti = .ok t') :
    t'.nofUes = (mapped sentinel t'.rntiToUeIndexMap).card := by
  obtain ⟨hcrnti, hmap, hnof⟩ := remUe_spec h
  have hle := card_mapped_le sentinel m.rntiToUeIndexMap
  rw [hmap, mapped_clear, hnof]
  by_cases hfree : m.get crnti = sentinel
  · have hnew : crnti - MIN_CRNTI ∉ mapped sentinel m.rntiToUeIndexMap := fun hmem => (mem_mapped.mp hmem).2 hfree
    rw [if_pos hfree, Finset.erase_eq_of_notMem hnew, hinv.nofUes]
  · have hold : crnti - MIN_CRNTI ∈ mapped sentinel m.rntiToUeIndexMap := mem_mapped.mpr ⟨index_lt hcrnti, hfree⟩
    have hpos : 0 < (mapped sentinel m.rntiToUeIndexMap).card := Finset.card_pos.mpr ⟨_, hold⟩
    have hrange : CRNTI_RANGE < 2 ^ 64 := by decide
    rw [if_neg hfree, Finset.card_erase_of_mem hold, hinv.nofUes]
    omega

end Invariant

end RntiManager

end OwlsRan.Mac
