import OwlsRan.Adt.CircularMap
import OwlsRan.Lib.Outcome

/-!
# `sdu_window`

The Tx and Rx windows: SDU info objects indexed by SN. A lookup of an SN that is not there aborts.
-/

namespace OwlsRan.Rlc
open OwlsRan.Lib OwlsRan.Adt

inductive RlcAbort where
  /-- `operator[]` or `remove_sn` at an SN that the window does not contain. -/
  | snAbsent
  /-- `add_sn` at an SN that the window contains. -/
  | snPresent
  | stateVariable
  | sduData
  /-- An assertion on the offsets of the segments of an SDU. -/
  | segmentOffsets
  | headerLength
  | timerUnset
  | endlessLoop
deriving DecidableEq

abbrev SduWindow (α : Type) := CircularMap α

namespace SduWindow

variable {α : Type}

def hasSn (w : SduWindow α) (sn : Nat) : Bool := w.contains sn

/-- `operator[]`, to read. -/
def atSn (w : SduWindow α) (sn : Nat) : Except RlcAbort α :=
  match w.find? sn with
  | some v => .ok v
  | none => .error .snAbsent

/-- `operator[]`, to write. -/
def modifySn (w : SduWindow α) (sn : Nat) (f : α → α) : Except RlcAbort (SduWindow α) :=
  if w.hasSn sn then .ok (w.modify sn f) else .error .snAbsent

def addSn (w : SduWindow α) (sn : Nat) (v : α) : Except RlcAbort (SduWindow α) :=
  if w.hasSn sn then .error .snPresent else .ok (w.overwrite sn v)

def removeSn (w : SduWindow α) (sn : Nat) : Except RlcAbort (SduWindow α) :=
  if w.hasSn sn then .ok (w.erase sn) else .error .snAbsent

section Access

variable {w : SduWindow α} {sn : Nat} {v : α} {f : α → α} {E : RlcAbort → Prop}

lemma hasSn_iff : hasSn w sn = true ↔ ∃ v, w.find? sn = some v := CircularMap.contains_iff

lemma hasSn_eq_false_iff : hasSn w sn = false ↔ w.find? sn = none := CircularMap.contains_eq_false_iff

lemma yields_atSn (h : w.find? sn = some v) : Yields (atSn w sn) (· = v) E := by
  unfold atSn
  rw [h]
  exact rfl

lemma yields_modifySn (hw : w.WellFormed) (h : w.find? sn = some v) :
    Yields (modifySn w sn f) (fun w' => (∀ j, w'.find? j = if j = sn then some (f v) else w.find? j) ∧
      w'.WellFormed ∧ w'.capacity = w.capacity ∧ w'.count = w.count) E := by
  unfold modifySn
  rw [if_pos (hasSn_iff.mpr ⟨v, h⟩)]
  obtain ⟨hfind, hwf⟩ := CircularMap.modify_spec hw h
  exact ⟨hfind, hwf, CircularMap.capacity_modify, rfl⟩

lemma yields_addSn (hw : w.WellFormed) (hfree : ∀ j v, w.find? j = some v → j % w.capacity ≠ sn % w.capacity) :
    Yields (addSn w sn v) (fun w' => (∀ j, w'.find? j = if j = sn then some v else w.find? j) ∧
      w'.WellFormed ∧ w'.capacity = w.capacity ∧ w'.count = w.count + 1) E := by
  have hnone : hasSn w sn = false := by
    rw [hasSn_eq_false_iff]
    cases hsn : w.find? sn with
    | none => rfl
    | some v => exact absurd rfl (hfree sn v hsn)
  unfold addSn
  rw [hnone]
  obtain ⟨hfind, hcount, hwf⟩ := CircularMap.overwrite_free hw hfree
  exact ⟨hfind, hwf, CircularMap.capacity_overwrite, hcount⟩

lemma yields_removeSn (hw : w.WellFormed) (h : w.find? sn = some v) :
    Yields (removeSn w sn) (fun w' => (∀ j, w'.find? j = if j = sn then none else w.find? j) ∧
      w'.WellFormed ∧ w'.capacity = w.capacity ∧ w'.count = w.count - 1) E := by
  have hsn : hasSn w sn = true := hasSn_iff.mpr ⟨v, h⟩
  unfold removeSn
  rw [if_pos hsn]
  obtain ⟨hfind, hcount, hwf⟩ := CircularMap.erase_spec hw hsn
  exact ⟨hfind, hwf, CircularMap.capacity_erase, hcount⟩

end Access

end SduWindow

end OwlsRan.Rlc
