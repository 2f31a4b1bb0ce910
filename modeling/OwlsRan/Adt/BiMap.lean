import OwlsRan.Adt.AssocRbTree
import Mathlib.Data.List.Nodup

/-!
# `bi_map`

Two trees, from the first key to the second and back.
-/

namespace OwlsRan.Adt

lemma perm_filter_ne {α β : Type} [DecidableEq β] {f : α → β} {l rest : List α} {a : α} (hnodup : (l.map f).Nodup)
    (hperm : l.Perm (a :: rest)) : rest.Perm (l.filter fun x => f x ≠ f a) ∧ (l.filter fun x => f x = f a) = [a] := by
  have hdistinct : ((a :: rest).map f).Nodup := (hperm.map f).nodup_iff.mp hnodup
  have hrest : ∀ x ∈ rest, f x ≠ f a := fun x hx heq =>
    (List.nodup_cons.mp hdistinct).1 (List.mem_map.mpr ⟨x, hx, heq⟩)
  constructor
  · refine (List.Perm.trans ?_ (hperm.filter _).symm)
    rw [List.filter_cons_of_neg (by simp), List.filter_eq_self.mpr (by simpa using hrest)]
  · apply List.perm_singleton.mp
    refine (hperm.filter _).trans ?_
    rw [List.filter_cons_of_pos (by simp), List.filter_eq_nil_iff.mpr (by simpa using hrest)]

structure BiMap {α β : Type} (cmp1 : α → α → Ordering) (cmp2 : β → β → Ordering) where
  left : AssocRbTree cmp1 β
  right : AssocRbTree cmp2 α

namespace BiMap

variable {α β : Type} {cmp1 : α → α → Ordering} {cmp2 : β → β → Ordering}
variable {m m' : BiMap cmp1 cmp2} {a a' : α} {b b' : β}

def init : BiMap cmp1 cmp2 := ⟨.init, .init⟩

def insert [Std.TransCmp cmp1] [Std.TransCmp cmp2] (m : BiMap cmp1 cmp2) (key1 : α) (key2 : β) : BiMap cmp1 cmp2 :=
  ⟨m.left.insert key1 key2, m.right.insert key2 key1⟩

/-- `bi_map_extract_right`: the first key, or `none` where an assert fails. -/
def extractRight (m : BiMap cmp1 cmp2) (key2 : β) : Option (α × BiMap cmp1 cmp2) := do
  let (key1, right) ← m.right.extract key2
  let (key3, left) ← m.left.extract key1
  guard (cmp2 key2 key3 = .eq)
  guard (left.size = right.size)
  return (key1, ⟨left, right⟩)

def Inverse (m : BiMap cmp1 cmp2) : Prop := m.left.toList.Perm (m.right.toList.map Prod.swap)

/-- The pairs of the map are `l`. -/
def Holds (m : BiMap cmp1 cmp2) (l : List (α × β)) : Prop :=
  m.left.toList.Perm l ∧ m.right.toList.Perm (l.map Prod.swap)

lemma holds_init : (init : BiMap cmp1 cmp2).Holds [] := ⟨.nil, .nil⟩

namespace Holds

variable {l l' : List (α × β)}

lemma perm (h : m.Holds l) (hl : l.Perm l') : m.Holds l' := ⟨h.1.trans hl, h.2.trans (hl.map _)⟩

lemma inverse (h : m.Holds l) : m.Inverse := by
  have hswap : (m.right.toList.map Prod.swap).Perm ((l.map Prod.swap).map Prod.swap) := h.2.map _
  rw [List.map_map, Prod.swap_swap_eq, List.map_id] at hswap
  exact h.1.trans hswap.symm

lemma mem_left (h : m.Holds l) : (a, b) ∈ m.left.toList ↔ (a, b) ∈ l := h.1.mem_iff

lemma mem_right (h : m.Holds l) : (b, a) ∈ m.right.toList ↔ (a, b) ∈ l := by
  rw [h.2.mem_iff, List.mem_map]
  constructor
  · rintro ⟨⟨x, y⟩, hmem, heq⟩
    obtain ⟨rfl, rfl⟩ := by simpa using heq
    exact hmem
  · intro hmem
    exact ⟨(a, b), hmem, rfl⟩

lemma insert [Std.TransCmp cmp1] [Std.TransCmp cmp2] (h : m.Holds l) (key1 : α) (key2 : β) :
    (m.insert key1 key2).Holds ((key1, key2) :: l) :=
  ⟨AssocRbTree.perm_insert.trans (h.1.cons _), AssocRbTree.perm_insert.trans (h.2.cons _)⟩

lemma extractRight (h : m.Holds l) {key2 : β} (hr : m.right.find? key2 = some (b, a))
    (hl : m.left.find? a = some (a, b)) :
    ∃ m', m.extractRight key2 = some (a, m') ∧ ∃ l', l.Perm ((a, b) :: l') ∧ m'.Holds l' := by
  obtain ⟨right, hright, hpr⟩ := AssocRbTree.extract_eq_some hr
  obtain ⟨left, hleft, hpl⟩ := AssocRbTree.extract_eq_some hl
  have hb : cmp2 key2 b = .eq := (AssocRbTree.mem_of_find? hr).2
  have hhold : BiMap.Holds ⟨left, right⟩ left.toList := by
    refine ⟨.refl _, ?_⟩
    have hswap : ((b, a) :: right.toList).Perm ((b, a) :: left.toList.map Prod.swap) :=
      hpr.symm.trans (h.2.trans ((h.1.symm.trans hpl).map Prod.swap))
    exact hswap.cons_inv
  have hsize : left.size = right.size := by
    rw [← left.length_toList, ← right.length_toList, hhold.2.length_eq, List.length_map]
  refine ⟨⟨left, right⟩, ?_, left.toList, h.1.symm.trans hpl, hhold⟩
  simp [BiMap.extractRight, hright, hleft, hb, hsize, guard]

end Holds

lemma extractRight_eq_none_of_ne {key2 : β} (hr : m.right.find? key2 = some (b, a)) (hl : m.left.find? a = some (a', b'))
    (hne : cmp2 key2 b' ≠ .eq) : m.extractRight key2 = none := by
  obtain ⟨right, hright, -⟩ := AssocRbTree.extract_eq_some hr
  obtain ⟨left, hleft, -⟩ := AssocRbTree.extract_eq_some hl
  simp [BiMap.extractRight, hright, hleft, hne, guard]

end BiMap

end OwlsRan.Adt
