import OwlsRan.Sched.PdcchSlotAllocator
import Mathlib.Algebra.Order.BigOperators.Group.List

/-!
# What a PDCCH search finds

The records of a slot have candidates that are free of each other and of what the grid held before.
-/

namespace OwlsRan.Sched

open OwlsRan.Lib

/-- Each record has a candidate that is free of the earlier ones and of the first grid. -/
inductive Placed (grid₀ : Finset ResourceElement) :
    List AllocRecord → List TreeNode → Finset ResourceElement → Prop
  | nil : Placed grid₀ [] [] grid₀
  | concat {rs : List AllocRecord} {ns : List TreeNode} {grid : Finset ResourceElement} (h : Placed grid₀ rs ns grid)
      {r : AllocRecord} {k : Nat} (hk : k < r.nofCandidates) (hfree : Disjoint (r.elements k) grid) :
      Placed grid₀ (rs ++ [r]) (ns ++ [⟨k, r.request.pdcchCandidates.getD k 0, ns.length⟩]) (grid ∪ r.elements k)

def marks (rs : List AllocRecord) (ns : List TreeNode) : List (Finset ResourceElement) :=
  List.zipWith (fun r n => r.elements n.dciIterIndex) rs ns

section Placed

variable {grid₀ grid : Finset ResourceElement} {rs : List AllocRecord} {ns : List TreeNode}

lemma Placed.length_eq (h : Placed grid₀ rs ns grid) : ns.length = rs.length := by
  induction h with
  | nil => rfl
  | concat h hk hfree ih => simp [ih]

lemma marks_concat (h : ns.length = rs.length) (r : AllocRecord) (n : TreeNode) :
    marks (rs ++ [r]) (ns ++ [n]) = marks rs ns ++ [r.elements n.dciIterIndex] := by
  simp [marks, List.zipWith_append h.symm]

lemma foldr_union_concat (l : List (Finset ResourceElement)) (a : Finset ResourceElement) :
    (l ++ [a]).foldr (· ∪ ·) grid₀ = l.foldr (· ∪ ·) grid₀ ∪ a := by
  induction l with
  | nil => simp [Finset.union_comm]
  | cons b l ih => simp [ih, Finset.union_assoc]

lemma Placed.grid_eq (h : Placed grid₀ rs ns grid) : grid = (marks rs ns).foldr (· ∪ ·) grid₀ := by
  induction h with
  | nil => rfl
  | concat h hk hfree ih => rw [marks_concat h.length_eq, foldr_union_concat, ← ih]

lemma Placed.subset (h : Placed grid₀ rs ns grid) : ∀ m ∈ marks rs ns, m ⊆ grid := by
  induction h with
  | nil => simp [marks]
  | concat h hk hfree ih =>
    intro m hm
    rw [marks_concat h.length_eq, List.mem_append, List.mem_singleton] at hm
    obtain hm | rfl := hm
    · exact (ih m hm).trans Finset.subset_union_left
    · exact Finset.subset_union_right

lemma Placed.pairwise (h : Placed grid₀ rs ns grid) : (marks rs ns).Pairwise Disjoint := by
  induction h with
  | nil => simp [marks]
  | concat h hk hfree ih =>
    rw [marks_concat h.length_eq, List.pairwise_append]
    refine ⟨ih, List.pairwise_singleton _ _, fun m hm m' hm' => ?_⟩
    obtain rfl := List.mem_singleton.mp hm'
    exact (Finset.disjoint_of_subset_right (h.subset m hm) hfree).symm

lemma Placed.node (h : Placed grid₀ rs ns grid) {i : Nat} {r : AllocRecord} {n : TreeNode} (hr : rs[i]? = some r)
    (hn : ns[i]? = some n) : r.request.pdcchCandidates[n.dciIterIndex]? = some n.ncce := by
  induction h with
  | nil => simp at hr
  | @concat rs ns grid h r' k hk hfree ih =>
    rw [List.getElem?_append] at hr hn
    by_cases hi : i < rs.length
    · rw [if_pos hi] at hr
      rw [if_pos (by rwa [h.length_eq])] at hn
      exact ih hr hn
    · rw [if_neg hi] at hr
      rw [if_neg (by rwa [h.length_eq]), h.length_eq] at hn
      obtain ⟨hzero, rfl⟩ : i - rs.length = 0 ∧ r' = r := by
        cases hj : i - rs.length with
        | zero => exact ⟨rfl, by simpa [hj] using hr⟩
        | succ j => simp [hj] at hr
      obtain rfl : _ = n := by simpa [hzero] using hn
      have hk' : k < r'.request.pdcchCandidates.length := hk
      simp [hk']

lemma Placed.nofCandidates_pos (h : Placed grid₀ rs ns grid) : ∀ r ∈ rs, 0 < r.nofCandidates := by
  induction h with
  | nil => simp
  | concat h hk hfree ih =>
    intro r hr
    obtain hr | hr := List.mem_append.mp hr
    · exact ih r hr
    · obtain rfl := List.mem_singleton.mp hr
      exact Nat.zero_lt_of_lt hk

end Placed

namespace AllocRecord

/-- Two parts of one numerology that do not meet have no CRB in common: both have symbol `0`. -/
lemma crbs_disjoint {r r' : AllocRecord} {k k' : Nat} (h : Disjoint (r.elements k) (r'.elements k'))
    (hnum : r.request.numerology = r'.request.numerology) : (r.crbs k).Disjoint (r'.crbs k') := by
  intro crb hcrb hcrb'
  have hmem : (⟨r.request.numerology, 0, crb⟩ : ResourceElement) ∈ r.elements k :=
    Finset.mem_image.mpr ⟨(0, crb), by simp [r.request.duration_pos, hcrb], rfl⟩
  have hmem' : (⟨r.request.numerology, 0, crb⟩ : ResourceElement) ∈ r'.elements k' :=
    Finset.mem_image.mpr ⟨(0, crb), by simp [r'.request.duration_pos, hcrb'], by rw [hnum]⟩
  exact Finset.disjoint_left.mp h hmem hmem'

end AllocRecord

namespace DfsState

variable {d d' : DfsState} {r : AllocRecord} {records : List AllocRecord} {i : Nat}

lemma allocDfsNode_eq_none :
    d.allocDfsNode r i = none ↔ ∀ k, i ≤ k → k < r.nofCandidates → ¬Disjoint (r.elements k) d.dlResGrid := by
  simp only [allocDfsNode, List.findSome?_eq_none_iff, List.mem_range'_1, Option.map_eq_none_iff, allocateCce,
    ite_eq_right_iff, reduceCtorEq, imp_false]
  constructor
  · exact fun h k hik hk => h k ⟨hik, by omega⟩
  · exact fun h k hk => h k hk.1 (by omega)

lemma allocDfsNode_eq_some (h : d.allocDfsNode r i = some d') :
    ∃ k, i ≤ k ∧ k < r.nofCandidates ∧ Disjoint (r.elements k) d.dlResGrid ∧
      d' = ⟨d.dlResGrid ∪ r.elements k,
        d.dfsTree ++ [⟨k, r.request.pdcchCandidates.getD k 0, d.dfsTree.length⟩]⟩ := by
  obtain ⟨k, hk, hd'⟩ := List.exists_of_findSome?_eq_some h
  obtain ⟨grid, hgrid, rfl⟩ := Option.map_eq_some_iff.mp hd'
  rw [List.mem_range'_1] at hk
  rw [allocateCce, Option.ite_none_right_eq_some] at hgrid
  obtain ⟨hfree, hgrid⟩ := hgrid
  obtain rfl := Option.some.inj hgrid
  exact ⟨k, hk.1, by omega, hfree, rfl⟩

def Stuck (records : List AllocRecord) (d : DfsState) : Prop :=
  ∀ p ∈ records.zip d.dfsTree, ∀ k < p.1.nofCandidates, p.2.dciIterIndex < k → ¬Disjoint (p.1.elements k) d.dlResGrid

instance (records : List AllocRecord) (d : DfsState) : Decidable (Stuck records d) :=
  inferInstanceAs (Decidable (∀ p ∈ records.zip d.dfsTree, ∀ k < _, _))

lemma stuck_iff : Stuck records d ↔ ∀ (i : Nat) (r : AllocRecord) (n : TreeNode), records[i]? = some r →
    d.dfsTree[i]? = some n → ∀ k < r.nofCandidates, n.dciIterIndex < k → ¬Disjoint (r.elements k) d.dlResGrid := by
  constructor
  · exact fun h i r n hr hn => h (r, n) (List.mem_of_getElem? (List.getElem?_zip_eq_some.mpr ⟨hr, hn⟩))
  · intro h p hp
    obtain ⟨i, hi⟩ := List.mem_iff_getElem?.mp hp
    obtain ⟨hr, hn⟩ := List.getElem?_zip_eq_some.mp hi
    exact h i p.1 p.2 hr hn

lemma getNextDfs_stuck {fuel : Nat} (hstuck : Stuck records d) (hlen : d.dfsTree.length ≤ records.length)
    (hfuel : d.dfsTree.length < fuel) : d.getNextDfs records fuel = (false, ⟨d.dlResGrid, []⟩) := by
  obtain ⟨grid, ns⟩ := d
  simp only at hlen hfuel
  induction ns using List.reverseRecOn generalizing fuel with
  | nil =>
    cases fuel with
    | zero => simp at hfuel
    | succ fuel => simp [getNextDfs]
  | append_singleton ns n ih =>
    cases fuel with
    | zero => simp at hfuel
    | succ fuel =>
      rw [List.length_append, List.length_singleton] at hlen hfuel
      have hlt : ns.length < records.length := by omega
      have hr : records[ns.length]? = some records[ns.length] := List.getElem?_eq_getElem hlt
      have hnone : (⟨grid, ns⟩ : DfsState).allocDfsNode records[ns.length] (n.dciIterIndex + 1) = none :=
        allocDfsNode_eq_none.mpr fun k hk hkn => stuck_iff.mp hstuck ns.length _ n hr (by simp) k hkn (by omega)
      have hdescend : (⟨grid, ns⟩ : DfsState).descend (n.dciIterIndex + 1) (records.drop ns.length) = ⟨grid, ns⟩ := by
        rw [List.drop_eq_getElem_cons hlt, descend, hnone]
      have hstuck' : Stuck records ⟨grid, ns⟩ := stuck_iff.mpr fun i r n' hr' hn' =>
        stuck_iff.mp hstuck i r n' hr' (by
          have hi : i < ns.length := (List.getElem?_eq_some_iff.mp hn').1
          simpa [List.getElem?_append_left hi] using hn')
      rw [getNextDfs]
      simp only [List.getLast?_append, List.getLast?_singleton, Option.some_or, List.dropLast_concat, hdescend]
      rw [if_pos (by omega)]
      exact ih hstuck' (by omega) (by omega)

end DfsState

lemma length_lt_dfsBound {records : List AllocRecord} (hpos : ∀ r ∈ records, 0 < r.nofCandidates) :
    records.length < dfsBound records := by
  induction records with
  | nil => simp [dfsBound]
  | cons r rs ih =>
    have hrs := ih fun r' hr' => hpos r' (List.mem_cons_of_mem r hr')
    have hr := hpos r List.mem_cons_self
    have hmul : 2 * dfsBound rs ≤ (r.nofCandidates + 1) * dfsBound rs := Nat.mul_le_mul_right _ (by omega)
    have hcons : dfsBound (r :: rs) = (r.nofCandidates + 1) * dfsBound rs := by simp [dfsBound]
    rw [List.length_cons, hcons]
    omega

def treesLeft : List AllocRecord → List TreeNode → Nat
  | [], _ => 0
  | _ :: _, [] => 0
  | r :: rs, n :: ns => (r.nofCandidates - n.dciIterIndex) * dfsBound rs + treesLeft rs ns

inductive TreeFor : List AllocRecord → List TreeNode → Prop
  | nil (rs : List AllocRecord) : TreeFor rs []
  | cons {rs : List AllocRecord} {ns : List TreeNode} (h : TreeFor rs ns) {r : AllocRecord} {n : TreeNode}
      (hn : n.dciIterIndex < r.nofCandidates) : TreeFor (r :: rs) (n :: ns)

section Search

variable {records rs : List AllocRecord} {ns ns' : List TreeNode} {n : TreeNode}

lemma dfsBound_pos (rs : List AllocRecord) : 0 < dfsBound rs := by
  induction rs with
  | nil => simp [dfsBound]
  | cons r rs ih => simpa [dfsBound] using ih

lemma TreeFor.treesLeft_lt (h : TreeFor rs ns) : treesLeft rs ns < dfsBound rs := by
  induction h with
  | nil rs =>
    cases rs with
    | nil => simp [treesLeft, dfsBound]
    | cons r rs => exact dfsBound_pos _
  | @cons rs ns h r n hn ih =>
    have hcons : dfsBound (r :: rs) = (r.nofCandidates + 1) * dfsBound rs := by simp [dfsBound]
    have hmul : (r.nofCandidates - n.dciIterIndex + 1) * dfsBound rs ≤ (r.nofCandidates + 1) * dfsBound rs :=
      Nat.mul_le_mul_right _ (by omega)
    rw [treesLeft, hcons]
    rw [Nat.succ_mul] at hmul
    omega

lemma TreeFor.append (h : TreeFor rs (ns ++ [n])) (h' : TreeFor (rs.drop ns.length) ns') : TreeFor rs (ns ++ ns') := by
  induction ns generalizing rs with
  | nil => simpa using h'
  | cons m ns ih =>
    cases h with
    | cons h hm => exact .cons (ih h h') hm

lemma TreeFor.treesLeft_append_lt (h : TreeFor rs (ns ++ [n])) (h' : TreeFor (rs.drop ns.length) ns')
    (hlater : ∀ n' ∈ ns'.head?, n.dciIterIndex < n'.dciIterIndex) :
    treesLeft rs (ns ++ ns') < treesLeft rs (ns ++ [n]) := by
  induction ns generalizing rs with
  | nil =>
    cases h with
    | @cons rs' ns'' h r n hn =>
      have hpos := dfsBound_pos rs'
      simp only [List.nil_append, treesLeft]
      cases h' with
      | nil =>
        have hmul := Nat.mul_pos (Nat.sub_pos_of_lt hn) hpos
        cases rs' <;> simpa [treesLeft] using hmul
      | @cons _ ns' h' r n' hn' =>
        have hlt : n.dciIterIndex < n'.dciIterIndex := hlater n' rfl
        have hleft := h'.treesLeft_lt
        have hmul : (r.nofCandidates - n'.dciIterIndex + 1) * dfsBound rs' ≤
            (r.nofCandidates - n.dciIterIndex) * dfsBound rs' := Nat.mul_le_mul_right _ (by omega)
        rw [Nat.succ_mul] at hmul
        rw [treesLeft]
        omega
  | cons m ns ih =>
    cases h with
    | cons h hm =>
      have hlt := ih h h'
      simp only [List.cons_append, treesLeft]
      omega

namespace DfsState

variable {d : DfsState}

lemma descend_dfsTree (d : DfsState) (start : Nat) (rs : List AllocRecord) :
    ∃ ns, (d.descend start rs).dfsTree = d.dfsTree ++ ns ∧ TreeFor rs ns ∧ ∀ n ∈ ns.head?, start ≤ n.dciIterIndex := by
  induction rs generalizing d start with
  | nil => exact ⟨[], by simp [descend], .nil _, by simp⟩
  | cons r rs ih =>
    rw [descend]
    cases halloc : d.allocDfsNode r start with
    | none => exact ⟨[], by simp, .nil _, by simp⟩
    | some d' =>
      obtain ⟨k, hstart, hk, -, rfl⟩ := allocDfsNode_eq_some halloc
      obtain ⟨ns, hns, htree, -⟩ := ih ⟨d.dlResGrid ∪ r.elements k,
        d.dfsTree ++ [⟨k, r.request.pdcchCandidates.getD k 0, d.dfsTree.length⟩]⟩ 0
      exact ⟨_ :: ns, by simpa using hns, .cons htree hk, by simpa using hstart⟩

/-- The tree that `get_next_dfs` gives is one of those that were left, and more fuel than for these changes nothing. -/
lemma getNextDfs_fuel {fuel : Nat} (h : TreeFor records d.dfsTree) (hfuel : treesLeft records d.dfsTree < fuel) :
    d.getNextDfs records (fuel + 1) = d.getNextDfs records fuel ∧
      ((d.getNextDfs records fuel).1 = true → TreeFor records (d.getNextDfs records fuel).2.dfsTree ∧
        treesLeft records (d.getNextDfs records fuel).2.dfsTree < treesLeft records d.dfsTree) := by
  induction fuel generalizing d with
  | zero => simp at hfuel
  | succ fuel ih =>
    rw [getNextDfs, getNextDfs]
    obtain hnil | ⟨ns, n, hns⟩ := List.eq_nil_or_concat d.dfsTree
    · simp [hnil]
    · simp only [hns, List.concat_eq_append, List.getLast?_append, List.getLast?_singleton, Option.some_or,
        List.dropLast_concat] at h hfuel ⊢
      obtain ⟨ns', hns', htree, hlater⟩ :=
        descend_dfsTree { d with dfsTree := ns } (n.dciIterIndex + 1) (records.drop ns.length)
      have hnext := h.append htree
      have hlt := h.treesLeft_append_lt htree hlater
      rw [← hns'] at hnext hlt
      split
      · obtain ⟨heq, hgo⟩ := ih hnext (by omega)
        refine ⟨heq, fun htrue => ?_⟩
        obtain ⟨hfor, hleft⟩ := hgo htrue
        exact ⟨hfor, by omega⟩
      · exact ⟨rfl, fun _ => ⟨hnext, hlt⟩⟩

/-- The search of `alloc_pdcch` ends before the fuel does. -/
theorem allocLoop_fuel {fuel : Nat} {moved : Bool} (r : AllocRecord) (h : TreeFor records d.dfsTree)
    (hfuel : treesLeft records d.dfsTree + 1 < fuel) :
    d.allocLoop records r (fuel + 1) moved = d.allocLoop records r fuel moved := by
  induction fuel generalizing d moved with
  | zero => simp at hfuel
  | succ fuel ih =>
    rw [allocLoop, allocLoop]
    cases d.allocDfsNode r 0 with
    | some d' => rfl
    | none =>
      obtain ⟨heq, hgo⟩ := getNextDfs_fuel h (by omega : treesLeft records d.dfsTree < fuel)
      simp only [heq]
      cases hnext : d.getNextDfs records fuel with
      | mk found d' =>
        cases found with
        | false => rfl
        | true =>
          rw [hnext] at hgo
          obtain ⟨hfor, hleft⟩ := hgo rfl
          exact ih hfor (by simp only at hleft; omega)

end DfsState

end Search

/-! A search never takes anything off the grid. -/

section Growth

variable {records : List AllocRecord} {r : AllocRecord}

namespace DfsState

lemma allocDfsNode_subset {d d' : DfsState} {i : Nat} (h : d.allocDfsNode r i = some d') : d.dlResGrid ⊆ d'.dlResGrid := by
  obtain ⟨k, -, -, -, rfl⟩ := allocDfsNode_eq_some h
  exact Finset.subset_union_left

lemma descend_subset (d : DfsState) (start : Nat) (rs : List AllocRecord) :
    d.dlResGrid ⊆ (d.descend start rs).dlResGrid := by
  induction rs generalizing d start with
  | nil => exact Finset.Subset.refl _
  | cons r rs ih =>
    rw [descend]
    cases halloc : d.allocDfsNode r start with
    | none => exact Finset.Subset.refl _
    | some d' => exact (allocDfsNode_subset halloc).trans (ih d' 0)

lemma getNextDfs_subset (d : DfsState) (fuel : Nat) : d.dlResGrid ⊆ (d.getNextDfs records fuel).2.dlResGrid := by
  induction fuel generalizing d with
  | zero => exact Finset.Subset.refl _
  | succ fuel ih =>
    rw [getNextDfs]
    cases hlast : d.dfsTree.getLast? with
    | none => exact Finset.Subset.refl _
    | some last =>
      have hdescend := descend_subset { d with dfsTree := d.dfsTree.dropLast } (last.dciIterIndex + 1)
        (records.drop d.dfsTree.dropLast.length)
      dsimp only at hdescend ⊢
      split
      · exact hdescend.trans (ih _)
      · exact hdescend

lemma allocLoop_of_none {d : DfsState} (fuel : Nat) (moved : Bool)
    (hnone : ∀ k < r.nofCandidates, ¬Disjoint (r.elements k) d.dlResGrid) :
    (d.allocLoop records r fuel moved).1 = false ∧
      d.dlResGrid ⊆ (d.allocLoop records r fuel moved).2.2.dlResGrid := by
  induction fuel generalizing d moved with
  | zero => exact ⟨rfl, Finset.Subset.refl _⟩
  | succ fuel ih =>
    have halloc : d.allocDfsNode r 0 = none := allocDfsNode_eq_none.mpr fun k _ hk => hnone k hk
    have hnext := @getNextDfs_subset records d fuel
    rw [allocLoop, halloc]
    cases hd' : d.getNextDfs records fuel with
    | mk found d' =>
      rw [hd'] at hnext
      cases found with
      | false => exact ⟨rfl, hnext⟩
      | true =>
        have hnone' : ∀ k < r.nofCandidates, ¬Disjoint (r.elements k) d'.dlResGrid :=
          fun k hk hdisj => hnone k hk (Finset.disjoint_of_subset_right hnext hdisj)
        obtain ⟨hfalse, hsub⟩ := ih true hnone'
        exact ⟨hfalse, hnext.trans hsub⟩

lemma getNextDfs_grows {d : DfsState} {fuel : Nat} (hmove : ¬ Stuck records d)
    (hlen : d.dfsTree.length ≤ records.length) (hfuel : d.dfsTree.length ≤ fuel)
    (hne : ∀ r ∈ records, ∀ k < r.nofCandidates, (r.elements k).Nonempty) :
    ¬ (d.getNextDfs records fuel).2.dlResGrid ⊆ d.dlResGrid := by
  obtain ⟨grid, ns⟩ := d
  simp only at hlen hfuel
  induction ns using List.reverseRecOn generalizing fuel with
  | nil =>
    refine absurd (stuck_iff.mpr fun i r n hr hn => ?_) hmove
    cases hn
  | append_singleton ns n ih =>
    cases fuel with
    | zero => simp at hfuel
    | succ fuel =>
      rw [List.length_append, List.length_singleton] at hlen hfuel
      have hlt : ns.length < records.length := by omega
      have hr : records[ns.length]? = some records[ns.length] := List.getElem?_eq_getElem hlt
      rw [getNextDfs]
      simp only [List.getLast?_append, List.getLast?_singleton, Option.some_or, List.dropLast_concat]
      rw [List.drop_eq_getElem_cons hlt, descend]
      cases halloc : (⟨grid, ns⟩ : DfsState).allocDfsNode records[ns.length] (n.dciIterIndex + 1) with
      | none =>
        have hmove' : ¬ Stuck records ⟨grid, ns⟩ := by
          intro hstuck
          apply hmove
          refine stuck_iff.mpr fun i r m hri hm => ?_
          rw [List.getElem?_append] at hm
          split at hm
          · exact stuck_iff.mp hstuck i r m hri hm
          · obtain ⟨hi, rfl⟩ : i - ns.length = 0 ∧ n = m := by
              cases hj : i - ns.length with
              | zero => exact ⟨rfl, by simpa [hj] using hm⟩
              | succ j => simp [hj] at hm
            obtain rfl : i = ns.length := by omega
            obtain rfl := Option.some.inj (hr.symm.trans hri)
            intro k hk hlater
            exact allocDfsNode_eq_none.mp halloc k hlater hk
        dsimp only
        rw [if_pos hlt]
        exact ih hmove' (by omega) (by omega)
      | some d' =>
        obtain ⟨k, -, hk, hdisj, rfl⟩ := allocDfsNode_eq_some halloc
        obtain ⟨x, hx⟩ := hne _ (List.getElem_mem hlt) k hk
        have hout : x ∉ grid := Finset.disjoint_left.mp hdisj hx
        dsimp only
        intro hsub
        apply hout
        apply hsub
        have hdescend := descend_subset ⟨grid ∪ records[ns.length].elements k,
          ns ++ [⟨k, records[ns.length].request.pdcchCandidates.getD k 0, ns.length⟩]⟩ 0
          (records.drop (ns.length + 1)) (Finset.mem_union_right _ hx)
        split
        · exact getNextDfs_subset _ _ hdescend
        · exact hdescend

end DfsState

end Growth

end OwlsRan.Sched
