import OwlsRan.Sched.PdcchPlacement
import OwlsRan.Lib.Outcome

/-!
# PDCCH allocations in a slot

The records, their nodes, the CCE indices and the grid agree as long as a new PDCCH has a free candidate, or neither it
nor any earlier one can be placed otherwise.
-/

namespace OwlsRan.Sched

open OwlsRan.Lib

/-- The records can be given candidates, one after the other, that are free of each other and of the grid. -/
def Assignable (grid : Finset ResourceElement) : List AllocRecord → Prop
  | [] => True
  | r :: rs => ∃ k < r.nofCandidates, Disjoint (r.elements k) grid ∧ Assignable (grid ∪ r.elements k) rs

namespace PdcchSlot

/-- The claims on a slot whose grid held `grid₀` at first. -/
structure Consistent (grid₀ : Finset ResourceElement) (s : PdcchSlot) : Prop where
  length_eq : s.dfsTree.length = s.records.length
  ncce : ∀ (i : Nat) (r : AllocRecord) (n : TreeNode), s.records[i]? = some r → s.dfsTree[i]? = some n →
    ∃ ncce, r.request.pdcchCandidates[n.dciIterIndex]? = some ncce ∧ s.ncce r.pdcchCtx = some ncce
  crbs : (List.zipWith (fun r n => (r.request.numerology, r.crbs n.dciIterIndex)) s.records s.dfsTree).Pairwise
    fun a b => a.1 = b.1 → a.2.Disjoint b.2
  grid : s.dlResGrid = (marks s.records s.dfsTree).foldr (· ∪ ·) grid₀

def FailsCleanly (grid₀ : Finset ResourceElement) (s : PdcchSlot) (ctx : PdcchCtx) (request : PdcchRequest)
    (r : Except PdcchAbort (Bool × PdcchSlot)) : Prop :=
  ∀ s', r = .ok (false, s') → s' = s ∧ ¬Assignable grid₀ (s.records ++ [⟨ctx, request⟩])

def AnswersRight (grid₀ : Finset ResourceElement) (s : PdcchSlot) (e : PdcchEvent) : Prop :=
  match e with
  | .allocDlPdcch request => s.FailsCleanly grid₀ (.dl s.dlPdcchs.length) request (s.call e)
  | .allocUlPdcch request => s.FailsCleanly grid₀ (.ul s.ulPdcchs.length) request (s.call e)
  | .cancelLastPdcch => True

/-- A candidate of the new record is free, or no node can be moved and no assignment avoids collisions. -/
def Decided (grid₀ : Finset ResourceElement) (s : PdcchSlot) (r : AllocRecord) : Prop :=
  (∃ k < r.nofCandidates, Disjoint (r.elements k) s.dlResGrid) ∨
    DfsState.Stuck s.records ⟨s.dlResGrid, s.dfsTree⟩ ∧ ¬Assignable grid₀ (s.records ++ [r])

def NoSearch (grid₀ : Finset ResourceElement) (s : PdcchSlot) : PdcchEvent → Prop
  | .allocDlPdcch request => s.Decided grid₀ ⟨.dl s.dlPdcchs.length, request⟩
  | .allocUlPdcch request => s.Decided grid₀ ⟨.ul s.ulPdcchs.length, request⟩
  | .cancelLastPdcch => True

def dlIndex (r : AllocRecord) : Option Nat :=
  match r.pdcchCtx with
  | .dl i => some i
  | .ul _ => none

def ulIndex (r : AllocRecord) : Option Nat :=
  match r.pdcchCtx with
  | .dl _ => none
  | .ul i => some i

structure Inv (grid₀ : Finset ResourceElement) (s : PdcchSlot) : Prop where
  placed : Placed grid₀ s.records s.dfsTree s.dlResGrid
  dlCtxs : s.records.filterMap dlIndex = List.range s.dlPdcchs.length
  ulCtxs : s.records.filterMap ulIndex = List.range s.ulPdcchs.length
  ncce : ∀ (i : Nat) (r : AllocRecord) (n : TreeNode), s.records[i]? = some r → s.dfsTree[i]? = some n →
    s.ncce r.pdcchCtx = some n.ncce

section Steps

variable {grid₀ : Finset ResourceElement} {s : PdcchSlot} {request : PdcchRequest}

lemma Inv.consistent (h : s.Inv grid₀) : s.Consistent grid₀ where
  length_eq := h.placed.length_eq
  ncce i r n hr hn := ⟨n.ncce, h.placed.node hr hn, h.ncce i r n hr hn⟩
  crbs := by
    have hpair := h.placed.pairwise
    rw [marks, ← List.map_uncurry_zip_eq_zipWith, List.pairwise_map] at hpair
    rw [← List.map_uncurry_zip_eq_zipWith, List.pairwise_map]
    exact hpair.imp fun hdisj hnum => AllocRecord.crbs_disjoint hdisj hnum
  grid := h.placed.grid_eq

lemma inv_start (grid₀ : Finset ResourceElement) : (start grid₀).Inv grid₀ where
  placed := .nil
  dlCtxs := rfl
  ulCtxs := rfl
  ncce := by simp [start]

lemma allocPdcch_of_free (ctx : PdcchCtx)
    (hfree : ∃ k < request.pdcchCandidates.length, Disjoint ((⟨ctx, request⟩ : AllocRecord).elements k) s.dlResGrid) :
    ∃ k < request.pdcchCandidates.length, Disjoint ((⟨ctx, request⟩ : AllocRecord).elements k) s.dlResGrid ∧
      s.allocPdcch ctx request = (true, { s.setNcce ctx (request.pdcchCandidates.getD k 0) with
        dlResGrid := s.dlResGrid ∪ (⟨ctx, request⟩ : AllocRecord).elements k
        dfsTree := s.dfsTree ++ [⟨k, request.pdcchCandidates.getD k 0, s.dfsTree.length⟩]
        records := s.records ++ [⟨ctx, request⟩] }) := by
  cases halloc : (⟨s.dlResGrid, s.dfsTree⟩ : DfsState).allocDfsNode ⟨ctx, request⟩ 0 with
  | none =>
    obtain ⟨k, hk, hdisj⟩ := hfree
    exact absurd hdisj (DfsState.allocDfsNode_eq_none.mp halloc k (Nat.zero_le k) hk)
  | some d' =>
    obtain ⟨k, -, hk, hdisj, rfl⟩ := DfsState.allocDfsNode_eq_some halloc
    refine ⟨k, hk, hdisj, ?_⟩
    cases ctx <;> simp [allocPdcch, DfsState.allocLoop, halloc, setNcce]

lemma allocPdcch_of_stuck (ctx : PdcchCtx) (hlen : s.dfsTree.length = s.records.length)
    (hpos : ∀ r ∈ s.records, 0 < r.nofCandidates) (hstuck : DfsState.Stuck s.records ⟨s.dlResGrid, s.dfsTree⟩)
    (hnone : ∀ k < request.pdcchCandidates.length, ¬Disjoint ((⟨ctx, request⟩ : AllocRecord).elements k) s.dlResGrid) :
    s.allocPdcch ctx request = (false, s) := by
  have halloc : (⟨s.dlResGrid, s.dfsTree⟩ : DfsState).allocDfsNode ⟨ctx, request⟩ 0 = none :=
    DfsState.allocDfsNode_eq_none.mpr fun k _ hk => hnone k hk
  have hbound := length_lt_dfsBound hpos
  have hnext := DfsState.getNextDfs_stuck hstuck (by simp [hlen])
    (show (⟨s.dlResGrid, s.dfsTree⟩ : DfsState).dfsTree.length < dfsBound s.records by simpa [hlen] using hbound)
  simp [allocPdcch, DfsState.allocLoop, halloc, hnext]

lemma Inv.ncce_concat {s' : PdcchSlot} (h : s.Inv grid₀) {r : AllocRecord} {n : TreeNode}
    (hrecords : s'.records = s.records ++ [r]) (htree : s'.dfsTree = s.dfsTree ++ [n])
    (hold : ∀ ctx ncce, s.ncce ctx = some ncce → s'.ncce ctx = some ncce) (hnew : s'.ncce r.pdcchCtx = some n.ncce)
    (i : Nat) (r' : AllocRecord) (n' : TreeNode) (hr : s'.records[i]? = some r') (hn : s'.dfsTree[i]? = some n') :
    s'.ncce r'.pdcchCtx = some n'.ncce := by
  have hlen := h.placed.length_eq
  rw [hrecords, List.getElem?_append] at hr
  rw [htree, List.getElem?_append] at hn
  by_cases hi : i < s.records.length
  · rw [if_pos hi] at hr
    rw [if_pos (by omega)] at hn
    exact hold _ _ (h.ncce i r' n' hr hn)
  · rw [if_neg hi, List.getElem?_singleton, Option.ite_none_right_eq_some] at hr
    rw [if_neg (by omega), List.getElem?_singleton, Option.ite_none_right_eq_some] at hn
    obtain rfl := Option.some.inj hr.2
    obtain rfl := Option.some.inj hn.2
    exact hnew

lemma getElem?_concat_of_some {l : List Nat} {i x : Nat} (y : Nat) (h : l[i]? = some x) : (l ++ [y])[i]? = some x := by
  rwa [List.getElem?_append_left (List.getElem?_eq_some_iff.mp h).1]

lemma Inv.push_dl (h : s.Inv grid₀) {k : Nat} (hk : k < request.pdcchCandidates.length)
    (hdisj : Disjoint ((⟨.dl s.dlPdcchs.length, request⟩ : AllocRecord).elements k) s.dlResGrid) :
    Inv grid₀ {
      dlPdcchs := s.dlPdcchs ++ [request.pdcchCandidates.getD k 0]
      ulPdcchs := s.ulPdcchs
      dlResGrid := s.dlResGrid ∪ (⟨.dl s.dlPdcchs.length, request⟩ : AllocRecord).elements k
      records := s.records ++ [⟨.dl s.dlPdcchs.length, request⟩]
      dfsTree := s.dfsTree ++ [⟨k, request.pdcchCandidates.getD k 0, s.dfsTree.length⟩] } where
  placed := h.placed.concat hk hdisj
  dlCtxs := by simp [h.dlCtxs, dlIndex, List.range_succ]
  ulCtxs := by simp [h.ulCtxs, ulIndex]
  ncce := h.ncce_concat rfl rfl (fun ctx ncce hncce => by
    cases ctx with
    | dl i => exact getElem?_concat_of_some _ hncce
    | ul i => exact hncce) (by simp [PdcchSlot.ncce])

lemma Inv.push_ul (h : s.Inv grid₀) {k : Nat} (hk : k < request.pdcchCandidates.length)
    (hdisj : Disjoint ((⟨.ul s.ulPdcchs.length, request⟩ : AllocRecord).elements k) s.dlResGrid) :
    Inv grid₀ {
      dlPdcchs := s.dlPdcchs
      ulPdcchs := s.ulPdcchs ++ [request.pdcchCandidates.getD k 0]
      dlResGrid := s.dlResGrid ∪ (⟨.ul s.ulPdcchs.length, request⟩ : AllocRecord).elements k
      records := s.records ++ [⟨.ul s.ulPdcchs.length, request⟩]
      dfsTree := s.dfsTree ++ [⟨k, request.pdcchCandidates.getD k 0, s.dfsTree.length⟩] } where
  placed := h.placed.concat hk hdisj
  dlCtxs := by simp [h.dlCtxs, dlIndex]
  ulCtxs := by simp [h.ulCtxs, ulIndex, List.range_succ]
  ncce := h.ncce_concat rfl rfl (fun ctx ncce hncce => by
    cases ctx with
    | dl i => exact hncce
    | ul i => exact getElem?_concat_of_some _ hncce) (by simp [PdcchSlot.ncce])

lemma Inv.allocDlPdcch (h : s.Inv grid₀) (hdecided : s.Decided grid₀ ⟨.dl s.dlPdcchs.length, request⟩) :
    Yields (s.call (.allocDlPdcch request)) (fun p => p.2.Inv grid₀ ∧
      (p.1 = false → p.2 = s ∧ ¬Assignable grid₀ (s.records ++ [⟨.dl s.dlPdcchs.length, request⟩]))) fun _ => True := by
  rw [call, allocDlPdcchHelper]
  refine yields_ite (fun _ => ?_) fun _ => trivial
  let s₁ : PdcchSlot := { s with dlPdcchs := s.dlPdcchs ++ [0] }
  by_cases hfree : ∃ k < request.pdcchCandidates.length,
      Disjoint ((⟨.dl s.dlPdcchs.length, request⟩ : AllocRecord).elements k) s.dlResGrid
  · obtain ⟨k, hk, hdisj, halloc⟩ := allocPdcch_of_free (s := s₁) (.dl s.dlPdcchs.length) hfree
    rw [halloc]
    have hinv := h.push_dl hk hdisj
    simpa [s₁, setNcce] using hinv
  · obtain hfree' | ⟨hstuck, hnone⟩ := hdecided
    · exact absurd hfree' hfree
    · rw [allocPdcch_of_stuck (s := s₁) (.dl s.dlPdcchs.length) h.placed.length_eq h.placed.nofCandidates_pos hstuck
        (by simpa using hfree)]
      simp only [s₁, yields_ok, List.dropLast_concat]
      exact ⟨h, fun _ => ⟨trivial, hnone⟩⟩

lemma Inv.allocUlPdcch (h : s.Inv grid₀) (hdecided : s.Decided grid₀ ⟨.ul s.ulPdcchs.length, request⟩) :
    Yields (s.call (.allocUlPdcch request)) (fun p => p.2.Inv grid₀ ∧
      (p.1 = false → p.2 = s ∧ ¬Assignable grid₀ (s.records ++ [⟨.ul s.ulPdcchs.length, request⟩]))) fun _ => True := by
  rw [call, allocUlPdcchHelper]
  refine yields_ite (fun _ => ?_) fun _ => trivial
  let s₁ : PdcchSlot := { s with ulPdcchs := s.ulPdcchs ++ [0] }
  by_cases hfree : ∃ k < request.pdcchCandidates.length,
      Disjoint ((⟨.ul s.ulPdcchs.length, request⟩ : AllocRecord).elements k) s.dlResGrid
  · obtain ⟨k, hk, hdisj, halloc⟩ := allocPdcch_of_free (s := s₁) (.ul s.ulPdcchs.length) hfree
    rw [halloc]
    have hinv := h.push_ul hk hdisj
    simpa [s₁, setNcce] using hinv
  · obtain hfree' | ⟨hstuck, hnone⟩ := hdecided
    · exact absurd hfree' hfree
    · rw [allocPdcch_of_stuck (s := s₁) (.ul s.ulPdcchs.length) h.placed.length_eq h.placed.nofCandidates_pos hstuck
        (by simpa using hfree)]
      simp only [s₁, yields_ok, List.dropLast_concat]
      exact ⟨h, fun _ => ⟨trivial, hnone⟩⟩

lemma range_length_eq_concat {l : List Nat} {is : List Nat} {i : Nat} (h : is ++ [i] = List.range l.length) :
    i + 1 = l.length ∧ is = List.range l.dropLast.length := by
  obtain rfl | ⟨l', x, rfl⟩ := List.eq_nil_or_concat l
  · simp at h
  · rw [List.concat_eq_append, List.length_append, List.length_singleton, List.range_succ] at h
    obtain ⟨his, hi⟩ := List.append_inj' h rfl
    exact ⟨by simpa using hi, by simpa using his⟩

lemma getElem?_dropLast_of_lt {l : List Nat} {i : Nat} (h : i < l.dropLast.length) : l.dropLast[i]? = l[i]? := by
  rw [List.getElem?_dropLast, if_pos (by simpa using h)]

lemma Inv.cancelLastPdcch (h : s.Inv grid₀) : s.cancelLastPdcch.2.Inv grid₀ := by
  obtain ⟨dlPdcchs, ulPdcchs, dlResGrid, records, dfsTree⟩ := s
  obtain ⟨hplaced, hdl, hul, hncce⟩ := h
  simp only at hplaced hdl hul hncce
  cases hplaced with
  | nil => exact ⟨.nil, hdl, hul, hncce⟩
  | @concat rs ns grid hprev r k hk hfree =>
    have hgrid : (grid ∪ r.elements k) \ r.elements k = grid := Finset.union_sdiff_cancel_right hfree.symm
    have hlen := hprev.length_eq
    -- Every earlier record keeps its place.
    have hold : ∀ (i : Nat) (r' : AllocRecord) (n' : TreeNode), rs[i]? = some r' → ns[i]? = some n' →
        r' ∈ rs ∧ PdcchSlot.ncce ⟨dlPdcchs, ulPdcchs, grid ∪ r.elements k, rs ++ [r],
          ns ++ [⟨k, r.request.pdcchCandidates.getD k 0, ns.length⟩]⟩ r'.pdcchCtx = some n'.ncce := by
      intro i r' n' hr' hn'
      have hi : i < rs.length := (List.getElem?_eq_some_iff.mp hr').1
      refine ⟨List.mem_of_getElem? hr', hncce i r' n' ?_ ?_⟩
      · rwa [List.getElem?_append_left hi]
      · rwa [List.getElem?_append_left (by omega)]
    obtain ⟨ctx, request⟩ := r
    cases ctx with
    | dl i =>
      have hdl' : rs.filterMap dlIndex ++ [i] = List.range dlPdcchs.length := by simpa [dlIndex] using hdl
      have hul' : rs.filterMap ulIndex = List.range ulPdcchs.length := by
        simpa [ulIndex, List.filterMap_cons] using hul
      obtain ⟨hi, hrange⟩ := range_length_eq_concat hdl'
      simp only [PdcchSlot.cancelLastPdcch, List.getLast?_append, List.getLast?_singleton, Option.some_or, hi, if_true,
        List.dropLast_concat, hgrid]
      refine ⟨hprev, hrange, hul', fun j r' n' hr' hn' => ?_⟩
      obtain ⟨hmem, hncce'⟩ := hold j r' n' hr' hn'
      cases hctx : r'.pdcchCtx with
      | dl m =>
        have hm : m ∈ rs.filterMap dlIndex := List.mem_filterMap.mpr ⟨r', hmem, by simp [dlIndex, hctx]⟩
        rw [hrange, List.mem_range] at hm
        rw [hctx] at hncce'
        simpa only [PdcchSlot.ncce, getElem?_dropLast_of_lt hm] using hncce'
      | ul m =>
        rw [hctx] at hncce'
        exact hncce'
    | ul i =>
      have hul' : rs.filterMap ulIndex ++ [i] = List.range ulPdcchs.length := by simpa [ulIndex] using hul
      have hdl' : rs.filterMap dlIndex = List.range dlPdcchs.length := by
        simpa [dlIndex, List.filterMap_cons] using hdl
      obtain ⟨hi, hrange⟩ := range_length_eq_concat hul'
      simp only [PdcchSlot.cancelLastPdcch, List.getLast?_append, List.getLast?_singleton, Option.some_or, hi, if_true,
        List.dropLast_concat, hgrid]
      refine ⟨hprev, hdl', hrange, fun j r' n' hr' hn' => ?_⟩
      obtain ⟨hmem, hncce'⟩ := hold j r' n' hr' hn'
      cases hctx : r'.pdcchCtx with
      | dl m =>
        rw [hctx] at hncce'
        exact hncce'
      | ul m =>
        have hm : m ∈ rs.filterMap ulIndex := List.mem_filterMap.mpr ⟨r', hmem, by simp [ulIndex, hctx]⟩
        rw [hrange, List.mem_range] at hm
        rw [hctx] at hncce'
        simpa only [PdcchSlot.ncce, getElem?_dropLast_of_lt hm] using hncce'

lemma Inv.call (h : s.Inv grid₀) {e : PdcchEvent} (hno : s.NoSearch grid₀ e) :
    Yields (s.call e) (fun p => p.2.Inv grid₀) (fun _ => True) ∧ s.AnswersRight grid₀ e := by
  cases e with
  | allocDlPdcch request =>
    have hcall := h.allocDlPdcch hno
    exact ⟨hcall.post fun p hp => hp.1, fun s' hs' => (hcall.of_ok hs').2 rfl⟩
  | allocUlPdcch request =>
    have hcall := h.allocUlPdcch hno
    exact ⟨hcall.post fun p hp => hp.1, fun s' hs' => (hcall.of_ok hs').2 rfl⟩
  | cancelLastPdcch => exact ⟨h.cancelLastPdcch, trivial⟩

/-- When no request makes the search move an earlier PDCCH, after every call the records, the nodes, the CCE indices
and the grid agree, and a request fails only if there is no way to place it, leaving everything as it was. -/
theorem pdcch_alloc_consistent (grid₀ : Finset ResourceElement) (es : List PdcchEvent)
    (hrun : RunsWithin step (NoSearch grid₀) (start grid₀) es) :
    HoldsThroughout step (Consistent grid₀) (start grid₀) es ∧ RunsWithin step (AnswersRight grid₀) (start grid₀) es := by
  have hinv : ∀ s e s', Inv grid₀ s → NoSearch grid₀ s e → step s e = .ok s' → Inv grid₀ s' := by
    intro s e s' h hno hs'
    obtain ⟨⟨b, s''⟩, hcall, hs'⟩ := bind_eq_ok.mp hs'
    obtain rfl := Except.ok.inj hs'
    exact (h.call hno).1.of_ok hcall
  exact runsWithin_establishes (Inv grid₀) (fun s h => h.consistent) hinv (fun s e h hno => (h.call hno).2)
    (inv_start grid₀) hrun

end Steps

instance decidableAssignable : ∀ (grid : Finset ResourceElement) (rs : List AllocRecord), Decidable (Assignable grid rs)
  | _, [] => isTrue trivial
  | grid, r :: rs =>
    have := fun k => decidableAssignable (grid ∪ r.elements k) rs
    inferInstanceAs (Decidable (∃ k < r.nofCandidates, Disjoint (r.elements k) grid ∧ Assignable _ rs))

instance (grid₀ : Finset ResourceElement) (s : PdcchSlot) (r : AllocRecord) : Decidable (s.Decided grid₀ r) :=
  inferInstanceAs (Decidable ((∃ k < r.nofCandidates, _) ∨ _ ∧ _))

instance (grid₀ : Finset ResourceElement) (s : PdcchSlot) (e : PdcchEvent) : Decidable (s.NoSearch grid₀ e) :=
  match e with
  | .allocDlPdcch request => inferInstanceAs (Decidable (s.Decided grid₀ ⟨.dl s.dlPdcchs.length, request⟩))
  | .allocUlPdcch request => inferInstanceAs (Decidable (s.Decided grid₀ ⟨.ul s.ulPdcchs.length, request⟩))
  | .cancelLastPdcch => isTrue trivial

section Example

/-- A CORESET of one symbol and twelve CRBs, at 30 kHz: candidates of one CCE, or the first of them only. -/
def twoCandidates : PdcchRequest := ⟨1, 1, [0, 1], [[0, 1, 2, 3, 4, 5], [6, 7, 8, 9, 10, 11]], by decide, rfl⟩

def firstCandidate : PdcchRequest := ⟨1, 1, [0], [[0, 1, 2, 3, 4, 5]], by decide, rfl⟩

/-- A DL and an UL PDCCH that fill the CORESET, a third one that finds no place, and the last one given back. -/
theorem pdcch_alloc_consistent_full :
    let es := [.allocDlPdcch firstCandidate, .allocUlPdcch twoCandidates, .allocDlPdcch firstCandidate, .cancelLastPdcch]
    HoldsThroughout step (Consistent ∅) (start ∅) es ∧ RunsWithin step (AnswersRight ∅) (start ∅) es :=
  pdcch_alloc_consistent ∅ _ (by decide +kernel)

/-- The first PDCCH could make room by moving to its other candidate: the request fails nevertheless, and the other
candidate stays in the grid. -/
theorem pdcch_alloc_not_consistent :
    ∃ s s', runEvents step (start ∅) [.allocDlPdcch twoCandidates] = .ok s ∧
      s.call (.allocUlPdcch firstCandidate) = .ok (false, s') ∧
      Assignable ∅ (s.records ++ [⟨.ul 0, firstCandidate⟩]) ∧ s'.dlResGrid ≠ s.dlResGrid ∧ ¬s'.Consistent ∅ := by
  refine ⟨_, _, rfl, rfl, by decide +kernel, by decide +kernel, fun h => ?_⟩
  have hgrid := h.grid
  revert hgrid
  decide +kernel

end Example

end PdcchSlot

end OwlsRan.Sched
