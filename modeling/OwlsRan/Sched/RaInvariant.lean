import OwlsRan.Lib.Outcome
import OwlsRan.Sched.RaScheduler

/-!
# The entries of Msg3s

An entry is free, or it waits for a RAR with an empty HARQ, or its RAR was sent and its HARQ is in use.
-/

namespace OwlsRan.Sched

open OwlsRan.Lib OwlsRan.Ran

def RaAbort.Sound : RaAbort → Prop
  | .msg3NotBusy => False
  | .msg3HarqNotAvailable => False
  | _ => True

namespace Msg3Table

variable {cfg : RaConfig} {c c' : Msg3Table} {tcs tcs' dead dead' : List Nat} {tc i : Nat}

structure View where
  entry : PendingMsg3
  nofHarqs : Nat
  status : HarqState
  nofGrants : Nat

def view (c : Msg3Table) (i : Nat) : View :=
  ⟨c.entries i, (c.harqs.ues i).nofHarqs, (c.harqs.harq ⟨i, 0⟩).status, c.nofGrants i⟩

structure View.Free (v : View) : Prop where
  busy : v.entry.busy = false
  nofHarqs : v.nofHarqs = 0
  status : v.status = .empty

structure View.Busy (v : View) : Prop where
  busy : v.entry.busy = true
  nofHarqs : v.nofHarqs = 1

structure View.Waiting (v : View) (tcRnti : Nat) : Prop extends v.Busy where
  tcRnti : v.entry.tcRnti = tcRnti
  status : v.status = .empty
  nofGrants : v.nofGrants = 0

structure View.Sent (v : View) : Prop extends v.Busy where
  status : v.status ≠ .empty

/-- `tcs` are the TC-RNTIs that wait for a RAR, and `dead` the entries whose HARQ a slot indication has just deleted. -/
structure Msg3Inv (cfg : RaConfig) (c : Msg3Table) (tcs dead : List Nat) : Prop where
  harqs : c.harqs.HarqInv cfg.harq
  nodup : (tcs.map msg3Idx ++ dead).Nodup
  pos : ∀ tc ∈ tcs, 0 < tc
  waiting : ∀ tc ∈ tcs, (c.view (msg3Idx tc)).Waiting tc
  deleted : ∀ i ∈ dead, (c.view i).Busy
  rest : ∀ i, i ∉ tcs.map msg3Idx → i ∉ dead → (c.view i).Free ∨ (c.view i).Sent
  rnti : ∀ i, msg3Idx (c.view i).entry.tcRnti = i ∨ (c.view i).entry.tcRnti = 0
  grants : ∀ i, (c.view i).nofGrants ≤ 1

/-- `c'` differs from `c` in the entry `i` only. -/
structure Moves (cfg : RaConfig) (i : Nat) (c c' : Msg3Table) : Prop where
  harqs : c'.harqs.HarqInv cfg.harq
  frame : ∀ j ≠ i, c'.view j = c.view j
  rnti : msg3Idx (c'.view i).entry.tcRnti = i ∨ (c'.view i).entry.tcRnti = 0
  grants : (c'.view i).nofGrants ≤ 1

section Phases

lemma Msg3Inv.perm (hI : Msg3Inv cfg c tcs dead) (hperm : tcs.Perm tcs') : Msg3Inv cfg c tcs' dead where
  harqs := hI.harqs
  nodup := ((hperm.map msg3Idx).append_right dead).nodup_iff.mp hI.nodup
  pos tc htc := hI.pos tc (hperm.mem_iff.mpr htc)
  waiting tc htc := hI.waiting tc (hperm.mem_iff.mpr htc)
  deleted := hI.deleted
  rest i hi := hI.rest i fun hmem => hi ((hperm.map msg3Idx).mem_iff.mp hmem)
  rnti := hI.rnti
  grants := hI.grants

lemma Msg3Inv.move (hI : Msg3Inv cfg c tcs dead) (hm : Moves cfg i c c')
    (hnodup : (tcs'.map msg3Idx ++ dead').Nodup) (hpos : ∀ tc ∈ tcs', 0 < tc)
    (htcs : ∀ tc, msg3Idx tc ≠ i → (tc ∈ tcs' ↔ tc ∈ tcs)) (hdead : ∀ j ≠ i, j ∈ dead' ↔ j ∈ dead)
    (hwaiting : ∀ tc ∈ tcs', msg3Idx tc = i → (c'.view i).Waiting tc) (hbusy : i ∈ dead' → (c'.view i).Busy)
    (hrest : i ∉ tcs'.map msg3Idx → i ∉ dead' → (c'.view i).Free ∨ (c'.view i).Sent) : Msg3Inv cfg c' tcs' dead' where
  harqs := hm.harqs
  nodup := hnodup
  pos := hpos
  waiting tc htc := by
    by_cases hi : msg3Idx tc = i
    · rw [hi]
      exact hwaiting tc htc hi
    · rw [hm.frame _ hi]
      exact hI.waiting tc ((htcs tc hi).mp htc)
  deleted j hj := by
    by_cases hi : j = i
    · subst hi
      exact hbusy hj
    · rw [hm.frame j hi]
      exact hI.deleted j ((hdead j hi).mp hj)
  rest j hj hj' := by
    by_cases hi : j = i
    · subst hi
      exact hrest hj hj'
    · rw [hm.frame j hi]
      apply hI.rest j _ fun hmem => hj' ((hdead j hi).mpr hmem)
      intro hmem
      obtain ⟨tc, htc, rfl⟩ := List.mem_map.mp hmem
      exact hj (List.mem_map_of_mem ((htcs tc hi).mpr htc))
  rnti j := by
    by_cases hi : j = i
    · subst hi
      exact hm.rnti
    · rw [hm.frame j hi]
      exact hI.rnti j
  grants j := by
    by_cases hi : j = i
    · subst hi
      exact hm.grants
    · rw [hm.frame j hi]
      exact hI.grants j

lemma Msg3Inv.leave (hI : Msg3Inv cfg c (tc :: tcs) dead) (hm : Moves cfg (msg3Idx tc) c c')
    (h : (c'.view (msg3Idx tc)).Free ∨ (c'.view (msg3Idx tc)).Sent) : Msg3Inv cfg c' tcs dead := by
  have hnodup := hI.nodup
  rw [List.map_cons, List.cons_append, List.nodup_cons, List.mem_append, not_or] at hnodup
  obtain ⟨⟨hidx, hdead⟩, hnodup⟩ := hnodup
  refine hI.move hm hnodup (fun t ht => hI.pos t (List.mem_cons_of_mem _ ht)) (fun t ht => ?_) (fun _ _ => Iff.rfl)
    (fun t ht hi => ?_) (fun hmem => absurd hmem hdead) fun _ _ => h
  · rw [List.mem_cons]
    constructor
    · exact Or.inr
    · rintro (rfl | hmem)
      · exact absurd rfl ht
      · exact hmem
  · exact absurd (List.mem_map.mpr ⟨t, ht, hi⟩) hidx

lemma Msg3Inv.bury (hI : Msg3Inv cfg c tcs (i :: dead)) (hm : Moves cfg i c c') (h : (c'.view i).Free) :
    Msg3Inv cfg c' tcs dead := by
  have hnodup := (List.perm_middle.nodup_iff.mp hI.nodup)
  rw [List.nodup_cons, List.mem_append, not_or] at hnodup
  obtain ⟨⟨htcs, hdead⟩, hnodup⟩ := hnodup
  refine hI.move hm hnodup hI.pos (fun _ _ => Iff.rfl) (fun j hj => ?_) (fun t ht hi => ?_)
    (fun hmem => absurd hmem hdead) fun _ _ => Or.inl h
  · rw [List.mem_cons]
    simp [hj]
  · exact absurd (List.mem_map.mpr ⟨t, ht, hi⟩) htcs

lemma Msg3Inv.stay (hI : Msg3Inv cfg c tcs dead) (hm : Moves cfg i c c') (htcs : i ∉ tcs.map msg3Idx)
    (hdead : i ∉ dead) (h : (c'.view i).Free ∨ (c'.view i).Sent) : Msg3Inv cfg c' tcs dead := by
  refine hI.move hm hI.nodup hI.pos (fun _ _ => Iff.rfl) (fun _ _ => Iff.rfl) (fun t ht hi => ?_)
    (fun hmem => absurd hmem hdead) fun _ _ => h
  exact absurd (List.mem_map.mpr ⟨t, ht, hi⟩) htcs

lemma Msg3Inv.join (hI : Msg3Inv cfg c tcs dead) (hidle : (c.entries (msg3Idx tc)).busy = false) (htc : 0 < tc)
    (hm : Moves cfg (msg3Idx tc) c c') (h : (c'.view (msg3Idx tc)).Waiting tc) : Msg3Inv cfg c' (tc :: tcs) dead := by
  have hidx : msg3Idx tc ∉ tcs.map msg3Idx := by
    intro hmem
    obtain ⟨t, ht, hi⟩ := List.mem_map.mp hmem
    have hbusy := (hI.waiting t ht).busy
    rw [hi] at hbusy
    exact absurd (hbusy.symm.trans hidle) (by simp)
  have hdead : msg3Idx tc ∉ dead := fun hmem => absurd ((hI.deleted _ hmem).busy.symm.trans hidle) (by simp)
  refine hI.move hm ?_ ?_ (fun t ht => ?_) (fun _ _ => Iff.rfl) (fun t ht hi => ?_) (fun hmem => absurd hmem hdead)
    fun hmem _ => absurd List.mem_cons_self hmem
  · rw [List.map_cons, List.cons_append, List.nodup_cons, List.mem_append, not_or]
    exact ⟨⟨hidx, hdead⟩, hI.nodup⟩
  · intro t ht
    rcases List.mem_cons.mp ht with rfl | ht
    · exact htc
    · exact hI.pos t ht
  · rw [List.mem_cons]
    constructor
    · rintro (rfl | hmem)
      · exact absurd rfl ht
      · exact hmem
    · exact Or.inr
  · rcases List.mem_cons.mp ht with rfl | ht
    · exact h
    · exact absurd (List.mem_map.mpr ⟨t, ht, hi⟩) hidx

lemma Msg3Inv.sent_of_busy (hI : Msg3Inv cfg c tcs []) (hbusy : (c.entries i).busy = true)
    (hi : i ∉ tcs.map msg3Idx) : (c.view i).Sent := by
  rcases hI.rest i hi List.not_mem_nil with hfree | hsent
  · exact absurd (hbusy.symm.trans hfree.busy) (by simp)
  · exact hsent

lemma Msg3Inv.busy_of_hasHarq {h : HarqRef} (hI : Msg3Inv cfg c tcs dead) (hh : c.harqs.hasHarq h) :
    h = ⟨h.ueIdx, 0⟩ ∧ (c.view h.ueIdx).Busy := by
  have hlt : h.hId < (c.view h.ueIdx).nofHarqs := hh
  have hbusy : (c.view h.ueIdx).Busy := by
    by_cases htcs : h.ueIdx ∈ tcs.map msg3Idx
    · obtain ⟨t, ht, hi⟩ := List.mem_map.mp htcs
      rw [← hi]
      exact (hI.waiting t ht).toBusy
    · by_cases hdead : h.ueIdx ∈ dead
      · exact hI.deleted _ hdead
      · rcases hI.rest _ htcs hdead with hfree | hsent
        · rw [hfree.nofHarqs] at hlt
          omega
        · exact hsent.toBusy
  rw [hbusy.nofHarqs] at hlt
  have hid : h.hId = 0 := by omega
  exact ⟨by rw [← hid], hbusy⟩

end Phases

section Operations

variable {h : HarqRef}

@[simp] lemma view_setEntry_self (entry : PendingMsg3) :
    (c.setEntry i entry).view i = { c.view i with entry := entry } := by
  simp [view, setEntry]

lemma view_setEntry_ne {j : Nat} (entry : PendingMsg3) (hj : j ≠ i) : (c.setEntry i entry).view j = c.view j := by
  simp [view, setEntry, hj]

@[simp] lemma view_setNofGrants_self (n : Nat) : (c.setNofGrants i n).view i = { c.view i with nofGrants := n } := by
  simp [view, setNofGrants]

lemma view_setNofGrants_ne {j : Nat} (n : Nat) (hj : j ≠ i) : (c.setNofGrants i n).view j = c.view j := by
  simp [view, setNofGrants, hj]

variable {harqs : CellHarqRepository Unit}

lemma Moves.of_harqs (hI : Msg3Inv cfg c tcs dead) (hinv : harqs.HarqInv cfg.harq)
    (hm : CellHarqRepository.OnlyMoves ⟨i, 0⟩ c.harqs harqs) : Moves cfg i c { c with harqs := harqs } where
  harqs := hinv
  frame j hj := by
    unfold view
    dsimp only
    rw [hm.nof, hm.harq ⟨j, 0⟩ (by simp [hj])]
  rnti := hI.rnti i
  grants := hI.grants i

lemma Moves.busy (hm : CellHarqRepository.OnlyMoves h c.harqs harqs)
    (hbusy : (c.view i).Busy) : (({ c with harqs := harqs } : Msg3Table).view i).Busy := by
  refine ⟨hbusy.busy, ?_⟩
  rw [← hbusy.nofHarqs]
  exact hm.nof i

lemma reset_spec (hI : Msg3Inv cfg c tcs dead) (hi : (c.entries i).busy = true) :
    Yields (c.reset cfg i) (fun c' => Moves cfg i c c' ∧ (c'.view i).Free) RaAbort.Sound := by
  unfold reset
  rw [if_pos hi]
  refine yields_bind (yields_lift fun _ => trivial) fun harqs hok => ?_
  obtain ⟨hinv, hnof, hempty, hframe⟩ := CellHarqRepository.destroyUe_effect hI.harqs hok
  rw [yields_pure]
  refine ⟨⟨hinv, fun j hj => ?_, ?_, ?_⟩, ?_⟩
  · rw [view_setEntry_ne _ hj]
    unfold view
    dsimp only
    rw [(hframe j hj).1, (hframe j hj).2]
  · rw [view_setEntry_self]
    exact hI.rnti i
  · rw [view_setEntry_self]
    exact hI.grants i
  · rw [view_setEntry_self]
    exact ⟨rfl, hnof, hempty ⟨i, 0⟩ rfl⟩

lemma reset_waiting (hI : Msg3Inv cfg c (tc :: tcs) dead) :
    Yields (c.reset cfg (msg3Idx tc)) (fun c' => Msg3Inv cfg c' tcs dead) RaAbort.Sound :=
  (reset_spec hI (hI.waiting tc List.mem_cons_self).busy).post fun _ hc => hI.leave hc.1 (Or.inl hc.2)

lemma reset_all_waiting (hI : Msg3Inv cfg c (tcs ++ tcs') dead) :
    Yields (tcs.foldlM (fun c tcRnti => c.reset cfg (msg3Idx tcRnti)) c) (fun c' => Msg3Inv cfg c' tcs' dead)
      RaAbort.Sound := by
  induction tcs generalizing c with
  | nil => exact hI
  | cons tc tcs ih =>
    rw [List.foldlM_cons]
    exact yields_bind (reset_waiting hI) fun _ hc => ih hc

lemma onHarqTimeout_spec (hI : Msg3Inv cfg c tcs (h.ueIdx :: dead)) :
    Yields (c.onHarqTimeout cfg h) (fun c' => Msg3Inv cfg c' tcs dead) RaAbort.Sound := by
  have hbusy : (c.entries h.ueIdx).busy = true := (hI.deleted _ List.mem_cons_self).busy
  unfold onHarqTimeout
  rw [if_pos hbusy]
  exact (reset_spec hI hbusy).post fun _ hc => hI.bury hc.1 hc.2

lemma onHarqTimeout_all {hs : List HarqRef} (hI : Msg3Inv cfg c tcs (hs.map HarqRef.ueIdx)) :
    Yields (hs.foldlM (onHarqTimeout cfg) c) (fun c' => Msg3Inv cfg c' tcs []) RaAbort.Sound := by
  induction hs generalizing c with
  | nil => exact hI
  | cons h hs ih =>
    rw [List.foldlM_cons]
    exact yields_bind (onHarqTimeout_spec hI) fun _ hc => ih hc

lemma deleted_inv (hI : Msg3Inv cfg c tcs []) (hinv : harqs.HarqInv cfg.harq)
    (hrep : CellHarqRepository.Reports c.harqs harqs) :
    Msg3Inv cfg { c with harqs := harqs } tcs ((timedOut c.harqs harqs).map HarqRef.ueIdx) := by
  obtain ⟨new, htrace, hsame, hgone, hnodup⟩ := hrep.trace
  have hout : timedOut c.harqs harqs = new.filterMap HarqTrace.deleted := by
    unfold timedOut
    rw [htrace, List.drop_left]
  rw [← hout] at hsame hgone hnodup
  have hmem : ∀ i, i ∈ (timedOut c.harqs harqs).map HarqRef.ueIdx ↔ (⟨i, 0⟩ : HarqRef) ∈ timedOut c.harqs harqs := by
    intro i
    constructor
    · intro hi
      obtain ⟨g, hg, rfl⟩ := List.mem_map.mp hi
      rw [← (hI.busy_of_hasHarq (hgone g hg).1).1]
      exact hg
    · exact fun hi => List.mem_map.mpr ⟨_, hi, rfl⟩
  have hused : ∀ i, (⟨i, 0⟩ : HarqRef) ∈ timedOut c.harqs harqs → i ∉ tcs.map msg3Idx := by
    intro i hi htcs
    obtain ⟨t, ht, rfl⟩ := List.mem_map.mp htcs
    exact (hgone _ hi).2.1 (hI.waiting t ht).status
  have hview : ∀ i, (⟨i, 0⟩ : HarqRef) ∉ timedOut c.harqs harqs →
      ({ c with harqs := harqs } : Msg3Table).view i = c.view i := by
    intro i hi
    unfold view
    dsimp only
    rw [hrep.nof, hsame _ hi]
  refine ⟨hinv, ?_, hI.pos, fun tc htc => ?_, fun i hi => ?_, fun i htcs hdead => ?_, hI.rnti, hI.grants⟩
  · rw [List.nodup_append]
    refine ⟨(List.nodup_append.mp hI.nodup).1, ?_, fun i hi j hj heq => ?_⟩
    · apply List.Nodup.map_on _ hnodup
      intro g hg g' hg' heq
      rw [(hI.busy_of_hasHarq (hgone g hg).1).1, (hI.busy_of_hasHarq (hgone g' hg').1).1, heq]
    · subst heq
      exact hused i ((hmem i).mp hj) hi
  · rw [hview _ fun hi => hused _ hi (List.mem_map_of_mem htc)]
    exact hI.waiting tc htc
  · obtain ⟨hb, hn⟩ := (hI.busy_of_hasHarq (hgone _ ((hmem i).mp hi)).1).2
    exact ⟨hb, (hrep.nof i).trans hn⟩
  · rw [hview i fun hi => hdead ((hmem i).mpr hi)]
    exact hI.rest i htcs List.not_mem_nil

lemma slotIndication_spec {slTx : SlotPoint} (hI : Msg3Inv cfg c tcs []) :
    Yields (c.slotIndication cfg slTx) (fun c' => Msg3Inv cfg c' tcs []) RaAbort.Sound := by
  unfold slotIndication
  refine yields_bind (yields_lift fun _ => trivial) fun harqs hok => ?_
  obtain ⟨hinv, hrep⟩ := CellHarqRepository.slotIndication_reports hI.harqs hok
  exact onHarqTimeout_all (deleted_inv hI hinv hrep)

lemma handleCrc_spec {crc : UlCrcPdu} (hI : Msg3Inv cfg c tcs []) :
    Yields (c.handleCrc cfg crc) (fun c' => Msg3Inv cfg c' tcs []) RaAbort.Sound := by
  unfold handleCrc
  dsimp only
  refine yields_ite (fun _ => hI) fun hknown => yields_ite (fun _ => hI) fun husable => ?_
  obtain ⟨-, hbusy⟩ := not_or.mp hknown
  rw [Bool.not_eq_false] at hbusy
  obtain ⟨hhas, husable⟩ := not_or.mp husable
  obtain ⟨hused, -⟩ := not_or.mp husable
  rw [not_not] at hhas
  have htcs : msg3Idx crc.rnti ∉ tcs.map msg3Idx := by
    intro hmem
    obtain ⟨t, ht, heq⟩ := List.mem_map.mp hmem
    apply hused
    rw [← heq]
    exact (hI.waiting t ht).status
  refine yields_bind (yields_lift fun _ => trivial) fun r hok => ?_
  obtain ⟨harqs, b⟩ := r
  obtain ⟨hinv, hm⟩ := CellHarqRepository.ulCrcInfo_effect hI.harqs hhas hok
  have hmoves := Moves.of_harqs hI hinv hm
  have hstill := Moves.busy hm (hI.sent_of_busy hbusy htcs).toBusy
  dsimp only
  refine yields_ite (fun hempty => ?_) fun hst => ?_
  · -- the entry is like one whose HARQ a slot indication has deleted
    have hI' : Msg3Inv cfg { c with harqs := harqs } tcs [msg3Idx crc.rnti] := by
      refine hI.move hmoves ?_ hI.pos (fun _ _ => Iff.rfl) (fun j hj => by simp [hj]) (fun t ht hi => ?_)
        (fun _ => hstill) fun _ hnot => absurd List.mem_cons_self hnot
      · apply List.perm_middle.nodup_iff.mpr
        rw [List.append_nil, List.nodup_cons]
        exact ⟨htcs, (List.nodup_append.mp hI.nodup).1⟩
      · exact absurd (List.mem_map.mpr ⟨t, ht, hi⟩) htcs
    exact (reset_spec hI' hbusy).post fun _ hc => hI'.bury hc.1 hc.2
  · exact hI.stay hmoves htcs List.not_mem_nil (Or.inr ⟨hstill, hst⟩)

lemma scheduleMsg3Retx_spec {grid : RaGrid} (hI : Msg3Inv cfg c tcs []) (hh : c.harqs.hasHarq h) :
    Yields (c.scheduleMsg3Retx cfg grid h)
      (fun c' => Msg3Inv cfg c' tcs [] ∧ ∀ u, (c'.harqs.ues u).nofHarqs = (c.harqs.ues u).nofHarqs) RaAbort.Sound := by
  unfold scheduleMsg3Retx
  split
  · exact ⟨hI, fun _ => rfl⟩
  · refine yields_bind (yields_lift fun _ => trivial) fun r hok => ?_
    obtain ⟨harqs, b⟩ := r
    obtain ⟨hinv, hm, hkeep⟩ := CellHarqRepository.handleNewRetx_effect hI.harqs hh hok
    obtain ⟨hid, hbusy⟩ := hI.busy_of_hasHarq hh
    rw [hid] at hm hkeep
    have hmoves := Moves.of_harqs hI hinv hm
    have hstill := Moves.busy hm hbusy
    refine ⟨?_, hm.nof⟩
    by_cases htcs : h.ueIdx ∈ tcs.map msg3Idx
    · -- a HARQ that is empty has nothing to retransmit
      have hsame : ({ c with harqs := harqs } : Msg3Table).view h.ueIdx = c.view h.ueIdx := by
        obtain ⟨t, ht, heq⟩ := List.mem_map.mp htcs
        have hempty : (c.harqs.harq h).status = .empty := by
          rw [hid, ← heq]
          exact (hI.waiting t ht).status
        unfold CellHarqRepository.handleNewRetx at hok
        rw [if_neg (by simp [hempty])] at hok
        cases hok
        rfl
      refine hI.move hmoves hI.nodup hI.pos (fun _ _ => Iff.rfl) (fun _ _ => Iff.rfl) (fun t ht heq => ?_)
        (fun hmem => absurd hmem List.not_mem_nil) fun hnot => absurd htcs hnot
      rw [hsame, ← heq]
      exact hI.waiting t ht
    · have hsent := hI.sent_of_busy hbusy.busy htcs
      exact hI.stay hmoves htcs List.not_mem_nil (Or.inr ⟨hstill, hkeep hsent.status⟩)

lemma scheduleMsg3Retx_all {grid : RaGrid} {hs : List HarqRef} (hI : Msg3Inv cfg c tcs [])
    (hhs : ∀ h ∈ hs, c.harqs.hasHarq h) :
    Yields (hs.foldlM (scheduleMsg3Retx cfg grid) c) (fun c' => Msg3Inv cfg c' tcs []) RaAbort.Sound := by
  induction hs generalizing c with
  | nil => exact hI
  | cons h hs ih =>
    rw [List.foldlM_cons]
    refine yields_bind (scheduleMsg3Retx_spec hI (hhs h List.mem_cons_self)) fun c' hc => ih hc.1 fun g hg => ?_
    unfold CellHarqRepository.hasHarq
    rw [hc.2]
    exact hhs g (List.mem_cons_of_mem _ hg)

lemma reserve_accepts (hI : Msg3Inv cfg c tcs []) (hidle : (c.entries (msg3Idx tc)).busy = false) :
    ∃ c', c.reserve cfg tc = .ok c' ∧ (c'.view (msg3Idx tc)).Waiting tc := by
  have hfree : (c.view (msg3Idx tc)).nofHarqs = 0 := by
    by_cases htcs : msg3Idx tc ∈ tcs.map msg3Idx
    · obtain ⟨t, ht, heq⟩ := List.mem_map.mp htcs
      have hbusy := (hI.waiting t ht).busy
      rw [heq] at hbusy
      exact absurd (hbusy.symm.trans hidle) (by simp)
    · rcases hI.rest _ htcs List.not_mem_nil with hfree | hsent
      · exact hfree.nofHarqs
      · exact absurd (hsent.busy.symm.trans hidle) (by simp)
  have hfree' : (c.harqs.ues (msg3Idx tc)).nofHarqs = 0 := hfree
  have hidx : ¬cfg.harq.maxUes ≤ msg3Idx tc := not_le.mpr (Nat.mod_lt _ (by simp [MAX_NOF_MSG3]))
  have hok : ∃ harqs, c.harqs.reserveUeHarqs cfg.harq (msg3Idx tc) tc 1 = .ok harqs := by
    unfold CellHarqRepository.reserveUeHarqs
    rw [if_neg (by simp [RaConfig.harq]), if_neg hidx, if_neg (by simp [hfree'])]
    exact ⟨_, rfl⟩
  obtain ⟨harqs, hok⟩ := hok
  obtain ⟨-, hnof, hempty, -⟩ := CellHarqRepository.reserveUeHarqs_effect hI.harqs hok
  refine ⟨_, by rw [reserve, hok]; rfl, ?_⟩
  rw [view_setNofGrants_self, view_setEntry_self]
  exact ⟨⟨rfl, hnof⟩, rfl, hempty ⟨_, 0⟩ rfl, rfl⟩

lemma reserve_spec (hI : Msg3Inv cfg c tcs []) (hidle : (c.entries (msg3Idx tc)).busy = false) (htc : 0 < tc) :
    Yields (c.reserve cfg tc) (fun c' => Msg3Inv cfg c' (tc :: tcs) []) RaAbort.Sound := by
  unfold reserve
  refine yields_bind (yields_lift fun _ => trivial) fun harqs hok => ?_
  obtain ⟨hinv, hnof, hempty, hframe⟩ := CellHarqRepository.reserveUeHarqs_effect hI.harqs hok
  have hview : (({ c with harqs := harqs }.setEntry (msg3Idx tc) ⟨tc, true⟩).setNofGrants (msg3Idx tc) 0).view
      (msg3Idx tc) = ⟨⟨tc, true⟩, 1, .empty, 0⟩ := by
    rw [view_setNofGrants_self, view_setEntry_self]
    unfold view
    dsimp only
    rw [hnof, hempty ⟨msg3Idx tc, 0⟩ rfl]
  rw [yields_pure]
  refine hI.join hidle htc ⟨hinv, fun j hj => ?_, ?_, ?_⟩ ?_
  · rw [view_setNofGrants_ne _ hj, view_setEntry_ne _ hj]
    unfold view
    dsimp only
    rw [(hframe j hj).1, (hframe j hj).2]
  · rw [hview]
    exact Or.inl rfl
  · rw [hview]
    simp
  · rw [hview]
    exact ⟨⟨rfl, rfl⟩, rfl, rfl, rfl⟩

lemma allocHarq_spec {slot : SlotPoint} {n : Nat} (hI : Msg3Inv cfg c (tc :: tcs) []) (hn : n ≤ 1) :
    Yields ((c.harqs.allocHarq cfg.harq (msg3Idx tc) slot slot cfg.maxNofMsg3HarqRetxs).mapError RaAbort.harq)
      (fun r => r.2.isSome ∧ Msg3Inv cfg { c with harqs := r.1 } tcs [] ∧
        Msg3Inv cfg (({ c with harqs := r.1 } : Msg3Table).setNofGrants (msg3Idx tc) n) tcs []) RaAbort.Sound := by
  have hw := hI.waiting tc List.mem_cons_self
  refine (yields_lift fun _ => trivial).post fun r hok => ?_
  obtain ⟨harqs, h⟩ := r
  cases h with
  | none =>
    -- an empty HARQ is in the list of the free ones
    have hfree := ((hI.harqs.linked ⟨msg3Idx tc, 0⟩).free).mpr
      ⟨Nat.lt_of_lt_of_eq Nat.zero_lt_one hw.nofHarqs.symm, hw.status⟩
    unfold CellHarqRepository.allocHarq at hok
    split at hok
    case h_1 hnil =>
      rw [hnil] at hfree
      exact absurd hfree List.not_mem_nil
    case h_2 =>
      dsimp only at hok
      split at hok
      · cases hok
      · cases hok
  | some h =>
    obtain ⟨hinv, hm, hu, hhas, hst⟩ := CellHarqRepository.allocHarq_effect hI.harqs hok
    have hid := (hI.busy_of_hasHarq hhas).1
    rw [hu] at hid
    subst hid
    have hmoves := Moves.of_harqs hI hinv hm
    have hsent : (({ c with harqs := harqs } : Msg3Table).view (msg3Idx tc)).Sent :=
      ⟨Moves.busy hm hw.toBusy, by unfold view; dsimp only; rw [hst]; simp⟩
    refine ⟨rfl, hI.leave hmoves (Or.inr hsent), hI.leave ⟨hinv, fun j hj => ?_, ?_, ?_⟩ (Or.inr ?_)⟩
    · rw [view_setNofGrants_ne _ hj]
      exact hmoves.frame j hj
    · rw [view_setNofGrants_self]
      exact hmoves.rnti
    · rw [view_setNofGrants_self]
      exact hn
    · rw [view_setNofGrants_self]
      exact ⟨⟨hsent.busy, hsent.nofHarqs⟩, hsent.status⟩

end Operations

end Msg3Table

end OwlsRan.Sched
