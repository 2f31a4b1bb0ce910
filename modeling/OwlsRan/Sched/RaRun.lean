import OwlsRan.Sched.RaInvariant

/-!
# Msg3 entries do not leak

`ra_scheduler` drops the TC-RNTIs of a RAR when it is sent.
-/

namespace OwlsRan.Sched

open OwlsRan.Lib OwlsRan.Ran

variable {cfg : RaConfig} {c : Msg3Table} {tcs : List Nat}

def PuschRoom : (SlotPoint → Nat) → List SlotPoint → Prop
  | nofPuschs, slot :: next :: slots =>
    nofPuschs slot < MAX_PUSCH_PDUS_PER_SLOT ∧ PuschRoom (Msg3Table.bump nofPuschs slot) (next :: slots)
  | _, _ => True

instance decidablePuschRoom : ∀ nofPuschs slots, Decidable (PuschRoom nofPuschs slots)
  | _, [] => isTrue trivial
  | _, [_] => isTrue trivial
  | nofPuschs, slot :: next :: slots =>
    have := decidablePuschRoom (Msg3Table.bump nofPuschs slot) (next :: slots)
    inferInstanceAs (Decidable (nofPuschs slot < MAX_PUSCH_PDUS_PER_SLOT ∧ _))

section Candidates

lemma puschRoom_take {nofPuschs : SlotPoint → Nat} {slots : List SlotPoint} (h : PuschRoom nofPuschs slots) (n : Nat) :
    PuschRoom nofPuschs (slots.take n) := by
  induction slots generalizing nofPuschs n with
  | nil => simpa using h
  | cons slot slots ih =>
    cases n with
    | zero => trivial
    | succ n =>
      cases slots with
      | nil => simp [PuschRoom]
      | cons next slots =>
        cases n with
        | zero => trivial
        | succ n => exact ⟨h.1, ih h.2 (n + 1)⟩

def RarAttempt.nofMsg3s (g : RarAttempt) (maxNofAllocs nofCandidates : Nat) (res : PuschResource) : Nat :=
  if res.isUlEnabled then
    min (min (min (MAX_GRANTS_PER_RAR - nofCandidates) (maxNofAllocs - nofCandidates))
      (MAX_PUSCH_PDUS_PER_SLOT - g.nofPuschs res.slot)) res.maxAllocsOnFreeRbs
  else 0

lemma RarAttempt.msg3Candidates_eq (g : RarAttempt) (maxNofAllocs : Nat) :
    g.msg3Candidates maxNofAllocs = g.puschResources.foldl (fun candidates res =>
      candidates ++ List.replicate (g.nofMsg3s maxNofAllocs candidates.length res) res.slot) [] := by
  unfold msg3Candidates
  congr
  funext candidates res
  unfold nofMsg3s
  cases res.isUlEnabled <;> simp

lemma RarAttempt.msg3Candidates_take {g : RarAttempt} {m n : Nat} (hmn : m ≤ n) :
    g.msg3Candidates m = (g.msg3Candidates n).take m := by
  rw [msg3Candidates_eq, msg3Candidates_eq]
  suffices h : ∀ (l : List PuschResource) (few many : List SlotPoint), few = many.take m →
      l.foldl (fun candidates res =>
        candidates ++ List.replicate (g.nofMsg3s m candidates.length res) res.slot) few =
      (l.foldl (fun candidates res =>
        candidates ++ List.replicate (g.nofMsg3s n candidates.length res) res.slot) many).take m from
    h g.puschResources [] [] (by simp)
  intro l
  induction l with
  | nil => exact fun _ _ h => h
  | cons res l ih =>
    intro few many h
    rw [List.foldl_cons, List.foldl_cons]
    apply ih
    have hlen : few.length = min m many.length := by rw [h, List.length_take]
    have hnof : g.nofMsg3s m few.length res = min (m - many.length) (g.nofMsg3s n many.length res) := by
      unfold nofMsg3s
      split
      · rcases Nat.le_total many.length m with hle | hle
        · have hmin : min (m - many.length) (n - many.length) = m - many.length :=
            Nat.min_eq_left (Nat.sub_le_sub_right hmn _)
          rw [hlen, Nat.min_eq_right hle, ← hmin]
          ac_rfl
        · rw [hlen, Nat.min_eq_left hle, Nat.sub_self, Nat.sub_eq_zero_of_le hle]
          simp
      · simp
    rw [List.take_append, List.take_replicate, ← h, hnof]

lemma RarAttempt.length_msg3Candidates {g : RarAttempt} {m : Nat} :
    (g.msg3Candidates m).length ≤ m ∧ (g.msg3Candidates m).length ≤ MAX_GRANTS_PER_RAR := by
  rw [msg3Candidates_eq]
  refine List.foldlRecOn g.puschResources _
    (motive := fun l : List SlotPoint => l.length ≤ m ∧ l.length ≤ MAX_GRANTS_PER_RAR) (by simp) fun candidates h res _ => ?_
  rw [List.length_append, List.length_replicate]
  unfold nofMsg3s
  split <;> omega

end Candidates

section Grants

lemma fillRarGrant_spec {nofPuschs : SlotPoint → Nat} {n : Nat} {tcs' : List Nat} {slots : List SlotPoint}
    (hI : c.Msg3Inv cfg (tcs ++ tcs') []) (hlen : slots.length ≤ tcs.length)
    (hgrants : n + slots.length ≤ MAX_GRANTS_PER_RAR) (hroom : PuschRoom nofPuschs slots) :
    Yields (c.fillRarGrant cfg nofPuschs n tcs slots) (fun c' => c'.Msg3Inv cfg (tcs.drop slots.length ++ tcs') [])
      RaAbort.Sound := by
  induction slots generalizing c nofPuschs n tcs with
  | nil =>
    cases tcs with
    | nil => exact hI
    | cons tc tcs => exact hI
  | cons slot slots ih =>
    cases tcs with
    | nil => simp at hlen
    | cons tc tcs =>
      rw [List.length_cons, List.length_cons] at hlen
      rw [List.length_cons] at hgrants
      rw [List.length_cons, List.drop_succ_cons]
      have hw := hI.waiting tc List.mem_cons_self
      have hbusy : (c.entries (Msg3Table.msg3Idx tc)).busy = true := hw.busy
      have hnof : c.nofGrants (Msg3Table.msg3Idx tc) = 0 := hw.nofGrants
      unfold Msg3Table.fillRarGrant
      dsimp only
      rw [if_pos hbusy]
      refine yields_bind (Msg3Table.allocHarq_spec (n := c.nofGrants (Msg3Table.msg3Idx tc) + 1) hI (by omega))
        fun r hr => ?_
      obtain ⟨hsome, hdropped, hgranted⟩ := hr
      obtain ⟨harqs, h⟩ := r
      cases h with
      | none => simp at hsome
      | some h =>
        dsimp only
        refine yields_ite (fun hfull => ?_) fun hspace => ?_
        · -- the lists are full, and this is the last candidate
          have hlast : slots = [] := by
            cases slots with
            | nil => rfl
            | cons next slots =>
              have hpusch := hroom.1
              rw [List.length_cons] at hgrants
              omega
          subst hlast
          exact hdropped
        · apply ih hgranted
          · omega
          · omega
          · cases slots with
            | nil => trivial
            | cons next slots => exact hroom.2

def RarAttempt.HasRoom (g : RarAttempt) : Prop := PuschRoom g.nofPuschs (g.msg3Candidates g.maxNofAllocs)

instance (g : RarAttempt) : Decidable g.HasRoom := inferInstanceAs (Decidable (PuschRoom _ _))

lemma RarAttempt.hasRoom_none : RarAttempt.none.HasRoom := trivial

lemma scheduleRar_spec {g : RarAttempt} {rar : PendingRar} (hI : c.Msg3Inv cfg (rar.tcRntis ++ tcs) [])
    (hroom : g.HasRoom) :
    Yields (g.scheduleRar cfg c rar) (fun r => r.1.Msg3Inv cfg (rar.tcRntis.drop r.2 ++ tcs) []) RaAbort.Sound := by
  unfold RarAttempt.scheduleRar
  dsimp only
  refine yields_ite (fun _ => hI) fun _ => ?_
  obtain ⟨hle, hmax⟩ := RarAttempt.length_msg3Candidates (g := g) (m := min g.maxNofAllocs rar.tcRntis.length)
  have hroom' : PuschRoom g.nofPuschs (g.msg3Candidates (min g.maxNofAllocs rar.tcRntis.length)) := by
    rw [RarAttempt.msg3Candidates_take (Nat.min_le_left _ _)]
    exact puschRoom_take hroom _
  exact yields_bind (fillRarGrant_spec hI (by omega) (by omega) hroom') fun _ hc => hc

end Grants

section Rars

variable {out : List Nat} {pdcchSlot : SlotPoint} {rars : List PendingRar}

def waitingTcRntis (rars : List PendingRar) : List Nat := rars.flatMap PendingRar.tcRntis

lemma updatePendingRars_spec (hI : c.Msg3Inv cfg (waitingTcRntis rars ++ out) []) :
    Yields (updatePendingRars cfg pdcchSlot c rars) (fun r => r.1.Msg3Inv cfg (waitingTcRntis r.2 ++ out) [])
      RaAbort.Sound := by
  induction rars generalizing c out with
  | nil => exact hI
  | cons rar rars ih =>
    have hcons : waitingTcRntis (rar :: rars) ++ out = rar.tcRntis ++ (waitingTcRntis rars ++ out) := by
      simp [waitingTcRntis]
    unfold updatePendingRars
    refine yields_ite (fun _ => ?_) fun _ => yields_ite (fun _ => ?_) fun _ => hI
    · have hkept : (rar.tcRntis ++ (waitingTcRntis rars ++ out)).Perm (waitingTcRntis rars ++ (rar.tcRntis ++ out)) :=
        List.perm_append_comm_assoc _ _ _
      rw [hcons] at hI
      refine yields_bind (ih (hI.perm hkept)) fun r hr => ?_
      apply Msg3Table.Msg3Inv.perm hr
      rw [waitingTcRntis, waitingTcRntis, List.flatMap_cons, List.append_assoc]
      exact List.perm_append_comm_assoc _ _ _
    · rw [hcons] at hI
      exact yields_bind (Msg3Table.reset_all_waiting hI) fun _ hc => ih hc

lemma visitPendingRars_spec {attempts : List RarAttempt} (hI : c.Msg3Inv cfg (waitingTcRntis rars ++ out) [])
    (hroom : ∀ g ∈ attempts, g.HasRoom) :
    Yields (visitPendingRars cfg pdcchSlot c attempts rars)
      (fun r => r.1.Msg3Inv cfg (waitingTcRntis r.2.2 ++ out) [] ∧ ∀ g ∈ r.2.1, g.HasRoom) RaAbort.Sound := by
  induction rars generalizing c out attempts with
  | nil => exact ⟨hI, hroom⟩
  | cons rar rars ih =>
    have hcons : waitingTcRntis (rar :: rars) ++ out = rar.tcRntis ++ (waitingTcRntis rars ++ out) := by
      simp [waitingTcRntis]
    have htail : ∀ g ∈ attempts.tail, g.HasRoom := fun g hg => hroom g (List.mem_of_mem_tail hg)
    have hhead : (attempts.headD .none).HasRoom := by
      cases attempts with
      | nil => exact RarAttempt.hasRoom_none
      | cons g attempts => exact hroom g List.mem_cons_self
    unfold visitPendingRars
    refine yields_ite (fun _ => ?_) fun _ => ⟨hI, hroom⟩
    rw [hcons] at hI
    refine yields_ite (fun hnil => ?_) fun _ => ?_
    · rw [hnil] at hI
      exact ih hI hroom
    · refine yields_bind (scheduleRar_spec hI hhead) fun r hr => ?_
      obtain ⟨c', nofAllocs⟩ := r
      dsimp only at hr ⊢
      refine yields_ite (fun hzero => ?_) fun _ => yields_ite (fun hall => ?_) fun _ => ?_
      · rw [hzero, List.drop_zero] at hr
        refine yields_bind (ih (hr.perm (List.perm_append_comm_assoc _ _ _)) htail) fun r' hr' => ⟨?_, hr'.2⟩
        apply hr'.1.perm
        rw [waitingTcRntis, waitingTcRntis, List.flatMap_cons, List.append_assoc]
        exact List.perm_append_comm_assoc _ _ _
      · rw [List.drop_eq_nil_of_le hall] at hr
        exact ih hr htail
      · refine ⟨?_, htail⟩
        rw [waitingTcRntis, List.flatMap_cons, List.append_assoc]
        exact hr

lemma schedulePendingRars_spec {isCandidate : SlotPoint → Bool} {attempts : List RarAttempt}
    (hI : c.Msg3Inv cfg (waitingTcRntis rars) []) (hroom : ∀ g ∈ attempts, g.HasRoom) :
    Yields (schedulePendingRars cfg isCandidate pdcchSlot c attempts rars)
      (fun r => r.1.Msg3Inv cfg (waitingTcRntis r.2.2) [] ∧ ∀ g ∈ r.2.1, g.HasRoom) RaAbort.Sound := by
  unfold schedulePendingRars
  rw [← List.append_nil (waitingTcRntis rars)] at hI
  refine yields_bind (updatePendingRars_spec hI) fun r hr => ?_
  obtain ⟨c', rars'⟩ := r
  cases rars' with
  | nil => exact ⟨by simpa [waitingTcRntis] using hr, hroom⟩
  | cons rar rars' =>
    dsimp only
    refine yields_ite (fun _ => ?_) fun _ => ⟨by simpa using hr, hroom⟩
    refine (visitPendingRars_spec hr hroom).post fun r' hr' => ⟨by simpa using hr'.1, hr'.2⟩

end Rars

namespace RaScheduler

variable {s : RaScheduler}

def RaInv (cfg : RaConfig) (s : RaScheduler) : Prop := s.msg3s.Msg3Inv cfg (waitingTcRntis s.pendingRars) []

def HasRoom : RaEvent → Prop
  | .runSlot _ grid => ∀ g ∈ grid.attempts, g.HasRoom
  | _ => True

instance : ∀ e, Decidable (HasRoom e)
  | .runSlot _ grid => inferInstanceAs (Decidable (∀ g ∈ grid.attempts, g.HasRoom))
  | .rachIndication _ => isTrue trivial
  | .crcIndication _ => isTrue trivial

def nofRarsWith (s : RaScheduler) (tcRnti : Nat) : Nat := (s.pendingRars.filter fun rar => tcRnti ∈ rar.tcRntis).length

/-- An entry is busy exactly while its TC-RNTI waits in one RAR or its HARQ is in use. It is granted once, and when it
is not busy it can be used again. -/
structure Msg3Consistent (cfg : RaConfig) (s : RaScheduler) : Prop where
  busy_iff : ∀ i < MAX_NOF_MSG3, (s.msg3s.entries i).busy = true ↔
    s.nofRarsWith (s.msg3s.entries i).tcRnti = 1 ∨ (s.msg3s.harqs.harq ⟨i, 0⟩).status ≠ .empty
  granted_once : ∀ i, s.msg3s.nofGrants i ≤ 1
  reusable : ∀ p : Preamble, (s.msg3s.entries (Msg3Table.msg3Idx p.tcRnti)).busy = false →
    ∃ c, s.msg3s.reserve cfg p.tcRnti = .ok c ∧ (c.entries (Msg3Table.msg3Idx p.tcRnti)).busy = true

section Steps

lemma waitingTcRntis_modify {rars : List PendingRar} {i : Nat} {f : PendingRar → PendingRar}
    (hf : ∀ rar, (f rar).tcRntis = rar.tcRntis) : waitingTcRntis (rars.modify i f) = waitingTcRntis rars := by
  induction rars generalizing i with
  | nil => simp
  | cons rar rars ih =>
    cases i with
    | zero => simp [waitingTcRntis, hf]
    | succ i =>
      have h := ih (i := i)
      unfold waitingTcRntis at h ⊢
      rw [List.modify_succ_cons, List.flatMap_cons, List.flatMap_cons, h]

lemma waitingTcRntis_push {rars : List PendingRar} {i tc : Nat} (hi : i < rars.length) :
    (waitingTcRntis (rars.modify i fun rar => { rar with tcRntis := rar.tcRntis ++ [tc] })).Perm
      (tc :: waitingTcRntis rars) := by
  induction rars generalizing i with
  | nil => simp at hi
  | cons rar rars ih =>
    unfold waitingTcRntis at ih ⊢
    cases i with
    | zero =>
      rw [List.modify_zero_cons, List.flatMap_cons, List.flatMap_cons, List.append_assoc]
      exact List.perm_middle
    | succ i =>
      rw [List.modify_succ_cons, List.flatMap_cons, List.flatMap_cons]
      exact ((ih (by simpa using hi)).append_left _).trans List.perm_middle

lemma handlePreamble_spec {i : Nat} {p : Preamble} (hI : RaInv cfg s) :
    Yields (s.handlePreamble cfg i p) (RaInv cfg) RaAbort.Sound := by
  unfold handlePreamble
  refine yields_ite (fun _ => hI) fun hidle => yields_ite (fun hany => ?_) fun _ => trivial
  rw [Bool.not_eq_true] at hidle
  have hi : i < s.pendingRars.length := by
    by_contra hge
    rw [List.getElem?_eq_none (by omega)] at hany
    simp at hany
  refine yields_bind (Msg3Table.reserve_spec hI hidle p.tcRnti_pos) fun c hc => ?_
  exact hc.perm (waitingTcRntis_push hi).symm

lemma handleOccasion_spec {slotRx : SlotPoint} {occ : PrachOccasion} (hI : RaInv cfg s) :
    Yields (s.handleOccasion cfg slotRx occ) (RaInv cfg) RaAbort.Sound := by
  unfold handleOccasion
  refine yields_ite (fun _ => hI) fun _ => ?_
  dsimp only
  refine yields_ite (fun _ => hI) fun _ => ?_
  split
  case h_1 => trivial
  case h_2 w hw =>
    split
    case h_1 rarIdx hfound =>
      refine yields_foldlM ?_ fun _ _ _ h => handlePreamble_spec h
      have hsame : waitingTcRntis (s.pendingRars.modify rarIdx fun rar => { rar with rarWindow := w }) =
          waitingTcRntis s.pendingRars := waitingTcRntis_modify fun _ => rfl
      unfold RaInv
      dsimp only
      rw [hsame]
      exact hI
    case h_2 hfound =>
      refine yields_foldlM ?_ fun _ _ _ h => handlePreamble_spec h
      have hnew : waitingTcRntis (s.pendingRars ++ [⟨raRnti cfg slotRx occ, slotRx, .invalid, w, []⟩]) =
          waitingTcRntis s.pendingRars := by simp [waitingTcRntis]
      unfold RaInv
      dsimp only
      rw [hnew]
      exact hI

lemma handleRach_spec {msg : RachIndication} (hI : RaInv cfg s) :
    Yields (s.handleRach cfg msg) (RaInv cfg) RaAbort.Sound :=
  yields_foldlM hI fun _ _ _ h => handleOccasion_spec h

lemma scheduleRars_spec {slTx : SlotPoint} {grid : RaGrid} (hI : RaInv cfg s) (hroom : ∀ g ∈ grid.attempts, g.HasRoom) :
    Yields (s.scheduleRars cfg slTx grid) (RaInv cfg) RaAbort.Sound := by
  unfold scheduleRars
  split
  · exact hI
  · dsimp only
    refine yields_bind (Q := fun r : Msg3Table × List RarAttempt × List PendingRar =>
      r.1.Msg3Inv cfg (waitingTcRntis r.2.2) [] ∧ ∀ g ∈ r.2.1, g.HasRoom) ?_ fun r hr => ?_
    · exact yields_foldlM ⟨hI, hroom⟩ fun _ _ _ h => schedulePendingRars_spec h.1 h.2
    · have hsame : waitingTcRntis (r.2.2.map fun rar => { rar with lastSchedTrySlot := slTx.add maxDlSlotsAheadSched }) =
          waitingTcRntis r.2.2 := by simp [waitingTcRntis, List.flatMap_map]
      rw [yields_pure]
      unfold RaInv
      dsimp only
      rw [hsame]
      exact hr.1

lemma runSlot_spec {slTx : SlotPoint} {grid : RaGrid} (hI : RaInv cfg s) (hroom : ∀ g ∈ grid.attempts, g.HasRoom) :
    Yields (s.runSlot cfg slTx grid) (RaInv cfg) RaAbort.Sound := by
  unfold runSlot
  refine yields_bind (Msg3Table.slotIndication_spec hI) fun c1 h1 => ?_
  refine yields_bind (yields_foldlM h1 fun _ _ _ h => Msg3Table.handleCrc_spec h) fun c2 h2 => ?_
  have hpending : ∀ h ∈ c2.harqs.harqPendingRetxList, c2.harqs.hasHarq h := fun h hh =>
    ((h2.harqs.linked h).pending.mp hh).1
  refine yields_bind (Msg3Table.scheduleMsg3Retx_all h2 hpending) fun c3 h3 => ?_
  exact yields_bind (yields_foldlM h3 fun _ _ _ h => handleRach_spec h) fun _ h => scheduleRars_spec h hroom

lemma step_spec {e : RaEvent} (hroom : HasRoom e) (hI : RaInv cfg s) :
    Yields (step cfg s e) (RaInv cfg) RaAbort.Sound := by
  cases e with
  | rachIndication msg =>
    unfold step
    rw [yields_ok]
    split <;> exact hI
  | crcIndication crcs =>
    unfold step
    rw [yields_ok]
    split <;> exact hI
  | runSlot slTx grid => exact runSlot_spec hI hroom

lemma init_inv : RaInv cfg init where
  harqs := CellHarqRepository.init_inv
  nodup := by simp [init, waitingTcRntis]
  pos := by simp [init, waitingTcRntis]
  waiting := by simp [init, waitingTcRntis]
  deleted := by simp
  rest _ _ _ := Or.inl ⟨rfl, rfl, rfl⟩
  rnti _ := Or.inr rfl
  grants _ := Nat.zero_le 1

end Steps

section Consistency

lemma nofRarsWith_of_mem {rars : List PendingRar} {tc : Nat} (hnodup : (waitingTcRntis rars).Nodup)
    (htc : tc ∈ waitingTcRntis rars) : (rars.filter fun rar => tc ∈ rar.tcRntis).length = 1 := by
  induction rars with
  | nil => simp [waitingTcRntis] at htc
  | cons rar rars ih =>
    unfold waitingTcRntis at hnodup htc ih
    rw [List.flatMap_cons, List.nodup_append] at hnodup
    obtain ⟨-, hrest, hdisj⟩ := hnodup
    rw [List.flatMap_cons, List.mem_append] at htc
    by_cases hrar : tc ∈ rar.tcRntis
    · have hnone : rars.filter (fun rar => tc ∈ rar.tcRntis) = [] := by
        apply List.filter_eq_nil_iff.mpr
        intro r hr hmem
        exact hdisj tc hrar tc (List.mem_flatMap.mpr ⟨r, hr, by simpa using hmem⟩) rfl
      rw [List.filter_cons_of_pos (by simpa using hrar), hnone, List.length_singleton]
    · rw [List.filter_cons_of_neg (by simpa using hrar)]
      exact ih hrest (htc.resolve_left hrar)

lemma mem_of_nofRarsWith {rars : List PendingRar} {tc : Nat}
    (h : (rars.filter fun rar => tc ∈ rar.tcRntis).length = 1) : tc ∈ waitingTcRntis rars := by
  obtain ⟨rar, hrar⟩ := List.exists_mem_of_length_pos (by rw [h]; exact Nat.one_pos)
  rw [List.mem_filter] at hrar
  exact List.mem_flatMap.mpr ⟨rar, hrar.1, by simpa using hrar.2⟩

lemma RaInv.consistent (hI : RaInv cfg s) : Msg3Consistent cfg s where
  busy_iff i hi := by
    constructor
    · intro hbusy
      by_cases hw : i ∈ (waitingTcRntis s.pendingRars).map Msg3Table.msg3Idx
      · left
        obtain ⟨tc, htc, rfl⟩ := List.mem_map.mp hw
        have heq : (s.msg3s.entries (Msg3Table.msg3Idx tc)).tcRnti = tc := (hI.waiting tc htc).tcRnti
        unfold nofRarsWith
        rw [heq]
        apply nofRarsWith_of_mem _ htc
        exact List.Nodup.of_map _ (List.nodup_append.mp hI.nodup).1
      · right
        exact (Msg3Table.Msg3Inv.sent_of_busy hI hbusy hw).status
    · rintro (hrars | hharq)
      · have hmem := mem_of_nofRarsWith hrars
        rcases hI.rnti i with hidx | hzero
        · have hbusy := (hI.waiting _ hmem).busy
          change (s.msg3s.entries (Msg3Table.msg3Idx (s.msg3s.entries i).tcRnti)).busy = true at hbusy
          change Msg3Table.msg3Idx (s.msg3s.entries i).tcRnti = i at hidx
          rwa [hidx] at hbusy
        · change (s.msg3s.entries i).tcRnti = 0 at hzero
          rw [hzero] at hmem
          exact absurd (hI.pos 0 hmem) (by omega)
      · by_cases hw : i ∈ (waitingTcRntis s.pendingRars).map Msg3Table.msg3Idx
        · obtain ⟨tc, htc, rfl⟩ := List.mem_map.mp hw
          exact absurd (hI.waiting tc htc).status hharq
        · rcases hI.rest i hw List.not_mem_nil with hfree | hsent
          · exact absurd hfree.status hharq
          · exact hsent.busy
  granted_once := hI.grants
  reusable p hidle := by
    obtain ⟨c, hok, hw⟩ := Msg3Table.reserve_accepts hI hidle
    exact ⟨c, hok, hw.busy⟩

/-- Over every run in which the PUSCH lists have room for the RARs, the entries of Msg3s do not leak. -/
theorem msg3_entries_do_not_leak (cfg : RaConfig) (es : List RaEvent)
    (hroom : RunsWithin (step cfg) (fun _ e => HasRoom e) init es) :
    HoldsThroughout (step cfg) (Msg3Consistent cfg) init es ∧
      Yields (runEvents (step cfg) init es) (Msg3Consistent cfg) RaAbort.Sound := by
  have h := runsWithin_yields (RaInv cfg) (fun _ _ hr hI => step_spec hr hI) hroom init_inv
  exact ⟨holdsThroughout_mono (fun _ hI => hI.consistent) h.1, h.2.post fun _ hI => hI.consistent⟩

def fddCell : RaConfig := ⟨100, 0, 4, 10, true, none, fun _ => true⟩

def rachOf (nofPreambles : Nat) : RachIndication :=
  ⟨⟨0, 0⟩, [⟨0, 0, (List.range nofPreambles).map fun i => ⟨i, 0x4601 + i, Nat.add_pos_left (by decide) i⟩⟩]⟩

/-- A grid with room for a RAR, whose PUSCH resources have the slot 8 and free RBs for four Msg3s each. -/
def gridWith (nofPuschs nofResources : Nat) : RaGrid :=
  ⟨fun _ => true, [⟨4, fun _ => nofPuschs, List.replicate nofResources ⟨⟨0, 8⟩, true, 4⟩, true⟩], fun _ => none⟩

/-- Two preambles are granted in a RAR. The CRC of the first Msg3 frees its entry, and the preamble is used again. -/
theorem msg3_entries_do_not_leak_granted :
    let es := [.rachIndication (rachOf 2), .runSlot ⟨0, 1⟩ (gridWith 14 1),
      .crcIndication [⟨0x4601, 0, true⟩], .rachIndication (rachOf 1), .runSlot ⟨0, 9⟩ (gridWith 0 1)]
    HoldsThroughout (step fddCell) (Msg3Consistent fddCell) init es ∧
      Yields (runEvents (step fddCell) init es) (Msg3Consistent fddCell) RaAbort.Sound :=
  msg3_entries_do_not_leak fddCell _ (by decide +kernel)

/-- Two PUSCH resources of one slot are counted as if each had the whole list of the slot for itself. The Msg3 of the
third preamble finds the list full, and the fourth preamble is dropped without a HARQ. -/
theorem msg3_entry_leaks :
    ∃ s, runEvents (step fddCell) init [.rachIndication (rachOf 4), .runSlot ⟨0, 1⟩ (gridWith 14 2)] = .ok s ∧
      ¬Msg3Consistent fddCell s := by
  have hrun : (runEvents (step fddCell) init [.rachIndication (rachOf 4), .runSlot ⟨0, 1⟩ (gridWith 14 2)]).toOption.any
      (fun s => (s.msg3s.entries 516).busy && s.pendingRars.isEmpty &&
        decide ((s.msg3s.harqs.harq ⟨516, 0⟩).status = .empty)) = true := by
    decide +kernel
  cases hs : runEvents (step fddCell) init [.rachIndication (rachOf 4), .runSlot ⟨0, 1⟩ (gridWith 14 2)] with
  | error a =>
    rw [hs] at hrun
    simp [Except.toOption] at hrun
  | ok s =>
    rw [hs] at hrun
    simp only [Except.toOption, Option.any_some, Bool.and_eq_true, decide_eq_true_eq, List.isEmpty_iff] at hrun
    obtain ⟨⟨hbusy, hrars⟩, hharq⟩ := hrun
    refine ⟨s, rfl, fun hcons => ?_⟩
    rcases (hcons.busy_iff 516 (by decide)).mp hbusy with hrar | hst
    · simp [nofRarsWith, hrars] at hrar
    · exact hst hharq

end Consistency

end RaScheduler

end OwlsRan.Sched
