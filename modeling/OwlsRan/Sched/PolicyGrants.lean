import OwlsRan.Sched.GrantDistribution

/-!
# The grants reported to the policy

Behind stage 2 the policy gets the last messages of the slot, one for each pending grant, cancelled grants included. The
message of a cancelled DL grant is as blank as stage 1 made it. A UL grant cannot be cancelled at all.
-/

namespace OwlsRan.Sched
open OwlsRan.Adt OwlsRan.Lib

variable {N : Nat} {Ctx : Type}

def INVALID_RNTI : Nat := 0

/-- `dl_msg_alloc`, as far as the policies read it. A codeword is its TB size. -/
structure DlMsgAlloc where
  ueIndex : Nat
  rnti : Nat
  codewords : List Nat
deriving DecidableEq

/-- What `emplace_back()` puts behind the messages of the slot: all members are value-initialised. -/
def DlMsgAlloc.blank : DlMsgAlloc := ⟨0, 0, []⟩

/-- `ul_sched_info`, as far as the UE of a grant is concerned. -/
structure UlSchedInfo where
  ueIndex : Nat
  rnti : Nat
deriving DecidableEq

def UlSchedInfo.blank : UlSchedInfo := ⟨0, 0⟩

/-- What `ue_cell_grid_allocator::set_pdsch_params` does with the message of the grant. -/
def setPdschParams (crnti : Nat → Nat) (grant : GrantBuilder DlSchedContext) (vrbs : UnsignedInterval) (msg : DlMsgAlloc) :
    DlMsgAlloc :=
  if vrbs.empty then { msg with rnti := INVALID_RNTI }
  else
    { ueIndex := grant.ueIndex
      rnti := crnti grant.ueIndex
      codewords := msg.codewords ++ [grant.context.tbSizeBytes vrbs] }

/-- What `ue_cell_grid_allocator::set_pusch_params` does with the message of the grant, behind its assertion. -/
def setPuschParams (crnti : Nat → Nat) (grant : GrantBuilder UlSchedContext) (vrbs : UnsignedInterval) (msg : UlSchedInfo) :
    UlSchedInfo :=
  if vrbs.empty then { msg with rnti := INVALID_RNTI } else { ueIndex := grant.ueIndex, rnti := crnti grant.ueIndex }

/-- The span passed to `save_dl_newtx_grants`, when `search` answers the calls of `recommended_vrbs` and `ueGrants` are
the messages that the slot had before the call. Every pending grant has set the parameters of its own message. -/
def reportedDlGrants (search : DlSchedContext → BoundedBitset N → Nat → Except NewtxAbort UnsignedInterval)
    (crnti : Nat → Nat) (rbsToAlloc : Nat) (usedDlVrbs : BoundedBitset N) (ueGrants : List DlMsgAlloc)
    (pending : List (GrantBuilder DlSchedContext)) : Except NewtxAbort (List DlMsgAlloc) := do
  let d ← runEvents (RbDistribution.step search onEmptyPdschVrbs rbsToAlloc pending.length) (.start usedDlVrbs) pending
  let msgs := List.zipWith (fun grant vrbs => setPdschParams crnti grant (vrbs.getD .default) .blank) pending d.allocVrbs
  let pdschs := ueGrants ++ msgs
  let allocCount := pending.length
  return pdschs.drop (pdschs.length - allocCount)

/-- The span passed to `save_ul_newtx_grants`. -/
def reportedUlGrants (search : UlSchedContext → BoundedBitset N → Nat → Except NewtxAbort UnsignedInterval)
    (crnti : Nat → Nat) (rbsToAlloc : Nat) (usedUlVrbs : BoundedBitset N) (ulGrants : List UlSchedInfo)
    (pending : List (GrantBuilder UlSchedContext)) : Except NewtxAbort (List UlSchedInfo) := do
  let d ← runEvents (RbDistribution.step search onEmptyPuschVrbs rbsToAlloc pending.length) (.start usedUlVrbs) pending
  let msgs := List.zipWith (fun grant vrbs => setPuschParams crnti grant (vrbs.getD .default) .blank) pending d.allocVrbs
  let puschs := ulGrants ++ msgs
  let allocCount := pending.length
  return puschs.drop (puschs.length - allocCount)

def RealDlGrant (candidates : List (SliceCandidate DlSchedContext)) (msg : DlMsgAlloc) : Prop :=
  (∃ c ∈ candidates, c.ueIndex = msg.ueIndex) ∧ msg.codewords ≠ []

def RealUlGrant (candidates : List (SliceCandidate UlSchedContext)) (msg : UlSchedInfo) : Prop :=
  ∃ c ∈ candidates, c.ueIndex = msg.ueIndex

def Finds (search : Ctx → BoundedBitset N → Nat → Except NewtxAbort UnsignedInterval) (rbsToAlloc nofGrants : Nat)
    (d : RbDistribution N) (b : GrantBuilder Ctx) : Prop :=
  ∃ r, search b.context d.usedVrbs (d.maxGrantSize rbsToAlloc nofGrants).toNat = .ok r ∧ 0 < r.length

section Spans

variable {α β γ : Type} {f : α → Option β → γ} {P : γ → Prop} {xs : List α} {ys : List (Option β)}

lemma forall_mem_zipWith_iff (hlen : xs.length = ys.length) (hsome : ∀ x ∈ xs, ∀ y, some y ∈ ys → P (f x (some y)))
    (hnone : ∀ x ∈ xs, ¬ P (f x none)) : (∀ z ∈ List.zipWith f xs ys, P z) ↔ none ∉ ys := by
  induction xs generalizing ys with
  | nil =>
    rw [List.eq_nil_of_length_eq_zero hlen.symm]
    simp
  | cons x xs ih =>
    cases ys with
    | nil => cases hlen
    | cons y ys =>
      have hrest : (∀ z ∈ List.zipWith f xs ys, P z) ↔ none ∉ ys := ih (by simpa using hlen)
        (fun x' hx' y' hy' => hsome x' (List.mem_cons_of_mem x hx') y' (List.mem_cons_of_mem y hy'))
        fun x' hx' => hnone x' (List.mem_cons_of_mem x hx')
      rw [List.zipWith_cons_cons, List.forall_mem_cons, hrest, List.mem_cons, not_or]
      apply and_congr_left
      intro _
      cases y with
      | none => simpa using hnone x List.mem_cons_self
      | some y => simpa using hsome x List.mem_cons_self y List.mem_cons_self

lemma forall_mem_zipWith (hsome : ∀ x ∈ xs, ∀ y, some y ∈ ys → P (f x (some y))) (hall : none ∉ ys) :
    ∀ z ∈ List.zipWith f xs ys, P z := by
  intro z hz
  rw [← List.map_uncurry_zip_eq_zipWith] at hz
  obtain ⟨⟨x, y⟩, hin, rfl⟩ := List.mem_map.mp hz
  obtain ⟨hx, hy⟩ := List.of_mem_zip hin
  cases y with
  | none => exact absurd hy hall
  | some y => exact hsome x hx y hy

end Spans

section Outcomes

variable {search : Ctx → BoundedBitset N → Nat → Except NewtxAbort UnsignedInterval} {onEmpty : Except NewtxAbort Unit}
variable {rbs n : Nat} {d d' : RbDistribution N} {bs : List (GrantBuilder Ctx)}

/-- What stage 2 leaves of its grants: one entry each, with VRBs exactly where the search had some. -/
lemma allocVrbs_run (hsearch : ∀ ctx used k, ∃ r, search ctx used k = .ok r ∧ AllFree used r)
    (hrun : runEvents (RbDistribution.step search onEmpty rbs n) d bs = .ok d') :
    ∃ vrbs, d'.allocVrbs = d.allocVrbs ++ vrbs ∧ vrbs.length = bs.length ∧ (∀ r, some r ∈ vrbs → r.empty = false) ∧
      (none ∉ vrbs ↔ RunsWithin (RbDistribution.step search onEmpty rbs n) (Finds search rbs n) d bs) := by
  induction bs generalizing d with
  | nil =>
    cases hrun
    exact ⟨[], (List.append_nil _).symm, rfl, by simp, by simp [RunsWithin]⟩
  | cons b bs ih =>
    obtain ⟨mid, hstep, hrest⟩ := runEvents_cons_ok.mp hrun
    obtain ⟨vrbs, hvrbs, hlen, hsome, hfound⟩ := ih hrest
    have hpos : 0 < d.maxGrantSize rbs n := by
      by_contra hnot
      rw [RbDistribution.step_invalidGrantSize b (Int.not_lt.mp hnot)] at hstep
      cases hstep
    have hwithin : RunsWithin (RbDistribution.step search onEmpty rbs n) (Finds search rbs n) d (b :: bs) ↔
        Finds search rbs n d b ∧ none ∉ vrbs := by
      rw [hfound]
      constructor
      · exact fun h => ⟨h.1, h.2 mid hstep⟩
      · rintro ⟨hfinds, hlater⟩
        refine ⟨hfinds, fun s hs => ?_⟩
        rwa [Except.ok.inj (hs.symm.trans hstep)]
    obtain ⟨r, hr, ⟨hzero, heq⟩ | ⟨hgot, usedVrbs, -, heq⟩⟩ := RbDistribution.step_outcome onEmpty b (hsearch _ _ _) hpos
    · rw [heq] at hstep
      obtain ⟨_, -, rfl⟩ := map_eq_ok.mp hstep
      refine ⟨none :: vrbs, ?_, by simp [hlen], ?_, ?_⟩
      · rw [hvrbs]
        exact List.append_assoc _ _ _
      · intro r hin
        rcases List.mem_cons.mp hin with hnone | hin
        · cases hnone
        · exact hsome r hin
      · rw [hwithin]
        constructor
        · exact fun h => absurd List.mem_cons_self h
        · rintro ⟨⟨r', hr', hgot⟩, -⟩
          obtain rfl := Except.ok.inj (hr.symm.trans hr')
          omega
    · rw [heq] at hstep
      obtain rfl := Except.ok.inj hstep
      refine ⟨some r :: vrbs, ?_, by simp [hlen], ?_, ?_⟩
      · rw [hvrbs]
        exact List.append_assoc _ _ _
      · intro r' hin
        rcases List.mem_cons.mp hin with hhead | hin
        · obtain rfl := Option.some.inj hhead
          rw [Bool.eq_false_iff]
          intro hempty
          have := (UnsignedInterval.empty_iff r').mp hempty
          have := UnsignedInterval.start_add_length r'
          omega
        · exact hsome r' hin
      · rw [hwithin, List.mem_cons, not_or]
        exact ⟨fun h => ⟨⟨r, hr, hgot⟩, h.2⟩, fun h => ⟨by simp, h.2⟩⟩

end Outcomes

section Reports

variable {rbs : Nat} {crnti : Nat → Nat}

lemma drop_length_sub {α : Type} {slotMsgs msgs : List α} {n : Nat} (h : msgs.length = n) :
    (slotMsgs ++ msgs).drop ((slotMsgs ++ msgs).length - n) = msgs := by
  rw [List.length_append, h, Nat.add_sub_cancel, List.drop_left]

lemma pendingDlNewtxs_from {lims : PreselectionLimits} {attemptsCount : Nat}
    {candidates : List (SliceCandidate DlSchedContext)} :
    ∀ b ∈ pendingDlNewtxs lims attemptsCount candidates, ∃ c ∈ candidates, c.ueIndex = b.ueIndex := by
  intro b hb
  obtain ⟨c, hc, hue, -⟩ := (mem_preselect hb).resolve_left List.not_mem_nil
  exact ⟨c, hc, hue⟩

lemma pendingUlNewtxs_from {lims : PreselectionLimits} {attemptsCount : Nat}
    {candidates : List (SliceCandidate UlSchedContext)} :
    ∀ b ∈ pendingUlNewtxs lims attemptsCount candidates, ∃ c ∈ candidates, c.ueIndex = b.ueIndex := by
  intro b hb
  obtain ⟨c, hc, hue, -⟩ := (mem_preselect hb).resolve_left List.not_mem_nil
  exact ⟨c, hc, hue⟩

lemma reportedDlGrants_spec {search : DlSchedContext → BoundedBitset N → Nat → Except NewtxAbort UnsignedInterval}
    (hsearch : ∀ ctx used k, ∃ r, search ctx used k = .ok r ∧ AllFree used r ∧ r.length ≤ k)
    {pending : List (GrantBuilder DlSchedContext)} {candidates : List (SliceCandidate DlSchedContext)}
    (hn : pending.length ≤ rbs) (hfrom : ∀ b ∈ pending, ∃ c ∈ candidates, c.ueIndex = b.ueIndex)
    (used : BoundedBitset N) (ueGrants : List DlMsgAlloc) :
    ∃ report, reportedDlGrants search crnti rbs used ueGrants pending = .ok report ∧
      ((∀ msg ∈ report, RealDlGrant candidates msg) ↔
        RunsWithin (RbDistribution.step search onEmptyPdschVrbs rbs pending.length) (Finds search rbs pending.length)
          (.start used) pending) := by
  have hfree : ∀ ctx used k, ∃ r, search ctx used k = .ok r ∧ AllFree used r :=
    fun ctx used k => (hsearch ctx used k).imp fun r hr => ⟨hr.1, hr.2.1⟩
  obtain ⟨-, d, hrun⟩ := RbDistribution.steady_run hsearch used pending hn
  obtain ⟨vrbs, hvrbs, hlen, hsome, hfound⟩ := allocVrbs_run hfree hrun
  have hall : d.allocVrbs = vrbs := hvrbs
  let msg (b : GrantBuilder DlSchedContext) (v : Option UnsignedInterval) : DlMsgAlloc :=
    setPdschParams crnti b (v.getD .default) .blank
  have hreport : reportedDlGrants search crnti rbs used ueGrants pending = .ok (List.zipWith msg pending vrbs) := by
    unfold reportedDlGrants
    rw [hrun]
    change Except.ok (List.drop _ (ueGrants ++ List.zipWith msg pending d.allocVrbs)) = _
    rw [hall, drop_length_sub (by rw [List.length_zipWith, hlen, Nat.min_self])]
  refine ⟨_, hreport, ?_⟩
  rw [← hfound]
  apply forall_mem_zipWith_iff hlen.symm
  · intro b hb r hr
    simp only [msg, setPdschParams, Option.getD_some, hsome r hr]
    exact ⟨hfrom b hb, by simp⟩
  · intro b _ hreal
    exact hreal.2 rfl

lemma reportedUlGrants_spec {search : UlSchedContext → BoundedBitset N → Nat → Except NewtxAbort UnsignedInterval}
    (hsearch : ∀ ctx used k, ∃ r, search ctx used k = .ok r ∧ AllFree used r)
    {pending : List (GrantBuilder UlSchedContext)} {candidates : List (SliceCandidate UlSchedContext)}
    (hfrom : ∀ b ∈ pending, ∃ c ∈ candidates, c.ueIndex = b.ueIndex)
    {used : BoundedBitset N} {ulGrants report : List UlSchedInfo}
    (hreport : reportedUlGrants search crnti rbs used ulGrants pending = .ok report) :
    ∀ msg ∈ report, RealUlGrant candidates msg := by
  obtain ⟨d, hrun, hspan⟩ := bind_eq_ok.mp hreport
  obtain ⟨vrbs, hvrbs, hlen, hsome, hfound⟩ := allocVrbs_run hsearch hrun
  have hall : d.allocVrbs = vrbs := hvrbs
  let msg (b : GrantBuilder UlSchedContext) (v : Option UnsignedInterval) : UlSchedInfo :=
    setPuschParams crnti b (v.getD .default) .blank
  have hmsgs : report = List.zipWith msg pending vrbs := by
    have hspan : List.drop _ (ulGrants ++ List.zipWith msg pending d.allocVrbs) = report := Except.ok.inj hspan
    rw [← hspan, hall, drop_length_sub (by rw [List.length_zipWith, hlen, Nat.min_self])]
  have hfinds : RunsWithin (RbDistribution.step search onEmptyPuschVrbs rbs pending.length)
      (Finds search rbs pending.length) (.start used) pending := by
    refine runsWithin_of_run (C := fun _ _ => True) (fun _ => True) (fun _ _ _ _ _ _ => trivial) ?_ trivial
      (runsWithin_of_forall (C := fun _ => True) fun _ _ => trivial) hrun
    intro d b d' _ _ hstep
    have hpos : 0 < d.maxGrantSize rbs pending.length := by
      by_contra hnot
      rw [RbDistribution.step_invalidGrantSize b (Int.not_lt.mp hnot)] at hstep
      cases hstep
    obtain ⟨r, hr, ⟨-, hempty⟩ | ⟨hgot, -⟩⟩ := RbDistribution.step_outcome onEmptyPuschVrbs b (hsearch _ _ _) hpos
    · rw [hempty] at hstep
      cases hstep
    · exact ⟨r, hr, hgot⟩
  rw [hmsgs]
  refine forall_mem_zipWith ?_ (hfound.mpr hfinds)
  intro b hb r hr
  simp only [msg, setPuschParams, Option.getD_some, hsome r hr]
  exact hfrom b hb

lemma ul_cancel_iff {search : UlSchedContext → BoundedBitset N → Nat → Except NewtxAbort UnsignedInterval} {n : Nat}
    (hsearch : ∀ ctx used k, ∃ r, search ctx used k = .ok r ∧ AllFree used r) {d : RbDistribution N}
    {bs : List (GrantBuilder UlSchedContext)} :
    runEvents (RbDistribution.step search onEmptyPuschVrbs rbs n) d bs ≠ .error .invalidPuschVrbs ↔
      RunsWithin (RbDistribution.step search onEmptyPuschVrbs rbs n)
        (fun d b => 0 < d.maxGrantSize rbs n → Finds search rbs n d b) d bs := by
  induction bs generalizing d with
  | nil => simp [RunsWithin]
  | cons b bs ih =>
    rw [runEvents_cons]
    by_cases hpos : 0 < d.maxGrantSize rbs n
    · obtain ⟨r, hr, ⟨hzero, hstep⟩ | ⟨hgot, usedVrbs, -, hstep⟩⟩ :=
        RbDistribution.step_outcome onEmptyPuschVrbs b (hsearch _ _ _) hpos
      · rw [hstep]
        constructor
        · exact fun h => absurd rfl h
        · rintro ⟨hfinds, -⟩
          obtain ⟨r', hr', hgot⟩ := hfinds hpos
          obtain rfl := Except.ok.inj (hr.symm.trans hr')
          omega
      · rw [hstep]
        change runEvents _ _ bs ≠ _ ↔ _
        rw [ih]
        constructor
        · refine fun hrest => ⟨fun _ => ⟨r, hr, hgot⟩, fun s hs => ?_⟩
          rwa [← Except.ok.inj (hstep.symm.trans hs)]
        · exact fun h => h.2 _ hstep
    · have hstep : RbDistribution.step search onEmptyPuschVrbs rbs n d b = .error .invalidGrantSize :=
        RbDistribution.step_invalidGrantSize b (Int.not_lt.mp hpos)
      rw [hstep]
      constructor
      · refine fun _ => ⟨fun h => absurd h hpos, fun s hs => ?_⟩
        rw [hstep] at hs
        cases hs
      · intro _ h
        cases h

lemma dl_always_finds {pending : List (GrantBuilder DlSchedContext)} (hn : pending.length ≤ rbs)
    (hasks : ∀ b ∈ pending, 0 < b.context.expectedNofRbs) (used : BoundedBitset N) (hfree : rbs ≤ used.complement.count) :
    RunsWithin (dlStage2Step rbs pending.length) (Finds findAvailableDlVrbs rbs pending.length) (.start used) pending := by
  have hsound : ∀ (ctx : DlSchedContext) (used : BoundedBitset N) (k : Nat),
      ∃ r, findAvailableDlVrbs ctx used k = .ok r ∧ AllFree used r :=
    fun ctx used k => (findAvailableDlVrbs_spec ctx used k).imp fun r hr => ⟨hr.1, hr.2.1⟩
  have hcount : RunsWithin (dlStage2Step rbs pending.length) (fun d _ => d.allocCount < pending.length)
      (.start used) pending := RbDistribution.runsWithin_allocCount hsound (by simp [RbDistribution.start])
  have hevents : RunsWithin (dlStage2Step rbs pending.length) (fun _ b => 0 < b.context.expectedNofRbs)
      (.start used) pending := runsWithin_of_forall hasks
  refine (runsWithin_establishes (P := fun _ => True)
    (fun d => RbDistribution.Steady rbs pending.length d ∧ rbs ≤ d.rbCount + d.usedVrbs.complement.count)
    (fun _ _ => trivial) ?_ ?_ ⟨RbDistribution.steady_start used hn, ?_⟩ (runsWithin_and hcount hevents)).2
  · rintro d b d' ⟨hsteady, hleft⟩ ⟨hlt, -⟩ hd'
    obtain ⟨r, -, ⟨-, hstep, hnext⟩ | ⟨-, usedVrbs, hfill, hstep, hnext⟩⟩ :=
      RbDistribution.step_steady b (findAvailableDlVrbs_spec _ _ _) hsteady hlt hn
    · obtain rfl := Except.ok.inj (hstep.symm.trans hd')
      exact ⟨hnext, hleft⟩
    · obtain rfl := Except.ok.inj (hstep.symm.trans hd')
      have htaken := BoundedBitset.count_complement_fill hfill
      refine ⟨hnext, ?_⟩
      change rbs ≤ d.rbCount + r.length + usedVrbs.complement.count
      unfold UnsignedInterval.length
      omega
  · rintro d b ⟨hsteady, hleft⟩ ⟨hlt, hask⟩
    have hpos := hsteady.inBudget.2 hlt
    have hroom : d.rbCount < rbs := by
      have hshare := hsteady.balanced.shares_left hlt 1 (by omega)
      have havg := RbDistribution.share_pos hlt hn
      have hmissing := hsteady.missing hlt
      omega
    obtain ⟨p, hp, hbit⟩ := BoundedBitset.exists_free (show 0 < d.usedVrbs.complement.count by omega)
    obtain ⟨r, hr, -, -, hsome⟩ := findEmptyIntervalOfLength_free d.usedVrbs
      (min b.context.expectedNofRbs (d.maxGrantSize rbs pending.length).toNat) (.ofStartAndLen 0 N)
    refine ⟨r, ?_, hsome (by omega) ⟨p, ⟨Nat.zero_le p, ?_⟩, hp, hbit⟩⟩
    · unfold findAvailableDlVrbs
      rw [hr]
      rfl
    · have := d.usedVrbs.bounded
      unfold BoundedBitset.size at hp
      change p < 0 + N
      omega
  · exact Nat.le_trans hfree (Nat.le_add_left _ _)

end Reports

/-- The grants of a DL report are real exactly if the search has VRBs for every grant, which the search of the code always
has. A UL report has real grants only, and there is one exactly if no search comes back empty or a grant has no size. -/
theorem reported_grants_real (lims : PreselectionLimits) (hrbs : 0 < lims.rbsToAlloc) (hsize : 0 < lims.maxRbsPerGrant)
    (attemptsCount : Nat) (crnti : Nat → Nat) :
    (∀ (search : DlSchedContext → BoundedBitset MAX_NOF_PRBS → Nat → Except NewtxAbort UnsignedInterval)
      (candidates : List (SliceCandidate DlSchedContext)) (used : BoundedBitset MAX_NOF_PRBS) (ueGrants : List DlMsgAlloc),
      (∀ ctx used k, ∃ r, search ctx used k = .ok r ∧ AllFree used r ∧ r.length ≤ k) →
      (∀ c ∈ candidates, ∀ ctx, c.answer = .granted ctx → 0 < ctx.expectedNofRbs) →
      let pending := pendingDlNewtxs lims attemptsCount candidates
      ∃ report, reportedDlGrants search crnti lims.rbsToAlloc used ueGrants pending = .ok report ∧
        ((∀ msg ∈ report, RealDlGrant candidates msg) ↔
          RunsWithin (RbDistribution.step search onEmptyPdschVrbs lims.rbsToAlloc pending.length)
            (Finds search lims.rbsToAlloc pending.length) (.start used) pending)) ∧
    (∀ (candidates : List (SliceCandidate DlSchedContext)) (used : BoundedBitset MAX_NOF_PRBS),
      (∀ c ∈ candidates, ∀ ctx, c.answer = .granted ctx → 0 < ctx.expectedNofRbs) →
      lims.rbsToAlloc ≤ used.complement.count →
      let pending := pendingDlNewtxs lims attemptsCount candidates
      RunsWithin (dlStage2Step lims.rbsToAlloc pending.length)
        (Finds findAvailableDlVrbs lims.rbsToAlloc pending.length) (.start used) pending) ∧
    ∀ (search : UlSchedContext → BoundedBitset MAX_NOF_PRBS → Nat → Except NewtxAbort UnsignedInterval)
      (candidates : List (SliceCandidate UlSchedContext)) (used : BoundedBitset MAX_NOF_PRBS) (ulGrants : List UlSchedInfo),
      (∀ ctx used k, ∃ r, search ctx used k = .ok r ∧ AllFree used r) →
      let pending := pendingUlNewtxs lims attemptsCount candidates
      (reportedUlGrants search crnti lims.rbsToAlloc used ulGrants pending ≠ .error .invalidPuschVrbs ∧
          ∀ report, reportedUlGrants search crnti lims.rbsToAlloc used ulGrants pending = .ok report →
            ∀ msg ∈ report, RealUlGrant candidates msg) ↔
        RunsWithin (RbDistribution.step search onEmptyPuschVrbs lims.rbsToAlloc pending.length)
          (fun d b => 0 < d.maxGrantSize lims.rbsToAlloc pending.length → Finds search lims.rbsToAlloc pending.length d b)
          (.start used) pending := by
  refine ⟨?_, ?_, ?_⟩
  · intro search candidates used ueGrants hsearch hasks pending
    exact reportedDlGrants_spec hsearch (pendingDlNewtxs_length_le hrbs hsize hasks) pendingDlNewtxs_from used
      ueGrants
  · intro candidates used hasks hfree pending
    refine dl_always_finds (pendingDlNewtxs_length_le hrbs hsize hasks) ?_ used hfree
    intro b hb
    obtain ⟨c, hc, -, hanswer⟩ := (mem_preselect hb).resolve_left List.not_mem_nil
    exact hasks c hc _ hanswer
  · intro search candidates used ulGrants hsearch pending
    rw [← ul_cancel_iff hsearch]
    have hsame : reportedUlGrants search crnti lims.rbsToAlloc used ulGrants pending ≠ .error .invalidPuschVrbs ↔
        runEvents (RbDistribution.step search onEmptyPuschVrbs lims.rbsToAlloc pending.length) (.start used) pending ≠
          .error .invalidPuschVrbs := by
      unfold reportedUlGrants
      cases runEvents (RbDistribution.step search onEmptyPuschVrbs lims.rbsToAlloc pending.length) (.start used) pending with
      | ok d =>
        constructor
        · rintro - h
          cases h
        · rintro - h
          cases h
      | error a => simp [bind, Except.bind]
    rw [hsame]
    exact and_iff_left fun report hreport => reportedUlGrants_spec hsearch pendingUlNewtxs_from hreport

theorem reported_grants_real_twelve : (0 < 12 ∧ 0 < 4) ∧
    ∃ report, reportedDlGrants findAvailableDlVrbs (fun ueIndex => 17921 + ueIndex) 12 (freeRbs 12 (by decide)) []
        (pendingDlNewtxs ⟨12, 4, 8, 16⟩ 0 twoDlCandidates) = .ok report ∧
      ∀ msg ∈ report, RealDlGrant twoDlCandidates msg := by
  obtain ⟨hreports, hfinds, -⟩ := reported_grants_real ⟨12, 4, 8, 16⟩ (by decide) (by decide) 0
    fun ueIndex => 17921 + ueIndex
  have hasks : ∀ c ∈ twoDlCandidates, ∀ ctx, c.answer = .granted ctx → 0 < ctx.expectedNofRbs := by
    simp [twoDlCandidates]
  obtain ⟨report, hreport, hiff⟩ :=
    hreports findAvailableDlVrbs twoDlCandidates (freeRbs 12 (by decide)) [] findAvailableDlVrbs_spec hasks
  exact ⟨by decide, report, hreport, hiff.mpr (hfinds twoDlCandidates (freeRbs 12 (by decide)) hasks (by decide))⟩

def usedBelowEight : BoundedBitset MAX_NOF_PRBS :=
  ⟨[true, true, true, true, true, true, true, true, false, false, false, false], by decide⟩

def lowBandUe : SliceCandidate UlSchedContext :=
  ⟨7, true, .granted {
    vrbLims := ⟨0, 8, by decide⟩
    nofRbLims := ⟨1, 8, by decide⟩
    expectedNofRbs := 4
    useTransformPrecoder := false }⟩

/-- The free RBs lie outside the limits of the only UE: its grant is not cancelled, the assertion fails. A cancelled DL
grant would be reported as a grant of the UE with index 0, without a codeword. -/
theorem reported_grants_real_fails :
    getMaxGrantsAndRbGrantSize 1 (some ⟨48, 12⟩) 0 12 usedBelowEight 8 = (4, 4) ∧
      reportedUlGrants findAvailableUlVrbs (fun ueIndex => 17921 + ueIndex) 4 usedBelowEight []
        (pendingUlNewtxs ⟨4, 4, 8, 16⟩ 0 [lowBandUe]) = .error .invalidPuschVrbs ∧
      ∃ report, reportedDlGrants (fun _ _ _ => .ok .default) (fun ueIndex => 17921 + ueIndex) 12
          (freeRbs 12 (by decide)) [] (pendingDlNewtxs ⟨12, 4, 8, 16⟩ 0 (twoDlCandidates.drop 1)) = .ok report ∧
        ∃ msg ∈ report, msg.ueIndex = 0 ∧ msg.codewords = [] ∧ ¬ RealDlGrant (twoDlCandidates.drop 1) msg :=
  ⟨by decide, by rfl, _, rfl, DlMsgAlloc.blank, List.mem_cons_self, rfl, rfl, fun hreal => hreal.2 rfl⟩

end OwlsRan.Sched
