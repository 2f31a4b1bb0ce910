import OwlsRan.Ofh.UplinkContextRepository

/-!
# Writing of received PRACH symbols

The sections of a received message are cut to the band of the PRACH, whose sequence starts some REs after the first RE
of a PRB, and are copied one after the other into the buffer of the repository.
-/

namespace OwlsRan.Ofh

variable {α : Type*}

structure PrachSection (α : Type*) where
  startPrb : ℕ
  nofPrbs : ℕ
  iqSamples : List α
  length_iqSamples : iqSamples.length = nofPrbs * NOF_SUBCARRIERS_PER_RB

inductive PrachAbort where
  | noValidPrachBuffer | invalidSymbolIndex | invalidIqDataBufferSize | subspanOutOfRange
deriving DecidableEq

/-- `prach_context` with its buffer, whose REs are given for port and symbol. -/
structure PrachContext (α : Type*) where
  isLongPreamble : Bool
  sequenceLength : ℕ
  kBar : ℕ
  nofSymbols : ℕ
  startSymbol : ℕ
  maxNofPorts : ℕ
  buffer : ℕ → ℕ → ℕ → α
  reWritten : ℕ → ℕ → ℕ → Bool

namespace PrachContext

def overwrite (c : PrachContext α) (port symbol : ℕ) (sample : ℕ → Option α) : PrachContext α :=
  { c with
    buffer := fun p s re => if p = port ∧ s = symbol then (sample re).getD (c.buffer p s re) else c.buffer p s re
    reWritten := fun p s re => (decide (p = port ∧ s = symbol) && (sample re).isSome) || c.reWritten p s re }

/-- The symbol within the preamble. Some RUs always send symbol zero for a long preamble. The difference of a short
preamble is an unsigned one. -/
def symbolIndex (c : PrachContext α) (symbol : ℕ) : ℕ :=
  if c.isLongPreamble then
    if c.startSymbol ≤ symbol then symbol - c.startSymbol else symbol
  else (symbol + 2 ^ 32 - c.startSymbol) % 2 ^ 32

def writeIq (c : PrachContext α) (port symbol reStart : ℕ) (iq : List α) : Except PrachAbort (PrachContext α) :=
  let symbol := c.symbolIndex symbol
  if c.nofSymbols ≤ symbol then .error .invalidSymbolIndex
  else if c.maxNofPorts ≤ port then .ok c
  else if c.sequenceLength < reStart + iq.length then .error .invalidIqDataBufferSize
  else .ok (c.overwrite port symbol fun re => if reStart ≤ re then iq[re - reStart]? else none)

end PrachContext

structure PrachWriterConfig where
  repository : UplinkRepositoryConfig
  prachEaxc : List ℕ

abbrev PrachContextRepository (α : Type*) := ℕ → Option (PrachContext α)

namespace PrachContextRepository

def entry (cfg : PrachWriterConfig) (repo : PrachContextRepository α) (slot : ℕ) : Option (PrachContext α) :=
  repo (calculateRepositoryIndex cfg.repository slot)

def setEntry (cfg : PrachWriterConfig) (repo : PrachContextRepository α) (slot : ℕ) (c : PrachContext α) :
    PrachContextRepository α :=
  Function.update repo (calculateRepositoryIndex cfg.repository slot) (some c)

def writeIq (cfg : PrachWriterConfig) (repo : PrachContextRepository α) (slot port symbol reStart : ℕ) (iq : List α) :
    Except PrachAbort (PrachContextRepository α) :=
  match repo.entry cfg slot with
  | none => .error .noValidPrachBuffer
  | some c => (c.writeIq port symbol reStart iq).map (repo.setEntry cfg slot)

end PrachContextRepository

structure PrachMessage (α : Type*) where
  slot : ℕ
  symbolId : ℕ
  sections : List (PrachSection α)

structure PrachCopy where
  startRe : ℕ
  iqStartRe : ℕ
  iqSizeRe : ℕ
deriving DecidableEq

namespace PrachContext

/-- The body of the loop up to the copy, none where the section is outside the PRACH. -/
def copyOf (c : PrachContext α) (section_ : PrachSection α) : Option PrachCopy :=
  let prachNofRes := c.sequenceLength
  let nofReToPrachData := c.kBar
  -- `std::ceil` of the quotient, which is exact for numbers of this size
  let prachNofPrbs := (prachNofRes + nofReToPrachData + (NOF_SUBCARRIERS_PER_RB - 1)) / NOF_SUBCARRIERS_PER_RB
  let nofReAfterPrachData := prachNofPrbs * NOF_SUBCARRIERS_PER_RB - (prachNofRes + nofReToPrachData)
  let prachDataStartPrb := nofReToPrachData / NOF_SUBCARRIERS_PER_RB
  if prachNofPrbs ≤ section_.startPrb then none
  else if section_.startPrb + section_.nofPrbs ≤ prachDataStartPrb then none
  else
    let nofPrbsToWrite :=
      if section_.startPrb + section_.nofPrbs < prachNofPrbs then section_.nofPrbs
      else prachNofPrbs - section_.startPrb
    -- the difference is made an `int` for the maximum with zero
    let startRe := (max 0 ((section_.startPrb * NOF_SUBCARRIERS_PER_RB : ℤ) - nofReToPrachData)).toNat
    let sectionStartRe := section_.startPrb * NOF_SUBCARRIERS_PER_RB
    let sectionNofRe :=
      if prachNofPrbs ≤ section_.startPrb + section_.nofPrbs then
        nofPrbsToWrite * NOF_SUBCARRIERS_PER_RB - nofReAfterPrachData
      else nofPrbsToWrite * NOF_SUBCARRIERS_PER_RB
    let iqStartRe := if sectionStartRe < nofReToPrachData then nofReToPrachData - sectionStartRe else 0
    some ⟨startRe, iqStartRe, min (sectionNofRe - iqStartRe) prachNofRes⟩

end PrachContext

/-- `subspan` of a span, whose assertion is that it lies in the span. -/
def subspan (xs : List α) (offset count : ℕ) : Except PrachAbort (List α) :=
  if offset + count ≤ xs.length then .ok ((xs.drop offset).take count) else .error .subspanOutOfRange

def writePrachSection (cfg : PrachWriterConfig) (context : PrachContext α) (slot port symbol : ℕ)
    (repo : PrachContextRepository α) (section_ : PrachSection α) : Except PrachAbort (PrachContextRepository α) :=
  match context.copyOf section_ with
  | none => .ok repo
  | some copy => do
    let prachInData ← subspan section_.iqSamples copy.iqStartRe copy.iqSizeRe
    repo.writeIq cfg slot port symbol copy.startRe prachInData

def writeToPrachBuffer (cfg : PrachWriterConfig) (repo : PrachContextRepository α) (eaxc : ℕ)
    (results : PrachMessage α) : Except PrachAbort (Bool × PrachContextRepository α) :=
  match repo.entry cfg results.slot with
  | none => .ok (false, repo)
  | some context =>
    let port := cfg.prachEaxc.idxOf eaxc
    if context.maxNofPorts ≤ port then .ok (true, repo)
    else
      (results.sections.foldlM (writePrachSection cfg context results.slot port results.symbolId) repo).map (true, ·)

namespace PrachSection

def sampleAt (c : PrachContext α) (s : PrachSection α) (re : ℕ) : Option α :=
  if re < c.sequenceLength ∧ s.startPrb * NOF_SUBCARRIERS_PER_RB ≤ c.kBar + re then
    s.iqSamples[c.kBar + re - s.startPrb * NOF_SUBCARRIERS_PER_RB]?
  else none

def Covers (s : PrachSection α) (prb : ℕ) : Prop := s.startPrb ≤ prb ∧ prb < s.startPrb + s.nofPrbs

instance (s : PrachSection α) (prb : ℕ) : Decidable (s.Covers prb) := inferInstanceAs (Decidable (_ ∧ _))

variable {s : PrachSection α}

lemma sampleAt_eq_none {c : PrachContext α} {re : ℕ}
    (h : ¬ (re < c.sequenceLength ∧ s.Covers ((c.kBar + re) / NOF_SUBCARRIERS_PER_RB))) : s.sampleAt c re = none := by
  have hlen := s.length_iqSamples
  unfold sampleAt
  split_ifs with hre
  · rw [List.getElem?_eq_none]
    simp only [Covers, NOF_SUBCARRIERS_PER_RB] at h hre hlen ⊢
    omega
  · rfl

lemma sampleAt_eq_getElem {c : PrachContext α} {re : ℕ} (hre : re < c.sequenceLength)
    (h : s.Covers ((c.kBar + re) / NOF_SUBCARRIERS_PER_RB)) :
    s.sampleAt c re = s.iqSamples[c.kBar + re - s.startPrb * NOF_SUBCARRIERS_PER_RB]? := by
  unfold sampleAt
  rw [if_pos]
  simp only [Covers, NOF_SUBCARRIERS_PER_RB] at h ⊢
  omega

lemma exists_sample {c : PrachContext α} {re : ℕ} (h : s.Covers ((c.kBar + re) / NOF_SUBCARRIERS_PER_RB)) :
    ∃ x, s.iqSamples[c.kBar + re - s.startPrb * NOF_SUBCARRIERS_PER_RB]? = some x := by
  have hlen := s.length_iqSamples
  rw [← Option.isSome_iff_exists, List.getElem?_eq_getElem]
  · rfl
  · simp only [Covers, NOF_SUBCARRIERS_PER_RB] at h hlen ⊢
    omega

lemma copyOf_spec (c : PrachContext α) (s : PrachSection α) :
    match c.copyOf s with
    | none => ∀ re, s.sampleAt c re = none
    | some copy =>
      copy.iqStartRe + copy.iqSizeRe ≤ s.iqSamples.length ∧ copy.startRe + copy.iqSizeRe ≤ c.sequenceLength ∧
        ∀ re, (if copy.startRe ≤ re then
          ((s.iqSamples.drop copy.iqStartRe).take copy.iqSizeRe)[re - copy.startRe]? else none) = s.sampleAt c re := by
  have hlen := s.length_iqSamples
  rcases hcopy : c.copyOf s with _ | copy
  · intro re
    refine sampleAt_eq_none fun h => ?_
    simp only [PrachContext.copyOf] at hcopy
    split_ifs at hcopy
    all_goals
      simp only [Covers, NOF_SUBCARRIERS_PER_RB] at *
      omega
  · have hrange : c.kBar < (s.startPrb + s.nofPrbs) * 12 ∧ copy.startRe = s.startPrb * 12 - c.kBar ∧
        copy.startRe + copy.iqSizeRe = min c.sequenceLength ((s.startPrb + s.nofPrbs) * 12 - c.kBar) ∧
        copy.iqStartRe + s.startPrb * 12 = copy.startRe + c.kBar := by
      simp only [PrachContext.copyOf] at hcopy
      split_ifs at hcopy
      all_goals
        simp only [Option.some.injEq] at hcopy
        subst hcopy
        simp only [NOF_SUBCARRIERS_PER_RB] at *
        omega
    obtain ⟨hband, hstart, hstop, hiq⟩ := hrange
    simp only [NOF_SUBCARRIERS_PER_RB] at hlen
    refine ⟨by omega, by omega, fun re => ?_⟩
    by_cases hre : copy.startRe ≤ re ∧ re < copy.startRe + copy.iqSizeRe
    · rw [if_pos hre.1, List.getElem?_take_of_lt (by omega), List.getElem?_drop, sampleAt_eq_getElem (by omega)]
      · simp only [NOF_SUBCARRIERS_PER_RB]
        congr 1
        omega
      · simp only [Covers, NOF_SUBCARRIERS_PER_RB]
        omega
    · rw [sampleAt_eq_none]
      · split_ifs
        · rw [List.getElem?_take_eq_none (by omega)]
        · rfl
      · simp only [Covers, NOF_SUBCARRIERS_PER_RB]
        omega

def receivedSample (c : PrachContext α) (sections : List (PrachSection α)) (re : ℕ) : Option α :=
  if re < c.sequenceLength then
    (sections.reverse.find? fun s => s.Covers ((c.kBar + re) / NOF_SUBCARRIERS_PER_RB)).bind fun s =>
      s.iqSamples[c.kBar + re - s.startPrb * NOF_SUBCARRIERS_PER_RB]?
  else none

lemma receivedSample_nil (c : PrachContext α) : receivedSample c [] = fun _ => none := by
  funext re
  simp [receivedSample]

lemma receivedSample_cons (c : PrachContext α) (s : PrachSection α) (sections : List (PrachSection α)) (re : ℕ) :
    receivedSample c (s :: sections) re = (receivedSample c sections re).or (s.sampleAt c re) := by
  by_cases hre : re < c.sequenceLength
  · simp only [receivedSample, if_pos hre, List.reverse_cons, List.find?_append]
    set prb := (c.kBar + re) / NOF_SUBCARRIERS_PER_RB with hprb
    cases hlast : sections.reverse.find? fun s => s.Covers prb with
    | some last =>
      have hcov : last.Covers prb := by simpa using List.find?_some hlast
      obtain ⟨x, hx⟩ := exists_sample hcov
      simp only [Option.or, Option.bind_some, hx]
    | none =>
      by_cases hcov : s.Covers prb
      · simp [hcov, sampleAt_eq_getElem hre hcov]
      · rw [sampleAt_eq_none (fun h => hcov h.2)]
        simp [hcov]
  · have hnone := sampleAt_eq_none (c := c) (s := s) (fun h => hre h.1)
    simp [receivedSample, hre, hnone]

end PrachSection

namespace PrachContext

open PrachSection

lemma overwrite_overwrite (c : PrachContext α) (port symbol : ℕ) (f g : ℕ → Option α) :
    (c.overwrite port symbol f).overwrite port symbol g = c.overwrite port symbol fun re => (g re).or (f re) := by
  simp only [overwrite, PrachContext.mk.injEq, true_and]
  constructor
  · funext p s re
    by_cases h : p = port ∧ s = symbol
    · cases g re <;> simp [h]
    · simp only [if_neg h]
  · funext p s re
    by_cases h : p = port ∧ s = symbol
    · cases g re <;> simp [h]
    · simp [h]

lemma overwrite_none (c : PrachContext α) (port symbol : ℕ) : (c.overwrite port symbol fun _ => none) = c := by
  simp [overwrite]

end PrachContext

namespace PrachContextRepository

lemma entry_setEntry (cfg : PrachWriterConfig) (repo : PrachContextRepository α) (slot : ℕ) (c : PrachContext α) :
    (repo.setEntry cfg slot c).entry cfg slot = some c := by
  simp [entry, setEntry]

lemma setEntry_setEntry (cfg : PrachWriterConfig) (repo : PrachContextRepository α) (slot : ℕ) (c d : PrachContext α) :
    (repo.setEntry cfg slot c).setEntry cfg slot d = repo.setEntry cfg slot d := by
  simp [setEntry]

lemma setEntry_entry {cfg : PrachWriterConfig} {repo : PrachContextRepository α} {slot : ℕ} {c : PrachContext α}
    (h : repo.entry cfg slot = some c) : repo.setEntry cfg slot c = repo := by
  funext i
  by_cases hi : i = calculateRepositoryIndex cfg.repository slot
  · subst hi
    simpa [setEntry, entry] using h.symm
  · simp [setEntry, hi]

end PrachContextRepository

section Run

variable (cfg : PrachWriterConfig) (repo : PrachContextRepository α) (slot : ℕ) {c : PrachContext α} {port symbol : ℕ}
  (hport : port < c.maxNofPorts) (hsymbol : c.symbolIndex symbol < c.nofSymbols)

include hport hsymbol

lemma writePrachSection_eq (f : ℕ → Option α) (s : PrachSection α) :
    writePrachSection cfg c slot port symbol
        (repo.setEntry cfg slot (c.overwrite port (c.symbolIndex symbol) f)) s =
      .ok (repo.setEntry cfg slot
        (c.overwrite port (c.symbolIndex symbol) fun re => (s.sampleAt c re).or (f re))) := by
  have hspec := s.copyOf_spec c
  unfold writePrachSection
  cases hcopy : c.copyOf s with
  | none =>
    simp only [hcopy] at hspec
    simp only [hspec, Option.none_or]
  | some copy =>
    simp only [hcopy] at hspec
    obtain ⟨hiq, hre, hsample⟩ := hspec
    have hlen : ((s.iqSamples.drop copy.iqStartRe).take copy.iqSizeRe).length = copy.iqSizeRe := by
      simp only [List.length_take, List.length_drop]
      omega
    have hwrite : (c.overwrite port (c.symbolIndex symbol) f).writeIq port symbol copy.startRe
        ((s.iqSamples.drop copy.iqStartRe).take copy.iqSizeRe) =
          .ok (c.overwrite port (c.symbolIndex symbol) fun re => (s.sampleAt c re).or (f re)) := by
      have hindex : (c.overwrite port (c.symbolIndex symbol) f).symbolIndex symbol = c.symbolIndex symbol := rfl
      rw [PrachContext.writeIq, hindex, if_neg, if_neg, if_neg, PrachContext.overwrite_overwrite]
      · simp only [hsample]
      · rw [hlen]
        exact not_lt.mpr hre
      · exact not_le.mpr hport
      · exact not_le.mpr hsymbol
    simp only [subspan, if_pos hiq, PrachContextRepository.writeIq, PrachContextRepository.entry_setEntry, bind,
      Except.bind, hwrite, Except.map, PrachContextRepository.setEntry_setEntry]

lemma writePrachSections_eq (sections : List (PrachSection α)) (f : ℕ → Option α) :
    sections.foldlM (writePrachSection cfg c slot port symbol)
        (repo.setEntry cfg slot (c.overwrite port (c.symbolIndex symbol) f)) =
      .ok (repo.setEntry cfg slot
        (c.overwrite port (c.symbolIndex symbol) fun re => (PrachSection.receivedSample c sections re).or (f re))) := by
  induction sections generalizing f with
  | nil => simp [PrachSection.receivedSample_nil, pure, Except.pure]
  | cons s sections ih =>
    rw [List.foldlM_cons, writePrachSection_eq cfg repo slot hport hsymbol]
    simp only [bind, Except.bind, ih, PrachSection.receivedSample_cons, Option.or_assoc]

end Run

/-- Afterwards an RE of the port and symbol has the sample of the last section that covers its PRB, and is marked; all
else is as before. -/
structure PrachContext.Written (c : PrachContext α) (port symbol : ℕ) (sections : List (PrachSection α))
    (c' : PrachContext α) : Prop where
  sample : ∀ re < c.sequenceLength,
    match sections.reverse.find? fun s => s.Covers ((c.kBar + re) / NOF_SUBCARRIERS_PER_RB) with
    | none => c'.buffer port symbol re = c.buffer port symbol re ∧ c'.reWritten port symbol re = c.reWritten port symbol re
    | some s =>
      s.iqSamples[c.kBar + re - s.startPrb * NOF_SUBCARRIERS_PER_RB]? = some (c'.buffer port symbol re) ∧
        c'.reWritten port symbol re = true
  frame : ∀ p s re, ¬(p = port ∧ s = symbol ∧ re < c.sequenceLength) →
    c'.buffer p s re = c.buffer p s re ∧ c'.reWritten p s re = c.reWritten p s re

lemma PrachContext.written_receivedSample (c : PrachContext α) (port symbol : ℕ) (sections : List (PrachSection α)) :
    c.Written port symbol sections (c.overwrite port symbol (PrachSection.receivedSample c sections)) where
  sample re hre := by
    simp only [overwrite, PrachSection.receivedSample, if_pos hre, and_self, if_true, decide_true, Bool.true_and]
    cases hlast : sections.reverse.find? fun s => decide (s.Covers ((c.kBar + re) / NOF_SUBCARRIERS_PER_RB)) with
    | none => exact ⟨rfl, Bool.false_or _⟩
    | some s =>
      have hcov : s.Covers ((c.kBar + re) / NOF_SUBCARRIERS_PER_RB) := by simpa using List.find?_some hlast
      obtain ⟨x, hx⟩ := PrachSection.exists_sample hcov
      simp [hx]
  frame p s re hframe := by
    by_cases h : p = port ∧ s = symbol
    · have hnone : PrachSection.receivedSample c sections re = none := by
        rw [PrachSection.receivedSample, if_neg fun hre => hframe ⟨h.1, h.2, hre⟩]
      simp [overwrite, hnone]
    · simp [overwrite, h]

/-- A message for a symbol of the preamble fails no assertion, and is written if its port fits in the buffer. -/
theorem writeToPrachBuffer_spec (cfg : PrachWriterConfig) (repo : PrachContextRepository α) (eaxc : ℕ)
    (results : PrachMessage α) (c : PrachContext α) (hentry : repo.entry cfg results.slot = some c)
    (hsymbol : c.symbolIndex results.symbolId < c.nofSymbols) :
    ∃ c', writeToPrachBuffer cfg repo eaxc results = .ok (true, repo.setEntry cfg results.slot c') ∧
      (c.maxNofPorts ≤ cfg.prachEaxc.idxOf eaxc → c' = c) ∧
      (cfg.prachEaxc.idxOf eaxc < c.maxNofPorts →
        c.Written (cfg.prachEaxc.idxOf eaxc) (c.symbolIndex results.symbolId) results.sections c') := by
  unfold writeToPrachBuffer
  rw [hentry]
  rcases Nat.lt_or_ge (cfg.prachEaxc.idxOf eaxc) c.maxNofPorts with hport | hport
  · have hrun := writePrachSections_eq cfg repo results.slot hport hsymbol results.sections fun _ => none
    rw [PrachContext.overwrite_none, PrachContextRepository.setEntry_entry hentry] at hrun
    simp only [Option.or_none] at hrun
    refine ⟨_, ?_, fun h => absurd hport (Nat.not_lt.mpr h), fun _ => c.written_receivedSample _ _ results.sections⟩
    dsimp only
    rw [if_neg (Nat.not_le.mpr hport), hrun]
    rfl
  · refine ⟨c, ?_, fun _ => rfl, fun h => absurd hport (Nat.not_le.mpr h)⟩
    rw [PrachContextRepository.setEntry_entry hentry]
    exact if_pos hport

section Example

def longPreambleContext : PrachContext ℕ := ⟨true, 839, 7, 1, 7, 1, fun _ _ _ => 0, fun _ _ _ => false⟩

def onePort : PrachWriterConfig := ⟨⟨1, 10, []⟩, [4]⟩

def firstPrb (symbolId : ℕ) : PrachMessage ℕ := ⟨0, symbolId, [⟨0, 1, List.replicate 12 1, rfl⟩]⟩

theorem writeToPrachBuffer_spec_long :
    ∃ c', writeToPrachBuffer onePort (fun _ => some longPreambleContext) 4 (firstPrb 7) =
        .ok (true, PrachContextRepository.setEntry onePort (fun _ => some longPreambleContext) 0 c') ∧
      (longPreambleContext.maxNofPorts ≤ onePort.prachEaxc.idxOf 4 → c' = longPreambleContext) ∧
      (onePort.prachEaxc.idxOf 4 < longPreambleContext.maxNofPorts →
        longPreambleContext.Written (onePort.prachEaxc.idxOf 4) (longPreambleContext.symbolIndex 7)
          (firstPrb 7).sections c') :=
  writeToPrachBuffer_spec onePort _ 4 (firstPrb 7) longPreambleContext rfl (by decide)

/-- Symbol 0 comes before the preamble, and is written as its first symbol. -/
theorem symbol_before_preamble_written :
    (firstPrb 0).symbolId < longPreambleContext.startSymbol ∧
      ((writeToPrachBuffer onePort (fun _ => some longPreambleContext) 4 (firstPrb 0)).toOption.bind fun r =>
        r.2.entry onePort 0).map (·.buffer 0 0 0) = some 1 ∧ longPreambleContext.buffer 0 0 0 = 0 := by
  decide +kernel

end Example

end OwlsRan.Ofh
