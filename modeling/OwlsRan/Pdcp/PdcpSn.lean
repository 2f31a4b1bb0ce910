import Mathlib.Algebra.Group.Int.Defs
import Mathlib.Algebra.Group.Nat.Defs
import Mathlib.Data.Nat.Basic
import Mathlib.Tactic.Lemma

/-!
# COUNT, HFN and SN

A COUNT of 32 bits is put together from an HFN and an SN. The side that is given an SN alone looks for the COUNT around
the edge of its window. It finds the nearest one, modulo `2 ^ 32`.
-/

/-!
## PDCP sequence numbers in PDCP PDUs
-/

namespace OwlsRan.Pdcp

inductive PdcpSnSize where
  | size12bits
  | size18bits
deriving DecidableEq

namespace PdcpSnSize

def headerLen : PdcpSnSize → Nat
  | size12bits => 2
  | size18bits => 3

def highBits : PdcpSnSize → Nat
  | size12bits => 4
  | size18bits => 2

end PdcpSnSize

/-- The SN of a data PDU. Control PDUs have none, nor have PDUs with reserved bits that are set. -/
def getPdcpSn (pdcpPdu : List UInt8) (pdcpSnLen : PdcpSnSize) (isSrb : Bool) : Option Nat :=
  match pdcpPdu with
  | [] => none
  | b :: rest =>
    let dcField := b.toNat / 128
    let high := 2 ^ pdcpSnLen.highBits
    if isSrb && pdcpSnLen ≠ .size12bits then none
    else if !isSrb && dcField = 0 then none
    else if isSrb && dcField = 1 then none
    else if pdcpPdu.length < pdcpSnLen.headerLen then none
    else if b.toNat % 128 / high ≠ 0 then none
    else some ((rest.take (pdcpSnLen.headerLen - 1)).foldl (fun sn b => sn * 256 + b.toNat) (b.toNat % high))

namespace PdcpSnSize

def toUint : PdcpSnSize → Nat
  | size12bits => 12
  | size18bits => 18

def cardinality (snSize : PdcpSnSize) : Nat := 2 ^ snSize.toUint

def windowSize (snSize : PdcpSnSize) : Nat := 2 ^ (snSize.toUint - 1)

@[simp] lemma cardinality_size12bits : cardinality size12bits = 4096 := rfl

@[simp] lemma cardinality_size18bits : cardinality size18bits = 262144 := rfl

@[simp] lemma windowSize_size12bits : windowSize size12bits = 2048 := rfl

@[simp] lemma windowSize_size18bits : windowSize size18bits = 131072 := rfl

lemma windowSize_pos (snSize : PdcpSnSize) : 0 < snSize.windowSize := Nat.two_pow_pos _

end PdcpSnSize

def pdcpComputeSn (count : Nat) (snSize : PdcpSnSize) : Nat := count % snSize.cardinality

def pdcpComputeHfn (count : Nat) (snSize : PdcpSnSize) : Nat := count >>> snSize.toUint

def pdcpComputeCount (hfn sn : Nat) (snSize : PdcpSnSize) : Nat := (hfn <<< snSize.toUint) % 2 ^ 32 ||| sn

/-- The COUNT of an SN, seen from the edge of a window. The HFN below 0 and the one above the largest wrap. -/
def estimateCount (snSize : PdcpSnSize) (edge sn : Nat) : Nat :=
  let hfn :=
    if (sn : Int) < (pdcpComputeSn edge snSize : Int) - snSize.windowSize then
      (pdcpComputeHfn edge snSize + 1) % 2 ^ 32
    else if pdcpComputeSn edge snSize + snSize.windowSize ≤ sn then (pdcpComputeHfn edge snSize + 2 ^ 32 - 1) % 2 ^ 32
    else pdcpComputeHfn edge snSize
  pdcpComputeCount hfn sn snSize

structure NearCount (snSize : PdcpSnSize) (edge sn : Nat) (count : Int) : Prop where
  sn_eq : count % snSize.cardinality = sn
  ge : (edge : Int) - snSize.windowSize ≤ count
  lt : count < (edge : Int) + snSize.windowSize

def nearestCount (snSize : PdcpSnSize) (edge sn : Nat) : Int :=
  (edge : Int) - snSize.windowSize + ((sn : Int) - ((edge : Int) - snSize.windowSize)) % snSize.cardinality

section Nearest

variable {snSize : PdcpSnSize} {edge sn : Nat} {count : Int}

lemma nearCount_nearestCount (hsn : sn < snSize.cardinality) : NearCount snSize edge sn (nearestCount snSize edge sn) := by
  cases snSize with
  | size12bits =>
    simp only [PdcpSnSize.cardinality_size12bits] at hsn
    constructor <;> simp only [nearestCount, PdcpSnSize.cardinality_size12bits, PdcpSnSize.windowSize_size12bits] <;> omega
  | size18bits =>
    simp only [PdcpSnSize.cardinality_size18bits] at hsn
    constructor <;> simp only [nearestCount, PdcpSnSize.cardinality_size18bits, PdcpSnSize.windowSize_size18bits] <;> omega

lemma NearCount.eq_nearestCount (h : NearCount snSize edge sn count) : count = nearestCount snSize edge sn := by
  obtain ⟨hsn, hge, hlt⟩ := h
  cases snSize with
  | size12bits =>
    simp only [PdcpSnSize.cardinality_size12bits, PdcpSnSize.windowSize_size12bits, nearestCount] at *
    omega
  | size18bits =>
    simp only [PdcpSnSize.cardinality_size18bits, PdcpSnSize.windowSize_size18bits, nearestCount] at *
    omega

lemma pdcpComputeCount_eq (hfn : Nat) (hsn : sn < snSize.cardinality) :
    pdcpComputeCount hfn sn snSize = hfn * snSize.cardinality % 2 ^ 32 + sn := by
  obtain ⟨k, hk⟩ : ∃ k, hfn * snSize.cardinality % 2 ^ 32 = 2 ^ snSize.toUint * k := by
    have hdvd : snSize.cardinality ∣ 2 ^ 32 := by cases snSize <;> decide
    exact (Nat.dvd_mod_iff hdvd).mpr (Nat.dvd_mul_left _ _)
  unfold pdcpComputeCount
  rw [Nat.shiftLeft_eq]
  change hfn * snSize.cardinality % 2 ^ 32 ||| sn = _
  rw [hk, Nat.two_pow_add_eq_or_of_lt hsn]

lemma pdcpComputeCount_mod (hfn : Nat) (hsn : sn < snSize.cardinality) :
    pdcpComputeCount (hfn % 2 ^ 32) sn snSize = hfn * snSize.cardinality % 2 ^ 32 + sn := by
  rw [pdcpComputeCount_eq _ hsn, Nat.mul_mod, Nat.mod_mod, ← Nat.mul_mod]

lemma estimateCount_eq (hsn : sn < snSize.cardinality) :
    (estimateCount snSize edge sn : Int) = nearestCount snSize edge sn % 2 ^ 32 := by
  have hhfn : pdcpComputeHfn edge snSize = edge / snSize.cardinality := Nat.shiftRight_eq_div_pow _ _
  have hsame := pdcpComputeCount_eq (edge / snSize.cardinality) hsn
  have hnext := pdcpComputeCount_mod (edge / snSize.cardinality + 1) hsn
  have hprev := pdcpComputeCount_mod (edge / snSize.cardinality + 2 ^ 32 - 1) hsn
  unfold estimateCount
  rw [hhfn]
  unfold nearestCount pdcpComputeSn
  split_ifs with hnextHfn hprevHfn
  · rw [hnext]
    cases snSize <;> simp only [PdcpSnSize.cardinality_size12bits, PdcpSnSize.windowSize_size12bits,
      PdcpSnSize.cardinality_size18bits, PdcpSnSize.windowSize_size18bits] at * <;> omega
  · rw [hprev]
    cases snSize <;> simp only [PdcpSnSize.cardinality_size12bits, PdcpSnSize.windowSize_size12bits,
      PdcpSnSize.cardinality_size18bits, PdcpSnSize.windowSize_size18bits] at * <;> omega
  · rw [hsame]
    cases snSize <;> simp only [PdcpSnSize.cardinality_size12bits, PdcpSnSize.windowSize_size12bits,
      PdcpSnSize.cardinality_size18bits, PdcpSnSize.windowSize_size18bits] at * <;> omega

lemma estimateCount_eq_iff (hsn : sn < snSize.cardinality)
    (hcount : 0 ≤ nearestCount snSize edge sn) :
    (estimateCount snSize edge sn : Int) = nearestCount snSize edge sn ↔ nearestCount snSize edge sn < 2 ^ 32 := by
  rw [estimateCount_eq hsn]
  omega

lemma estimateCount_of_neg (hsn : sn < snSize.cardinality)
    (hcount : nearestCount snSize edge sn < 0) :
    (estimateCount snSize edge sn : Int) = nearestCount snSize edge sn + 2 ^ 32 := by
  have hnear : NearCount snSize edge sn (nearestCount snSize edge sn) := nearCount_nearestCount hsn
  have hge := hnear.ge
  have hwindow : (snSize.windowSize : Int) ≤ 131072 := by cases snSize <;> decide
  rw [estimateCount_eq hsn]
  omega

end Nearest

end OwlsRan.Pdcp
