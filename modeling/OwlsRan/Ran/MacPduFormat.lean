import Mathlib.Algebra.GroupWithZero.Nat

namespace OwlsRan.Ran

def FIXED_SIZED_MAC_CE_SUBHEADER_SIZE : Nat := 1

def MAC_SDU_SUBHEADER_LENGTH_THRES : Nat := 256

def MIN_MAC_SDU_SUBHEADER_SIZE : Nat := 2

def MAX_MAC_SDU_SUBHEADER_SIZE : Nat := 3

def getMacSduSubheaderSize (payload : Nat) : Nat :=
  if payload = 0 then 0
  else if payload ≥ MAC_SDU_SUBHEADER_LENGTH_THRES then MAX_MAC_SDU_SUBHEADER_SIZE
  else MIN_MAC_SDU_SUBHEADER_SIZE

def getMacSduRequiredBytes (payload : Nat) : Nat := payload + getMacSduSubheaderSize payload

/-- MAC SDU payload size in bytes from the size with subheader. No payload takes 258 bytes with its subheader. -/
def getMacSduPayloadSize (macSduSize : Nat) : Nat :=
  if macSduSize ≤ MAC_SDU_SUBHEADER_LENGTH_THRES + MIN_MAC_SDU_SUBHEADER_SIZE - 1 then
    macSduSize - MIN_MAC_SDU_SUBHEADER_SIZE
  else macSduSize - MAX_MAC_SDU_SUBHEADER_SIZE

@[simp] lemma getMacSduRequiredBytes_zero : getMacSduRequiredBytes 0 = 0 := rfl

lemma le_getMacSduRequiredBytes (payload : Nat) : payload ≤ getMacSduRequiredBytes payload := Nat.le_add_right _ _

lemma getMacSduRequiredBytes_le (payload : Nat) : getMacSduRequiredBytes payload ≤ payload + 3 := by
  unfold getMacSduRequiredBytes getMacSduSubheaderSize MAX_MAC_SDU_SUBHEADER_SIZE MIN_MAC_SDU_SUBHEADER_SIZE
  split
  · omega
  · split <;> omega

/-- `lcid_dl_sch_t`: values of the LCID for DL-SCH, six bits wide. -/
abbrev LcidDlSch := Fin 64

instance neZero_lcids : NeZero 64 := ⟨by decide⟩

namespace LcidDlSch

def MIN_RESERVED : LcidDlSch := 33
def SCELL_ACTIV_4_OCTET : LcidDlSch := 57
def SCELL_ACTIV_1_OCTET : LcidDlSch := 58
def LONG_DRX_CMD : LcidDlSch := 59
def DRX_CMD : LcidDlSch := 60
def TA_CMD : LcidDlSch := 61
def UE_CON_RES_ID : LcidDlSch := 62
def PADDING : LcidDlSch := 63

def isVarLenCe (_ : LcidDlSch) : Bool := false

def sizeofCe (lcid : LcidDlSch) : Nat :=
  if lcid = SCELL_ACTIV_4_OCTET then 4
  else if lcid = SCELL_ACTIV_1_OCTET then 1
  else if lcid = LONG_DRX_CMD ∨ lcid = DRX_CMD then 0
  else if lcid = TA_CMD then 1
  else if lcid = UE_CON_RES_ID then 6
  else 0

end LcidDlSch

end OwlsRan.Ran
