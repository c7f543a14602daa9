import TeamsMirror.Common.Protocol

/-!
# Textual uuids

The format check that both programs make, and the reading of a fixed character
field that may lack its terminator.
-/

namespace TeamsMirror

/-- `std::isxdigit` in the "C" locale. -/
def isxdigit (b : UInt8) : Bool :=
  (48 ≤ b && b ≤ 57) || (65 ≤ b && b ≤ 70) || (97 ≤ b && b ≤ 102)

def isHyphenIndex (index : Nat) : Bool := index = 8 || index = 13 || index = 18 || index = 23

def isUuidFormatValid (uuid : Bytes) : Bool :=
  uuid.length = uuidLength - 1 &&
    uuid.zipIdx.all fun (b, index) => if isHyphenIndex index then b = 45 else isxdigit b

/-- The text of a character field, when the field holds a NUL. -/
def extractFixedString (rawData : Bytes) : Option Bytes :=
  if 0 ∈ rawData then some (beforeNul rawData) else none

theorem extractFixedString_copyPadded {n : Nat} (h : 0 < n) (source : Bytes) :
    extractFixedString (CharArray.copyPadded n source).bytes =
      some (beforeNul (source.take (n - 1))) := by
  rw [extractFixedString, if_pos (CharArray.nul_mem_copyPadded h source)]
  exact congrArg some (CharArray.cstr_copyPadded h source)

theorem isUuidFormatValid_length {uuid : Bytes} (h : isUuidFormatValid uuid = true) :
    uuid.length = uuidLength - 1 := by
  simp only [isUuidFormatValid, Bool.and_eq_true, decide_eq_true_eq] at h
  exact h.1

theorem isUuidFormatValid_noNul {uuid : Bytes} (h : isUuidFormatValid uuid = true) : 0 ∉ uuid := by
  intro h0
  simp only [isUuidFormatValid, Bool.and_eq_true, List.all_eq_true] at h
  obtain ⟨i, hi, he⟩ := List.mem_iff_getElem.mp h0
  have hz := h.2 (0, i) (by rw [List.mem_zipIdx_iff_getElem?]; simp [← he])
  revert hz
  by_cases hy : isHyphenIndex i
  · simp [hy]
  · simp [hy, isxdigit]

/-- A valid uuid survives the padded field that carries it. -/
theorem extractFixedString_uuid {uuid : Bytes} (h : isUuidFormatValid uuid = true) :
    extractFixedString (CharArray.copyPadded uuidLength uuid).bytes = some uuid := by
  have hl := isUuidFormatValid_length h
  rw [extractFixedString_copyPadded (by decide), List.take_of_length_le (Nat.le_of_eq hl),
    beforeNul_eq_self (isUuidFormatValid_noNul h)]

end TeamsMirror
