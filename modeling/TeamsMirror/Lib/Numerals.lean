import Mathlib.Data.List.TakeWhile
import Mathlib.Data.Nat.Digits.Lemmas

/-!
# Numbers as bytes

Two encodings of numbers used by systems code: fixed-width little-endian binary,
and the signed decimal text that `std::to_string` prints and `std::stoll` reads.
-/

abbrev Bytes := List UInt8

namespace Numerals

/-- The low `8 * k` bits of `n`, least significant byte first. -/
def leBytes : Nat → Nat → Bytes
  | 0, _ => []
  | k + 1, n => UInt8.ofNat n :: leBytes k (n / 256)

def ofLeBytes : Bytes → Nat
  | [] => 0
  | b :: bs => b.toNat + 256 * ofLeBytes bs

@[simp] theorem length_leBytes (k n : Nat) : (leBytes k n).length = k := by
  induction k generalizing n with
  | zero => rfl
  | succ k ih => simp [leBytes, ih]

/-- A number that fits is read back from its bytes. -/
theorem ofLeBytes_leBytes {k n : Nat} (h : n < 256 ^ k) : ofLeBytes (leBytes k n) = n := by
  induction k generalizing n with
  | zero =>
    have : n = 0 := by simpa using h
    simp [leBytes, ofLeBytes, this]
  | succ k ih =>
    have hdiv : n / 256 < 256 ^ k := Nat.div_lt_of_lt_mul (by rwa [Nat.mul_comm, ← Nat.pow_succ])
    simp only [leBytes, ofLeBytes, ih hdiv, UInt8.toNat_ofNat']
    omega

def isDigit (b : UInt8) : Bool := 48 ≤ b && b ≤ 57

/-- The characters `std::isspace` accepts in the "C" locale. -/
def isSpace (b : UInt8) : Bool := b == 32 || (9 ≤ b && b ≤ 13)

def digit (d : Nat) : UInt8 := UInt8.ofNat (48 + d)

/-- Decimal digits of a natural number, most significant first. -/
def decimal (n : Nat) : Bytes :=
  if n = 0 then [48] else (Nat.digits 10 n).reverse.map digit

/-- `std::to_string` on a signed integer. -/
def toDecimal (z : Int) : Bytes :=
  if z < 0 then 45 :: decimal z.natAbs else decimal z.natAbs

def digitsValue (ds : Bytes) : Nat := ds.foldl (fun acc b => acc * 10 + (b.toNat - 48)) 0

/-- An optional sign in front of the digits: its value, and what follows it. -/
def takeSign : Bytes → Bool × Bytes
  | 45 :: rest => (true, rest)
  | 43 :: rest => (false, rest)
  | rest => (false, rest)

/-- `std::stoll` in base 10: the value and how many characters were used, `none`
where it throws (no digit, or a value outside the 64-bit range). -/
def stoll (field : Bytes) : Option (Int × Nat) :=
  let signed := takeSign (field.dropWhile isSpace)
  let digits := signed.2.takeWhile isDigit
  let value : Int := if signed.1 then -(digitsValue digits : Int) else digitsValue digits
  if digits = [] then none
  else if value < -2 ^ 63 ∨ 2 ^ 63 ≤ value then none
  else some (value, field.length - (signed.2.dropWhile isDigit).length)

theorem digit_toNat {d : Nat} (h : d < 10) : (digit d).toNat = 48 + d := by
  rw [digit, UInt8.toNat_ofNat']
  omega

theorem isDigit_digit {d : Nat} (h : d < 10) : isDigit (digit d) = true := by
  have hn := digit_toNat h
  simp only [isDigit, Bool.and_eq_true, decide_eq_true_eq, UInt8.le_iff_toNat_le, hn]
  exact ⟨by simp, by simp; omega⟩

theorem decimal_ne_nil (n : Nat) : decimal n ≠ [] := by
  unfold decimal
  split
  · simp
  · next h => simpa [Nat.digits_eq_nil_iff_eq_zero] using h

theorem isDigit_of_mem_decimal {n : Nat} {b : UInt8} (h : b ∈ decimal n) : isDigit b = true := by
  unfold decimal at h
  split at h
  · rw [List.mem_singleton.mp h]
    rfl
  · obtain ⟨d, hd, rfl⟩ := List.mem_map.mp h
    exact isDigit_digit (Nat.digits_lt_base (by decide) (List.mem_reverse.mp hd))

theorem digitsValue_map_digit (ds : List Nat) (h : ∀ d ∈ ds, d < 10) :
    digitsValue (ds.reverse.map digit) = Nat.ofDigits 10 ds := by
  induction ds with
  | nil => rfl
  | cons d ds ih =>
    have hd := digit_toNat (h d (by simp))
    have ht := ih fun x hx => h x (List.mem_cons_of_mem _ hx)
    simp only [digitsValue] at ht ⊢
    simp only [List.reverse_cons, List.map_append, List.map_cons, List.map_nil, List.foldl_append,
      List.foldl_cons, List.foldl_nil, ht, hd, Nat.ofDigits_cons]
    omega

theorem digitsValue_decimal (n : Nat) : digitsValue (decimal n) = n := by
  unfold decimal
  split
  · next h => rw [h]; rfl
  · rw [digitsValue_map_digit _ fun d hd => Nat.digits_lt_base (by decide) hd, Nat.ofDigits_digits]

theorem takeWhile_decimal (n : Nat) : (decimal n).takeWhile isDigit = decimal n := by
  rw [List.takeWhile_eq_self_iff]
  exact fun b hb => isDigit_of_mem_decimal hb

theorem dropWhile_decimal (n : Nat) : (decimal n).dropWhile isDigit = [] := by
  rw [List.dropWhile_eq_nil_iff]
  exact fun b hb => isDigit_of_mem_decimal hb

theorem isSpace_of_isDigit {b : UInt8} (h : isDigit b = true) : isSpace b = false := by
  simp only [isDigit, Bool.and_eq_true, decide_eq_true_eq, UInt8.le_iff_toNat_le] at h
  simp only [isSpace, Bool.or_eq_false_iff, beq_eq_false_iff_ne, ne_eq, Bool.and_eq_false_iff,
    decide_eq_false_iff_not, UInt8.le_iff_toNat_le, ← UInt8.toNat_inj]
  simp at h ⊢
  omega

theorem takeSign_decimal (n : Nat) : takeSign (decimal n) = (false, decimal n) := by
  cases h : decimal n with
  | nil => rfl
  | cons b bs =>
    have hb := isDigit_of_mem_decimal (n := n) (b := b) (by rw [h]; simp)
    unfold takeSign
    split
    · next he => cases he; cases hb
    · next he => cases he; cases hb
    · rfl

theorem dropWhile_isSpace_decimal (n : Nat) : (decimal n).dropWhile isSpace = decimal n := by
  cases h : decimal n with
  | nil => rfl
  | cons b bs =>
    have hb := isSpace_of_isDigit (isDigit_of_mem_decimal (n := n) (b := b) (by rw [h]; simp))
    simp [hb]

@[simp] theorem zero_notMem_toDecimal (z : Int) : 0 ∉ toDecimal z := by
  have hdecimal : ∀ n, (0 : UInt8) ∉ decimal n := fun n hmem =>
    absurd (isDigit_of_mem_decimal hmem) (by decide)
  unfold toDecimal
  split
  · simpa using hdecimal z.natAbs
  · exact hdecimal z.natAbs

/-- What `std::to_string` prints, `std::stoll` reads back, using every character. -/
theorem stoll_toDecimal {z : Int} (hlo : -2 ^ 63 ≤ z) (hhi : z < 2 ^ 63) :
    stoll (toDecimal z) = some (z, (toDecimal z).length) := by
  have hrange : ¬(z < -2 ^ 63 ∨ 2 ^ 63 ≤ z) := by omega
  by_cases hz : z < 0
  · have hval : -(z.natAbs : Int) = z := by omega
    have hws : (45 :: decimal z.natAbs).dropWhile isSpace = 45 :: decimal z.natAbs := by
      rw [List.dropWhile_cons_of_neg (by decide)]
    simp only [toDecimal, if_pos hz, stoll, hws, takeSign, takeWhile_decimal, dropWhile_decimal,
      decimal_ne_nil, digitsValue_decimal, if_true, hval, if_neg hrange, if_false]
    simp
  · have hval : (z.natAbs : Int) = z := by omega
    simp only [toDecimal, if_neg hz, stoll, dropWhile_isSpace_decimal, takeSign_decimal,
      takeWhile_decimal, dropWhile_decimal, decimal_ne_nil, digitsValue_decimal, Bool.false_eq_true,
      hval, if_neg hrange, if_false]
    simp

end Numerals
