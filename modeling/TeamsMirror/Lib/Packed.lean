import TeamsMirror.Lib.Numerals

/-!
# Packed records

Records laid out byte after byte, without padding: fixed-width integers, fixed
character arrays, and structures of these. `copyPadded` and `cstr` are the two
ways C code moves text in and out of a character array.
-/

/-- A type with a fixed-size byte layout; `ofBytes` is `memcpy` into a zeroed object. -/
class Packed (α : Type) where
  size : Nat
  toBytes : α → Bytes
  ofBytes : Bytes → α
  length_toBytes : ∀ a, (toBytes a).length = size
  ofBytes_toBytes : ∀ a, ofBytes (toBytes a) = a

attribute [simp] Packed.length_toBytes Packed.ofBytes_toBytes

/-- The C `sizeof`. -/
def sizeof (α : Type) [Packed α] : Nat := Packed.size α

namespace Packed

variable {α β : Type} [Packed α] [Packed β]

instance : Packed (α × β) where
  size := Packed.size α + Packed.size β
  toBytes p := toBytes p.1 ++ toBytes p.2
  ofBytes bs := (ofBytes (bs.take (Packed.size α)), ofBytes (bs.drop (Packed.size α)))
  length_toBytes p := by simp
  ofBytes_toBytes p := by
    have h := Packed.length_toBytes p.1
    rw [← h, List.take_left, List.drop_left, ofBytes_toBytes, ofBytes_toBytes]

/-- The layout of a structure, from that of the tuple of its fields. -/
@[reducible] def ofFields (fields : β → α) (make : α → β) (h : ∀ b, make (fields b) = b) : Packed β where
  size := Packed.size α
  toBytes b := toBytes (fields b)
  ofBytes bs := make (ofBytes bs)
  length_toBytes b := by simp
  ofBytes_toBytes b := by simp [h]

/-- The layout of an unsigned integer of `k` bytes. -/
@[reducible] def ofInteger (k : Nat) (toNat : α → Nat) (ofNat : Nat → α)
    (hlt : ∀ a, toNat a < 256 ^ k) (h : ∀ a, ofNat (toNat a) = a) : Packed α where
  size := k
  toBytes a := Numerals.leBytes k (toNat a)
  ofBytes bs := ofNat (Numerals.ofLeBytes bs)
  length_toBytes a := Numerals.length_leBytes k _
  ofBytes_toBytes a := by rw [Numerals.ofLeBytes_leBytes (hlt a), h]

instance : Packed UInt16 := ofInteger 2 UInt16.toNat UInt16.ofNat UInt16.toNat_lt fun _ => UInt16.ofNat_toNat
instance : Packed UInt32 := ofInteger 4 UInt32.toNat UInt32.ofNat UInt32.toNat_lt fun _ => UInt32.ofNat_toNat
instance : Packed UInt64 := ofInteger 8 UInt64.toNat UInt64.ofNat UInt64.toNat_lt fun _ => UInt64.ofNat_toNat

end Packed

/-- The prefix of a byte sequence before its first NUL. -/
def beforeNul (bs : Bytes) : Bytes := bs.takeWhile (· ≠ 0)

theorem zero_notMem_beforeNul (bs : Bytes) : 0 ∉ beforeNul bs := by
  intro h
  simpa using List.mem_takeWhile_imp h

theorem length_beforeNul_le (bs : Bytes) : (beforeNul bs).length ≤ bs.length :=
  (List.takeWhile_sublist _).length_le

theorem length_beforeNul_lt {bs : Bytes} (h : 0 ∈ bs) : (beforeNul bs).length < bs.length := by
  refine Nat.lt_of_le_of_ne (length_beforeNul_le bs) fun hlen => ?_
  have hself : beforeNul bs = bs := (List.takeWhile_prefix _).eq_of_length hlen
  exact zero_notMem_beforeNul bs (hself.symm ▸ h)

theorem beforeNul_eq_self {bs : Bytes} (h : 0 ∉ bs) : beforeNul bs = bs := by
  rw [beforeNul, List.takeWhile_eq_self_iff]
  intro b hb
  have hne : b ≠ 0 := fun he => h (he ▸ hb)
  simpa using hne

theorem beforeNul_append_nul (bs more : Bytes) : beforeNul (bs ++ 0 :: more) = beforeNul bs := by
  induction bs with
  | nil => rfl
  | cons b bs ih =>
    by_cases hb : b = 0
    · simp [beforeNul, hb]
    · simpa [beforeNul, hb] using ih

/-- A C array `char[n]`. -/
structure CharArray (n : Nat) where
  bytes : Bytes
  length_bytes : bytes.length = n
deriving DecidableEq

namespace CharArray

variable {n : Nat}

attribute [simp] length_bytes

/-- Overwrite a zeroed array with the head of `data`. -/
def read (n : Nat) (data : Bytes) : CharArray n where
  bytes := data.take n ++ List.replicate (n - data.length) 0
  length_bytes := by simp only [List.length_append, List.length_take, List.length_replicate]; omega

theorem read_bytes (a : CharArray n) : read n a.bytes = a := by
  cases a with
  | mk bs hbs => simp [read, ← hbs]

/-- Nothing is left zero when the data is long enough. -/
theorem bytes_read {data : Bytes} (h : n ≤ data.length) : (read n data).bytes = data.take n := by
  show data.take n ++ List.replicate (n - data.length) 0 = data.take n
  rw [Nat.sub_eq_zero_of_le h, List.replicate_zero, List.append_nil]

instance : Packed (CharArray n) where
  size := n
  toBytes := bytes
  ofBytes := read n
  length_toBytes := length_bytes
  ofBytes_toBytes := read_bytes

/-- Copy at most `n - 1` characters into a zeroed array, so that a NUL follows them. -/
def copyPadded (n : Nat) (source : Bytes) : CharArray n := read n (source.take (n - 1))

/-- The C string that an array holds. -/
def cstr (a : CharArray n) : Bytes := beforeNul a.bytes

theorem copyPadded_bytes {n : Nat} (h : 0 < n) (source : Bytes) :
    ∃ k, (copyPadded n source).bytes = source.take (n - 1) ++ 0 :: List.replicate k 0 := by
  have hlen : (source.take (n - 1)).length < n := by
    rw [List.length_take]
    omega
  obtain ⟨k, hk⟩ := Nat.exists_eq_add_of_lt hlen
  refine ⟨k, ?_⟩
  have htake : (source.take (n - 1)).take n = source.take (n - 1) :=
    List.take_of_length_le (Nat.le_of_lt hlen)
  have hrest : n - (source.take (n - 1)).length = k + 1 := by omega
  simp only [copyPadded, read, htake, hrest, List.replicate_succ]

/-- What `copyPadded` stores is the source, cut to fit and at its first NUL. -/
theorem cstr_copyPadded {n : Nat} (h : 0 < n) (source : Bytes) :
    (copyPadded n source).cstr = beforeNul (source.take (n - 1)) := by
  obtain ⟨k, hk⟩ := copyPadded_bytes h source
  rw [cstr, hk, beforeNul_append_nul]

theorem nul_mem_copyPadded {n : Nat} (h : 0 < n) (source : Bytes) :
    0 ∈ (copyPadded n source).bytes := by
  obtain ⟨k, hk⟩ := copyPadded_bytes h source
  simp [hk]

end CharArray

/-- The text of a `char[n]` member that only `copy_buffer` writes: it fits and holds no NUL. -/
structure CString (n : Nat) where
  bytes : Bytes
  fits : bytes.length ≤ n - 1
  noNul : 0 ∉ bytes
deriving DecidableEq

namespace CString

variable {n : Nat}

@[ext] theorem ext {s t : CString n} (h : s.bytes = t.bytes) : s = t := by
  cases s
  cases t
  cases h
  rfl

@[simp] theorem zero_notMem_bytes (s : CString n) : 0 ∉ s.bytes := s.noNul

theorem bytes_inj {s t : CString n} : s.bytes = t.bytes ↔ s = t := ⟨ext, fun h => h ▸ rfl⟩

/-- Cut the source to `n - 1` characters and read it back up to its first NUL. -/
def copyBuffer (n : Nat) (source : Bytes) : CString n where
  bytes := beforeNul (source.take (n - 1))
  fits := by
    have h := length_beforeNul_le (source.take (n - 1))
    rw [List.length_take] at h
    omega
  noNul := zero_notMem_beforeNul _

def empty (n : Nat) : CString n := ⟨[], by simp, by simp⟩

@[simp] theorem bytes_empty : (empty n).bytes = [] := rfl

/-- A stored text is copied unchanged. -/
@[simp] theorem copyBuffer_bytes (s : CString n) : copyBuffer n s.bytes = s := by
  apply ext
  show beforeNul (s.bytes.take (n - 1)) = s.bytes
  rw [List.take_of_length_le s.fits, beforeNul_eq_self s.noNul]

theorem bytes_copyBuffer {source : Bytes} (hfits : source.length ≤ n - 1) (hnul : 0 ∉ source) :
    (copyBuffer n source).bytes = source :=
  congrArg bytes (copyBuffer_bytes ⟨source, hfits, hnul⟩)

/-- A stored text survives the padded array that carries it. -/
@[simp] theorem cstr_copyPadded (h : 0 < n) (s : CString n) :
    (CharArray.copyPadded n s.bytes).cstr = s.bytes := by
  rw [CharArray.cstr_copyPadded h, List.take_of_length_le s.fits, beforeNul_eq_self s.noNul]

end CString
