import TeamsMirror.Lib.Packed

/-!
# Checked reads

A read of a byte that a block does not have is undefined in C. These are the ways in
which C code reads a block, with `none` for a read outside of it: code that is written
with them and never ends in `none` reads inside.
-/

namespace Reads

/-- A view of `size` bytes of a block. -/
def view (block : Bytes) (start size : Nat) : Option Bytes :=
  if start + size ≤ block.length then some ((block.drop start).take size) else none

/-- `memcpy` of a structure out of a block that has to be exactly one. -/
def copy (α : Type) [Packed α] (block : Bytes) : Option α :=
  if block.length = sizeof α then some (Packed.ofBytes block) else none

/-- The position of the first NUL among the next bytes of a block, from an index on. -/
def findNul (block : Bytes) : Nat → Nat → Option (Option Nat)
  | 0, _ => some none
  | remaining + 1, index => do
    let b ← block[index]?
    if b = 0 then some (some index) else findNul block remaining (index + 1)

/-- `strlen`, which stops at a NUL and nowhere else. -/
def strlen : Bytes → Option Nat
  | [] => none
  | b :: block => if b = 0 then some 0 else (strlen block).map (· + 1)

/-- The text that starts a block, by `strlen`. -/
def text (block : Bytes) : Option Bytes := (strlen block).map block.take

theorem view_eq_some {block : Bytes} {start size : Nat} (h : start + size ≤ block.length) :
    view block start size = some ((block.drop start).take size) := if_pos h

theorem copy_eq_some {α : Type} [Packed α] {block : Bytes} (h : block.length = sizeof α) :
    copy α block = some (Packed.ofBytes block) := if_pos h

/-- A search that is bounded by the block stays inside, whatever the block holds. -/
theorem findNul_append (front back : Bytes) :
    findNul (front ++ back) back.length front.length =
      some (if 0 ∈ back then some (front.length + (beforeNul back).length) else none) := by
  induction back generalizing front with
  | nil => rfl
  | cons b back ih =>
    have hb : (front ++ b :: back)[front.length]? = some b := by simp
    rw [List.length_cons, findNul, hb]
    by_cases hzero : b = 0
    · simp [hzero, beforeNul]
    · have hnext := ih (front ++ [b])
      rw [List.append_assoc, List.length_append] at hnext
      have hcons : beforeNul (b :: back) = b :: beforeNul back := List.takeWhile_cons_of_pos (by simpa using hzero)
      have hmem : 0 ∈ b :: back ↔ 0 ∈ back := by simp [Ne.symm hzero]
      simp only [Option.bind_eq_bind, Option.bind_some, if_neg hzero, hmem, hcons, List.length_cons]
      simp only [List.singleton_append, List.length_singleton] at hnext
      have hshift := Nat.add_right_comm front.length 1 (beforeNul back).length
      rw [hnext, hshift, Nat.add_assoc]

theorem findNul_eq (block : Bytes) :
    findNul block block.length 0 = some (if 0 ∈ block then some (beforeNul block).length else none) := by
  have h := findNul_append [] block
  simpa using h

/-- `strlen` stays inside exactly the blocks that hold a NUL. -/
theorem strlen_eq (block : Bytes) : strlen block = if 0 ∈ block then some (beforeNul block).length else none := by
  induction block with
  | nil => rfl
  | cons b block ih =>
    by_cases hzero : b = 0
    · simp [strlen, hzero, beforeNul]
    · have hcons : beforeNul (b :: block) = b :: beforeNul block :=
        List.takeWhile_cons_of_pos (by simpa using hzero)
      rw [strlen, if_neg hzero, ih]
      by_cases hmem : 0 ∈ block
      · simp [hmem, hcons]
      · simp [hmem, Ne.symm hzero]

theorem text_eq (block : Bytes) : text block = if 0 ∈ block then some (beforeNul block) else none := by
  rw [text, strlen_eq]
  split
  · exact congrArg some (List.prefix_iff_eq_take.mp (List.takeWhile_prefix _)).symm
  · rfl

/-- A checked computation has this value when the condition holds, and reads outside when not. -/
def InsideWhen {α : Type*} (condition : Prop) (checked : Option α) (value : α) : Prop :=
  (condition → checked = some value) ∧ (¬condition → checked = none)

namespace InsideWhen

variable {α β : Type*} {c d : Prop} {x y : Option α} {a : α}

theorem ne_none_iff (h : InsideWhen c x a) : x ≠ none ↔ c := by
  constructor
  · intro hx
    by_contra hc
    exact hx (h.2 hc)
  · intro hc hx
    rw [h.1 hc] at hx
    cases hx

theorem value (a : α) : InsideWhen True (some a) a := ⟨fun _ => rfl, fun h => absurd trivial h⟩

theorem mono (h : InsideWhen c x a) (hcd : c ↔ d) : InsideWhen d x a :=
  ⟨fun hd => h.1 (hcd.mpr hd), fun hd => h.2 fun hc => hd (hcd.mp hc)⟩

theorem bind {f : α → Option β} {b : β} (hx : InsideWhen c x a) (hf : InsideWhen d (f a) b) :
    InsideWhen (c ∧ d) (x.bind f) b := by
  by_cases hc : c
  · have hx := hx.1 hc
    exact (by rw [hx]; exact hf : InsideWhen d (x.bind f) b).mono (by simp [hc])
  · refine ⟨fun h => absurd h.1 hc, fun _ => ?_⟩
    rw [hx.2 hc]
    rfl

theorem map (hx : InsideWhen c x a) (f : α → β) : InsideWhen c (x.map f) (f a) :=
  ⟨fun hc => by rw [hx.1 hc]; rfl, fun hc => by rw [hx.2 hc]; rfl⟩

theorem bind_some (hx : InsideWhen c x a) (f : α → β) : InsideWhen c (x.bind fun v => some (f v)) (f a) :=
  mono (hx.bind (value (f a))) (by rw [and_true])

theorem ite {p : Prop} [Decidable p] (hx : p → InsideWhen c x a) (hy : ¬p → InsideWhen d y a) :
    InsideWhen (if p then c else d) (if p then x else y) a := by
  by_cases hp : p
  · rw [if_pos hp, if_pos hp]
    exact hx hp
  · rw [if_neg hp, if_neg hp]
    exact hy hp

/-- Read a text, then go on. -/
theorem text {block : Bytes} {f : Bytes → Option α} (hf : InsideWhen d (f (beforeNul block)) a) :
    InsideWhen (0 ∈ block ∧ d) ((Reads.text block).bind f) a := by
  have htext : InsideWhen (0 ∈ block) (Reads.text block) (beforeNul block) := by
    rw [text_eq]
    exact ⟨fun h => if_pos h, fun h => if_neg h⟩
  exact htext.bind hf

/-- Copy a structure, then go on. -/
theorem copy {γ : Type} [Packed γ] {block : Bytes} {f : γ → Option α}
    (hf : InsideWhen d (f (Packed.ofBytes block)) a) :
    InsideWhen (block.length = sizeof γ ∧ d) ((Reads.copy γ block).bind f) a := by
  have hcopy : InsideWhen (block.length = sizeof γ) (Reads.copy γ block) (Packed.ofBytes block) :=
    ⟨fun h => if_pos h, fun h => if_neg h⟩
  exact hcopy.bind hf

end InsideWhen

end Reads
