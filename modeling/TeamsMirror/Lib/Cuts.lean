import Mathlib.Data.List.Infix

/-!
# Words that end themselves

A stream is written as words of languages that its reader knows, one after the
other. When the first symbol that its language lets end a word does end it, the
reader finds the cuts again, however much of the stream has arrived.
-/

namespace Cuts

variable {α ι : Type*} (ends : ι → α → Bool)

/-- A symbol that ends the word comes last, and none comes before it. -/
inductive Word (i : ι) : List α → Prop where
  | last {a : α} : ends i a = true → Word i [a]
  | cons {a : α} {w : List α} : ends i a = false → Word i w → Word i (a :: w)

/-- The words of a stream, as far as they are complete. -/
def cut : List ι → List α → List (List α)
  | [], _ => []
  | i :: is, stream =>
    match stream.dropWhile fun a => !ends i a with
    | [] => []
    | a :: rest => ((stream.takeWhile fun a => !ends i a) ++ [a]) :: cut is rest

variable {ends} {i : ι} {is : List ι} {w buf rest : List α} {ws : List (List α)}

/-- The reader finds the end of a word. -/
theorem Word.exists_last (h : Word ends i w) (rest : List α) :
    ∃ a, ((w ++ rest).dropWhile fun a => !ends i a) = a :: rest ∧
      ((w ++ rest).takeWhile fun a => !ends i a) ++ [a] = w := by
  induction h with
  | @last a ha => exact ⟨a, by simp [ha], by simp [ha]⟩
  | @cons b w hb _ ih =>
    obtain ⟨a, hdrop, htake⟩ := ih
    refine ⟨a, ?_, ?_⟩
    · rw [List.cons_append, List.dropWhile_cons_of_pos (by rw [hb]; rfl)]
      exact hdrop
    · rw [List.cons_append, List.takeWhile_cons_of_pos (by rw [hb]; rfl)]
      exact congrArg (b :: ·) htake

theorem Word.cut_append (h : Word ends i w) (rest : List α) :
    cut ends (i :: is) (w ++ rest) = w :: cut ends is rest := by
  obtain ⟨a, hdrop, htake⟩ := h.exists_last rest
  simp only [cut, hdrop, htake]

/-- The beginning of a word is not cut off. -/
theorem Word.cut_of_prefix (h : Word ends i w) (hbuf : buf <+: w) (hne : buf ≠ w) :
    cut ends (i :: is) buf = [] := by
  have hdrop : (buf.dropWhile fun a => !ends i a) = [] := by
    induction h generalizing buf with
    | @last a _ =>
      cases buf with
      | nil => rfl
      | cons b buf =>
        obtain ⟨rfl, htail⟩ := List.cons_prefix_cons.mp hbuf
        rw [List.prefix_nil.mp htail] at hne
        exact absurd rfl hne
    | @cons a w ha _ ih =>
      cases buf with
      | nil => rfl
      | cons b buf =>
        obtain ⟨rfl, htail⟩ := List.cons_prefix_cons.mp hbuf
        rw [List.dropWhile_cons_of_pos (by rw [ha]; rfl)]
        exact ih htail fun he => hne (congrArg (b :: ·) he)
  simp only [cut, hdrop]

/-- What is cut off are words of the stream, in their order. -/
theorem cut_isPrefix (h : List.Forall₂ (Word ends) is ws) (hbuf : buf <+: ws.flatten) : cut ends is buf <+: ws := by
  induction h generalizing buf with
  | nil => exact List.prefix_rfl
  | @cons i w is ws hw _ ih =>
    rw [List.flatten_cons] at hbuf
    by_cases hcomplete : w <+: buf
    · obtain ⟨rest, rfl⟩ := hcomplete
      rw [hw.cut_append]
      exact List.cons_prefix_cons.mpr ⟨rfl, ih ((List.prefix_append_right_inj w).mp hbuf)⟩
    · have hpart : buf <+: w :=
        (List.prefix_or_prefix_of_prefix hbuf (List.prefix_append w ws.flatten)).resolve_right hcomplete
      rw [hw.cut_of_prefix hpart fun he => hcomplete (he ▸ List.prefix_rfl)]
      exact List.nil_prefix

/-- Words that have arrived are cut off. -/
theorem take_prefix_cut (h : List.Forall₂ (Word ends) is ws) {k : Nat} (hbuf : (ws.take k).flatten <+: buf) :
    ws.take k <+: cut ends is buf := by
  induction h generalizing buf k with
  | nil =>
    rw [List.take_nil]
    exact List.nil_prefix
  | @cons i w is ws hw _ ih =>
    cases k with
    | zero => exact List.nil_prefix
    | succ k =>
      rw [List.take_succ_cons, List.flatten_cons] at hbuf
      obtain ⟨more, rfl⟩ := hbuf
      rw [List.append_assoc, hw.cut_append, List.take_succ_cons]
      exact List.cons_prefix_cons.mpr ⟨rfl, ih (List.prefix_append _ _)⟩

end Cuts
