import Mathlib.Data.List.Basic

/-!
# Text files of lines

A file is written line by line, each followed by a separator, and read back up to
one separator at a time. A file whose writing stopped early still consists of
whole lines, the last one excepted.
-/

namespace Lines

variable {α : Type*}

/-- Every line, followed by the separator. -/
def unlines (sep : α) (ls : List (List α)) : List α := ls.flatMap fun l => l ++ [sep]

@[simp] theorem unlines_nil {sep : α} : unlines sep [] = [] := rfl

theorem unlines_cons {sep : α} (l : List α) (ls : List (List α)) :
    unlines sep (l :: ls) = l ++ sep :: unlines sep ls := by
  simp [unlines]

variable [DecidableEq α]

/-- The lines up to each separator, and what follows the last one unless it is empty. -/
def lines (sep : α) : List α → List (List α)
  | [] => []
  | a :: rest =>
    if a = sep then [] :: lines sep rest
    else match lines sep rest with
      | [] => [[a]]
      | l :: ls => (a :: l) :: ls

variable {sep : α}

theorem lines_append_sep {l : List α} (hl : sep ∉ l) (rest : List α) :
    lines sep (l ++ sep :: rest) = l :: lines sep rest := by
  induction l with
  | nil => simp [lines]
  | cons a l ih =>
    have hne : a ≠ sep := fun he => hl (by simp [he])
    have htail : lines sep (l ++ sep :: rest) = l :: lines sep rest :=
      ih fun hmem => hl (List.mem_cons_of_mem a hmem)
    rw [List.cons_append, lines, if_neg hne, htail]

/-- What is left of a line when no separator follows. -/
theorem lines_of_notMem {l : List α} (hl : sep ∉ l) : lines sep l = if l = [] then [] else [l] := by
  induction l with
  | nil => simp [lines]
  | cons a l ih =>
    have hne : a ≠ sep := fun he => hl (by simp [he])
    have htail := ih fun hmem => hl (List.mem_cons_of_mem a hmem)
    rw [lines, if_neg hne, htail]
    by_cases hnil : l = [] <;> simp [hnil]

/-- Lines without a separator in them are read back, whatever follows them. -/
theorem lines_unlines_append {ls : List (List α)} (h : ∀ l ∈ ls, sep ∉ l) (rest : List α) :
    lines sep (unlines sep ls ++ rest) = ls ++ lines sep rest := by
  induction ls with
  | nil => rfl
  | cons l ls ih =>
    have hl : sep ∉ l := h l (by simp)
    have hls := ih fun l' hl' => h l' (List.mem_cons_of_mem l hl')
    rw [unlines_cons, List.append_assoc, List.cons_append, lines_append_sep hl, hls]
    rfl

theorem lines_unlines {ls : List (List α)} (h : ∀ l ∈ ls, sep ∉ l) : lines sep (unlines sep ls) = ls := by
  have happend := lines_unlines_append h []
  simpa [lines] using happend

omit [DecidableEq α] in
/-- The first `n` symbols of a file are whole lines, and perhaps the start of another one. -/
theorem exists_take_unlines (ls : List (List α)) (n : Nat) :
    ∃ k p, (unlines sep ls).take n = unlines sep (ls.take k) ++ p ∧
      (p = [] ∨ ∃ l, ls[k]? = some l ∧ p <+: l) := by
  induction ls generalizing n with
  | nil => exact ⟨0, [], by simp, .inl rfl⟩
  | cons l ls ih =>
    rw [unlines_cons]
    by_cases hn : n ≤ l.length
    · exact ⟨0, l.take n, by rw [List.take_append_of_le_length hn]; simp, .inr ⟨l, rfl, List.take_prefix n l⟩⟩
    · obtain ⟨m, rfl⟩ : ∃ m, n = l.length + (m + 1) := ⟨n - l.length - 1, by omega⟩
      obtain ⟨k, p, htake, hp⟩ := ih m
      refine ⟨k + 1, p, ?_, by simpa using hp⟩
      rw [List.take_length_add_append, List.take_succ_cons, htake, List.take_succ_cons, unlines_cons]
      simp

/-- What is read from the first `n` symbols of a file: the start of a line counts unless it is empty. -/
theorem exists_lines_take {ls : List (List α)} (h : ∀ l ∈ ls, sep ∉ l) (n : Nat) :
    ∃ k p, lines sep ((unlines sep ls).take n) = ls.take k ++ (if p = [] then [] else [p]) ∧
      (p = [] ∨ ∃ l, ls[k]? = some l ∧ p <+: l) := by
  obtain ⟨k, p, htake, hp⟩ := @exists_take_unlines _ sep ls n
  have hsep : sep ∉ p := by
    rcases hp with rfl | ⟨l, hl, hpre⟩
    · simp
    · exact fun hmem => h l (List.mem_of_getElem? hl) (hpre.subset hmem)
  refine ⟨k, p, ?_, hp⟩
  rw [htake, lines_unlines_append fun l hl => h l (List.mem_of_mem_take hl), lines_of_notMem hsep]

/-- Without the last separator a file has the same lines, if the last one is not empty. -/
theorem lines_take_all {ls : List (List α)} (h : ∀ l ∈ ls, sep ∉ l) (hne : ∀ l ∈ ls, l ≠ []) {n : Nat}
    (hn : (unlines sep ls).length ≤ n + 1) : lines sep ((unlines sep ls).take n) = ls := by
  induction ls generalizing n with
  | nil => simp [lines]
  | cons l ls ih =>
    have hl : sep ∉ l := h l (by simp)
    rw [unlines_cons, List.length_append, List.length_cons] at hn
    rw [unlines_cons]
    by_cases hlast : n ≤ l.length
    · have hnil : ls = [] := by
        have hlength : (unlines sep ls).length = 0 := by omega
        cases ls with
        | nil => rfl
        | cons l' ls' =>
          rw [unlines_cons, List.length_append, List.length_cons] at hlength
          omega
      subst hnil
      have hwhole : n = l.length := by
        simp at hn
        omega
      rw [List.take_append_of_le_length hlast, hwhole, List.take_length, lines_of_notMem hl,
        if_neg (hne l (by simp))]
    · obtain ⟨m, rfl⟩ : ∃ m, n = l.length + (m + 1) := ⟨n - l.length - 1, by omega⟩
      rw [List.take_length_add_append, List.take_succ_cons, lines_append_sep hl,
        ih (fun l' hl' => h l' (List.mem_cons_of_mem l hl')) (fun l' hl' => hne l' (List.mem_cons_of_mem l hl'))
          (by omega)]

/-- In the first `n` symbols of a file every line is a line of the file, or the start of one. -/
theorem exists_prefix_of_mem_lines_take {ls : List (List α)} (h : ∀ l ∈ ls, sep ∉ l) {n : Nat}
    {p : List α} (hp : p ∈ lines sep ((unlines sep ls).take n)) : ∃ l ∈ ls, p <+: l := by
  obtain ⟨k, start, hlines, hstart⟩ := exists_lines_take h n
  rw [hlines] at hp
  rcases List.mem_append.mp hp with hp | hp
  · exact ⟨p, List.mem_of_mem_take hp, List.prefix_refl p⟩
  · split at hp
    · cases hp
    · next hne =>
      obtain rfl := List.mem_singleton.mp hp
      obtain ⟨l, hl, hpre⟩ := hstart.resolve_left hne
      exact ⟨l, List.mem_of_getElem? hl, hpre⟩

end Lines
