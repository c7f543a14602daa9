import Mathlib.Data.List.Basic

/-!
# Computations that keep a journal

A computation makes entries in a journal as it goes. The keeper of the journal may
refuse an entry, in view of those before it; a refused entry has been made all the
same, and ends the computation. What a computation writes and which entries it
makes is described without the journal by `Writes`, and composed step by step.
-/
namespace Logging

/-- A result and the journal, or the journal in which the last entry was refused. -/
abbrev Logged (κ : Type) (α : Type) : Type := StateT (List κ) (Except (List κ)) α

variable {κ α β : Type} (accepts : List κ → κ → Bool)

def entry (c : κ) : Logged κ Unit := fun journal =>
  if accepts journal c then .ok ((), journal ++ [c]) else .error (journal ++ [c])

/-- The journal after some entries, up to the first that is refused. -/
def entries : List κ → List κ → Except (List κ) (List κ)
  | journal, [] => .ok journal
  | journal, c :: cs =>
    if accepts journal c then entries (journal ++ [c]) cs else .error (journal ++ [c])

variable {accepts}

theorem entries_append (journal cs ds : List κ) :
    entries accepts journal (cs ++ ds) =
      (entries accepts journal cs).bind fun journal => entries accepts journal ds := by
  induction cs generalizing journal with
  | nil => rfl
  | cons c cs ih =>
    simp only [List.cons_append, entries]
    split
    · exact ih (journal ++ [c])
    · rfl

/-- Entries that are all accepted stand at the end of the journal. -/
theorem eq_of_entries_ok {journal journal' cs : List κ} (h : entries accepts journal cs = .ok journal') :
    journal' = journal ++ cs := by
  induction cs generalizing journal with
  | nil =>
    cases h
    rw [List.append_nil]
  | cons c cs ih =>
    simp only [entries] at h
    split at h
    · rw [ih h, List.append_assoc, List.singleton_append]
    · cases h

/-- Of entries that are not all accepted, those up to the first refused one are made. -/
theorem exists_of_entries_error {journal journal' cs : List κ}
    (h : entries accepts journal cs = .error journal') :
    ∃ made c rest, cs = made ++ c :: rest ∧ journal' = journal ++ made ++ [c] ∧
      accepts (journal ++ made) c = false := by
  induction cs generalizing journal with
  | nil => cases h
  | cons c cs ih =>
    simp only [entries] at h
    split at h
    · obtain ⟨made, d, rest, rfl, rfl, hrefused⟩ := ih h
      exact ⟨c :: made, d, rest, rfl, by simp, by simpa using hrefused⟩
    · next hrefused =>
      cases h
      exact ⟨[], c, cs, rfl, by simp, by simpa using hrefused⟩

theorem entries_of_accepts (haccepts : ∀ journal c, accepts journal c = true) (journal cs : List κ) :
    entries accepts journal cs = .ok (journal ++ cs) := by
  induction cs generalizing journal with
  | nil => rw [entries, List.append_nil]
  | cons c cs ih =>
    rw [entries, if_pos (haccepts journal c), ih, List.append_assoc, List.singleton_append]

variable (accepts)

/-- The computation makes the entries `cs` and returns `a`, unless an entry is refused. -/
def Writes (m : Logged κ α) (a : α) (cs : List κ) : Prop :=
  ∀ journal, m journal = (entries accepts journal cs).map fun journal => (a, journal)

variable {accepts}

theorem writes_pure (a : α) : Writes accepts (pure a) a [] := fun _ => rfl

theorem writes_entry (c : κ) : Writes accepts (entry accepts c) () [c] := by
  intro journal
  simp only [entry, entries]
  split <;> rfl

theorem Writes.bind {m : Logged κ α} {f : α → Logged κ β} {a : α} {b : β} {cs ds : List κ}
    (hm : Writes accepts m a cs) (hf : Writes accepts (f a) b ds) :
    Writes accepts (m >>= f) b (cs ++ ds) := by
  intro journal
  have hbind : (m >>= f) journal = (m journal).bind fun r => f r.1 r.2 := rfl
  rw [hbind, hm, entries_append]
  cases entries accepts journal cs with
  | error => rfl
  | ok journal' => exact hf journal'

/-- An entry, and the rest. -/
theorem Writes.entry_bind {m : Unit → Logged κ β} {b : β} {c : κ} {cs : List κ}
    (hm : Writes accepts (m ()) b cs) : Writes accepts (entry accepts c >>= m) b (c :: cs) :=
  (writes_entry c).bind hm

/-- Entries for the elements of a list, in order. -/
theorem writes_forM {γ : Type} (call : γ → κ) (xs : List γ) :
    Writes accepts (xs.forM fun x => entry accepts (call x)) () (xs.map call) := by
  induction xs with
  | nil => exact writes_pure ()
  | cons x xs ih =>
    have hcons : (x :: xs).forM (fun x => entry accepts (call x)) =
        entry accepts (call x) >>= fun _ => xs.forM fun x => entry accepts (call x) := rfl
    rw [hcons, List.map_cons]
    exact ih.entry_bind

theorem Writes.eq_of_ok {m : Logged κ α} {a : α} {cs : List κ} (h : Writes accepts m a cs)
    {journal : List κ} {r : α × List κ} (hr : m journal = .ok r) : r = (a, journal ++ cs) := by
  rw [h journal] at hr
  cases he : entries accepts journal cs with
  | error => rw [he] at hr; cases hr
  | ok journal' =>
    rw [he] at hr
    cases hr
    rw [eq_of_entries_ok he]

/-- Where nothing is refused, the computation always ends. -/
theorem Writes.ok {m : Logged κ α} {a : α} {cs : List κ} (h : Writes accepts m a cs)
    (haccepts : ∀ journal c, accepts journal c = true) (journal : List κ) :
    m journal = .ok (a, journal ++ cs) := by
  rw [h journal, entries_of_accepts haccepts]
  rfl

/-- The entries that have been made when a computation ends. -/
def journalOf : Except (List κ) (α × List κ) → List κ
  | .ok r => r.2
  | .error journal => journal

theorem accepts_of_entries_ok {journal journal' before after : List κ} {c : κ}
    (h : entries accepts journal (before ++ c :: after) = .ok journal') :
    accepts (journal ++ before) c = true := by
  rw [entries_append] at h
  cases hbefore : entries accepts journal before with
  | error => rw [hbefore] at h; cases h
  | ok journal'' =>
    rw [hbefore, eq_of_entries_ok hbefore] at h
    by_contra hrefused
    simp [Except.bind, entries, hrefused] at h

/-- Where as many entries are made as the keeper has answers, and the answers alone decide, either all of
them are good and the computation ends, or one of them is not and it is refused. -/
theorem Writes.answered {ρ : Type} (good : ρ → Bool) (default : ρ) {answers : List ρ} {m : Logged κ α} {a : α}
    {cs : List κ} (h : Writes (fun journal _ => good (answers.getD journal.length default)) m a cs)
    (hlength : (journalOf (m [])).length = answers.length) :
    m [] = .ok (a, cs) ∧ (∀ answer ∈ answers, good answer = true) ∨
      ∃ journal, m [] = .error journal ∧ ∃ answer ∈ answers, good answer = false := by
  rw [h []] at hlength ⊢
  cases he : entries (fun journal _ => good (answers.getD journal.length default)) [] cs with
  | ok journal =>
    obtain rfl : journal = cs := eq_of_entries_ok he
    rw [he] at hlength
    refine .inl ⟨rfl, fun answer hanswer => ?_⟩
    obtain ⟨i, hi, rfl⟩ := List.getElem_of_mem hanswer
    have hlength : journal.length = answers.length := hlength
    have hsplit : journal = journal.take i ++ journal[i] :: journal.drop (i + 1) := by simp
    have haccepted := accepts_of_entries_ok (hsplit ▸ he)
    simpa [hi, hlength, Nat.min_eq_left (Nat.le_of_lt hi)] using haccepted
  | error journal =>
    obtain ⟨made, c, rest, -, rfl, hrefused⟩ := exists_of_entries_error he
    rw [he] at hlength
    refine .inr ⟨_, rfl, ?_⟩
    have hmade : made.length < answers.length := by
      rw [← hlength]
      simp [journalOf, Except.map]
    exact ⟨answers[made.length], List.getElem_mem hmade, by simpa [hmade] using hrefused⟩

end Logging
