import Mathlib.Data.List.Basic

/-!
# Length-prefixed framing

A stream of symbols is cut into frames: a header of fixed size, and a payload
whose size the header announces. The maximal split of a buffer into frames is a
relation rather than a function with fuel; it is total, deterministic, and
compatible with appending, which is all that incremental readers rely on.
-/

/-- How a header of `headerSize` symbols announces the size of its payload. -/
structure Framing (α : Type*) where
  headerSize : Nat
  payloadSize : List α → Nat
  headerSize_pos : 0 < headerSize

namespace Framing

variable {α : Type*}

/-- A frame as a reader hands it on: its header and its payload. -/
abbrev Frame (α : Type*) := List α × List α

variable (F : Framing α)

def WellFormed (f : Frame α) : Prop :=
  f.1.length = F.headerSize ∧ f.2.length = F.payloadSize f.1

/-- The frame at the head of a buffer and what follows it, once it is complete. -/
def next (buf : List α) : Option (Frame α × List α) :=
  let header := buf.take F.headerSize
  let size := F.headerSize + F.payloadSize header
  if buf.length < F.headerSize then none
  else if buf.length < size then none
  else some ((header, (buf.drop F.headerSize).take (F.payloadSize header)), buf.drop size)

/-- The symbols of a list of frames, in order. -/
def join (fs : List (Frame α)) : List α := fs.flatMap fun f => f.1 ++ f.2

@[simp] theorem join_nil : join ([] : List (Frame α)) = [] := rfl
@[simp] theorem join_cons (f : Frame α) (fs : List (Frame α)) :
    join (f :: fs) = f.1 ++ f.2 ++ join fs := rfl
@[simp] theorem join_append (fs gs : List (Frame α)) : join (fs ++ gs) = join fs ++ join gs := by
  simp [join]

/-- A complete frame at the head of a buffer is exactly what `next` removes. -/
theorem next_eq_some {buf rest : List α} {f : Frame α} :
    F.next buf = some (f, rest) ↔ buf = f.1 ++ f.2 ++ rest ∧ F.WellFormed f := by
  constructor
  · intro h
    simp only [next] at h
    split at h
    · cases h
    · next hhead =>
      split at h
      · cases h
      · next hsize =>
        obtain ⟨rfl, rfl⟩ := Prod.mk.inj (Option.some.inj h)
        refine ⟨?_, ?_, ?_⟩
        · rw [← List.drop_drop, List.append_assoc, List.take_append_drop, List.take_append_drop]
        · simp only [List.length_take]
          omega
        · simp only [List.length_take, List.length_drop]
          omega
  · rintro ⟨rfl, hhead, hsize⟩
    have htake : (f.1 ++ f.2 ++ rest).take F.headerSize = f.1 := by
      rw [List.append_assoc, ← hhead, List.take_left]
    have hdrop : (f.1 ++ f.2 ++ rest).drop F.headerSize = f.2 ++ rest := by
      rw [List.append_assoc, ← hhead, List.drop_left]
    have hlen : (f.1 ++ f.2 ++ rest).length = F.headerSize + F.payloadSize f.1 + rest.length := by
      simp [hhead, hsize, Nat.add_assoc]
    simp only [next, htake, hlen]
    rw [if_neg (by omega), if_neg (by omega), ← List.drop_drop, hdrop, ← hsize, List.take_left,
      List.drop_left]

theorem next_append {buf rest : List α} {f : Frame α} (h : F.next buf = some (f, rest))
    (more : List α) : F.next (buf ++ more) = some (f, rest ++ more) := by
  obtain ⟨rfl, hf⟩ := F.next_eq_some.mp h
  exact F.next_eq_some.mpr ⟨by simp, hf⟩

/-- Removing a frame shortens the buffer. -/
theorem next_length_lt {buf rest : List α} {f : Frame α} (h : F.next buf = some (f, rest)) :
    rest.length < buf.length := by
  obtain ⟨rfl, hf, -⟩ := F.next_eq_some.mp h
  have := F.headerSize_pos
  simp only [List.length_append]
  omega

/-- The maximal split of a buffer: frames are removed until none is complete. -/
inductive Splits : List α → List (Frame α) → List α → Prop where
  | done {buf : List α} : F.next buf = none → Splits buf [] buf
  | frame {buf rest left : List α} {f : Frame α} {fs : List (Frame α)} :
      F.next buf = some (f, rest) → Splits rest fs left → Splits buf (f :: fs) left

variable {F}

theorem Splits.deterministic {buf left left' : List α} {fs fs' : List (Frame α)}
    (h : F.Splits buf fs left) (h' : F.Splits buf fs' left') : fs = fs' ∧ left = left' := by
  induction h generalizing fs' left' with
  | done hn =>
    cases h' with
    | done => exact ⟨rfl, rfl⟩
    | frame hs _ => rw [hn] at hs; cases hs
  | frame hs _ ih =>
    cases h' with
    | done hn => rw [hn] at hs; cases hs
    | frame hs' ht =>
      rw [hs] at hs'
      obtain ⟨rfl, rfl⟩ := Prod.mk.inj (Option.some.inj hs')
      obtain ⟨rfl, rfl⟩ := ih ht
      exact ⟨rfl, rfl⟩

/-- Every buffer has a maximal split. -/
theorem exists_splits (buf : List α) : ∃ fs left, F.Splits buf fs left := by
  induction hn : buf.length using Nat.strongRecOn generalizing buf with
  | ind n ih =>
    cases h : F.next buf with
    | none => exact ⟨[], buf, .done h⟩
    | some p =>
      obtain ⟨f, rest⟩ := p
      obtain ⟨fs, left, hs⟩ := ih rest.length (hn ▸ F.next_length_lt h) rest rfl
      exact ⟨f :: fs, left, .frame h hs⟩

/-- A split continues on the symbols that arrive later, wherever the cut fell. -/
theorem Splits.append {buf left more left' : List α} {fs gs : List (Frame α)}
    (h : F.Splits buf fs left) (h' : F.Splits (left ++ more) gs left') :
    F.Splits (buf ++ more) (fs ++ gs) left' := by
  induction h with
  | done => exact h'
  | frame hs _ ih => exact .frame (F.next_append hs more) (ih h')

/-- A maximal split is a decomposition into well-formed frames and an incomplete rest. -/
theorem splits_iff {buf left : List α} {fs : List (Frame α)} :
    F.Splits buf fs left ↔
      buf = join fs ++ left ∧ (∀ f ∈ fs, F.WellFormed f) ∧ F.next left = none := by
  constructor
  · intro h
    induction h with
    | done hn => exact ⟨rfl, by simp, hn⟩
    | frame hs _ ih =>
      obtain ⟨rfl, hf⟩ := F.next_eq_some.mp hs
      obtain ⟨rfl, hfs, hn⟩ := ih
      refine ⟨by simp, ?_, hn⟩
      intro g hg
      rcases List.mem_cons.mp hg with rfl | hg
      · exact hf
      · exact hfs g hg
  · rintro ⟨rfl, hfs, hn⟩
    induction fs with
    | nil => exact .done hn
    | cons f fs ih =>
      refine .frame (F.next_eq_some.mpr ⟨?_, hfs f (by simp)⟩)
        (ih fun g hg => hfs g (List.mem_cons_of_mem _ hg))
      simp

theorem next_nil : F.next [] = none := by
  have h := F.headerSize_pos
  simp [next, h]

/-- What waits for the rest of its frame is shorter than the longest frame. -/
theorem length_lt_of_next {buf : List α} (h : F.next buf = none) {bound : Nat}
    (hbound : ∀ header, F.payloadSize header ≤ bound) : buf.length < F.headerSize + bound := by
  have hpayload := hbound (buf.take F.headerSize)
  simp only [next] at h
  split at h
  · omega
  · split at h
    · omega
    · cases h

/-- The beginning of a frame is not a frame. -/
theorem next_take {f : Frame α} (hf : F.WellFormed f) {n : Nat} (hn : n < (f.1 ++ f.2).length) :
    F.next ((f.1 ++ f.2).take n) = none := by
  cases h : F.next ((f.1 ++ f.2).take n) with
  | none => rfl
  | some g =>
    have hwhole := F.next_append h ((f.1 ++ f.2).drop n)
    rw [List.take_append_drop, F.next_eq_some.mpr ⟨(List.append_nil _).symm, hf⟩] at hwhole
    have hnil := (List.append_eq_nil_iff.mp (Prod.mk.inj (Option.some.inj hwhole)).2.symm).2
    rw [List.drop_eq_nil_iff] at hnil
    omega

/-- Whole frames with an incomplete one behind them are no sequence of whole frames. -/
theorem eq_nil_of_join {fs gs : List (Frame α)} {part : List α} (hfs : ∀ f ∈ fs, F.WellFormed f)
    (hgs : ∀ g ∈ gs, F.WellFormed g) (hpart : F.next part = none) (h : join fs ++ part = join gs) :
    part = [] := by
  have hsplits : F.Splits (join gs) fs part := splits_iff.mpr ⟨h.symm, hfs, hpart⟩
  have hwhole : F.Splits (join gs) gs [] := splits_iff.mpr ⟨by simp, hgs, F.next_nil⟩
  exact (hsplits.deterministic hwhole).2

/-- The frames that a reader gets from the beginning of a stream of frames are the first ones. -/
theorem splits_of_prefix {fs : List (Frame α)} (hfs : ∀ f ∈ fs, F.WellFormed f) {buf : List α}
    (h : buf <+: join fs) : ∃ k left, k ≤ fs.length ∧ F.Splits buf (fs.take k) left := by
  obtain ⟨more, hmore⟩ := h
  obtain ⟨gs, left, hgs⟩ := F.exists_splits buf
  obtain ⟨gs', left', hgs'⟩ := F.exists_splits (left ++ more)
  have hall : F.Splits (join fs) fs [] := splits_iff.mpr ⟨by simp, hfs, F.next_nil⟩
  have happend := hgs.append hgs'
  rw [hmore] at happend
  obtain ⟨hcut, -⟩ := hall.deterministic happend
  refine ⟨gs.length, left, ?_, ?_⟩
  · rw [hcut, List.length_append]
    omega
  · rw [hcut, List.take_left]
    exact hgs

end Framing
