import Mathlib.Data.List.Basic

/-!
# Output file streams

An output stream on a file: texts are inserted one after the other, some of them wait in
the buffer, and an insertion fails when a write does. A write that fails may have written
a part, which stays in the buffer all the same and is written again when the stream is
closed; that last write is made after the state of the stream has been asked for.
-/

namespace OutputFiles

variable {α : Type*}

structure OutputFile (α : Type*) where
  /-- What has reached the file. -/
  content : List α
  buffer : List α
  good : Bool

/-- How an insertion goes: how much of the buffer and the text is written then, and if a write fails, how
much of the text is in the buffer. -/
inductive Insertion where
  | taken (size : Nat)
  | failed (size kept : Nat)
deriving DecidableEq

namespace OutputFile

/-- A file that has been truncated. -/
def opened : OutputFile α := ⟨[], [], true⟩

/-- After a failure nothing is inserted any more. -/
def insert (file : OutputFile α) (text : List α) : Insertion → OutputFile α
  | .taken size =>
    if file.good then
      ⟨file.content ++ (file.buffer ++ text).take size, (file.buffer ++ text).drop size, true⟩
    else file
  | .failed size kept =>
    if file.good then
      ⟨file.content ++ (file.buffer ++ text).take size, file.buffer ++ text.take kept, false⟩
    else file

/-- Beyond the list the texts wait in the buffer. -/
def insertAll (file : OutputFile α) : List (List α) → List Insertion → OutputFile α
  | [], _ => file
  | text :: texts, [] => (file.insert text (.taken 0)).insertAll texts []
  | text :: texts, insertion :: insertions => (file.insert text insertion).insertAll texts insertions

/-- What is in the file when the stream is gone. -/
def close (file : OutputFile α) (size : Nat) : List α := file.content ++ file.buffer.take size

/-- Where a stream stands that has been given `whole`: up to a failure nothing is lost, and after it the
buffer is a stretch of the text that starts no later than the content ends. -/
structure Holds (whole : List α) (file : OutputFile α) : Prop where
  good : file.good = true → file.content ++ file.buffer = whole
  failed : file.good = false → ∃ start, start ≤ file.content.length ∧ file.content <+: whole ∧
    file.buffer <+: whole.drop start

theorem holds_opened : Holds [] (opened : OutputFile α) :=
  ⟨fun _ => rfl, fun h => (by cases h)⟩

variable {file : OutputFile α} {whole text : List α}

theorem Holds.insert (h : Holds whole file) (text : List α) (insertion : Insertion) :
    Holds (whole ++ text) (file.insert text insertion) := by
  obtain ⟨content, buffer, good⟩ := file
  cases good with
  | false =>
    have hsame : OutputFile.insert ⟨content, buffer, false⟩ text insertion = ⟨content, buffer, false⟩ := by
      cases insertion <;> rfl
    rw [hsame]
    refine ⟨fun hgood => (by cases hgood), fun _ => ?_⟩
    obtain ⟨start, hstart, hcontent, hbuffer⟩ := h.failed rfl
    have hlength : content.length ≤ whole.length := hcontent.length_le
    refine ⟨start, hstart, hcontent.trans (List.prefix_append _ _), hbuffer.trans ?_⟩
    rw [List.drop_append_of_le_length (Nat.le_trans hstart hlength)]
    exact List.prefix_append _ _
  | true =>
    have hwhole : content ++ buffer = whole := h.good rfl
    subst hwhole
    cases insertion with
    | taken size =>
      refine ⟨fun _ => ?_, fun hfailed => (by cases hfailed)⟩
      show content ++ (buffer ++ text).take size ++ (buffer ++ text).drop size = _
      rw [List.append_assoc, List.take_append_drop, List.append_assoc]
    | failed size kept =>
      refine ⟨fun hgood => (by cases hgood), fun _ => ⟨content.length, ?_, ?_, ?_⟩⟩
      · show content.length ≤ (content ++ (buffer ++ text).take size).length
        rw [List.length_append]
        omega
      · show content ++ (buffer ++ text).take size <+: _
        rw [List.append_assoc]
        exact (List.prefix_append_right_inj content).mpr (List.take_prefix _ _)
      · show buffer ++ text.take kept <+: _
        rw [List.append_assoc, List.drop_left]
        exact (List.prefix_append_right_inj buffer).mpr (List.take_prefix _ _)

theorem Holds.insertAll {texts : List (List α)} {insertions : List Insertion} (h : Holds whole file) :
    Holds (whole ++ texts.flatten) (file.insertAll texts insertions) := by
  induction texts generalizing file whole insertions with
  | nil => simpa [OutputFile.insertAll] using h
  | cons text texts ih =>
    rw [List.flatten_cons, ← List.append_assoc]
    cases insertions with
    | nil => exact ih (h.insert text _)
    | cons insertion insertions => exact ih (h.insert text insertion)

/-- A stream without a failure leaves a first part of the text, and all of it unless the last write falls short. -/
theorem Holds.close_good (h : Holds whole file) (hgood : file.good = true) (size : Nat) :
    file.close size = whole.take (file.content.length + size) := by
  rw [← h.good hgood, OutputFile.close, List.take_length_add_append]

/-- Any stream leaves a first part of the text, and perhaps a stretch of it again. -/
theorem Holds.close (h : Holds whole file) (size : Nat) :
    ∃ first start more, start ≤ first ∧ file.close size = whole.take first ++ (whole.drop start).take more := by
  cases hgood : file.good with
  | true =>
    refine ⟨file.content.length + size, file.content.length + size, 0, Nat.le_refl _, ?_⟩
    rw [List.take_zero, List.append_nil]
    exact h.close_good hgood size
  | false =>
    obtain ⟨start, hstart, hcontent, hbuffer⟩ := h.failed hgood
    refine ⟨file.content.length, start, (file.buffer.take size).length, hstart, ?_⟩
    have hmore : file.buffer.take size <+: whole.drop start := (List.take_prefix _ _).trans hbuffer
    rw [OutputFile.close, ← List.prefix_iff_eq_take.mp hcontent, ← List.prefix_iff_eq_take.mp hmore]

end OutputFile

end OutputFiles
