import Mathlib.Data.List.DropRight

/-!
# String streams

Reading a `std::stringstream`: the characters that are left, and the two flags that
decide what the next input function does. Every input function starts with a sentry,
which fails on a stream that is not good any more, so that a failure is never undone.
`std::quoted` is compared with the grammar of what it reads.
-/

namespace StringStreams

/-- A stream that is being read, in front of `rest`. -/
structure StringStream (α : Type*) where
  rest : List α
  eofbit : Bool
  failbit : Bool
deriving DecidableEq

namespace StringStream

variable {α : Type*} (space : α → Bool) (s : StringStream α)

/-- A stream on which `str` was set. -/
def ofText (text : List α) : StringStream α := ⟨text, false, false⟩

def good : Bool := !s.eofbit && !s.failbit

/-- `setstate(std::ios::failbit)`. -/
def setFail : StringStream α := { s with failbit := true }

/-- The sentry of an input function, which goes on if the stream is good afterwards. -/
def sentry (noskipws : Bool) : StringStream α :=
  if s.good then
    if noskipws then s
    else
      match s.rest.dropWhile space with
      | [] => ⟨[], true, true⟩
      | c :: rest => { s with rest := c :: rest }
  else s.setFail

/-- `>> std::ws`. -/
def ws : StringStream α :=
  let s := s.sentry space true
  if s.good then
    match s.rest.dropWhile space with
    | [] => { s with rest := [], eofbit := true }
    | c :: rest => { s with rest := c :: rest }
  else s

/-- `peek`, with `none` for `eof()`. -/
def peek : Option α × StringStream α :=
  let s := s.sentry space true
  if s.good then
    match s.rest with
    | [] => (none, { s with eofbit := true })
    | c :: _ => (some c, s)
  else (none, s)

/-- `>>` into a character, on a stream with the flag `skipws` or without it. -/
def readChar (skipws : Bool) : Option α × StringStream α :=
  let s := s.sentry space !skipws
  if s.good then
    match s.rest with
    | [] => (none, ⟨[], true, true⟩)
    | c :: rest => (some c, { s with rest := rest })
  else (none, s)

/-- `>>` into a string that is empty. -/
def readWord : List α × StringStream α :=
  let s := s.sentry space false
  if s.good then
    let word := s.rest.takeWhile fun c => !space c
    let rest := s.rest.dropWhile fun c => !space c
    (word, ⟨rest, rest.isEmpty, word.isEmpty⟩)
  else ([], s)

variable [DecidableEq α] (delimiter escape : α)

/-- The loop of `std::quoted` in a good stream without `skipws`: each turn is one `>>` into a
character, or two after an escape, and a turn that finds no character is the last one. -/
def quotedLoop (string : List α) : List α → List α × StringStream α
  | [] => (string, ⟨[], true, true⟩)
  | c :: rest =>
    if c = escape then
      match rest with
      | [] => (string, ⟨[], true, true⟩)
      | escaped :: rest => quotedLoop (string ++ [escaped]) rest
    else if c = delimiter then (string, ⟨rest, false, false⟩)
    else quotedLoop (string ++ [c]) rest

/-- `>> std::quoted` into a string that is empty. -/
def readQuoted : List α × StringStream α :=
  match s.readChar space true with
  | (none, s) => ([], s)
  | (some c, s) =>
    if c = delimiter then quotedLoop delimiter escape [] s.rest
    -- `unget`, then the text up to the next white space
    else { s with rest := c :: s.rest }.readWord space

/-- `<< std::quoted`. -/
def writeQuoted (text : List α) : List α :=
  delimiter :: (text.flatMap fun c => if c = delimiter ∨ c = escape then [escape, c] else [c]) ++ [delimiter]

end StringStream

open StringStream

section

variable {α : Type*} {space : α → Bool} {s : StringStream α}

/-- The text that an input function finds after white space: none in a stream that is not good. -/
def visible (space : α → Bool) (s : StringStream α) : List α :=
  if s.good then s.rest.dropWhile space else []

theorem visible_of_not_good (h : s.good = false) : visible space s = [] := by simp [visible, h]

@[simp] theorem visible_mk (space : α → Bool) (text : List α) :
    visible space ⟨text, false, false⟩ = text.dropWhile space := rfl

theorem eq_of_good (h : s.good = true) : s = ⟨s.rest, false, false⟩ := by
  obtain ⟨rest, eofbit, failbit⟩ := s
  simpa [good] using h

theorem space_of_dropWhile {text : List α} {c : α} {rest : List α} (h : text.dropWhile space = c :: rest) :
    space c = false := by
  have hhead := List.head?_dropWhile_not space text
  rwa [h] at hhead

theorem ws_cons {text : List α} {c : α} {rest : List α} (h : text.dropWhile space = c :: rest) :
    StringStream.ws space ⟨text, false, false⟩ = ⟨c :: rest, false, false⟩ := by
  simp [StringStream.ws, sentry, good, h]

theorem ws_nil {text : List α} (h : text.dropWhile space = []) :
    StringStream.ws space ⟨text, false, false⟩ = ⟨[], true, false⟩ := by
  simp [StringStream.ws, sentry, good, h]

/-- `peek` after `ws` finds the first character that is visible. -/
theorem peek_ws_cons {c : α} {rest : List α} (h : visible space s = c :: rest) :
    (s.ws space).peek space = (some c, ⟨c :: rest, false, false⟩) := by
  cases hgood : s.good with
  | true =>
    rw [eq_of_good hgood, visible_mk] at h
    rw [eq_of_good hgood, ws_cons h]
    rfl
  | false =>
    rw [visible_of_not_good hgood] at h
    cases h

theorem peek_ws_nil (h : visible space s = []) :
    ((s.ws space).peek space).1 = none ∧ ((s.ws space).peek space).2.good = false := by
  cases hgood : s.good with
  | true =>
    rw [eq_of_good hgood, visible_mk] at h
    rw [eq_of_good hgood, ws_nil h]
    exact ⟨rfl, rfl⟩
  | false =>
    -- both sentries fail
    have hfail : s.setFail.good = false := by simp [good, setFail]
    have hws : s.ws space = s.setFail := by simp [StringStream.ws, sentry, hgood, hfail]
    have hpeek : s.setFail.peek space = (none, s.setFail) := by
      simp [StringStream.peek, sentry, good, setFail]
    rw [hws, hpeek]
    exact ⟨rfl, hfail⟩

/-- The first word of a text, and what is left to be read after it. -/
theorem readWord_ws (space : α → Bool) (text : List α) :
    (((ofText text).ws space).readWord space).1 = (text.dropWhile space).takeWhile (fun c => !space c) ∧
      visible space (((ofText text).ws space).readWord space).2 =
        ((text.dropWhile space).dropWhile fun c => !space c).dropWhile space := by
  cases h : text.dropWhile space with
  | nil =>
    rw [ofText, ws_nil h]
    exact ⟨rfl, rfl⟩
  | cons c rest =>
    have hc : space c = false := space_of_dropWhile h
    have hread : StringStream.readWord space ⟨c :: rest, false, false⟩ =
        (c :: rest.takeWhile fun c => !space c,
          ⟨rest.dropWhile fun c => !space c, (rest.dropWhile fun c => !space c).isEmpty, false⟩) := by
      simp [StringStream.readWord, sentry, good, hc]
    rw [ofText, ws_cons h, hread]
    constructor
    · simp [hc]
    · cases hrest : rest.dropWhile (fun c => !space c) <;> simp [visible, good, hc, hrest]

/-- With an opening delimiter next, `std::quoted` is its loop. -/
theorem readQuoted_delimiter [DecidableEq α] {delimiter : α} (hspace : space delimiter = false)
    (escape : α) (rest : List α) :
    StringStream.readQuoted space ⟨delimiter :: rest, false, false⟩ delimiter escape =
      quotedLoop delimiter escape [] rest := by
  simp [StringStream.readQuoted, StringStream.readChar, sentry, good, hspace]

end

variable {α : Type*} {delimiter escape : α}

/-- What stands between two delimiters, and the text that it stands for. -/
inductive Spells (delimiter escape : α) : List α → List α → Prop where
  | nil : Spells delimiter escape [] []
  | plain {c : α} {inside text : List α} (hdelimiter : c ≠ delimiter) (hescape : c ≠ escape)
      (h : Spells delimiter escape inside text) : Spells delimiter escape (c :: inside) (c :: text)
  | escaped {c : α} {inside text : List α} (h : Spells delimiter escape inside text) :
      Spells delimiter escape (escape :: c :: inside) (c :: text)

variable [DecidableEq α]

theorem quotedLoop_escaped (string : List α) (c : α) (rest : List α) :
    quotedLoop delimiter escape string (escape :: c :: rest) =
      quotedLoop delimiter escape (string ++ [c]) rest := by
  rw [quotedLoop.eq_def]
  exact if_pos rfl

theorem quotedLoop_delimiter (hne : delimiter ≠ escape) (string rest : List α) :
    quotedLoop delimiter escape string (delimiter :: rest) = (string, ⟨rest, false, false⟩) := by
  rw [quotedLoop.eq_def]
  simp [hne]

theorem quotedLoop_plain {c : α} (hdelimiter : c ≠ delimiter) (hescape : c ≠ escape) (string rest : List α) :
    quotedLoop delimiter escape string (c :: rest) = quotedLoop delimiter escape (string ++ [c]) rest := by
  rw [quotedLoop.eq_def]
  simp [hdelimiter, hescape]

theorem quotedLoop_complete (hne : delimiter ≠ escape) {inside text : List α}
    (h : Spells delimiter escape inside text) (string following : List α) :
    quotedLoop delimiter escape string (inside ++ delimiter :: following) =
      (string ++ text, ⟨following, false, false⟩) := by
  induction h generalizing string with
  | nil => rw [List.nil_append, quotedLoop_delimiter hne, List.append_nil]
  | plain hdelimiter hescape h ih =>
    rw [List.cons_append, quotedLoop_plain hdelimiter hescape, ih, List.append_assoc]
    rfl
  | escaped h ih =>
    rw [List.cons_append, List.cons_append, quotedLoop_escaped, ih, List.append_assoc]
    rfl

theorem quotedLoop_sound (string rest : List α)
    (h : (quotedLoop delimiter escape string rest).2.failbit = false) :
    ∃ inside text following, Spells delimiter escape inside text ∧
      rest = inside ++ delimiter :: following ∧
      quotedLoop delimiter escape string rest = (string ++ text, ⟨following, false, false⟩) := by
  induction string, rest using quotedLoop.induct delimiter escape with
  | case1 string => cases h
  | case2 string => simp [quotedLoop] at h
  | case3 string c rest ih =>
    rw [quotedLoop_escaped] at h ⊢
    obtain ⟨inside, text, following, hspells, rfl, hloop⟩ := ih h
    exact ⟨escape :: c :: inside, c :: text, following, hspells.escaped, rfl, by simp [hloop]⟩
  | case4 string rest hescape =>
    exact ⟨[], [], rest, .nil, rfl, by rw [quotedLoop_delimiter hescape, List.append_nil]⟩
  | case5 string c rest hescape hdelimiter ih =>
    rw [quotedLoop_plain hdelimiter hescape] at h ⊢
    obtain ⟨inside, text, following, hspells, rfl, hloop⟩ := ih h
    exact ⟨c :: inside, c :: text, following, hspells.plain hdelimiter hescape, rfl, by simp [hloop]⟩

/-- What `std::quoted` writes spells the text. -/
theorem spells_writeQuoted (delimiter escape : α) (text : List α) :
    ∃ inside, Spells delimiter escape inside text ∧
      writeQuoted delimiter escape text = delimiter :: inside ++ [delimiter] := by
  refine ⟨_, ?_, rfl⟩
  induction text with
  | nil => exact .nil
  | cons c text ih =>
    rw [List.flatMap_cons]
    split
    · exact ih.escaped
    · next h =>
      obtain ⟨hdelimiter, hescape⟩ := not_or.mp h
      exact ih.plain hdelimiter hescape

end StringStreams
