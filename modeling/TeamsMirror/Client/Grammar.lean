import TeamsMirror.Client.Parser

/-!
# The grammar of the arguments

What a line has to be for its arguments to be read, said without streams, and that
the parser accepts exactly that. A line that is written with `std::quoted` is such a
line.
-/

namespace TeamsMirror.Cli

open StringStreams

/-- Optional white space. -/
def White (gap : Bytes) : Prop := ∀ b ∈ gap, isspace b = true

/-- Quoted strings, separated and surrounded by optional white space, and what they stand for. -/
inductive QuotedStrings : Bytes → List Bytes → Prop where
  | nil {gap : Bytes} (hgap : White gap) : QuotedStrings gap []
  | cons {gap inside text rest : Bytes} {texts : List Bytes} (hgap : White gap)
      (hspells : Spells 34 92 inside text) (hrest : QuotedStrings rest texts) :
      QuotedStrings (gap ++ 34 :: (inside ++ 34 :: rest)) (text :: texts)

theorem skipWs_append {gap : Bytes} (hgap : White gap) (rest : Bytes) : skipWs (gap ++ rest) = skipWs rest :=
  List.dropWhile_append_of_pos hgap

theorem skipWs_eq_nil {rest : Bytes} : skipWs rest = [] ↔ White rest := List.dropWhile_eq_nil_iff

/-- A text is the white space that starts it, and the rest. -/
theorem exists_skipWs (rest : Bytes) : ∃ gap, White gap ∧ rest = gap ++ skipWs rest :=
  ⟨rest.takeWhile isspace, fun _ hb => List.mem_takeWhile_imp hb, List.takeWhile_append_dropWhile.symm⟩

theorem readQuoted_eq_some {rest text following : Bytes} :
    readQuoted rest = some (text, following) ↔
      ∃ inside, Spells 34 92 inside text ∧ rest = inside ++ 34 :: following := by
  have hloop := @quotedLoop_of_readQuoted rest []
  constructor
  · intro h
    simp only [h] at hloop
    have hgood : (StringStream.quotedLoop 34 92 [] rest).2.failbit = false := by rw [hloop]
    obtain ⟨inside, text', following', hspells, hrest, hread⟩ := quotedLoop_sound [] rest hgood
    obtain ⟨rfl, hstream⟩ := Prod.mk.inj (hloop.symm.trans hread)
    obtain rfl : following = following' := (StringStream.mk.inj hstream).1
    exact ⟨inside, hspells, hrest⟩
  · rintro ⟨inside, hspells, rfl⟩
    have hread := quotedLoop_complete (by decide) hspells [] following
    rw [hread] at hloop
    cases h : readQuoted (inside ++ 34 :: following) with
    | none =>
      simp only [h] at hloop
      cases hloop
    | some read =>
      simp only [h, List.nil_append] at hloop
      obtain ⟨htext, hstream⟩ := Prod.mk.inj hloop
      have hfollowing := (StringStream.mk.inj hstream).1
      rw [htext, hfollowing]

theorem quotedStrings_nil {rest : Bytes} : QuotedStrings rest [] ↔ skipWs rest = [] := by
  rw [skipWs_eq_nil]
  constructor
  · rintro ⟨hgap⟩
    assumption
  · exact .nil

theorem quotedStrings_cons {rest text : Bytes} {texts : List Bytes} :
    QuotedStrings rest (text :: texts) ↔ ∃ inner following,
      skipWs rest = 34 :: inner ∧ readQuoted inner = some (text, following) ∧ QuotedStrings following texts := by
  constructor
  · intro h
    cases h with
    | cons hgap hspells hrest =>
      refine ⟨_, _, ?_, readQuoted_eq_some.mpr ⟨_, hspells, rfl⟩, hrest⟩
      rw [skipWs_append hgap]
      rfl
  · rintro ⟨inner, following, hskip, hread, hrest⟩
    obtain ⟨inside, hspells, rfl⟩ := readQuoted_eq_some.mp hread
    obtain ⟨gap, hgap, hsplit⟩ := exists_skipWs rest
    rw [hsplit, hskip]
    exact .cons hgap hspells hrest

theorem ParsedInput.getArg_of_quoted {rest inner text following : Bytes} (hskip : skipWs rest = 34 :: inner)
    (hread : readQuoted inner = some (text, following)) :
    ParsedInput.getArg ⟨rest, false⟩ = (text, ⟨following, false⟩) := by
  simp [ParsedInput.getArg, hskip, hread]

/-- An argument that is read is a quoted string. -/
theorem ParsedInput.getArg_sound {rest : Bytes} (h : (ParsedInput.getArg ⟨rest, false⟩).2.failArgs = false) :
    ∃ inner text following, skipWs rest = 34 :: inner ∧ readQuoted inner = some (text, following) := by
  simp only [ParsedInput.getArg, Bool.false_eq_true, if_false] at h
  split at h
  · next inner hskip =>
    split at h
    · next text following hread => exact ⟨inner, text, following, hskip, hread⟩
    · cases h
  · cases h

namespace StreamInput

variable {input : StreamInput}

theorem takeArgs_zero : input.takeArgs 0 = if input.failArgs = false ∧ input.hasRemainingArgs.1 = false
    then some [] else none := by
  simp [takeArgs, getArgs, fail]

theorem takeArgs_succ (k : Nat) :
    input.takeArgs (k + 1) = (input.getArg.2.takeArgs k).map (input.getArg.1 :: ·) := by
  simp only [takeArgs, getArgs, apply_ite (Option.map (input.getArg.1 :: ·)), Option.map_some, Option.map_none]
  rfl

/-- What a handler finds after its last argument, with the flags of the stream. -/
theorem takeArgs_done {parsed : ParsedInput} (h : Represents input parsed)
    (hdone : (parsed.fail || parsed.hasRemainingArgs) = false) : input.takeArgs 0 = some [] := by
  obtain ⟨hfail, hremaining⟩ := Bool.or_eq_false_iff.mp hdone
  rw [takeArgs_zero, if_pos ⟨h.failArgs.trans hfail, h.hasRemainingArgs.1.trans hremaining⟩]

/-- An argument that a handler takes is the first of those of the line. -/
theorem takeArgs_getArg {parsed : ParsedInput} (h : Represents input parsed) {k : Nat} {texts : List Bytes}
    (hrest : input.getArg.2.takeArgs k = some texts) :
    input.takeArgs (k + 1) = some (parsed.getArg.1 :: texts) := by
  rw [takeArgs_succ, hrest, h.getArg.1]
  rfl

/-- After an argument that could not be read nothing is accepted. -/
theorem takeArgs_failed (h : input.failArgs = true) (k : Nat) : input.takeArgs k = none := by
  induction k with
  | zero => simp [takeArgs_zero, h]
  | succ k ih =>
    have hsame : input.getArg = ([], input) := by simp [getArg, h]
    rw [takeArgs_succ, hsame, ih]
    rfl

/-- The arguments that are accepted are those that the grammar finds in what is left. -/
theorem takeArgs_iff {rest : Bytes} (h : Represents input ⟨rest, false⟩) {k : Nat} {texts : List Bytes} :
    input.takeArgs k = some texts ↔ texts.length = k ∧ QuotedStrings rest texts := by
  induction k generalizing input rest texts with
  | zero =>
    have hremaining := h.hasRemainingArgs.1
    rw [takeArgs_zero, h.failArgs, hremaining, List.length_eq_zero_iff]
    constructor
    · intro htake
      by_cases hnil : skipWs rest = []
      · simp only [ParsedInput.hasRemainingArgs, hnil, ne_eq, not_true_eq_false, decide_false,
          and_self, if_true, Option.some.injEq] at htake
        subst htake
        exact ⟨rfl, quotedStrings_nil.mpr hnil⟩
      · simp [ParsedInput.hasRemainingArgs, hnil] at htake
    · rintro ⟨rfl, hquoted⟩
      have hnil := quotedStrings_nil.mp hquoted
      simp [ParsedInput.hasRemainingArgs, hnil]
  | succ k ih =>
    obtain ⟨hvalue, hnext⟩ := h.getArg
    rw [takeArgs_succ]
    constructor
    · intro htake
      obtain ⟨texts', htail, rfl⟩ := Option.map_eq_some_iff.mp htake
      have hfail : (ParsedInput.getArg ⟨rest, false⟩).2.failArgs = false := by
        rw [← hnext.failArgs]
        by_contra hfail
        rw [takeArgs_failed (by simpa using hfail)] at htail
        cases htail
      obtain ⟨inner, text, following, hskip, hread⟩ := ParsedInput.getArg_sound hfail
      rw [ParsedInput.getArg_of_quoted hskip hread] at hvalue hnext
      obtain ⟨hlength, hquoted⟩ := (ih hnext).mp htail
      rw [hvalue]
      exact ⟨congrArg Nat.succ hlength, quotedStrings_cons.mpr ⟨inner, following, hskip, hread, hquoted⟩⟩
    · rintro ⟨hlength, hquoted⟩
      cases texts with
      | nil => cases hlength
      | cons text texts =>
        obtain ⟨inner, following, hskip, hread, hquoted⟩ := quotedStrings_cons.mp hquoted
        rw [ParsedInput.getArg_of_quoted hskip hread] at hvalue hnext
        have htake := (ih hnext).mpr ⟨Nat.succ.inj hlength, hquoted⟩
        rw [htake, hvalue]
        rfl

end StreamInput

/-- A line made of a command and arguments written with `std::quoted`. -/
def writeLine (command : Bytes) (texts : List Bytes) : Bytes :=
  command ++ texts.flatMap fun text => 32 :: StringStream.writeQuoted 34 92 text

theorem quotedStrings_written (texts : List Bytes) :
    QuotedStrings (texts.flatMap fun text => 32 :: StringStream.writeQuoted 34 92 text) texts := by
  induction texts with
  | nil => exact .nil (by simp [White])
  | cons text texts ih =>
    obtain ⟨inside, hspells, hwritten⟩ := spells_writeQuoted 34 92 text
    have hblank : White [32] := by
      intro b hb
      rw [List.mem_singleton.mp hb]
      rfl
    have hcons := QuotedStrings.cons hblank hspells ih
    rw [List.flatMap_cons, hwritten]
    simpa using hcons

theorem lf_notMem_writeQuoted {text : Bytes} (h : 10 ∉ text) : 10 ∉ StringStream.writeQuoted 34 92 text := by
  have hcharacter : ∀ c ∈ text, (10 : UInt8) ∉ if c = 34 ∨ c = 92 then [92, c] else [c] := by
    intro c hc hmem
    have hne : (10 : UInt8) ≠ c := fun he => h (he ▸ hc)
    split at hmem <;> simp [hne] at hmem
  intro hmem
  simp only [StringStream.writeQuoted, List.cons_append, List.mem_cons, List.mem_append, List.mem_flatMap,
    List.not_mem_nil, or_false] at hmem
  rcases hmem with hmem | ⟨c, hc, hmem⟩ | hmem
  · cases hmem
  · exact hcharacter c hc hmem
  · cases hmem

theorem lf_notMem_writeLine {command : Bytes} (hcommand : ∀ b ∈ command, isspace b = false)
    {texts : List Bytes} (h : ∀ text ∈ texts, 10 ∉ text) : 10 ∉ writeLine command texts := by
  intro hmem
  rcases List.mem_append.mp hmem with hmem | hmem
  · exact absurd (hcommand 10 hmem) (by decide)
  · obtain ⟨text, htext, hmem⟩ := List.mem_flatMap.mp hmem
    rcases List.mem_cons.mp hmem with hmem | hmem
    · cases hmem
    · exact lf_notMem_writeQuoted (h text htext) hmem

/-- The words of a line: white space, the command, and what the arguments are read from. -/
theorem exists_parseLine (line : Bytes) :
    ∃ gap, White gap ∧ line = gap ++ (parseLine line).1 ++ (parseLine line).2.arguments := by
  obtain ⟨gap, hgap, hsplit⟩ := exists_skipWs line
  have hwords : (parseLine line).1 ++ (parseLine line).2.arguments = skipWs line :=
    List.takeWhile_append_dropWhile
  exact ⟨gap, hgap, by rw [List.append_assoc, hwords, ← hsplit]⟩

theorem isspace_of_mem_command {line : Bytes} {b : UInt8} (hb : b ∈ (parseLine line).1) : isspace b = false := by
  have hword := List.mem_takeWhile_imp hb
  simpa using hword

theorem isspace_of_head_arguments {line : Bytes} {b : UInt8} (hb : (parseLine line).2.arguments.head? = some b) :
    isspace b = true := by
  have hhead := List.head?_dropWhile_not (fun b => !isspace b) (skipWs line)
  have hrest : (skipWs line).dropWhile (fun b => !isspace b) = (parseLine line).2.arguments := rfl
  rw [hrest, hb] at hhead
  simpa using hhead

theorem parseLine_writeLine {command : Bytes} (hne : command ≠ []) (hword : ∀ b ∈ command, isspace b = false)
    (texts : List Bytes) :
    parseLine (writeLine command texts) =
      (command, ⟨texts.flatMap fun text => 32 :: StringStream.writeQuoted 34 92 text, false⟩) := by
  have hinside : ∀ b ∈ command, (!isspace b) = true := by simpa using hword
  have hskip : skipWs (writeLine command texts) = writeLine command texts := by
    cases command with
    | nil => exact absurd rfl hne
    | cons b command =>
      have hb : isspace b = false := hword b (by simp)
      simp [writeLine, skipWs, hb]
  rw [parseLine, hskip, writeLine, List.takeWhile_append_of_pos hinside, List.dropWhile_append_of_pos hinside]
  cases texts with
  | nil => simp
  | cons text texts =>
    have hblank : isspace 32 = true := rfl
    simp [hblank]

/-- Of a line the arguments are what follows the first word, and they are accepted exactly when
they are quoted strings. A line written with `std::quoted` gives back what was written. -/
theorem arguments_exact :
    (∀ line, ∃ gap rest, White gap ∧ (∀ b ∈ (StreamInput.ofLine line).command, isspace b = false) ∧
      (∀ b, rest.head? = some b → isspace b = true) ∧
      line = gap ++ (StreamInput.ofLine line).command ++ rest ∧
      ∀ k texts, (StreamInput.ofLine line).takeArgs k = some texts ↔
        texts.length = k ∧ QuotedStrings rest texts) ∧
    ∀ command texts following, command ≠ [] → (∀ b ∈ command, isspace b = false) →
      (∀ text ∈ texts, 10 ∉ text) →
      getline (writeLine command texts ++ 10 :: following) = writeLine command texts ∧
        (StreamInput.ofLine (writeLine command texts)).command = command ∧
        (StreamInput.ofLine (writeLine command texts)).takeArgs texts.length = some texts := by
  constructor
  · intro line
    obtain ⟨hcommand, hinput⟩ := Represents.ofLine line
    obtain ⟨gap, hgap, hline⟩ := exists_parseLine line
    rw [hcommand]
    exact ⟨gap, (parseLine line).2.arguments, hgap, fun b => isspace_of_mem_command,
      fun b => isspace_of_head_arguments, hline, fun k texts => StreamInput.takeArgs_iff hinput⟩
  · intro command texts following hne hword htexts
    obtain ⟨hcommand, hinput⟩ := Represents.ofLine (writeLine command texts)
    rw [parseLine_writeLine hne hword] at hcommand hinput
    have hline : 10 ∉ writeLine command texts := lf_notMem_writeLine hword htexts
    have hgetline : getline (writeLine command texts ++ 10 :: following) = writeLine command texts := by
      have hinside : ∀ b ∈ writeLine command texts, decide (b ≠ 10) = true := by
        intro b hb
        have hb : b ≠ 10 := fun he => hline (he ▸ hb)
        simpa using hb
      rw [getline, List.takeWhile_append_of_pos hinside]
      simp
    exact ⟨hgetline, hcommand, (StreamInput.takeArgs_iff hinput).mpr ⟨rfl, quotedStrings_written texts⟩⟩

theorem arguments_exact_written :
    (StreamInput.ofLine (writeLine [47, 99] [[97, 34], []])).takeArgs 2 = some [[97, 34], []] :=
  (arguments_exact.2 [47, 99] [[97, 34], []] [] (by decide) (by simp [isspace]) (by decide)).2.2

-- adjacent strings, the second one empty
example : (StreamInput.ofLine [47, 32, 34, 97, 34, 34, 34]).takeArgs 2 = some [[97], []] := by decide

-- the backslash escapes the quote that would have closed the string
example : (StreamInput.ofLine [47, 32, 34, 97, 92, 34]).takeArgs 1 = none := by decide

end TeamsMirror.Cli
