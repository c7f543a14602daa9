import TeamsMirror.Client.Input
import TeamsMirror.Lib.Lines
import TeamsMirror.Lib.StringStreams

/-!
# The argument parser and its stream

`ParsedInput` on the stream that it reads, with the flags of the stream: what is
accepted depends on them through `peek` and on `_failArgs`. The inputs of the
handlers are the abstraction in which only the unread text is left.
-/

namespace TeamsMirror.Cli

open StringStreams

/-- `ParsedInput` as it is in memory. -/
structure StreamInput where
  arguments : StringStream UInt8
  command : Bytes
  failArgs : Bool
deriving DecidableEq

/-- `std::getline` from `std::cin`. -/
def getline (cin : Bytes) : Bytes := cin.takeWhile fun b => b ≠ 10

namespace StreamInput

/-- The constructor, on the line that `std::getline` has read. -/
def ofLine (line : Bytes) : StreamInput :=
  let read := ((StringStream.ofText line).ws isspace).readWord isspace
  ⟨read.2, read.1, false⟩

variable (input : StreamInput)

def fail : Bool := input.failArgs

def hasRemainingArgs : Bool × StreamInput :=
  let peeked := (input.arguments.ws isspace).peek isspace
  (peeked.1 ≠ none, { input with arguments := peeked.2 })

/-- `getArg<std::string>`. -/
def getArg : Bytes × StreamInput :=
  if input.failArgs then ([], input)
  else
    let peeked := (input.arguments.ws isspace).peek isspace
    if peeked.1 ≠ some 34 then ([], { input with arguments := peeked.2.setFail, failArgs := true })
    else
      let read := peeked.2.readQuoted isspace 34 92
      if read.2.failbit then ([], { input with arguments := read.2, failArgs := true })
      else (read.1, { input with arguments := read.2 })

/-- Calls of `getArg<std::string>`, one after the other. -/
def getArgs (input : StreamInput) : Nat → List Bytes × StreamInput
  | 0 => ([], input)
  | k + 1 =>
    let first := input.getArg
    let rest := first.2.getArgs k
    (first.1 :: rest.1, rest.2)

/-- The arguments of a command that wants `k` of them: `none` when the check after the last call
finds that one could not be read, or that something is left. -/
def takeArgs (k : Nat) : Option (List Bytes) :=
  let read := input.getArgs k
  if !read.2.fail && !read.2.hasRemainingArgs.1 then some read.1 else none

end StreamInput

/-- The handlers' input is what can still be read. -/
structure Represents (input : StreamInput) (parsed : ParsedInput) : Prop where
  arguments : visible isspace input.arguments = skipWs parsed.arguments
  failArgs : input.failArgs = parsed.failArgs

/-- The loop of `std::quoted` reads what `readQuoted` reads. -/
theorem quotedLoop_of_readQuoted {rest : Bytes} (string : Bytes) :
    match readQuoted rest with
    | some (argument, following) =>
      StringStream.quotedLoop 34 92 string rest = (string ++ argument, ⟨following, false, false⟩)
    | none => (StringStream.quotedLoop 34 92 string rest).2 = ⟨[], true, true⟩ := by
  induction string, rest using StringStream.quotedLoop.induct (34 : UInt8) 92 with
  | case1 string => rfl
  | case2 string => rfl
  | case3 string c rest ih =>
    rw [quotedLoop_escaped]
    have hread : readQuoted (92 :: c :: rest) = (readQuoted rest).map fun r => (c :: r.1, r.2) := rfl
    rw [hread]
    cases hrest : readQuoted rest with
    | none => simpa [hrest] using ih
    | some read => simpa [hrest] using ih
  | case4 string rest hne =>
    have hread : readQuoted (34 :: rest) = some ([], rest) := by
      rw [readQuoted.eq_def]
      rfl
    rw [quotedLoop_delimiter hne, hread]
    simp
  | case5 string c rest hescape hdelimiter ih =>
    rw [quotedLoop_plain hdelimiter hescape]
    have hread : readQuoted (c :: rest) = (readQuoted rest).map fun r => (c :: r.1, r.2) := by
      rw [readQuoted.eq_def]
      simp [hescape, hdelimiter]
    rw [hread]
    cases hrest : readQuoted rest with
    | none => simpa [hrest] using ih
    | some read => simpa [hrest] using ih

namespace Represents

variable {input : StreamInput} {parsed : ParsedInput}

theorem ofLine (line : Bytes) :
    (StreamInput.ofLine line).command = (parseLine line).1 ∧
      Represents (.ofLine line) (parseLine line).2 := by
  obtain ⟨hword, hrest⟩ := readWord_ws isspace line
  exact ⟨hword, ⟨hrest, rfl⟩⟩

theorem hasRemainingArgs (h : Represents input parsed) :
    input.hasRemainingArgs.1 = parsed.hasRemainingArgs ∧ Represents input.hasRemainingArgs.2 parsed := by
  cases hvisible : visible isspace input.arguments with
  | nil =>
    obtain ⟨hpeek, hgood⟩ := peek_ws_nil hvisible
    have hnil : skipWs parsed.arguments = [] := h.arguments ▸ hvisible
    refine ⟨by simp [StreamInput.hasRemainingArgs, ParsedInput.hasRemainingArgs, hpeek, hnil], ?_, h.failArgs⟩
    exact (visible_of_not_good hgood).trans hnil.symm
  | cons c rest =>
    have hpeek := peek_ws_cons hvisible
    have hcons : skipWs parsed.arguments = c :: rest := h.arguments ▸ hvisible
    refine ⟨by simp [StreamInput.hasRemainingArgs, ParsedInput.hasRemainingArgs, hpeek, hcons], ?_, h.failArgs⟩
    rw [StreamInput.hasRemainingArgs, hpeek, hcons, ← hcons]
    exact List.dropWhile_idempotent isspace parsed.arguments

/-- After a failed `getArg` neither input has anything left. -/
theorem failed {arguments : StringStream UInt8} (hgood : arguments.good = false) (command : Bytes) :
    Represents ⟨arguments, command, true⟩ ⟨[], true⟩ :=
  ⟨visible_of_not_good hgood, rfl⟩

theorem getArg (h : Represents input parsed) :
    input.getArg.1 = parsed.getArg.1 ∧ Represents input.getArg.2 parsed.getArg.2 := by
  cases hfail : input.failArgs with
  | true =>
    have hinput : input.getArg = ([], input) := by simp [StreamInput.getArg, hfail]
    have hparsed : parsed.getArg = ([], parsed) := by simp [ParsedInput.getArg, ← h.failArgs, hfail]
    rw [hinput, hparsed]
    exact ⟨rfl, h⟩
  | false =>
    have hparsed : parsed.failArgs = false := h.failArgs ▸ hfail
    cases hvisible : visible isspace input.arguments with
    | nil =>
      obtain ⟨hpeek, -⟩ := peek_ws_nil hvisible
      have hnil : skipWs parsed.arguments = [] := h.arguments ▸ hvisible
      have hfailed : parsed.getArg = ([], ⟨[], true⟩) := by simp [ParsedInput.getArg, hparsed, hnil]
      simp only [StreamInput.getArg, hfail, hpeek, hfailed, Bool.false_eq_true, if_false, ne_eq,
        reduceCtorEq, not_false_eq_true, if_true, true_and]
      exact failed (by simp [StringStream.good, StringStream.setFail]) _
    | cons c rest =>
      have hpeek := peek_ws_cons hvisible
      have hcons : skipWs parsed.arguments = c :: rest := h.arguments ▸ hvisible
      by_cases hquote : c = 34
      · subst hquote
        have hread : StringStream.readQuoted isspace ⟨34 :: rest, false, false⟩ 34 92 =
            StringStream.quotedLoop 34 92 [] rest := readQuoted_delimiter (by decide) 92 rest
        have hloop := @quotedLoop_of_readQuoted rest []
        simp only [StreamInput.getArg, ParsedInput.getArg, hfail, hparsed, hpeek, hcons, hread,
          Bool.false_eq_true, if_false, ne_eq, not_true_eq_false]
        cases hargument : readQuoted rest with
        | none =>
          simp only [hargument] at hloop
          simp only [hloop, if_true, true_and]
          exact failed rfl _
        | some read =>
          simp only [hargument, List.nil_append] at hloop
          simp only [hloop, Bool.false_eq_true, if_false, true_and]
          exact ⟨rfl, rfl⟩
      · have hfailed : parsed.getArg = ([], ⟨[], true⟩) := by
          simp only [ParsedInput.getArg, hparsed, hcons, Bool.false_eq_true, if_false]
          split
          · next heq => exact absurd (List.cons.inj heq).1 hquote
          · rfl
        simp only [StreamInput.getArg, hfail, hpeek, hfailed, Bool.false_eq_true, if_false, ne_eq,
          Option.some.injEq, hquote, not_false_eq_true, if_true, true_and]
        exact failed (by simp [StringStream.good, StringStream.setFail]) _

end Represents

end TeamsMirror.Cli
