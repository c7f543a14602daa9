import TeamsMirror.Common.Protocol

/-!
# The command line

A line is a command followed by quoted arguments, read off a string stream. After
the first argument that cannot be read the stream has failed for good.
-/

namespace TeamsMirror.Cli

/-- The bytes of a text of the source. -/
def bytesOf (text : String) : Bytes := text.toUTF8.data.toList

/-- `std::isspace` in the "C" locale. -/
def isspace (b : UInt8) : Bool := b = 32 || (9 ≤ b && b ≤ 13)

/-- What is left of the stream, nothing once it has failed. -/
structure ParsedInput where
  arguments : Bytes
  failArgs : Bool
deriving DecidableEq

/-- The stream read up to its next character that is not white space. -/
def skipWs (arguments : Bytes) : Bytes := arguments.dropWhile isspace

/-- The constructor: the command, and the input from which its handler takes the arguments. -/
def parseLine (line : Bytes) : Bytes × ParsedInput :=
  let arguments := skipWs line
  (arguments.takeWhile fun b => !isspace b, ⟨arguments.dropWhile fun b => !isspace b, false⟩)

/-- `std::quoted` after the opening quote: the text, and what follows the closing quote. -/
def readQuoted : Bytes → Option (Bytes × Bytes)
  | [] => none
  | b :: rest =>
    if b = 92 then
      match rest with
      | [] => none
      | escaped :: rest => (readQuoted rest).map fun r => (escaped :: r.1, r.2)
    else if b = 34 then some ([], rest)
    else (readQuoted rest).map fun r => (b :: r.1, r.2)

namespace ParsedInput

variable (input : ParsedInput)

def fail : Bool := input.failArgs

def hasRemainingArgs : Bool := skipWs input.arguments ≠ []

/-- `getArg<std::string>`. -/
def getArg : Bytes × ParsedInput :=
  if input.failArgs then ([], input)
  else
    match skipWs input.arguments with
    | 34 :: rest =>
      match readQuoted rest with
      | some (argument, rest) => (argument, ⟨rest, false⟩)
      | none => ([], ⟨[], true⟩)
    | _ => ([], ⟨[], true⟩)

end ParsedInput

end TeamsMirror.Cli
