import TeamsMirror.Lib.Lines
import TeamsMirror.Lib.Numerals
import TeamsMirror.Lib.OutputFiles
import TeamsMirror.Server.Models

/-!
# Saving

`DatabaseSaver` flattens the users, the forest of teams and the private messages
into seven files of delimited lines.
-/

namespace TeamsMirror

open Numerals OutputFiles

inductive DataFile where
  | users
  | teams
  | teamSubscriptions
  | channels
  | threads
  | messages
  | privateMessages
deriving DecidableEq

/-- What is asked of every file can be asked of one after the other. -/
instance (p : DataFile → Prop) [DecidablePred p] : Decidable (∀ file, p file) :=
  decidable_of_iff (∀ file ∈ [DataFile.users, .teams, .teamSubscriptions, .channels, .threads, .messages,
    .privateMessages], p file) ⟨fun h file => h file (by cases file <;> simp), fun h file _ => h file⟩

/-- The directory `server_data`: the content of each file that exists. -/
abbrev Disk := DataFile → Option Bytes

def escapeCharacter (delimiter character : UInt8) : Bytes :=
  if character = 92 ∨ character = delimiter then [92, character]
  else if character = 10 then [92, 110]
  else if character = 13 then [92, 114]
  else [character]

def escapeField (value : Bytes) (delimiter : UInt8) : Bytes :=
  value.flatMap (escapeCharacter delimiter)

def joinEscapedFields (fields : List Bytes) (delimiter : UInt8) : Bytes :=
  match fields with
  | [] => []
  | field :: rest =>
    escapeField field delimiter ++ rest.flatMap fun field => delimiter :: escapeField field delimiter

/-- `SerializedLines`. -/
abbrev SerializedLines := DataFile → List Bytes

def userFields (user : User) : List Bytes :=
  [user.uuid.bytes, user.name.bytes, if user.isLoggedIn then [49] else [48]]

def privateMessageFields (message : Message) : List Bytes :=
  [message.uuid.bytes, message.authorUuid.bytes, toDecimal message.createdAt.toInt,
    message.body.bytes, message.receiverUuid.bytes]

def teamFields (team : Team) : List Bytes :=
  [team.uuid.bytes, team.name.bytes, team.description.bytes]

def teamSubscriptionFields (teamUuid subscribedUserUuid : Uuid) : List Bytes :=
  [teamUuid.bytes, subscribedUserUuid.bytes]

def channelFields (teamUuid : Uuid) (channel : Channel) : List Bytes :=
  [teamUuid.bytes, channel.uuid.bytes, channel.name.bytes, channel.description.bytes]

def threadFields (channelUuid : Uuid) (thread : Thread) : List Bytes :=
  [channelUuid.bytes, thread.uuid.bytes, thread.authorUuid.bytes, toDecimal thread.createdAt.toInt,
    thread.title.bytes, thread.body.bytes]

def messageFields (threadUuid : Uuid) (message : Message) : List Bytes :=
  [threadUuid.bytes, message.uuid.bytes, message.authorUuid.bytes, toDecimal message.createdAt.toInt,
    message.body.bytes]

/-- The records of each file, in the order in which `serializeData` meets them. -/
def records (users : List User) (teams : List Team) (messages : List Message) :
    DataFile → List (List Bytes)
  | .users => users.map userFields
  | .privateMessages => messages.map privateMessageFields
  | .teams => teams.map teamFields
  | .teamSubscriptions => teams.flatMap fun team =>
    team.subscribedUserUuids.map (teamSubscriptionFields team.uuid)
  | .channels => teams.flatMap fun team => team.channels.map (channelFields team.uuid)
  | .threads => teams.flatMap fun team => team.channels.flatMap fun channel =>
    channel.threads.map (threadFields channel.uuid)
  | .messages => teams.flatMap fun team => team.channels.flatMap fun channel =>
    channel.threads.flatMap fun thread => thread.replies.map (messageFields thread.uuid)

def serializeData (users : List User) (teams : List Team) (messages : List Message)
    (delimiter : UInt8) : SerializedLines := fun file =>
  (records users teams messages file).map fun fields => joinEscapedFields fields delimiter

/-- How the writing of one file goes: it cannot be opened, or else how each insertion goes, and how much of
what waits in the buffer the last write comes to. -/
inductive WriteOutcome where
  | notOpened
  | opened (insertions : List Insertion) (closing : Nat)
deriving DecidableEq

/-- The stream after the loop: `outputFile << line << '\n'` for each line. -/
def outputFile (lines : List Bytes) (insertions : List Insertion) : OutputFile UInt8 :=
  OutputFile.opened.insertAll (lines.flatMap fun line => [line, [10]]) insertions

/-- `good()` is what the loop has come to; the destructor writes the buffer after that, and tells nobody. -/
def writeLines (old : Option Bytes) (lines : List Bytes) : WriteOutcome → Option Bytes × Bool
  | .notOpened => (old, false)
  | .opened insertions closing =>
    let file := outputFile lines insertions
    (some (file.close closing), file.good)

-- the write fails after one byte, and is made again when the stream is closed
example : writeLines none [[97, 98]] (.opened [.failed 1 2] 2) = (some [97, 97, 98], false) := rfl

/-- Every file is written, whatever became of the others; the result says whether all streams were good. -/
def save (disk : Disk) (users : List User) (teams : List Team) (messages : List Message)
    (outcome : DataFile → WriteOutcome) (delimiter : UInt8 := 124) : Disk × Bool :=
  let serialized := serializeData users teams messages delimiter
  let written := fun file => writeLines (disk file) (serialized file) (outcome file)
  (fun file => (written file).1,
    [DataFile.users, .teams, .teamSubscriptions, .channels, .threads, .messages,
      .privateMessages].all fun file => (written file).2)

end TeamsMirror
