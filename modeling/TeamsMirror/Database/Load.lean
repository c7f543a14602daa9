import TeamsMirror.Database.Save
import TeamsMirror.Server.CommandUtils

/-!
# Loading

`DatabaseLoader` reads the seven files and rebuilds the forest through three
indexes, from a uuid to the position of the team, channel or thread that has it.
A line that is malformed, repeats a uuid or names an unknown parent is skipped.
-/

namespace TeamsMirror

open Numerals

/-- The loop variables of `splitEscapedLine`. -/
structure Splitter where
  fields : List Bytes
  currentField : Bytes
  escaping : Bool

def unescapeCharacter (character : UInt8) : UInt8 :=
  if character = 110 then 10 else if character = 114 then 13 else character

def Splitter.step (delimiter : UInt8) (s : Splitter) (character : UInt8) : Splitter :=
  if s.escaping then
    { s with currentField := s.currentField ++ [unescapeCharacter character], escaping := false }
  else if character = 92 then { s with escaping := true }
  else if character = delimiter then { s with fields := s.fields ++ [s.currentField], currentField := [] }
  else { s with currentField := s.currentField ++ [character] }

def splitEscapedLine (line : Bytes) (delimiter : UInt8) : List Bytes :=
  let s := line.foldl (Splitter.step delimiter) ⟨[], [], false⟩
  s.fields ++ [if s.escaping then s.currentField ++ [92] else s.currentField]

def parseTimeValue (field : Bytes) : Option Int64 :=
  match stoll field with
  | some (parsedTime, consumed) => if consumed = field.length then some (Int64.ofInt parsedTime) else none
  | none => none

/-- `1`, `true`, `TRUE` and `True`. -/
def parseBoolValue (field : Bytes) : Bool :=
  field ∈ [[49], [116, 114, 117, 101], [84, 82, 85, 69], [84, 114, 117, 101]]

structure RecordFormat where
  expectedFieldCount : Nat
  requireFirstField : Bool
  requireSecondField : Bool

def recordFormat : DataFile → RecordFormat
  | .users => ⟨3, false, false⟩
  | .teams => ⟨3, true, false⟩
  | .teamSubscriptions => ⟨2, true, true⟩
  | .channels => ⟨4, true, true⟩
  | .threads => ⟨6, true, true⟩
  | .messages => ⟨5, true, true⟩
  | .privateMessages => ⟨5, true, true⟩

/-- `none` for a malformed line. -/
def parseRecord (line : Bytes) (format : RecordFormat) (delimiter : UInt8) : Option (List Bytes) :=
  let fields := splitEscapedLine line delimiter
  if fields.length ≠ format.expectedFieldCount then none
  else if format.requireFirstField && fields.getD 0 [] = [] then none
  else if format.requireSecondField && fields.getD 1 [] = [] then none
  else some fields

/-- The records that a loader does not skip as empty or malformed. -/
def parseLines (lines : List Bytes) (file : DataFile) (delimiter : UInt8) : List (List Bytes) :=
  lines.filterMap fun line => if line = [] then none else parseRecord line (recordFormat file) delimiter

def readTextFile (content : Option Bytes) : List Bytes :=
  match content with
  | none => []
  | some content => Lines.lines 10 content

structure LoadedThread where
  thread : Thread
  replies : List Message

structure LoadedChannel where
  channel : Channel
  threads : List LoadedThread

structure LoadedTeam where
  team : Team
  subscribedUsers : List Bytes
  channels : List LoadedChannel

structure ChannelPosition where
  teamIndex : Nat
  channelIndex : Nat
deriving DecidableEq

structure ThreadPosition where
  teamIndex : Nat
  channelIndex : Nat
  threadIndex : Nat
deriving DecidableEq

abbrev TeamIndexes := UnorderedMap Bytes Nat

abbrev ChannelIndexes := UnorderedMap Bytes ChannelPosition

abbrev ThreadIndexes := UnorderedMap Bytes ThreadPosition

/-- What the loading functions share. -/
structure Loading where
  loadedTeams : List LoadedTeam
  teamIndexes : TeamIndexes
  channelIndexes : ChannelIndexes
  threadIndexes : ThreadIndexes

def Loading.start : Loading := ⟨[], ∅, ∅, ∅⟩

def LoadedTeam.atChannel (t : LoadedTeam) (channelIndex : Nat) (f : LoadedChannel → LoadedChannel) :
    LoadedTeam :=
  { t with channels := t.channels.modify channelIndex f }

def LoadedChannel.atThread (c : LoadedChannel) (threadIndex : Nat) (f : LoadedThread → LoadedThread) :
    LoadedChannel :=
  { c with threads := c.threads.modify threadIndex f }

def loadUser (fields : List Bytes) : Option User :=
  match fields with
  | [uuid, name, isLoggedIn] => some (.new uuid name (parseBoolValue isLoggedIn))
  | _ => none

def loadPrivateMessage (fields : List Bytes) : Option Message :=
  match fields with
  | [uuid, authorUuid, createdAt, body, receiverUuid] =>
    (parseTimeValue createdAt).map fun createdAt => .new uuid authorUuid createdAt body receiverUuid
  | _ => none

def loadTeam (s : Loading) (fields : List Bytes) : Loading :=
  match fields with
  | [uuid, name, description] =>
    if uuid ∈ s.teamIndexes then s
    else
      { s with
        loadedTeams := s.loadedTeams ++ [⟨.new uuid name description, [], []⟩]
        teamIndexes := s.teamIndexes.emplace uuid s.loadedTeams.length }
  | _ => s

def loadTeamSubscription (s : Loading) (fields : List Bytes) : Loading :=
  match fields with
  | [teamUuid, userUuid] =>
    match s.teamIndexes.lookup teamUuid with
    | none => s
    | some teamIndex =>
      { s with
        loadedTeams := s.loadedTeams.modify teamIndex fun team =>
          { team with subscribedUsers := team.subscribedUsers ++ [userUuid] } }
  | _ => s

def loadChannel (s : Loading) (fields : List Bytes) : Loading :=
  match fields with
  | [teamUuid, uuid, name, description] =>
    if uuid ∈ s.channelIndexes then s
    else
      match s.teamIndexes.lookup teamUuid with
      | none => s
      | some teamIndex =>
        let channelIndex := (s.loadedTeams[teamIndex]?.map fun team => team.channels.length).getD 0
        { s with
          loadedTeams := s.loadedTeams.modify teamIndex fun team =>
            { team with channels := team.channels ++ [⟨.new uuid name description, []⟩] }
          channelIndexes := s.channelIndexes.emplace uuid ⟨teamIndex, channelIndex⟩ }
  | _ => s

def loadThread (s : Loading) (fields : List Bytes) : Loading :=
  match fields with
  | [channelUuid, uuid, authorUuid, createdAt, title, body] =>
    if uuid ∈ s.threadIndexes then s
    else
      match parseTimeValue createdAt, s.channelIndexes.lookup channelUuid with
      | some createdAt, some ⟨teamIndex, channelIndex⟩ =>
        let channel := s.loadedTeams[teamIndex]?.bind fun team => team.channels[channelIndex]?
        let threadIndex := (channel.map fun channel => channel.threads.length).getD 0
        { s with
          loadedTeams := s.loadedTeams.modify teamIndex fun team =>
            team.atChannel channelIndex fun channel =>
              { channel with threads := channel.threads ++ [⟨.new uuid authorUuid createdAt title body, []⟩] }
          threadIndexes := s.threadIndexes.emplace uuid ⟨teamIndex, channelIndex, threadIndex⟩ }
      | _, _ => s
  | _ => s

def loadMessage (s : Loading) (fields : List Bytes) : Loading :=
  match fields with
  | [threadUuid, uuid, authorUuid, createdAt, body] =>
    match parseTimeValue createdAt, s.threadIndexes.lookup threadUuid with
    | some createdAt, some ⟨teamIndex, channelIndex, threadIndex⟩ =>
      { s with
        loadedTeams := s.loadedTeams.modify teamIndex fun team =>
          team.atChannel channelIndex fun channel =>
            channel.atThread threadIndex fun thread =>
              { thread with replies := thread.replies ++ [.new uuid authorUuid createdAt body] } }
    | _, _ => s
  | _ => s

def materializeThread (t : LoadedThread) : Thread := t.replies.foldl Thread.addReply t.thread

def materializeChannel (c : LoadedChannel) : Channel :=
  c.threads.foldl (fun channel thread => channel.addThread (materializeThread thread)) c.channel

def materializeTeam (t : LoadedTeam) : Team :=
  t.channels.foldl (fun team channel => team.addChannel (materializeChannel channel))
    (t.subscribedUsers.foldl Team.addSubscribedUser t.team)

def materializeTeams (loadedTeams : List LoadedTeam) : List Team := loadedTeams.map materializeTeam

/-- The loading of the forest, one file after the other. -/
def loadTeams (parsed : DataFile → List (List Bytes)) : Loading :=
  let s := (parsed .teams).foldl loadTeam .start
  let s := (parsed .teamSubscriptions).foldl loadTeamSubscription s
  let s := (parsed .channels).foldl loadChannel s
  let s := (parsed .threads).foldl loadThread s
  (parsed .messages).foldl loadMessage s

/-- What `runPollLoop` loads its vectors from. -/
structure Database where
  users : List User
  teams : List Team
  messages : List Message

/-- `DatabaseLoader::load` into vectors that hold `messages`; users and teams are cleared. -/
def load (disk : Disk) (messages : List Message := []) (delimiter : UInt8 := 124) : Bool × Database :=
  let parsed := fun file => parseLines (readTextFile (disk file)) file delimiter
  let hasSavedData := [DataFile.users, .teams, .teamSubscriptions, .channels, .threads, .messages,
    .privateMessages].any fun file => (disk file).isSome
  if !hasSavedData then (false, ⟨[], [], messages⟩)
  else
    (true,
      { users := (parsed .users).filterMap loadUser
        teams := materializeTeams (loadTeams parsed).loadedTeams
        messages := messages ++ (parsed .privateMessages).filterMap loadPrivateMessage })

end TeamsMirror
