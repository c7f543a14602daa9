import Mathlib.Data.Finset.Insert
import TeamsMirror.Common.Uuid
import TeamsMirror.Lib.Lists
import TeamsMirror.Server.ClientManager

/-!
# Server state and command utilities

The state that `runPollLoop` owns, what a command handler is given, and the
helpers that the handlers share. Handlers keep, next to the state, the list of
packets that they queued and for whom.
-/

namespace TeamsMirror

open Lists

structure Server where
  listenFd : Fd
  clientManager : ClientManager
  users : List User
  teams : List Team
  messages : List Message
  /-- The keys of `clientSockets`. -/
  clientSockets : Finset Fd
  authenticatedUsersByFd : UnorderedMap Fd Bytes
  authenticatedUsersByUUID : UnorderedMap Bytes (List Fd)

/-- `std::sort` by creation time: some permutation in order, messages of one second in any order. -/
structure Sorter where
  sort : List Message → List Message
  perm : ∀ messages, (sort messages).Perm messages
  sorted : ∀ messages, (sort messages).Pairwise fun a b => a.createdAt ≤ b.createdAt

/-- What one command observes of the outside: the digits of the uuid it draws first and of
those drawn after a collision, the clock, and the order of equal timestamps. -/
structure Environment where
  draw : Nat → Fin 16
  redraws : List (Nat → Fin 16)
  now : Int64
  sorter : Sorter

structure CommandContext extends Server where
  clientFd : Fd
  payloadData : Bytes
  environment : Environment
  /-- The packets queued so far by this command, in order. -/
  queued : List (Fd × Packet)

def CommandContext.payloadSize (context : CommandContext) : Nat := context.payloadData.length

def queuePacket (context : CommandContext) (clientFd : Fd) (packet : Packet) : CommandContext :=
  { context with
    clientManager := context.clientManager.queueDataToSend clientFd packet.bytes
    queued := context.queued ++ [(clientFd, packet)] }

def queueStatus (context : CommandContext) (status : StatusCode) : CommandContext :=
  queuePacket context context.clientFd (.ofStatus status)

/-- A loop that queues one packet for each element. -/
def queuePackets (context : CommandContext) (packets : List (Fd × Packet)) : CommandContext :=
  packets.foldl (fun context q => queuePacket context q.1 q.2) context

def hexDigit (d : Fin 16) : UInt8 := if d < 10 then UInt8.ofNat (48 + d) else UInt8.ofNat (87 + d)

def generateUuid (draw : Nat → Fin 16) : Bytes :=
  (List.range (uuidLength - 1)).map fun index =>
    if isHyphenIndex index then 45 else hexDigit (draw index)

/-- Draw until the uuid is unused; `none` when none of the environment's draws is. -/
def generateUnused (environment : Environment) (used : Bytes → Bool) : Option Bytes :=
  ((environment.draw :: environment.redraws).map generateUuid).find? fun uuid => !used uuid

def findUserByName (users : List User) (userName : Bytes) : Option User :=
  users.find? fun user => user.name.bytes = userName

def findUserByUuid (users : List User) (userUuid : Bytes) : Option User :=
  users.find? fun user => user.uuid.bytes = userUuid

def findTeamByUuid (teams : List Team) (teamUuid : Bytes) : Option Team :=
  teams.find? fun team => team.uuid.bytes = teamUuid

def findChannelByUuid (team : Team) (channelUuid : Bytes) : Option Channel :=
  team.channels.find? fun channel => channel.uuid.bytes = channelUuid

def findThreadByUuid (channel : Channel) (threadUuid : Bytes) : Option Thread :=
  channel.threads.find? fun thread => thread.uuid.bytes = threadUuid

def getAuthenticatedUser (context : CommandContext) : Option User :=
  (context.authenticatedUsersByFd.lookup context.clientFd).bind (findUserByUuid context.users)

/-- Write through the reference that `findUserByUuid` returned. -/
def updateUser (users : List User) (userUuid : Bytes) (f : User → User) : List User :=
  modifyFirst (fun user => user.uuid.bytes = userUuid) f users

/-- Write through the reference that `findTeamByUuid` returned. -/
def updateTeam (teams : List Team) (teamUuid : Bytes) (f : Team → Team) : List Team :=
  modifyFirst (fun team => team.uuid.bytes = teamUuid) f teams

def updateChannel (team : Team) (channelUuid : Bytes) (f : Channel → Channel) : Team :=
  { team with channels := modifyFirst (fun channel => channel.uuid.bytes = channelUuid) f team.channels }

def updateThread (channel : Channel) (threadUuid : Bytes) (f : Thread → Thread) : Channel :=
  { channel with threads := modifyFirst (fun thread => thread.uuid.bytes = threadUuid) f channel.threads }

def isContextCombinationValid (teamUuid channelUuid threadUuid : Bytes) : Bool :=
  if teamUuid = [] && (channelUuid ≠ [] || threadUuid ≠ []) then false
  else if channelUuid = [] && threadUuid ≠ [] then false
  else true

def CommandContext.contextTeamUuid (context : CommandContext) : Bytes :=
  context.clientManager.getContextTeamUuid context.clientFd

def CommandContext.contextChannelUuid (context : CommandContext) : Bytes :=
  context.clientManager.getContextChannelUuid context.clientFd

def CommandContext.contextThreadUuid (context : CommandContext) : Bytes :=
  context.clientManager.getContextThreadUuid context.clientFd

/-- The `buildUserPayload` and `queueUserInfo` copies of one conversion. -/
def buildUserPayload (user : User) : Payload :=
  .rplUser
    { userUuid := .copyPadded _ user.uuid.bytes
      userName := .copyPadded _ user.name.bytes
      userStatus := if user.isLoggedIn then 1 else 0 }

def buildTeamPayload (team : Team) : Payload :=
  .rplTeam
    { teamUuid := .copyPadded _ team.uuid.bytes
      teamName := .copyPadded _ team.name.bytes
      teamDescription := .copyPadded _ team.description.bytes }

def buildChannelPayload (channel : Channel) : Payload :=
  .rplChannel
    { channelUuid := .copyPadded _ channel.uuid.bytes
      channelName := .copyPadded _ channel.name.bytes
      channelDescription := .copyPadded _ channel.description.bytes }

def buildThreadPayload (thread : Thread) : Payload :=
  .rplThread
    { threadUuid := .copyPadded _ thread.uuid.bytes
      userUuid := .copyPadded _ thread.authorUuid.bytes
      threadTimestamp := thread.createdAt.toUInt64
      threadTitle := .copyPadded _ thread.title.bytes
      threadBody := .copyPadded _ thread.body.bytes }

def buildReplyPayload (thread : Thread) (reply : Message) : Payload :=
  .rplReply
    { threadUuid := .copyPadded _ thread.uuid.bytes
      userUuid := .copyPadded _ reply.authorUuid.bytes
      replyTimestamp := reply.createdAt.toUInt64
      replyBody := .copyPadded _ reply.body.bytes }

def buildMessagePayload (message : Message) : Payload :=
  .rplMessage
    { senderUuid := .copyPadded _ message.authorUuid.bytes
      messageTimestamp := message.createdAt.toUInt64
      messageBody := .copyPadded _ message.body.bytes }

def buildUserConnectionEventPacket (eventCode : StatusCode) (userUuid userName : Bytes) : Packet :=
  ⟨eventCode, .evtUserConnection
    { userUuid := .copyPadded _ userUuid, userName := .copyPadded _ userName }⟩

end TeamsMirror
