import TeamsMirror.Server.CommandUtils

/-!
# Create

One command creates a team, a channel, a thread or a reply, as the context of
the connection decides; the payload is read as the request of that kind.
-/

namespace TeamsMirror

def isChannelUuidUsed (teams : List Team) (channelUuid : Bytes) : Bool :=
  teams.any fun team => team.channels.any fun channel => channel.uuid.bytes = channelUuid

def isThreadUuidUsed (teams : List Team) (threadUuid : Bytes) : Bool :=
  teams.any fun team => team.channels.any fun channel => channel.threads.any fun thread =>
    thread.uuid.bytes = threadUuid

def generateUniqueTeamUuid (context : CommandContext) : Option Bytes :=
  generateUnused context.environment fun candidate => (findTeamByUuid context.teams candidate).isSome

def generateUniqueChannelUuid (context : CommandContext) : Option Bytes :=
  generateUnused context.environment (isChannelUuidUsed context.teams)

def generateUniqueThreadUuid (context : CommandContext) : Option Bytes :=
  generateUnused context.environment (isThreadUuidUsed context.teams)

def parseCreateTeamPayload (context : CommandContext) : Option (Bytes × Bytes) :=
  if context.payloadSize ≠ sizeof PayloadReqCreateTeam then none
  else do
    let payload : PayloadReqCreateTeam := Packed.ofBytes context.payloadData
    let name ← extractFixedString payload.teamName.bytes
    let description ← extractFixedString payload.teamDescription.bytes
    if name = [] then none else some (name, description)

def parseCreateChannelPayload (context : CommandContext) : Option (Bytes × Bytes) :=
  if context.payloadSize ≠ sizeof PayloadReqCreateChannel then none
  else do
    let payload : PayloadReqCreateChannel := Packed.ofBytes context.payloadData
    let name ← extractFixedString payload.channelName.bytes
    let description ← extractFixedString payload.channelDescription.bytes
    if name = [] then none else some (name, description)

def parseCreateThreadPayload (context : CommandContext) : Option (Bytes × Bytes) :=
  if context.payloadSize ≠ sizeof PayloadReqCreateThread then none
  else do
    let payload : PayloadReqCreateThread := Packed.ofBytes context.payloadData
    let title ← extractFixedString payload.threadTitle.bytes
    let body ← extractFixedString payload.threadBody.bytes
    if title = [] || body = [] then none else some (title, body)

def parseCreateReplyPayload (context : CommandContext) : Option Bytes :=
  if context.payloadSize ≠ sizeof PayloadReqCreateReply then none
  else do
    let payload : PayloadReqCreateReply := Packed.ofBytes context.payloadData
    let body ← extractFixedString payload.replyBody.bytes
    if body = [] then none else some body

/-- Queue a packet for every connection of a subscriber of the team. -/
def queuePacketToTeamSubscribers (context : CommandContext) (team : Team) (packet : Packet) :
    CommandContext :=
  queuePackets context
    ((context.authenticatedUsersByFd.entries.filter fun entry => team.isUserSubscribed entry.2).map
      fun entry => (entry.1, packet))

def queuePacketToLogedUser (context : CommandContext) (packet : Packet) : CommandContext :=
  queuePackets context (context.authenticatedUsersByFd.keys.map fun socketFd => (socketFd, packet))

def handleCreateTeam (context : CommandContext) (authenticatedUser : User) : Option CommandContext :=
  match parseCreateTeamPayload context with
  | none => some (queueStatus context .badRequest)
  | some (teamName, teamDescription) =>
    if context.teams.any fun team => team.name.bytes = teamName then
      some (queueStatus context .alreadyExist)
    else do
      let teamUuid ← generateUniqueTeamUuid context
      let createdTeam := (Team.new teamUuid teamName teamDescription).addSubscribedUser
        authenticatedUser.uuid.bytes
      let context := { context with teams := context.teams ++ [createdTeam] }
      let context := queuePacket context context.clientFd ⟨.created, buildTeamPayload createdTeam⟩
      let eventPayload : PayloadEvtTeamCreated :=
        { teamUuid := .copyPadded _ createdTeam.uuid.bytes
          teamName := .copyPadded _ createdTeam.name.bytes
          teamDescription := .copyPadded _ createdTeam.description.bytes }
      some (queuePacketToLogedUser context ⟨.evtTeamCreated, .evtTeamCreated eventPayload⟩)

/-- The team and channel of the context, or the status to answer. -/
def resolveContextTeamChannel (context : CommandContext) (authenticatedUser : User) :
    Except StatusCode (Team × Channel) :=
  match findTeamByUuid context.teams context.contextTeamUuid with
  | none => .error .notFound
  | some team =>
    if ¬team.isUserSubscribed authenticatedUser.uuid.bytes then .error .unauthorized
    else
      match findChannelByUuid team context.contextChannelUuid with
      | none => .error .notFound
      | some channel => .ok (team, channel)

def handleCreateChannel (context : CommandContext) (authenticatedUser : User) : Option CommandContext :=
  match parseCreateChannelPayload context with
  | none => some (queueStatus context .badRequest)
  | some (channelName, channelDescription) =>
    let teamUuid := context.contextTeamUuid
    match findTeamByUuid context.teams teamUuid with
    | none => some (queueStatus context .notFound)
    | some resolvedTeam =>
      if ¬resolvedTeam.isUserSubscribed authenticatedUser.uuid.bytes then
        some (queueStatus context .unauthorized)
      else if resolvedTeam.channels.any fun channel => channel.name.bytes = channelName then
        some (queueStatus context .alreadyExist)
      else do
        let channelUuid ← generateUniqueChannelUuid context
        let channel := Channel.new channelUuid channelName channelDescription
        let context :=
          { context with
            teams := updateTeam context.teams teamUuid fun team => team.addChannel channel }
        let createdPayload : PayloadRplChannel :=
          { channelUuid := .copyPadded _ channelUuid
            channelName := .copyPadded _ channelName
            channelDescription := .copyPadded _ channelDescription }
        let context := queuePacket context context.clientFd ⟨.created, .rplChannel createdPayload⟩
        let eventPayload : PayloadEvtChannelCreated :=
          { channelUuid := .copyPadded _ channelUuid
            channelName := .copyPadded _ channelName
            channelDescription := .copyPadded _ channelDescription }
        some (queuePacketToTeamSubscribers context (resolvedTeam.addChannel channel)
          ⟨.evtChannelCreated, .evtChannelCreated eventPayload⟩)

def handleCreateThread (context : CommandContext) (authenticatedUser : User) : Option CommandContext :=
  match parseCreateThreadPayload context with
  | none => some (queueStatus context .badRequest)
  | some (threadTitle, threadBody) =>
    match resolveContextTeamChannel context authenticatedUser with
    | .error status => some (queueStatus context status)
    | .ok (team, channel) =>
      if channel.threads.any fun thread => thread.title.bytes = threadTitle then
        some (queueStatus context .alreadyExist)
      else do
        let threadUuid ← generateUniqueThreadUuid context
        let now := context.environment.now
        let thread := Thread.new threadUuid authenticatedUser.uuid.bytes now threadTitle threadBody
        let context :=
          { context with
            teams := updateTeam context.teams team.uuid.bytes fun team =>
              updateChannel team channel.uuid.bytes fun channel => channel.addThread thread }
        let createdPayload : PayloadRplThread :=
          { threadUuid := .copyPadded _ threadUuid
            userUuid := .copyPadded _ authenticatedUser.uuid.bytes
            threadTimestamp := now.toUInt64
            threadTitle := .copyPadded _ threadTitle
            threadBody := .copyPadded _ threadBody }
        let context := queuePacket context context.clientFd ⟨.created, .rplThread createdPayload⟩
        let eventPayload : PayloadEvtThreadCreated :=
          { threadUuid := .copyPadded _ threadUuid
            userUuid := .copyPadded _ authenticatedUser.uuid.bytes
            threadTimestamp := now.toUInt64
            threadTitle := .copyPadded _ threadTitle
            threadBody := .copyPadded _ threadBody }
        some (queuePacketToTeamSubscribers context team
          ⟨.evtThreadCreated, .evtThreadCreated eventPayload⟩)

def handleCreateReply (context : CommandContext) (authenticatedUser : User) : CommandContext :=
  match parseCreateReplyPayload context with
  | none => queueStatus context .badRequest
  | some replyBody =>
    match resolveContextTeamChannel context authenticatedUser with
    | .error status => queueStatus context status
    | .ok (team, channel) =>
      match findThreadByUuid channel context.contextThreadUuid with
      | none => queueStatus context .notFound
      | some resolvedThread =>
        let now := context.environment.now
        let reply := Message.new (generateUuid context.environment.draw) authenticatedUser.uuid.bytes
          now replyBody
        let context :=
          { context with
            teams := updateTeam context.teams team.uuid.bytes fun team =>
              updateChannel team channel.uuid.bytes fun channel =>
                updateThread channel resolvedThread.uuid.bytes fun thread => thread.addReply reply }
        let createdPayload : PayloadRplReply :=
          { threadUuid := .copyPadded _ resolvedThread.uuid.bytes
            userUuid := .copyPadded _ authenticatedUser.uuid.bytes
            replyTimestamp := now.toUInt64
            replyBody := .copyPadded _ replyBody }
        let context := queuePacket context context.clientFd ⟨.created, .rplReply createdPayload⟩
        let eventPayload : PayloadEvtReplyCreated :=
          { teamUuid := .copyPadded _ team.uuid.bytes
            threadUuid := .copyPadded _ resolvedThread.uuid.bytes
            userUuid := .copyPadded _ authenticatedUser.uuid.bytes
            replyBody := .copyPadded _ replyBody }
        queuePacketToTeamSubscribers context team ⟨.evtReplyCreated, .evtReplyCreated eventPayload⟩

def handleCreateCommand (context : CommandContext) : Option CommandContext :=
  match getAuthenticatedUser context with
  | none => some (queueStatus context .unauthorized)
  | some resolvedUser =>
    let hasTeam := context.contextTeamUuid ≠ []
    let hasChannel := context.contextChannelUuid ≠ []
    let hasThread := context.contextThreadUuid ≠ []
    if ¬hasTeam ∧ (hasChannel ∨ hasThread) then some (queueStatus context .badRequest)
    else if ¬hasChannel ∧ hasThread then some (queueStatus context .badRequest)
    else if ¬hasTeam then handleCreateTeam context resolvedUser
    else if ¬hasChannel then handleCreateChannel context resolvedUser
    else if ¬hasThread then handleCreateThread context resolvedUser
    else some (handleCreateReply context resolvedUser)

end TeamsMirror
