import TeamsMirror.Lib.Logging
import TeamsMirror.Server.System

/-!
# The log of the server

What the server reports to `libmyteams`: the handlers that report something once
more, with the calls where the source has them. A call that answers with a negative
number throws, and nothing catches what is thrown: the process ends on the spot.
-/

namespace TeamsMirror

open Lists Logging

/-- The calls of `libmyteams` that the server makes, with the texts it hands over. -/
inductive LogCall where
  | teamCreated (teamUuid teamName userUuid : Bytes)
  | channelCreated (teamUuid channelUuid channelName : Bytes)
  | threadCreated (channelUuid threadUuid userUuid threadTitle threadBody : Bytes)
  | replyCreated (threadUuid userUuid replyBody : Bytes)
  | userSubscribed (teamUuid userUuid : Bytes)
  | userUnsubscribed (teamUuid userUuid : Bytes)
  | userCreated (userUuid userName : Bytes)
  | userLoaded (userUuid userName : Bytes)
  | userLoggedIn (userUuid : Bytes)
  | userLoggedOut (userUuid : Bytes)
  | privateMessageSended (senderUuid receiverUuid messageBody : Bytes)
deriving DecidableEq

/-- What the library answers to a call, which may depend on the calls before. -/
abbrev LoggingServer := List LogCall → LogCall → Int

/-- Whether `ensureLibCallSucceeded` returns. -/
def LoggingServer.accepts (lib : LoggingServer) (journal : List LogCall) (call : LogCall) : Bool :=
  0 ≤ lib journal call

namespace ServerLogger

variable (lib : LoggingServer)

def call (c : LogCall) : Logged LogCall Unit := entry lib.accepts c

/-! The texts are handed over as C strings. -/

def logTeamCreated (teamUuid teamName userUuid : Bytes) : Logged LogCall Unit :=
  call lib (.teamCreated (beforeNul teamUuid) (beforeNul teamName) (beforeNul userUuid))

def logChannelCreated (teamUuid channelUuid channelName : Bytes) : Logged LogCall Unit :=
  call lib (.channelCreated (beforeNul teamUuid) (beforeNul channelUuid) (beforeNul channelName))

def logThreadCreated (channelUuid threadUuid userUuid threadTitle threadBody : Bytes) :
    Logged LogCall Unit :=
  call lib (.threadCreated (beforeNul channelUuid) (beforeNul threadUuid) (beforeNul userUuid)
    (beforeNul threadTitle) (beforeNul threadBody))

def logReplyCreated (threadUuid userUuid replyBody : Bytes) : Logged LogCall Unit :=
  call lib (.replyCreated (beforeNul threadUuid) (beforeNul userUuid) (beforeNul replyBody))

def logUserSubscribed (teamUuid userUuid : Bytes) : Logged LogCall Unit :=
  call lib (.userSubscribed (beforeNul teamUuid) (beforeNul userUuid))

def logUserUnsubscribed (teamUuid userUuid : Bytes) : Logged LogCall Unit :=
  call lib (.userUnsubscribed (beforeNul teamUuid) (beforeNul userUuid))

def logUserCreated (userUuid userName : Bytes) : Logged LogCall Unit :=
  call lib (.userCreated (beforeNul userUuid) (beforeNul userName))

def logUserLoaded (userUuid userName : Bytes) : Logged LogCall Unit :=
  call lib (.userLoaded (beforeNul userUuid) (beforeNul userName))

def logUserLoggedIn (userUuid : Bytes) : Logged LogCall Unit :=
  call lib (.userLoggedIn (beforeNul userUuid))

def logUserLoggedOut (userUuid : Bytes) : Logged LogCall Unit :=
  call lib (.userLoggedOut (beforeNul userUuid))

def logPrivateMessageSent (senderUuid receiverUuid messageBody : Bytes) : Logged LogCall Unit :=
  call lib (.privateMessageSended (beforeNul senderUuid) (beforeNul receiverUuid) (beforeNul messageBody))

end ServerLogger

namespace Logs

open ServerLogger

variable (lib : LoggingServer)

def completeLogin (context : CommandContext) (user : User) : Logged LogCall CommandContext := do
  let uuid := user.uuid.bytes
  let sessions := (context.authenticatedUsersByUUID.lookup uuid).getD []
  let context :=
    { context with
      authenticatedUsersByFd := context.authenticatedUsersByFd.insert context.clientFd uuid
      authenticatedUsersByUUID :=
        context.authenticatedUsersByUUID.insert uuid (sessions ++ [context.clientFd]) }
  logUserLoggedIn lib uuid
  let context := queueStatus context .ok
  let eventPacket := buildUserConnectionEventPacket .evtLoggedIn user.uuid.bytes user.name.bytes
  return queuePackets context
    (context.authenticatedUsersByFd.keys.map fun socketFd => (socketFd, eventPacket))

def handleLoginCommand (context : CommandContext) : Logged LogCall (Option CommandContext) :=
  if context.payloadSize ≠ sizeof PayloadReqLogin then return some (queueStatus context .badRequest)
  else if context.clientFd ∈ context.authenticatedUsersByFd then
    return some (queueStatus context .alreadyExist)
  else
    let payload : PayloadReqLogin := Packed.ofBytes context.payloadData
    match extractFixedString payload.userName.bytes with
    | none => return some (queueStatus context .badRequest)
    | some requestedUserName =>
      if requestedUserName = [] then return some (queueStatus context .badRequest)
      else
        match findUserByName context.users requestedUserName with
        | none =>
          match generateUnused context.environment fun uuid =>
              (findUserByUuid context.users uuid).isSome with
          | none => return none
          | some userUuid => do
            let user := User.new userUuid requestedUserName true
            logUserCreated lib user.uuid.bytes user.name.bytes
            let context ← completeLogin lib { context with users := context.users ++ [user] } user
            return some context
        | some user => do
          let users := modifyFirst (fun user => user.name.bytes = requestedUserName) User.addLoggedIn
            context.users
          let context ← completeLogin lib { context with users := users } user.addLoggedIn
          return some context

def handleLogoutCommand (context : CommandContext) : Logged LogCall CommandContext :=
  if context.payloadSize ≠ 0 then return queueStatus context .badRequest
  else
    match context.authenticatedUsersByFd.lookup context.clientFd with
    | none => return queueStatus context .unauthorized
    | some userUuid =>
      let user := findUserByUuid context.users userUuid
      let listSocket := (context.authenticatedUsersByUUID.lookup userUuid).getD []
      let context :=
        { context with
          authenticatedUsersByUUID := context.authenticatedUsersByUUID.insert userUuid
            (listSocket.filter fun socketFd => socketFd ≠ context.clientFd)
          authenticatedUsersByFd := context.authenticatedUsersByFd.erase context.clientFd }
      match user with
      | none => return queueStatus context .unauthorized
      | some resolvedUser => do
        let context :=
          { context with users := updateUser context.users userUuid User.removeLoggedIn }
        logUserLoggedOut lib resolvedUser.uuid.bytes
        let context := queueStatus context .ok
        let selfEventPacket := buildUserConnectionEventPacket .evtLoggedOut
          resolvedUser.uuid.bytes resolvedUser.name.bytes
        let context := queuePacket context context.clientFd selfEventPacket
        return broadcastLoggedOutEvent context resolvedUser

def handleClientDisconnection (context : CommandContext) : Logged LogCall CommandContext :=
  match context.authenticatedUsersByFd.lookup context.clientFd with
  | none => return context
  | some userUuid =>
    let user := findUserByUuid context.users userUuid
    let context :=
      { context with
        authenticatedUsersByFd := context.authenticatedUsersByFd.erase context.clientFd
        authenticatedUsersByUUID := context.authenticatedUsersByUUID.erase userUuid }
    match user with
    | none => return context
    | some resolvedUser => do
      let context :=
        { context with users := updateUser context.users userUuid User.removeLoggedIn }
      logUserLoggedOut lib resolvedUser.uuid.bytes
      return broadcastLoggedOutEvent context resolvedUser context.clientFd

def handleSubscribeCommand (context : CommandContext) : Logged LogCall CommandContext :=
  match getAuthenticatedUser context with
  | none => return queueStatus context .unauthorized
  | some resolvedUser =>
    match parseTeamUuidFromPayload context with
    | none => return queueStatus context .badRequest
    | some teamUuid =>
      match findTeamByUuid context.teams teamUuid with
      | none => return queueStatus context .notFound
      | some resolvedTeam =>
        if resolvedTeam.isUserSubscribed resolvedUser.uuid.bytes then return queueStatus context .ok
        else do
          let context :=
            { context with
              teams := updateTeam context.teams teamUuid fun team =>
                team.addSubscribedUser resolvedUser.uuid.bytes }
          logUserSubscribed lib resolvedTeam.uuid.bytes resolvedUser.uuid.bytes
          return queuePacket context context.clientFd ⟨.usersList, buildUserPayload resolvedUser⟩

def handleUnsubscribeCommand (context : CommandContext) : Logged LogCall CommandContext :=
  match getAuthenticatedUser context with
  | none => return queueStatus context .unauthorized
  | some resolvedUser =>
    match parseTeamUuidFromPayload context with
    | none => return queueStatus context .badRequest
    | some teamUuid =>
      match findTeamByUuid context.teams teamUuid with
      | none => return queueStatus context .notFound
      | some resolvedTeam =>
        let removed := (resolvedTeam.removeSubscribedUser resolvedUser.uuid.bytes).1
        let context :=
          { context with
            teams := updateTeam context.teams teamUuid fun team =>
              (team.removeSubscribedUser resolvedUser.uuid.bytes).2 }
        if ¬removed then return queueStatus context .ok
        else do
          logUserUnsubscribed lib resolvedTeam.uuid.bytes resolvedUser.uuid.bytes
          return queuePacket context context.clientFd ⟨.usersList, buildUserPayload resolvedUser⟩

def sendMessage (context : CommandContext) (msg : Message) : Logged LogCall CommandContext := do
  let (receivers, authenticatedUsersByUUID) :=
    UnorderedMap.getOrInsert msg.receiverUuid.bytes [] context.authenticatedUsersByUUID
  let context := { context with authenticatedUsersByUUID := authenticatedUsersByUUID }
  let payload : PayloadEvtPrivateMsg :=
    { senderUuid := .copyPadded _ msg.authorUuid.bytes, messageBody := .copyPadded _ msg.body.bytes }
  logPrivateMessageSent lib msg.authorUuid.bytes msg.receiverUuid.bytes msg.body.bytes
  return queuePackets context
    (receivers.map fun receiver => (receiver, ⟨.evtPrivateMsgRcvd, .evtPrivateMsg payload⟩))

def handleSendCommand (context : CommandContext) : Logged LogCall CommandContext :=
  if context.payloadSize ≠ sizeof PayloadReqSendMsg then return queueStatus context .badRequest
  else
    match context.authenticatedUsersByFd.lookup context.clientFd with
    | none => return queueStatus context .unauthorized
    | some clientUuid =>
      let payload : PayloadReqSendMsg := Packed.ofBytes context.payloadData
      match extractFixedString payload.messageBody.bytes,
          extractFixedString payload.targetUuid.bytes with
      | some body, some targetUUID =>
        if ¬isUuidFormatValid targetUUID || body = [] then return queueStatus context .badRequest
        else if context.users.any fun user => user.uuid.bytes = targetUUID then do
          let msg := Message.new (generateUuid context.environment.draw) clientUuid
            context.environment.now body targetUUID
          let context := { context with messages := context.messages ++ [msg] }
          let context ← sendMessage lib context msg
          return queueStatus context .ok
        else return queueStatus context .notFound
      | _, _ => return queueStatus context .badRequest

def handleCreateTeam (context : CommandContext) (authenticatedUser : User) :
    Logged LogCall (Option CommandContext) :=
  match parseCreateTeamPayload context with
  | none => return some (queueStatus context .badRequest)
  | some (teamName, teamDescription) =>
    if context.teams.any fun team => team.name.bytes = teamName then
      return some (queueStatus context .alreadyExist)
    else
      match generateUniqueTeamUuid context with
      | none => return none
      | some teamUuid => do
        let createdTeam := (Team.new teamUuid teamName teamDescription).addSubscribedUser
          authenticatedUser.uuid.bytes
        let context := { context with teams := context.teams ++ [createdTeam] }
        logTeamCreated lib createdTeam.uuid.bytes createdTeam.name.bytes authenticatedUser.uuid.bytes
        let context := queuePacket context context.clientFd ⟨.created, buildTeamPayload createdTeam⟩
        let eventPayload : PayloadEvtTeamCreated :=
          { teamUuid := .copyPadded _ createdTeam.uuid.bytes
            teamName := .copyPadded _ createdTeam.name.bytes
            teamDescription := .copyPadded _ createdTeam.description.bytes }
        return some (queuePacketToLogedUser context ⟨.evtTeamCreated, .evtTeamCreated eventPayload⟩)

def handleCreateChannel (context : CommandContext) (authenticatedUser : User) :
    Logged LogCall (Option CommandContext) :=
  match parseCreateChannelPayload context with
  | none => return some (queueStatus context .badRequest)
  | some (channelName, channelDescription) =>
    let teamUuid := context.contextTeamUuid
    match findTeamByUuid context.teams teamUuid with
    | none => return some (queueStatus context .notFound)
    | some resolvedTeam =>
      if ¬resolvedTeam.isUserSubscribed authenticatedUser.uuid.bytes then
        return some (queueStatus context .unauthorized)
      else if resolvedTeam.channels.any fun channel => channel.name.bytes = channelName then
        return some (queueStatus context .alreadyExist)
      else
        match generateUniqueChannelUuid context with
        | none => return none
        | some channelUuid => do
          let channel := Channel.new channelUuid channelName channelDescription
          let context :=
            { context with
              teams := updateTeam context.teams teamUuid fun team => team.addChannel channel }
          logChannelCreated lib resolvedTeam.uuid.bytes channelUuid channelName
          let createdPayload : PayloadRplChannel :=
            { channelUuid := .copyPadded _ channelUuid
              channelName := .copyPadded _ channelName
              channelDescription := .copyPadded _ channelDescription }
          let context := queuePacket context context.clientFd ⟨.created, .rplChannel createdPayload⟩
          let eventPayload : PayloadEvtChannelCreated :=
            { channelUuid := .copyPadded _ channelUuid
              channelName := .copyPadded _ channelName
              channelDescription := .copyPadded _ channelDescription }
          return some (queuePacketToTeamSubscribers context (resolvedTeam.addChannel channel)
            ⟨.evtChannelCreated, .evtChannelCreated eventPayload⟩)

def handleCreateThread (context : CommandContext) (authenticatedUser : User) :
    Logged LogCall (Option CommandContext) :=
  match parseCreateThreadPayload context with
  | none => return some (queueStatus context .badRequest)
  | some (threadTitle, threadBody) =>
    match resolveContextTeamChannel context authenticatedUser with
    | .error status => return some (queueStatus context status)
    | .ok (team, channel) =>
      if channel.threads.any fun thread => thread.title.bytes = threadTitle then
        return some (queueStatus context .alreadyExist)
      else
        match generateUniqueThreadUuid context with
        | none => return none
        | some threadUuid => do
          let now := context.environment.now
          let thread := Thread.new threadUuid authenticatedUser.uuid.bytes now threadTitle threadBody
          let context :=
            { context with
              teams := updateTeam context.teams team.uuid.bytes fun team =>
                updateChannel team channel.uuid.bytes fun channel => channel.addThread thread }
          logThreadCreated lib channel.uuid.bytes threadUuid authenticatedUser.uuid.bytes threadTitle
            threadBody
          let createdPayload : PayloadRplThread :=
            { threadUuid := .copyPadded _ threadUuid
              userUuid := .copyPadded _ authenticatedUser.uuid.bytes
              threadTimestamp := now.toUInt64
              threadTitle := .copyPadded _ threadTitle
              threadBody := .copyPadded _ threadBody }
          let context := queuePacket context context.clientFd ⟨.created, .rplThread createdPayload⟩
          let eventPayload : PayloadEvtThreadCreated :=
            { threadUuid := .copyPadded _ threadUuid
              userUuid := .copyPadded _ authenticatedUser.uuid.bytes
              threadTimestamp := now.toUInt64
              threadTitle := .copyPadded _ threadTitle
              threadBody := .copyPadded _ threadBody }
          return some (queuePacketToTeamSubscribers context team
            ⟨.evtThreadCreated, .evtThreadCreated eventPayload⟩)

def handleCreateReply (context : CommandContext) (authenticatedUser : User) :
    Logged LogCall CommandContext :=
  match parseCreateReplyPayload context with
  | none => return queueStatus context .badRequest
  | some replyBody =>
    match resolveContextTeamChannel context authenticatedUser with
    | .error status => return queueStatus context status
    | .ok (team, channel) =>
      match findThreadByUuid channel context.contextThreadUuid with
      | none => return queueStatus context .notFound
      | some resolvedThread => do
        let now := context.environment.now
        let reply := Message.new (generateUuid context.environment.draw) authenticatedUser.uuid.bytes
          now replyBody
        let context :=
          { context with
            teams := updateTeam context.teams team.uuid.bytes fun team =>
              updateChannel team channel.uuid.bytes fun channel =>
                updateThread channel resolvedThread.uuid.bytes fun thread => thread.addReply reply }
        logReplyCreated lib resolvedThread.uuid.bytes authenticatedUser.uuid.bytes replyBody
        let createdPayload : PayloadRplReply :=
          { threadUuid := .copyPadded _ resolvedThread.uuid.bytes
            userUuid := .copyPadded _ authenticatedUser.uuid.bytes
            replyTimestamp := now.toUInt64
            replyBody := .copyPadded _ replyBody }
        let context := queuePacket context context.clientFd ⟨.created, .rplReply createdPayload⟩
        let eventPayload : PayloadEvtReplyCreated :=
          { teamUuid := .copyPadded _ team.uuid.bytes
            threadUuid := .copyPadded _ resolvedThread.uuid.bytes
            userUuid := .copyPadded _ authenticatedUser.uuid.bytes
            replyBody := .copyPadded _ replyBody }
        return queuePacketToTeamSubscribers context team ⟨.evtReplyCreated, .evtReplyCreated eventPayload⟩

def handleCreateCommand (context : CommandContext) : Logged LogCall (Option CommandContext) :=
  match getAuthenticatedUser context with
  | none => return some (queueStatus context .unauthorized)
  | some resolvedUser =>
    let hasTeam := context.contextTeamUuid ≠ []
    let hasChannel := context.contextChannelUuid ≠ []
    let hasThread := context.contextThreadUuid ≠ []
    if ¬hasTeam ∧ (hasChannel ∨ hasThread) then return some (queueStatus context .badRequest)
    else if ¬hasChannel ∧ hasThread then return some (queueStatus context .badRequest)
    else if ¬hasTeam then handleCreateTeam lib context resolvedUser
    else if ¬hasChannel then handleCreateChannel lib context resolvedUser
    else if ¬hasThread then handleCreateThread lib context resolvedUser
    else return some (← handleCreateReply lib context resolvedUser)

/-- The table; the handlers without calls are those of the plain table. -/
def commandHandlers : List (UInt16 × (CommandContext → Logged LogCall (Option CommandContext))) :=
  [(CommandID.login.code, handleLoginCommand lib),
    (CommandID.users.code, fun context => return some (handleUsersCommand context)),
    (CommandID.userInfo.code, fun context => return some (handleUserCommand context)),
    (CommandID.info.code, fun context => return some (handleInfoCommand context)),
    (CommandID.logout.code, fun context => return some (← handleLogoutCommand lib context)),
    (CommandID.use.code, fun context => return some (handleUseCommand context)),
    (CommandID.create.code, handleCreateCommand lib),
    (CommandID.list.code, fun context => return some (handleListCommand context)),
    (CommandID.subscribe.code, fun context => return some (← handleSubscribeCommand lib context)),
    (CommandID.unsubscribe.code, fun context => return some (← handleUnsubscribeCommand lib context)),
    (CommandID.subscribedList.code, fun context => return some (handleSubscribedListCommand context)),
    (CommandID.messages.code, fun context => return some (handleMessagesCommand context)),
    (CommandID.send.code, fun context => return some (← handleSendCommand lib context))]

def dispatchCommand (context : CommandContext) (commandCode : UInt16) :
    Logged LogCall (Option CommandContext) :=
  match (commandHandlers lib).find? fun entry => entry.1 = commandCode with
  | none => return some (queueStatus context .badRequest)
  | some entry => entry.2 context

/-- A step of the server, with the calls it makes. -/
def handle (s : Server) : Event → Logged LogCall (Option (Server × List (Fd × Packet)))
  | .accept fd => return s.handle (.accept fd)
  | .receive fd chunk => return s.handle (.receive fd chunk)
  | .dispatch fd environment =>
    if fd ∈ s.clientSockets then
      match peekPacket (s.clientManager.getIncomingBuffer fd) with
      | none => return none
      | some (header, payload) => do
        let context ← dispatchCommand lib (s.context fd payload environment) header.code
        let packetSize := sizeof PacketHeader + header.payloadSize.toNat
        return context.map fun context =>
          ({ context.toServer with
              clientManager := context.clientManager.consumeIncomingBuffer fd packetSize },
            context.queued)
    else return none
  | .flush fd bytesSent => return s.handle (.flush fd bytesSent)
  | .disconnect fd =>
    if fd ∈ s.clientSockets then do
      let context ← handleClientDisconnection lib (s.context fd [] default)
      return some (s.removed context fd, context.queued)
    else return none

/-- The loop of `runPollLoop` over the users loaded. -/
def loadUsers (users : List User) : Logged LogCall Unit :=
  users.forM fun user => logUserLoaded lib user.uuid.bytes user.name.bytes

def logoutUsers (users : UnorderedMap Fd Bytes) : Logged LogCall Unit :=
  users.entries.forM fun user => logUserLoggedOut lib user.2

end Logs

end TeamsMirror
