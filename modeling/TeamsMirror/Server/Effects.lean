import TeamsMirror.Server.Create
import TeamsMirror.Server.Navigation
import TeamsMirror.Server.PrivateMessages
import TeamsMirror.Server.Session
import TeamsMirror.Server.Subscriptions

/-!
# What a command does

Every handler changes the server first and queues packets afterwards. `Effect`
lists, for each command, the changed server and the packets, one constructor for
each way in which a handler can end; one lemma for each handler states that it
ends in one of them. Everything proved about commands is proved about `Effect`.
-/

namespace TeamsMirror

open Lists

/-- Append packets, in order, to the outgoing buffers of their recipients. -/
def ClientManager.sendAll (m : ClientManager) (packets : List (Fd × Packet)) : ClientManager :=
  packets.foldl (fun m q => m.queueDataToSend q.1 q.2.bytes) m

/-- What a list of packets adds to the outgoing buffer of one connection. -/
def bytesFor (fd : Fd) (packets : List (Fd × Packet)) : Bytes :=
  (packets.filter fun q => q.1 = fd).flatMap fun q => q.2.bytes

/-- Queueing touches outgoing buffers only, each by what is meant for its connection. -/
theorem ClientManager.lookup_sendAll (m : ClientManager) (packets : List (Fd × Packet)) (fd : Fd) :
    (m.sendAll packets).clients.lookup fd = (m.clients.lookup fd).map fun c =>
      { c with outgoingBuffer := c.outgoingBuffer ++ bytesFor fd packets } := by
  induction packets generalizing m with
  | nil => cases h : m.clients.lookup fd <;> simp [sendAll, bytesFor, h]
  | cons q packets ih =>
    have hstep : m.sendAll (q :: packets) = (m.queueDataToSend q.1 q.2.bytes).sendAll packets := rfl
    rw [hstep, ih, queueDataToSend_eq, lookup_update, Option.map_map]
    congr 1
    funext c
    by_cases h : fd = q.1
    · simp [h, bytesFor]
    · simp [h, bytesFor, Ne.symm h]

@[simp] theorem ClientManager.keys_sendAll (m : ClientManager) (packets : List (Fd × Packet)) :
    (m.sendAll packets).clients.keys = m.clients.keys := by
  induction packets generalizing m with
  | nil => rfl
  | cons q packets ih =>
    have hstep : m.sendAll (q :: packets) = (m.queueDataToSend q.1 q.2.bytes).sendAll packets := rfl
    rw [hstep, ih, queueDataToSend_eq, keys_update]

def Server.deliver (s : Server) (packets : List (Fd × Packet)) : Server :=
  { s with clientManager := s.clientManager.sendAll packets }

/-- Change the server, then queue packets. -/
def perform (context : CommandContext) (s : Server) (packets : List (Fd × Packet)) : CommandContext :=
  queuePackets { context with toServer := s } packets

theorem queuePackets_eq (context : CommandContext) (packets : List (Fd × Packet)) :
    queuePackets context packets =
      { context with
        toServer := context.toServer.deliver packets
        queued := context.queued ++ packets } := by
  induction packets generalizing context with
  | nil => simp [queuePackets, Server.deliver, ClientManager.sendAll]
  | cons q packets ih =>
    have hstep : queuePackets context (q :: packets) =
      queuePackets (queuePacket context q.1 q.2) packets := rfl
    rw [hstep, ih]
    simp [queuePacket, Server.deliver, ClientManager.sendAll]

theorem queuePackets_queuePackets (context : CommandContext) (ps qs : List (Fd × Packet)) :
    queuePackets (queuePackets context ps) qs = queuePackets context (ps ++ qs) :=
  List.foldl_append.symm

@[simp] theorem toServer_perform (context : CommandContext) (s : Server)
    (packets : List (Fd × Packet)) : (perform context s packets).toServer = s.deliver packets := by
  rw [perform, queuePackets_eq]

@[simp] theorem queued_perform (context : CommandContext) (s : Server)
    (packets : List (Fd × Packet)) : (perform context s packets).queued = context.queued ++ packets := by
  rw [perform, queuePackets_eq]

theorem users_perform (context : CommandContext) (s : Server) (packets : List (Fd × Packet)) :
    (perform context s packets).users = s.users := by
  rw [toServer_perform]
  rfl

theorem teams_perform (context : CommandContext) (s : Server) (packets : List (Fd × Packet)) :
    (perform context s packets).teams = s.teams := by
  rw [toServer_perform]
  rfl

namespace Server

def sessions (s : Server) (uuid : Bytes) : List Fd :=
  (s.authenticatedUsersByUUID.lookup uuid).getD []

def addSession (s : Server) (fd : Fd) (uuid : Bytes) : Server :=
  { s with
    authenticatedUsersByFd := s.authenticatedUsersByFd.insert fd uuid
    authenticatedUsersByUUID := s.authenticatedUsersByUUID.insert uuid (s.sessions uuid ++ [fd]) }

def removeSession (s : Server) (fd : Fd) (uuid : Bytes) : Server :=
  { s with
    authenticatedUsersByUUID :=
      s.authenticatedUsersByUUID.insert uuid ((s.sessions uuid).filter fun socketFd => socketFd ≠ fd)
    authenticatedUsersByFd := s.authenticatedUsersByFd.erase fd }

/-- What a disconnection does instead of `removeSession`. -/
def dropSessions (s : Server) (fd : Fd) (uuid : Bytes) : Server :=
  { s with
    authenticatedUsersByFd := s.authenticatedUsersByFd.erase fd
    authenticatedUsersByUUID := s.authenticatedUsersByUUID.erase uuid }

def setUsers (s : Server) (users : List User) : Server := { s with users := users }

def setTeams (s : Server) (teams : List Team) : Server := { s with teams := teams }

end Server

/-- `packet` for every connection that is logged in. -/
def toEveryone (s : Server) (packet : Packet) : List (Fd × Packet) :=
  s.authenticatedUsersByFd.keys.map fun fd => (fd, packet)

/-- `packet` for every connection that is logged in, except one. -/
def toOthers (s : Server) (excludedClientFd : Fd) (packet : Packet) : List (Fd × Packet) :=
  (s.authenticatedUsersByFd.keys.filter fun fd => fd ≠ excludedClientFd).map fun fd => (fd, packet)

/-- `packet` for every connection of a subscriber of `team`. -/
def toSubscribers (s : Server) (team : Team) (packet : Packet) : List (Fd × Packet) :=
  (s.authenticatedUsersByFd.entries.filter fun entry => team.isUserSubscribed entry.2).map
    fun entry => (entry.1, packet)

def toClient (context : CommandContext) (packets : List Packet) : List (Fd × Packet) :=
  packets.map fun packet => (context.clientFd, packet)

/-- The entries of a list reply, closed by a status. -/
def listReply (status : StatusCode) (payloads : List Payload) : List Packet :=
  payloads.map (Packet.mk status) ++ [.ofStatus .ok]

/-- The statuses with which a command may be refused. -/
def refusals : CommandID → List StatusCode
  | .login => [.badRequest, .alreadyExist]
  | .logout | .users | .userInfo | .use => [.badRequest, .unauthorized]
  | .send | .messages | .subscribe | .unsubscribe | .subscribedList | .list | .info =>
    [.badRequest, .unauthorized, .notFound]
  | .create => [.badRequest, .unauthorized, .notFound, .alreadyExist]

/-- The sender is logged in, and the context of its connection leads to a team it subscribed to. -/
structure InTeam (context : CommandContext) (user : User) (team : Team) : Prop where
  authenticated : getAuthenticatedUser context = some user
  found : findTeamByUuid context.teams context.contextTeamUuid = some team
  subscribed : team.isUserSubscribed user.uuid.bytes = true

structure InChannel (context : CommandContext) (user : User) (team : Team) (channel : Channel) : Prop
    extends InTeam context user team where
  foundChannel : findChannelByUuid team context.contextChannelUuid = some channel

structure InThread (context : CommandContext) (user : User) (team : Team) (channel : Channel)
    (thread : Thread) : Prop extends InChannel context user team channel where
  foundThread : findThreadByUuid channel context.contextThreadUuid = some thread

/-- Replies that come without any change of the server. -/
inductive Answer (context : CommandContext) : CommandID → List Packet → Prop where
  | users : context.clientFd ∈ context.authenticatedUsersByFd →
      Answer context .users (listReply .usersList (context.users.map buildUserPayload))
  | user {u : User} : context.clientFd ∈ context.authenticatedUsersByFd → u ∈ context.users →
      Answer context .userInfo [⟨.userInfo, buildUserPayload u⟩]
  | messages {clientUuid : Bytes} (targetUuid : Bytes) :
      context.authenticatedUsersByFd.lookup context.clientFd = some clientUuid →
      Answer context .messages (listReply .messagesList
        ((context.environment.sorter.sort
          (filterMessages context.messages clientUuid targetUuid)).map buildMessagePayload))
  | alreadySubscribed {u : User} {t : Team} : getAuthenticatedUser context = some u →
      t ∈ context.teams → t.isUserSubscribed u.uuid.bytes = true →
      Answer context .subscribe [.ofStatus .ok]
  | subscribedTeams {u : User} : getAuthenticatedUser context = some u → context.payloadSize = 0 →
      Answer context .subscribedList (listReply .subscribedList
        ((context.teams.filter fun team => team.isUserSubscribed u.uuid.bytes).map buildTeamPayload))
  | subscribedUsers {u : User} {t : Team} : getAuthenticatedUser context = some u →
      context.payloadSize ≠ 0 → t ∈ context.teams →
      Answer context .subscribedList (listReply .usersList
        ((t.subscribedUserUuids.filterMap fun userUuid =>
          findUserByUuid context.users userUuid.bytes).map buildUserPayload))
  | teams {u : User} : getAuthenticatedUser context = some u →
      Answer context .list (listReply .teamsList (context.teams.map buildTeamPayload))
  | channels {u : User} {t : Team} : InTeam context u t →
      Answer context .list (listReply .channelsList (t.channels.map buildChannelPayload))
  | threads {u : User} {t : Team} {c : Channel} : InChannel context u t c →
      Answer context .list (listReply .threadsList (c.threads.map buildThreadPayload))
  | replies {u : User} {t : Team} {c : Channel} {d : Thread} : InThread context u t c d →
      Answer context .list (listReply .repliesList (d.replies.map (buildReplyPayload d)))
  | userInfo {u : User} : getAuthenticatedUser context = some u →
      Answer context .info [⟨.userInfo, buildUserPayload u⟩]
  | teamInfo {u : User} {t : Team} : InTeam context u t →
      Answer context .info [⟨.teamsList, buildTeamPayload t⟩]
  | channelInfo {u : User} {t : Team} {c : Channel} : InChannel context u t c →
      Answer context .info [⟨.channelsList, buildChannelPayload c⟩]
  | threadInfo {u : User} {t : Team} {c : Channel} {d : Thread} : InThread context u t c d →
      Answer context .info [⟨.threadsList, buildThreadPayload d⟩]

/-- What a refusal tells besides its status: some are for an ill-formed payload only, and a login
is a conflict only on a connection that is logged in. -/
def RefusedFor (context : CommandContext) : CommandID → StatusCode → Prop
  | .login, .alreadyExist => context.clientFd ∈ context.authenticatedUsersByFd
  | .subscribe, .badRequest | .unsubscribe, .badRequest => parseTeamUuidFromPayload context = none
  | .subscribedList, .badRequest =>
    context.payloadSize ≠ 0 ∧ parseTeamUuidFromPayload context = none
  | _, _ => True

/-- The status may end the command. -/
def Refuses (context : CommandContext) (command : CommandID) (status : StatusCode) : Prop :=
  status ∈ refusals command ∧ RefusedFor context command status

def loginEvent (user : User) : Packet :=
  buildUserConnectionEventPacket .evtLoggedIn user.uuid.bytes user.name.bytes

def logoutEvent (user : User) : Packet :=
  buildUserConnectionEventPacket .evtLoggedOut user.uuid.bytes user.name.bytes

def privateMessageEvent (message : Message) : Packet :=
  ⟨.evtPrivateMsgRcvd, .evtPrivateMsg
    { senderUuid := .copyPadded _ message.authorUuid.bytes
      messageBody := .copyPadded _ message.body.bytes }⟩

def teamCreatedEvent (team : Team) : Packet :=
  ⟨.evtTeamCreated, .evtTeamCreated
    { teamUuid := .copyPadded _ team.uuid.bytes
      teamName := .copyPadded _ team.name.bytes
      teamDescription := .copyPadded _ team.description.bytes }⟩

def channelCreatedEvent (channel : Channel) : Packet :=
  ⟨.evtChannelCreated, .evtChannelCreated
    { channelUuid := .copyPadded _ channel.uuid.bytes
      channelName := .copyPadded _ channel.name.bytes
      channelDescription := .copyPadded _ channel.description.bytes }⟩

def threadCreatedEvent (thread : Thread) : Packet :=
  ⟨.evtThreadCreated, .evtThreadCreated
    { threadUuid := .copyPadded _ thread.uuid.bytes
      userUuid := .copyPadded _ thread.authorUuid.bytes
      threadTimestamp := thread.createdAt.toUInt64
      threadTitle := .copyPadded _ thread.title.bytes
      threadBody := .copyPadded _ thread.body.bytes }⟩

def replyCreatedEvent (team : Team) (thread : Thread) (reply : Message) : Packet :=
  ⟨.evtReplyCreated, .evtReplyCreated
    { teamUuid := .copyPadded _ team.uuid.bytes
      threadUuid := .copyPadded _ thread.uuid.bytes
      userUuid := .copyPadded _ reply.authorUuid.bytes
      replyBody := .copyPadded _ reply.body.bytes }⟩

/-- What a command does to the server, and the packets it queues. -/
inductive Effect (context : CommandContext) : CommandID → Server → List (Fd × Packet) → Prop where
  | refused {command : CommandID} {status : StatusCode} : Refuses context command status →
      Effect context command context.toServer (toClient context [.ofStatus status])
  | unknownUser {uuid : Bytes} : findUserByUuid context.users uuid = none →
      Effect context .userInfo context.toServer
        (toClient context [⟨.notFound, .errUnknown { unknownUuid := .copyPadded _ uuid }⟩])
  | answered {command : CommandID} {packets : List Packet} : Answer context command packets →
      Effect context command context.toServer (toClient context packets)
  | registered {draw : Nat → Fin 16} {name : Bytes} {user : User} :
      context.clientFd ∉ context.authenticatedUsersByFd →
      name ≠ [] → findUserByName context.users name = none →
      findUserByUuid context.users (generateUuid draw) = none →
      user = User.new (generateUuid draw) name true →
      Effect context .login
        ((context.toServer.setUsers (context.users ++ [user])).addSession context.clientFd user.uuid.bytes)
        (toClient context [.ofStatus .ok] ++
          toEveryone (context.toServer.addSession context.clientFd user.uuid.bytes) (loginEvent user))
  | loggedIn {name : Bytes} {user : User} :
      context.clientFd ∉ context.authenticatedUsersByFd →
      findUserByName context.users name = some user →
      Effect context .login
        ((context.toServer.setUsers (modifyFirst (fun user => user.name.bytes = name)
          User.addLoggedIn context.users)).addSession context.clientFd user.uuid.bytes)
        (toClient context [.ofStatus .ok] ++
          toEveryone (context.toServer.addSession context.clientFd user.uuid.bytes) (loginEvent user))
  | loggedOut {uuid : Bytes} {user : User} :
      context.authenticatedUsersByFd.lookup context.clientFd = some uuid →
      findUserByUuid context.users uuid = some user →
      Effect context .logout
        ((context.toServer.removeSession context.clientFd uuid).setUsers
          (updateUser context.users uuid User.removeLoggedIn))
        (toClient context [.ofStatus .ok, logoutEvent user] ++
          toOthers (context.toServer.removeSession context.clientFd uuid) (-1) (logoutEvent user))
  | loggedOutUnknown {uuid : Bytes} :
      context.authenticatedUsersByFd.lookup context.clientFd = some uuid →
      findUserByUuid context.users uuid = none →
      Effect context .logout (context.toServer.removeSession context.clientFd uuid)
        (toClient context [.ofStatus .unauthorized])
  | sent {author target body : Bytes} {message : Message} :
      context.authenticatedUsersByFd.lookup context.clientFd = some author →
      extractFixedString (Packed.ofBytes (α := PayloadReqSendMsg) context.payloadData).targetUuid.bytes =
        some target →
      isUuidFormatValid target = true → body ≠ [] →
      (∃ user ∈ context.users, user.uuid.bytes = target) →
      message = Message.new (generateUuid context.environment.draw) author context.environment.now body
        target →
      Effect context .send
        { context.toServer with
          messages := context.messages ++ [message]
          authenticatedUsersByUUID :=
            (UnorderedMap.getOrInsert target [] context.authenticatedUsersByUUID).2 }
        ((context.toServer.sessions target).map (fun fd => (fd, privateMessageEvent message)) ++
          toClient context [.ofStatus .ok])
  | subscribed {uuid : Bytes} {user : User} {team : Team} :
      getAuthenticatedUser context = some user → findTeamByUuid context.teams uuid = some team →
      team.isUserSubscribed user.uuid.bytes = false →
      Effect context .subscribe
        (context.toServer.setTeams
          (updateTeam context.teams uuid fun team => team.addSubscribedUser user.uuid.bytes))
        (toClient context [⟨.usersList, buildUserPayload user⟩])
  | unsubscribed {uuid : Bytes} {user : User} {team : Team} {reply : Packet} :
      getAuthenticatedUser context = some user → findTeamByUuid context.teams uuid = some team →
      reply = (if (team.removeSubscribedUser user.uuid.bytes).1 then
        ⟨.usersList, buildUserPayload user⟩ else .ofStatus .ok) →
      Effect context .unsubscribe
        (context.toServer.setTeams
          (updateTeam context.teams uuid fun team => (team.removeSubscribedUser user.uuid.bytes).2))
        (toClient context [reply])
  | used {teamUuid channelUuid threadUuid : Bytes} :
      context.clientFd ∈ context.authenticatedUsersByFd →
      parseUsePayload context.payloadData = some (teamUuid, channelUuid, threadUuid) →
      Effect context .use
        { context.toServer with
          clientManager :=
            context.clientManager.setContext context.clientFd teamUuid channelUuid threadUuid }
        (toClient context [.ofStatus .ok])
  | createdTeam {draw : Nat → Fin 16} {name description : Bytes} {user : User} {team : Team} :
      getAuthenticatedUser context = some user → name ≠ [] →
      (∀ t ∈ context.teams, t.name.bytes ≠ name) →
      findTeamByUuid context.teams (generateUuid draw) = none →
      team = (Team.new (generateUuid draw) name description).addSubscribedUser user.uuid.bytes →
      context.payloadSize = sizeof PayloadReqCreateTeam →
      Effect context .create (context.toServer.setTeams (context.teams ++ [team]))
        (toClient context [⟨.created, buildTeamPayload team⟩] ++
          toEveryone context.toServer (teamCreatedEvent team))
  | createdChannel {draw : Nat → Fin 16} {name description : Bytes} {user : User} {team : Team}
      {channel : Channel} :
      InTeam context user team → name ≠ [] → (∀ c ∈ team.channels, c.name.bytes ≠ name) →
      isChannelUuidUsed context.teams (generateUuid draw) = false →
      channel = Channel.new (generateUuid draw) name description →
      context.payloadSize = sizeof PayloadReqCreateChannel →
      Effect context .create
        (context.toServer.setTeams (updateTeam context.teams context.contextTeamUuid fun team =>
          team.addChannel channel))
        (toClient context [⟨.created, buildChannelPayload channel⟩] ++
          toSubscribers context.toServer team (channelCreatedEvent channel))
  | createdThread {draw : Nat → Fin 16} {title body : Bytes} {user : User} {team : Team}
      {channel : Channel} {thread : Thread} :
      InChannel context user team channel → title ≠ [] → body ≠ [] →
      (∀ d ∈ channel.threads, d.title.bytes ≠ title) →
      isThreadUuidUsed context.teams (generateUuid draw) = false →
      thread = Thread.new (generateUuid draw) user.uuid.bytes context.environment.now title body →
      context.payloadSize = sizeof PayloadReqCreateThread →
      Effect context .create
        (context.toServer.setTeams (updateTeam context.teams team.uuid.bytes fun team =>
          updateChannel team channel.uuid.bytes fun channel => channel.addThread thread))
        (toClient context [⟨.created, buildThreadPayload thread⟩] ++
          toSubscribers context.toServer team (threadCreatedEvent thread))
  | createdReply {body : Bytes} {user : User} {team : Team} {channel : Channel} {thread : Thread}
      {reply : Message} :
      InThread context user team channel thread → body ≠ [] →
      reply = Message.new (generateUuid context.environment.draw) user.uuid.bytes
        context.environment.now body →
      context.payloadSize = sizeof PayloadReqCreateReply →
      Effect context .create
        (context.toServer.setTeams (updateTeam context.teams team.uuid.bytes fun team =>
          updateChannel team channel.uuid.bytes fun channel =>
            updateThread channel thread.uuid.bytes fun thread => thread.addReply reply))
        (toClient context [⟨.created, buildReplyPayload thread reply⟩] ++
          toSubscribers context.toServer team (replyCreatedEvent team thread reply))

/-- The handler's result is a change of the server followed by the queueing of packets. -/
def Does (context : CommandContext) (command : CommandID) (context' : CommandContext) : Prop :=
  ∃ s packets, Effect context command s packets ∧ context' = perform context s packets

end TeamsMirror
