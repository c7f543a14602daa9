import TeamsMirror.Server.Logger
import TeamsMirror.Server.Naming
import TeamsMirror.Server.Recipients

/-!
# What the log reports

The logged handlers are the plain ones, and the calls of each are those of the change
that it makes: `Journaled` lists the changes, with the packets queued and the calls made.
Everything proved about the journal is proved about `Journaled`.
-/

namespace TeamsMirror

open Lists Logging

/-- The part of the server that the calls are about. -/
structure Ledger where
  users : List User
  teams : List Team
  messages : List Message
  sessions : UnorderedMap Fd Bytes

def Server.ledger (s : Server) : Ledger := ⟨s.users, s.teams, s.messages, s.authenticatedUsersByFd⟩

namespace Ledger

/-- Who is logged in on a connection. -/
def userOf (l : Ledger) (fd : Fd) : Option User := (l.sessions.lookup fd).bind (findUserByUuid l.users)

/-- `packet` for every connection of a subscriber. -/
def subscribers (l : Ledger) (team : Team) (packet : Packet) : List (Fd × Packet) :=
  (l.sessions.entries.filter fun entry => team.isUserSubscribed entry.2).map fun entry => (entry.1, packet)

end Ledger

/-- A change made for connection `fd`, the packets queued for it, and the calls that report it. -/
inductive Journaled (l : Ledger) (fd : Fd) : Ledger → List (Fd × Packet) → List LogCall → Prop where
  | nothing {packets : List (Fd × Packet)} : (∀ q ∈ packets, q.2.status.isEvent = false) →
      Journaled l fd l packets []
  | registered {draw : Nat → Fin 16} {name : Bytes} {user : User} : fd ∉ l.sessions →
      findUserByName l.users name = none → findUserByUuid l.users (generateUuid draw) = none →
      user = User.new (generateUuid draw) name true →
      Journaled l fd
        { l with users := l.users ++ [user], sessions := l.sessions.insert fd user.uuid.bytes }
        ((fd, .ofStatus .ok) :: (l.sessions.insert fd user.uuid.bytes).keys.map fun fd =>
          (fd, loginEvent user))
        [.userCreated user.uuid.bytes user.name.bytes, .userLoggedIn user.uuid.bytes]
  | loggedIn {name : Bytes} {user : User} : fd ∉ l.sessions → findUserByName l.users name = some user →
      Journaled l fd
        { l with
          users := modifyFirst (fun user => user.name.bytes = name) User.addLoggedIn l.users
          sessions := l.sessions.insert fd user.uuid.bytes }
        ((fd, .ofStatus .ok) :: (l.sessions.insert fd user.uuid.bytes).keys.map fun fd =>
          (fd, loginEvent user))
        [.userLoggedIn user.uuid.bytes]
  | loggedOut {uuid : Bytes} {user : User} (replies : List (Fd × Packet)) (excludedClientFd : Fd) :
      l.sessions.lookup fd = some uuid → findUserByUuid l.users uuid = some user →
      (∀ q ∈ replies, q.1 = fd) → excludedClientFd = -1 ∨ excludedClientFd = fd →
      Journaled l fd
        { l with
          users := updateUser l.users uuid User.removeLoggedIn
          sessions := l.sessions.erase fd }
        (replies ++ ((l.sessions.erase fd).keys.filter fun fd => fd ≠ excludedClientFd).map fun fd =>
          (fd, logoutEvent user))
        [.userLoggedOut user.uuid.bytes]
  | forgotten {uuid : Bytes} (packets : List (Fd × Packet)) : l.sessions.lookup fd = some uuid →
      findUserByUuid l.users uuid = none → (∀ q ∈ packets, q.2.status.isEvent = false) →
      Journaled l fd { l with sessions := l.sessions.erase fd } packets []
  | subscribed {user : User} {team : Team} (packet : Packet) :
      l.userOf fd = some user → findTeamByUuid l.teams team.uuid.bytes = some team →
      team.isUserSubscribed user.uuid.bytes = false → packet.status.isEvent = false →
      Journaled l fd
        { l with
          teams := updateTeam l.teams team.uuid.bytes fun team => team.addSubscribedUser user.uuid.bytes }
        [(fd, packet)] [.userSubscribed team.uuid.bytes user.uuid.bytes]
  | unsubscribed {user : User} {team : Team} (packet : Packet) :
      l.userOf fd = some user → findTeamByUuid l.teams team.uuid.bytes = some team →
      team.isUserSubscribed user.uuid.bytes = true → packet.status.isEvent = false →
      Journaled l fd
        { l with
          teams := updateTeam l.teams team.uuid.bytes fun team =>
            (team.removeSubscribedUser user.uuid.bytes).2 }
        [(fd, packet)] [.userUnsubscribed team.uuid.bytes user.uuid.bytes]
  | sent {author : Bytes} (message : Message) (receivers : List Fd) :
      l.sessions.lookup fd = some author → message.authorUuid = .copyBuffer _ author →
      (∃ user ∈ l.users, user.uuid = message.receiverUuid) →
      Journaled l fd { l with messages := l.messages ++ [message] }
        (receivers.map (fun fd => (fd, privateMessageEvent message)) ++ [(fd, .ofStatus .ok)])
        [.privateMessageSended message.authorUuid.bytes message.receiverUuid.bytes message.body.bytes]
  | createdTeam {user : User} (team : Team) (reply : Packet) : l.userOf fd = some user →
      team.uuid ∉ l.teams.map Team.uuid → team.channels = [] → team.subscribedUserUuids = [user.uuid] →
      reply.status.isEvent = false →
      Journaled l fd { l with teams := l.teams ++ [team] }
        ((fd, reply) :: l.sessions.keys.map fun fd => (fd, teamCreatedEvent team))
        [.teamCreated team.uuid.bytes team.name.bytes user.uuid.bytes]
  | createdChannel {user : User} {team : Team} (channel : Channel) (reply : Packet) :
      l.userOf fd = some user → findTeamByUuid l.teams team.uuid.bytes = some team →
      team.isUserSubscribed user.uuid.bytes = true → channel.threads = [] → reply.status.isEvent = false →
      Journaled l fd
        { l with teams := updateTeam l.teams team.uuid.bytes fun team => team.addChannel channel }
        ((fd, reply) :: l.subscribers team (channelCreatedEvent channel))
        [.channelCreated team.uuid.bytes channel.uuid.bytes channel.name.bytes]
  | createdThread {user : User} {team : Team} {channel : Channel} (thread : Thread) (reply : Packet) :
      l.userOf fd = some user → findTeamByUuid l.teams team.uuid.bytes = some team →
      team.isUserSubscribed user.uuid.bytes = true →
      findChannelByUuid team channel.uuid.bytes = some channel →
      thread.authorUuid = user.uuid → thread.replies = [] → reply.status.isEvent = false →
      Journaled l fd
        { l with
          teams := updateTeam l.teams team.uuid.bytes fun team =>
            updateChannel team channel.uuid.bytes fun channel => channel.addThread thread }
        ((fd, reply) :: l.subscribers team (threadCreatedEvent thread))
        [.threadCreated channel.uuid.bytes thread.uuid.bytes thread.authorUuid.bytes thread.title.bytes
          thread.body.bytes]
  | createdReply {user : User} {team : Team} {channel : Channel} {thread : Thread} (message : Message)
      (reply : Packet) :
      l.userOf fd = some user → findTeamByUuid l.teams team.uuid.bytes = some team →
      team.isUserSubscribed user.uuid.bytes = true →
      findChannelByUuid team channel.uuid.bytes = some channel →
      findThreadByUuid channel thread.uuid.bytes = some thread →
      message.authorUuid = user.uuid → reply.status.isEvent = false →
      Journaled l fd
        { l with
          teams := updateTeam l.teams team.uuid.bytes fun team =>
            updateChannel team channel.uuid.bytes fun channel =>
              updateThread channel thread.uuid.bytes fun thread => thread.addReply message }
        ((fd, reply) :: l.subscribers team (replyCreatedEvent team thread message))
        [.replyCreated thread.uuid.bytes message.authorUuid.bytes message.body.bytes]

/-- The handler has ended in a change that the calls report. -/
def Recounted (context context' : CommandContext) (calls : List LogCall) : Prop :=
  ∃ packets, context'.queued = context.queued ++ packets ∧
    Journaled context.toServer.ledger context.clientFd context'.toServer.ledger packets calls

/-- The logged handler ends as the plain one, and its calls report what that does. -/
def Accounts (lib : LoggingServer) (context : CommandContext) (logged : Logged LogCall CommandContext)
    (plain : CommandContext) : Prop :=
  ∃ calls, Writes lib.accepts logged plain calls ∧ Recounted context plain calls

/-- The same for a handler that may lack draws. -/
def AccountsFor (lib : LoggingServer) (context : CommandContext)
    (logged : Logged LogCall (Option CommandContext)) (plain : Option CommandContext) : Prop :=
  ∃ calls, Writes lib.accepts logged plain calls ∧
    ∀ context', plain = some context' → Recounted context context' calls

/-- Two computations that branch on the same condition. -/
theorem both_ite {α β : Type} {P : α → β → Prop} {p : Prop} [Decidable p] {a a' : α} {b b' : β}
    (hpos : p → P a b) (hneg : ¬p → P a' b') : P (if p then a else a') (if p then b else b') := by
  by_cases h : p
  · rw [if_pos h, if_pos h]
    exact hpos h
  · rw [if_neg h, if_neg h]
    exact hneg h

@[simp] theorem beforeNul_stored {n : Nat} (text : CString n) : beforeNul text.bytes = text.bytes :=
  beforeNul_eq_self text.noNul

section

variable {lib : LoggingServer} {context : CommandContext}

theorem Recounted.perform {plain : CommandContext} {s : Server} {packets : List (Fd × Packet)}
    {calls : List LogCall} (hplain : plain = perform context s packets)
    (hjournaled : Journaled context.toServer.ledger context.clientFd s.ledger packets calls) :
    Recounted context plain calls := by
  subst hplain
  refine ⟨packets, queued_perform _ _ _, ?_⟩
  rw [toServer_perform]
  exact hjournaled

theorem Recounted.status {status : StatusCode} (h : status.isEvent = false) :
    Recounted context (queueStatus context status) [] := by
  have hsilent : ∀ q ∈ toClient context [.ofStatus status], q.2.status.isEvent = false :=
    List.forall_mem_singleton.mpr h
  exact .perform (s := context.toServer) rfl (.nothing hsilent)

theorem accounts_status {status : StatusCode} (h : status.isEvent = false) :
    Accounts lib context (pure (queueStatus context status)) (queueStatus context status) :=
  ⟨[], writes_pure _, .status h⟩

theorem Accounts.lift {logged : Logged LogCall CommandContext} {plain : CommandContext}
    (h : Accounts lib context logged plain) :
    AccountsFor lib context (do return some (← logged)) (some plain) := by
  obtain ⟨calls, hwrites, hrecounted⟩ := h
  refine ⟨calls ++ [], hwrites.bind (writes_pure _), fun context' h => ?_⟩
  rw [← Option.some.inj h, List.append_nil]
  exact hrecounted

theorem accountsFor_none : AccountsFor lib context (pure none) none :=
  ⟨[], writes_pure none, fun _ h => by cases h⟩

theorem accountsFor_some {logged : Logged LogCall (Option CommandContext)} {plain : CommandContext}
    {calls : List LogCall} (hwrites : Writes lib.accepts logged (some plain) calls)
    (hrecounted : Recounted context plain calls) : AccountsFor lib context logged (some plain) :=
  ⟨calls, hwrites, fun _ h => Option.some.inj h ▸ hrecounted⟩

theorem accountsFor_status {status : StatusCode} (h : status.isEvent = false) :
    AccountsFor lib context (pure (some (queueStatus context status))) (some (queueStatus context status)) :=
  accountsFor_some (writes_pure _) (.status h)

theorem completeLogin_writes (user : User) :
    Writes lib.accepts (Logs.completeLogin lib context user) (completeLogin context user)
      [.userLoggedIn user.uuid.bytes] := by
  simp only [Logs.completeLogin, ServerLogger.logUserLoggedIn, ServerLogger.call, beforeNul_stored]
  apply Writes.entry_bind
  exact writes_pure _

theorem handleLogin_accounts :
    AccountsFor lib context (Logs.handleLoginCommand lib context) (handleLoginCommand context) := by
  unfold Logs.handleLoginCommand handleLoginCommand
  refine both_ite (fun _ => accountsFor_status (by rfl)) fun hsize => ?_
  refine both_ite (fun _ => accountsFor_status (by rfl)) fun hfd => ?_
  simp only
  cases hname : extractFixedString
      (Packed.ofBytes (α := PayloadReqLogin) context.payloadData).userName.bytes with
  | none => exact accountsFor_status (by rfl)
  | some name =>
    refine both_ite (fun _ => accountsFor_status (by rfl)) fun hne => ?_
    cases huser : findUserByName context.users name with
    | none =>
      cases huuid : generateUnused context.environment fun uuid =>
          (findUserByUuid context.users uuid).isSome with
      | none => exact accountsFor_none
      | some uuid =>
        obtain ⟨⟨draw, rfl⟩, hunused⟩ := generateUnused_eq_some huuid
        have hunused : findUserByUuid context.users (generateUuid draw) = none := by simpa using hunused
        simp only [ServerLogger.logUserCreated, ServerLogger.call, beforeNul_stored]
        refine accountsFor_some ?_ (.perform (completeLogin_eq _) (.registered hfd huser hunused rfl))
        apply Writes.entry_bind
        exact (completeLogin_writes _).bind (writes_pure _)
    | some user =>
      have hjournaled := Journaled.loggedIn (l := context.toServer.ledger) hfd huser
      exact accountsFor_some ((completeLogin_writes _).bind (writes_pure _))
        (.perform (completeLogin_eq _) hjournaled)

theorem handleLogout_accounts :
    Accounts lib context (Logs.handleLogoutCommand lib context) (handleLogoutCommand context) := by
  unfold Logs.handleLogoutCommand handleLogoutCommand
  refine both_ite (fun _ => accounts_status (by rfl)) fun hsize => ?_
  cases hfd : context.authenticatedUsersByFd.lookup context.clientFd with
  | none => exact accounts_status (by rfl)
  | some uuid =>
    simp only
    cases huser : findUserByUuid context.users uuid with
    | none =>
      have hjournaled := Journaled.forgotten (l := context.toServer.ledger)
        (toClient context [.ofStatus .unauthorized]) hfd huser (List.forall_mem_singleton.mpr rfl)
      exact ⟨[], writes_pure _,
        .perform (s := context.toServer.removeSession context.clientFd uuid) rfl hjournaled⟩
    | some user =>
      simp only [ServerLogger.logUserLoggedOut, ServerLogger.call, beforeNul_stored]
      have hjournaled := Journaled.loggedOut (l := context.toServer.ledger)
        (toClient context [.ofStatus .ok, logoutEvent user]) (-1) hfd huser (by simp [toClient]) (.inl rfl)
      refine ⟨_, .entry_bind (writes_pure _), .perform (s := (context.toServer.removeSession
        context.clientFd uuid).setUsers (updateUser context.users uuid User.removeLoggedIn)) ?_ hjournaled⟩
      rw [perform, ← queuePackets_queuePackets]
      rfl

/-- A disconnection makes the call of a logout. -/
theorem handleClientDisconnection_accounts :
    Accounts lib context (Logs.handleClientDisconnection lib context) (handleClientDisconnection context) := by
  unfold Logs.handleClientDisconnection handleClientDisconnection
  cases hfd : context.authenticatedUsersByFd.lookup context.clientFd with
  | none => exact ⟨[], writes_pure _, [], by simp, .nothing (by simp)⟩
  | some uuid =>
    simp only
    cases huser : findUserByUuid context.users uuid with
    | none => exact ⟨[], writes_pure _, [], by simp, .forgotten [] hfd huser (by simp)⟩
    | some user =>
      simp only [ServerLogger.logUserLoggedOut, ServerLogger.call, beforeNul_stored]
      have hjournaled := Journaled.loggedOut (l := context.toServer.ledger) [] context.clientFd hfd huser
        (by simp) (.inr rfl)
      exact ⟨_, .entry_bind (writes_pure _), .perform (s := (context.toServer.dropSessions
        context.clientFd uuid).setUsers (updateUser context.users uuid User.removeLoggedIn)) rfl hjournaled⟩

/-- An update of the first element found that leaves this one as it is. -/
theorem updateTeam_eq_self {teams : List Team} {uuid : Bytes} {team : Team} {f : Team → Team}
    (hfind : findTeamByUuid teams uuid = some team) (hf : f team = team) : updateTeam teams uuid f = teams := by
  obtain ⟨before, after, rfl, -, -, hupdate⟩ := exists_split hfind
  rw [updateTeam, hupdate, hf]

theorem removeSubscribedUser_of_not_subscribed {team : Team} {userUuid : Bytes}
    (h : team.isUserSubscribed userUuid = false) : (team.removeSubscribedUser userUuid).2 = team := by
  have hall : team.subscribedUserUuids.filter (fun stored => stored.bytes ≠ userUuid) =
      team.subscribedUserUuids := by
    rw [List.filter_eq_self]
    simpa [Team.isUserSubscribed] using h
  simp only [Team.removeSubscribedUser, hall]

theorem handleSubscribe_accounts :
    Accounts lib context (Logs.handleSubscribeCommand lib context) (handleSubscribeCommand context) := by
  unfold Logs.handleSubscribeCommand handleSubscribeCommand
  cases huser : getAuthenticatedUser context with
  | none => exact accounts_status (by rfl)
  | some user =>
    dsimp only
    cases hparse : parseTeamUuidFromPayload context with
    | none => exact accounts_status (by rfl)
    | some uuid =>
      dsimp only
      cases hteam : findTeamByUuid context.teams uuid with
      | none => exact accounts_status (by rfl)
      | some team =>
        refine both_ite (fun _ => accounts_status (by rfl)) fun hsub => ?_
        obtain rfl := uuid_of_findTeam hteam
        simp only [ServerLogger.logUserSubscribed, ServerLogger.call, beforeNul_stored]
        have hjournaled := Journaled.subscribed (l := context.toServer.ledger)
          ⟨.usersList, buildUserPayload user⟩ huser hteam (by simpa using hsub) rfl
        exact ⟨_, .entry_bind (writes_pure _), .perform (s := context.toServer.setTeams (updateTeam
          context.teams team.uuid.bytes fun team => team.addSubscribedUser user.uuid.bytes)) rfl hjournaled⟩

theorem handleUnsubscribe_accounts :
    Accounts lib context (Logs.handleUnsubscribeCommand lib context) (handleUnsubscribeCommand context) := by
  unfold Logs.handleUnsubscribeCommand handleUnsubscribeCommand
  cases huser : getAuthenticatedUser context with
  | none => exact accounts_status (by rfl)
  | some user =>
    dsimp only
    cases hparse : parseTeamUuidFromPayload context with
    | none => exact accounts_status (by rfl)
    | some uuid =>
      dsimp only
      cases hteam : findTeamByUuid context.teams uuid with
      | none => exact accounts_status (by rfl)
      | some team =>
        obtain rfl := uuid_of_findTeam hteam
        have hsubscribed := Team.fst_removeSubscribedUser team user.uuid.bytes
        refine both_ite (fun hsub => ?_) fun hsub => ?_
        · -- the list of subscribers is written all the same, and does not change
          have hnone : team.isUserSubscribed user.uuid.bytes = false := by
            rw [hsubscribed] at hsub
            simpa using hsub
          have hsame : updateTeam context.teams team.uuid.bytes
              (fun team => (team.removeSubscribedUser user.uuid.bytes).2) = context.teams :=
            updateTeam_eq_self hteam (removeSubscribedUser_of_not_subscribed hnone)
          simp only [hsame]
          exact accounts_status (by rfl)
        · simp only [ServerLogger.logUserUnsubscribed, ServerLogger.call, beforeNul_stored]
          have hsub : team.isUserSubscribed user.uuid.bytes = true := by
            rw [hsubscribed] at hsub
            simpa using hsub
          have hjournaled := Journaled.unsubscribed (l := context.toServer.ledger)
            ⟨.usersList, buildUserPayload user⟩ huser hteam hsub rfl
          exact ⟨_, .entry_bind (writes_pure _), .perform (s := context.toServer.setTeams (updateTeam
            context.teams team.uuid.bytes fun team => (team.removeSubscribedUser user.uuid.bytes).2)) rfl
            hjournaled⟩

theorem sendMessage_writes (msg : Message) :
    Writes lib.accepts (Logs.sendMessage lib context msg) (sendMessage context msg)
      [.privateMessageSended msg.authorUuid.bytes msg.receiverUuid.bytes msg.body.bytes] := by
  simp only [Logs.sendMessage, ServerLogger.logPrivateMessageSent, ServerLogger.call, beforeNul_stored]
  apply Writes.entry_bind
  exact writes_pure _

theorem handleSend_accounts :
    Accounts lib context (Logs.handleSendCommand lib context) (handleSendCommand context) := by
  unfold Logs.handleSendCommand handleSendCommand
  refine both_ite (fun _ => accounts_status (by rfl)) fun hsize => ?_
  cases hauthor : context.authenticatedUsersByFd.lookup context.clientFd with
  | none => exact accounts_status (by rfl)
  | some author =>
    simp only
    cases hbody : extractFixedString
        (Packed.ofBytes (α := PayloadReqSendMsg) context.payloadData).messageBody.bytes with
    | none => exact accounts_status (by rfl)
    | some body =>
      cases htarget : extractFixedString
          (Packed.ofBytes (α := PayloadReqSendMsg) context.payloadData).targetUuid.bytes with
      | none => exact accounts_status (by rfl)
      | some target =>
        refine both_ite (fun _ => accounts_status (by rfl)) fun hvalid => ?_
        refine both_ite (fun hany => ?_) fun _ => accounts_status (by rfl)
        obtain ⟨user, huser, rfl⟩ : ∃ user ∈ context.users, user.uuid.bytes = target := by
          simpa using hany
        let message := Message.new (generateUuid context.environment.draw) author context.environment.now
          body user.uuid.bytes
        have hreceiver : message.receiverUuid = user.uuid := CString.copyBuffer_bytes user.uuid
        have hjournaled := Journaled.sent (l := context.toServer.ledger) message
          (context.toServer.sessions user.uuid.bytes) hauthor rfl ⟨user, huser, hreceiver.symm⟩
        refine ⟨_, (sendMessage_writes message).bind (writes_pure _), .perform
          (s := { context.toServer with
            messages := context.messages ++ [message]
            authenticatedUsersByUUID := (UnorderedMap.getOrInsert user.uuid.bytes []
              context.authenticatedUsersByUUID).2 }) ?_ hjournaled⟩
        rw [sendMessage_eq (congrArg CString.bytes hreceiver), queueStatus_queuePackets]
        rfl

theorem handleCreateTeam_accounts {user : User} (huser : getAuthenticatedUser context = some user) :
    AccountsFor lib context (Logs.handleCreateTeam lib context user) (handleCreateTeam context user) := by
  unfold Logs.handleCreateTeam handleCreateTeam
  cases hparse : parseCreateTeamPayload context with
  | none => exact accountsFor_status (by rfl)
  | some texts =>
    obtain ⟨name, description⟩ := texts
    refine both_ite (fun _ => accountsFor_status (by rfl)) fun _ => ?_
    cases huuid : generateUniqueTeamUuid context with
    | none => exact accountsFor_none
    | some uuid =>
      obtain ⟨⟨draw, rfl⟩, hunused⟩ := generateUnused_eq_some huuid
      have hunused : findTeamByUuid context.teams (generateUuid draw) = none := by simpa using hunused
      let team := (Team.new (generateUuid draw) name description).addSubscribedUser user.uuid.bytes
      have hsubscribers : team.subscribedUserUuids = [user.uuid] := by
        simp [team, Team.addSubscribedUser, Team.new]
      simp only [ServerLogger.logTeamCreated, ServerLogger.call, beforeNul_stored]
      have hjournaled := Journaled.createdTeam (l := context.toServer.ledger) team
        ⟨.created, buildTeamPayload team⟩ huser (notMem_teamUuids hunused) rfl hsubscribers rfl
      exact accountsFor_some (.entry_bind (writes_pure _))
        (.perform (s := context.toServer.setTeams (context.teams ++ [team])) rfl hjournaled)

theorem handleCreateChannel_accounts {user : User} (huser : getAuthenticatedUser context = some user) :
    AccountsFor lib context (Logs.handleCreateChannel lib context user) (handleCreateChannel context user) := by
  unfold Logs.handleCreateChannel handleCreateChannel
  cases hparse : parseCreateChannelPayload context with
  | none => exact accountsFor_status (by rfl)
  | some texts =>
    obtain ⟨name, description⟩ := texts
    simp only
    cases hteam : findTeamByUuid context.teams context.contextTeamUuid with
    | none => exact accountsFor_status (by rfl)
    | some team =>
      refine both_ite (fun _ => accountsFor_status (by rfl)) fun hsub => ?_
      refine both_ite (fun _ => accountsFor_status (by rfl)) fun _ => ?_
      cases huuid : generateUniqueChannelUuid context with
      | none => exact accountsFor_none
      | some uuid =>
        obtain ⟨⟨draw, rfl⟩, hunused⟩ := generateUnused_eq_some huuid
        obtain ⟨-, -, hname, hdescription⟩ := parseCreateChannelPayload_eq_some hparse
        let channel := Channel.new (generateUuid draw) name description
        have hstored : channel.name.bytes = name := parseCreateChannelPayload_fits hparse
        have huuid : channel.uuid.bytes = generateUuid draw := bytes_copyBuffer_generateUuid draw
        have hfound : findTeamByUuid context.teams team.uuid.bytes = some team := by
          rw [uuid_of_findTeam hteam]
          exact hteam
        have hjournaled := Journaled.createdChannel (l := context.toServer.ledger) channel
          ⟨.created, buildChannelPayload channel⟩ huser hfound (not_not.mp hsub) rfl rfl
        simp only [ServerLogger.logChannelCreated, ServerLogger.call, beforeNul_stored,
          beforeNul_eq_self hname, beforeNul_eq_self (zero_notMem_generateUuid draw)]
        rw [hstored, huuid] at hjournaled
        refine accountsFor_some (.entry_bind (writes_pure _))
          (.perform (s := context.toServer.setTeams (updateTeam context.teams team.uuid.bytes fun team =>
            team.addChannel channel)) ?_ hjournaled)
        rw [uuid_of_findTeam hteam]
        simp only [← copyPadded_copyBuffer hname, ← copyPadded_copyBuffer hdescription,
          ← copyPadded_copyBuffer (n := uuidLength) (zero_notMem_generateUuid draw)]
        rfl

/-- The second text of a request fits the buffer that it is stored in, too. -/
theorem parseCreateThreadPayload_fits_body {title body : Bytes}
    (h : parseCreateThreadPayload context = some (title, body)) :
    (CString.copyBuffer maxBodyLength body).bytes = body := by
  unfold parseCreateThreadPayload at h
  split at h
  · cases h
  obtain ⟨_, _, h⟩ := Option.bind_eq_some_iff.mp h
  obtain ⟨_, hbody, h⟩ := Option.bind_eq_some_iff.mp h
  split at h
  · cases h
  · cases h
    exact fits_of_extract hbody

theorem parseCreateReplyPayload_fits {body : Bytes} (h : parseCreateReplyPayload context = some body) :
    (CString.copyBuffer maxBodyLength body).bytes = body := by
  unfold parseCreateReplyPayload at h
  split at h
  · cases h
  obtain ⟨_, hbody, h⟩ := Option.bind_eq_some_iff.mp h
  split at h
  · cases h
  · cases h
    exact fits_of_extract hbody

theorem accountsFor_unresolved {user : User} {status : StatusCode}
    (h : resolveContextTeamChannel context user = .error status) :
    AccountsFor lib context (pure (some (queueStatus context status))) (some (queueStatus context status)) := by
  rcases resolveContextTeamChannel_error h with rfl | rfl <;> exact accountsFor_status rfl

theorem handleCreateThread_accounts {user : User} (huser : getAuthenticatedUser context = some user) :
    AccountsFor lib context (Logs.handleCreateThread lib context user) (handleCreateThread context user) := by
  unfold Logs.handleCreateThread handleCreateThread
  cases hparse : parseCreateThreadPayload context with
  | none => exact accountsFor_status (by rfl)
  | some texts =>
    obtain ⟨title, body⟩ := texts
    simp only
    cases hresolved : resolveContextTeamChannel context user with
    | error status => exact accountsFor_unresolved hresolved
    | ok place =>
      obtain ⟨team, channel⟩ := place
      refine both_ite (fun _ => accountsFor_status (by rfl)) fun _ => ?_
      cases huuid : generateUniqueThreadUuid context with
      | none => exact accountsFor_none
      | some uuid =>
        obtain ⟨⟨draw, rfl⟩, hunused⟩ := generateUnused_eq_some huuid
        obtain ⟨-, -, -, htitle, hbody⟩ := parseCreateThreadPayload_eq_some hparse
        have hin := resolveContextTeamChannel_ok huser hresolved
        let thread := Thread.new (generateUuid draw) user.uuid.bytes context.environment.now title body
        have hauthor : thread.authorUuid = user.uuid := CString.copyBuffer_bytes user.uuid
        have hjournaled := Journaled.createdThread (l := context.toServer.ledger) thread
          ⟨.created, buildThreadPayload thread⟩ huser hin.toInTeam.found_uuid hin.subscribed
          hin.found_uuid hauthor rfl rfl
        have hcall : LogCall.threadCreated channel.uuid.bytes thread.uuid.bytes thread.authorUuid.bytes
            thread.title.bytes thread.body.bytes =
              .threadCreated channel.uuid.bytes (generateUuid draw) user.uuid.bytes title body := by
          rw [hauthor, show thread.uuid.bytes = _ from bytes_copyBuffer_generateUuid draw,
            show thread.title.bytes = _ from parseCreateThreadPayload_fits hparse,
            show thread.body.bytes = _ from parseCreateThreadPayload_fits_body hparse]
        rw [hcall] at hjournaled
        simp only [ServerLogger.logThreadCreated, ServerLogger.call, beforeNul_stored,
          beforeNul_eq_self htitle, beforeNul_eq_self hbody,
          beforeNul_eq_self (zero_notMem_generateUuid draw)]
        refine accountsFor_some (.entry_bind (writes_pure _))
          (.perform (s := context.toServer.setTeams (updateTeam context.teams team.uuid.bytes fun team =>
            updateChannel team channel.uuid.bytes fun channel => channel.addThread thread)) ?_ hjournaled)
        simp only [← copyPadded_copyBuffer htitle, ← copyPadded_copyBuffer hbody,
          ← copyPadded_copyBuffer (n := uuidLength) user.uuid.noNul,
          ← copyPadded_copyBuffer (n := uuidLength) (zero_notMem_generateUuid draw)]
        rfl

theorem handleCreateReply_accounts {user : User} (huser : getAuthenticatedUser context = some user) :
    Accounts lib context (Logs.handleCreateReply lib context user) (handleCreateReply context user) := by
  unfold Logs.handleCreateReply handleCreateReply
  cases hparse : parseCreateReplyPayload context with
  | none => exact accounts_status (by rfl)
  | some body =>
    simp only
    cases hresolved : resolveContextTeamChannel context user with
    | error status =>
      rcases resolveContextTeamChannel_error hresolved with rfl | rfl <;> exact accounts_status rfl
    | ok place =>
      obtain ⟨team, channel⟩ := place
      simp only
      cases hthread : findThreadByUuid channel context.contextThreadUuid with
      | none => exact accounts_status (by rfl)
      | some thread =>
        obtain ⟨-, -, hbody⟩ := parseCreateReplyPayload_eq_some hparse
        have hin : InThread context user team channel thread :=
          ⟨resolveContextTeamChannel_ok huser hresolved, hthread⟩
        let message := Message.new (generateUuid context.environment.draw) user.uuid.bytes
          context.environment.now body
        have hauthor : message.authorUuid = user.uuid := CString.copyBuffer_bytes user.uuid
        have hjournaled := Journaled.createdReply (l := context.toServer.ledger) message
          ⟨.created, buildReplyPayload thread message⟩ huser hin.toInTeam.found_uuid hin.subscribed
          hin.toInChannel.found_uuid hin.found_uuid hauthor rfl
        rw [show message.body.bytes = _ from parseCreateReplyPayload_fits hparse, hauthor] at hjournaled
        simp only [ServerLogger.logReplyCreated, ServerLogger.call, beforeNul_stored,
          beforeNul_eq_self hbody]
        refine ⟨_, .entry_bind (writes_pure _),
          .perform (s := context.toServer.setTeams (updateTeam context.teams team.uuid.bytes fun team =>
            updateChannel team channel.uuid.bytes fun channel =>
              updateThread channel thread.uuid.bytes fun thread => thread.addReply message)) ?_ hjournaled⟩
        simp only [← copyPadded_copyBuffer hbody, ← copyPadded_copyBuffer (n := uuidLength) user.uuid.noNul]
        rfl

theorem handleCreate_accounts :
    AccountsFor lib context (Logs.handleCreateCommand lib context) (handleCreateCommand context) := by
  unfold Logs.handleCreateCommand handleCreateCommand
  cases huser : getAuthenticatedUser context with
  | none => exact accountsFor_status (by rfl)
  | some user =>
    simp only
    refine both_ite (fun _ => accountsFor_status (by rfl)) fun _ => ?_
    refine both_ite (fun _ => accountsFor_status (by rfl)) fun _ => ?_
    refine both_ite (fun _ => handleCreateTeam_accounts huser) fun _ => ?_
    refine both_ite (fun _ => handleCreateChannel_accounts huser) fun _ => ?_
    refine both_ite (fun _ => handleCreateThread_accounts huser) fun _ => ?_
    exact (handleCreateReply_accounts huser).lift

/-- The commands without calls. -/
theorem Does.accountsFor {command : CommandID} {plain : CommandContext} (h : Does context command plain)
    (hcommand : command ∈ [CommandID.users, .userInfo, .info, .use, .list, .subscribedList, .messages]) :
    AccountsFor lib context (pure (some plain)) (some plain) := by
  obtain ⟨s, packets, heffect, hplain⟩ := h
  have hsilent : ∀ q ∈ packets, q.2.status.isEvent = false := by
    refine heffect.silent ?_
    intro hmem
    revert hcommand hmem
    cases command <;> decide
  have hledger : s.ledger = context.toServer.ledger := by
    cases heffect with
    | refused | unknownUser | answered | used => rfl
    | _ => exact absurd hcommand (by decide)
  refine accountsFor_some (writes_pure _) (.perform hplain ?_)
  rw [hledger]
  exact .nothing hsilent

theorem Logs.commandHandlers_codes :
    (Logs.commandHandlers lib).map Prod.fst = TeamsMirror.commandHandlers.map Prod.fst := rfl

theorem Logs.dispatch_unknown {code : UInt16} (h : ∀ command : CommandID, code ≠ command.code) :
    Logs.dispatchCommand lib context code = pure (some (queueStatus context .badRequest)) := by
  have hnone : ((Logs.commandHandlers lib).find? fun entry => entry.1 = code) = none := by
    rw [List.find?_eq_none]
    intro entry hentry he
    have hcode : entry.1 ∈ TeamsMirror.commandHandlers.map Prod.fst := by
      rw [← @Logs.commandHandlers_codes lib]
      exact List.mem_map_of_mem hentry
    obtain ⟨plain, hplain, hcode⟩ := List.mem_map.mp hcode
    obtain ⟨command, hcommand⟩ := exists_command_of_mem hplain
    rw [hcode, of_decide_eq_true he] at hcommand
    exact h command hcommand.symm
  rw [Logs.dispatchCommand, hnone]

theorem dispatch_accounts (code : UInt16) :
    AccountsFor lib context (Logs.dispatchCommand lib context code) (dispatchCommand context code) := by
  by_cases hcode : ∃ command : CommandID, code = command.code
  · obtain ⟨command, rfl⟩ := hcode
    cases command with
    | login => exact handleLogin_accounts
    | logout => exact handleLogout_accounts.lift
    | users => exact handleUsers_does.accountsFor (by decide)
    | userInfo => exact handleUser_does.accountsFor (by decide)
    | send => exact handleSend_accounts.lift
    | messages => exact handleMessages_does.accountsFor (by decide)
    | subscribe => exact handleSubscribe_accounts.lift
    | unsubscribe => exact handleUnsubscribe_accounts.lift
    | subscribedList => exact handleSubscribedList_does.accountsFor (by decide)
    | use => exact handleUse_does.accountsFor (by decide)
    | create => exact handleCreate_accounts
    | list => exact handleList_does.accountsFor (by decide)
    | info => exact handleInfo_does.accountsFor (by decide)
  · have hunknown : ∀ command : CommandID, code ≠ command.code := fun command he => hcode ⟨command, he⟩
    rw [Logs.dispatch_unknown hunknown, TeamsMirror.dispatch_unknown hunknown]
    exact accountsFor_status (by rfl)

end

/-- The logged server steps as the plain one, and its calls report what the step does. -/
theorem handle_accounts (lib : LoggingServer) (s : Server) (e : Event) :
    ∃ calls, Writes lib.accepts (Logs.handle lib s e) (s.handle e) calls ∧
      ∀ s' queued, s.handle e = some (s', queued) → Journaled s.ledger e.fd s'.ledger queued calls := by
  cases e with
  | accept fd =>
    refine ⟨[], writes_pure _, fun s' queued h => ?_⟩
    obtain ⟨-, rfl, rfl⟩ := Server.handle_accept h
    exact .nothing (by simp)
  | receive fd chunk =>
    refine ⟨[], writes_pure _, fun s' queued h => ?_⟩
    obtain ⟨-, rfl, rfl⟩ := Server.handle_receive h
    exact .nothing (by simp)
  | flush fd n =>
    refine ⟨[], writes_pure _, fun s' queued h => ?_⟩
    obtain ⟨-, -, rfl, rfl⟩ := Server.handle_flush h
    exact .nothing (by simp)
  | disconnect fd =>
    obtain ⟨calls, hwrites, packets, hqueued, hjournaled⟩ :=
      @handleClientDisconnection_accounts lib (s.context fd [] default)
    simp only [Logs.handle, Server.handle]
    by_cases hfd : fd ∈ s.clientSockets
    · rw [if_pos hfd, if_pos hfd]
      refine ⟨calls ++ [], hwrites.bind (writes_pure _), fun s' queued h => ?_⟩
      cases h
      rw [hqueued, List.append_nil]
      exact hjournaled
    · rw [if_neg hfd, if_neg hfd]
      exact ⟨[], writes_pure _, fun _ _ h => by cases h⟩
  | dispatch fd environment =>
    simp only [Logs.handle, Server.handle]
    by_cases hfd : fd ∈ s.clientSockets
    · rw [if_pos hfd, if_pos hfd]
      cases hpeek : peekPacket (s.clientManager.getIncomingBuffer fd) with
      | none => exact ⟨[], writes_pure _, fun _ _ h => by cases h⟩
      | some packet =>
        obtain ⟨header, payload⟩ := packet
        obtain ⟨calls, hwrites, hrecounted⟩ :=
          @dispatch_accounts lib (s.context fd payload environment) header.code
        have hplain : ((processPacket s fd environment header payload).map fun r => (r.1, r.2.queued)) =
            (dispatchCommand (s.context fd payload environment) header.code).map fun context =>
              ({ context.toServer with
                  clientManager := context.clientManager.consumeIncomingBuffer fd
                    (sizeof PacketHeader + header.payloadSize.toNat) }, context.queued) := by
          unfold processPacket
          cases dispatchCommand (s.context fd payload environment) header.code <;> rfl
        refine ⟨calls ++ [], ?_, fun s' queued h => ?_⟩
        · simp only [hplain]
          exact hwrites.bind (writes_pure _)
        · simp only [hplain, Option.map_eq_some_iff] at h
          obtain ⟨context', hcontext', h⟩ := h
          cases h
          obtain ⟨packets, hqueued, hjournaled⟩ := hrecounted context' hcontext'
          rw [hqueued, List.append_nil]
          exact hjournaled
    · rw [if_neg hfd, if_neg hfd]
      exact ⟨[], writes_pure _, fun _ _ h => by cases h⟩

end TeamsMirror
