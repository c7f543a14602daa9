import TeamsMirror.Server.Dispatcher
import TeamsMirror.Server.Effects

/-!
# Every handler ends in an effect

One lemma for each handler, following its branches, and one for the dispatcher.
-/

namespace TeamsMirror

open Lists

variable {context context' : CommandContext}

theorem queueStatus_queuePackets (packets : List (Fd × Packet)) (status : StatusCode) :
    queueStatus (queuePackets context packets) status =
      queuePackets context (packets ++ toClient context [.ofStatus status]) := by
  have hfd : (queuePackets context packets).clientFd = context.clientFd := by rw [queuePackets_eq]
  rw [← queuePackets_queuePackets, queueStatus, hfd]
  rfl

theorem does_refuse {command : CommandID} {status : StatusCode} (h : Refuses context command status) :
    Does context command (queueStatus context status) :=
  ⟨_, _, .refused h, rfl⟩

theorem does_answer {command : CommandID} {packets : List Packet} (h : Answer context command packets) :
    Does context command (queuePackets context (toClient context packets)) :=
  ⟨_, _, .answered h, rfl⟩

/-- The loop of a list reply, closed by a status. -/
theorem does_list {command : CommandID} {status : StatusCode} {payloads : List Payload}
    (h : Answer context command (listReply status payloads)) :
    Does context command
      (queueStatus (queuePackets context
        (payloads.map fun payload => (context.clientFd, ⟨status, payload⟩))) .ok) := by
  have he : queueStatus (queuePackets context
      (payloads.map fun payload => (context.clientFd, ⟨status, payload⟩))) .ok =
        queuePackets context (toClient context (listReply status payloads)) := by
    rw [queueStatus_queuePackets]
    simp [toClient, listReply, Function.comp_def]
  rw [he]
  exact does_answer h

theorem refuse {command : CommandID} {status : StatusCode} (h : status ∈ refusals command)
    (hfor : RefusedFor context command status) : Does context command (queueStatus context status) :=
  does_refuse ⟨h, hfor⟩

theorem generateUnused_eq_some {environment : Environment} {used : Bytes → Bool} {uuid : Bytes}
    (h : generateUnused environment used = some uuid) :
    (∃ draw, uuid = generateUuid draw) ∧ used uuid = false := by
  have hmem := List.mem_of_find?_eq_some h
  obtain ⟨draw, -, rfl⟩ := List.mem_map.mp hmem
  exact ⟨⟨draw, rfl⟩, by simpa using List.find?_some h⟩

theorem completeLogin_eq (user : User) :
    completeLogin context user =
      perform context (context.toServer.addSession context.clientFd user.uuid.bytes)
        (toClient context [.ofStatus .ok] ++
          toEveryone (context.toServer.addSession context.clientFd user.uuid.bytes)
            (loginEvent user)) := by
  rw [perform, ← queuePackets_queuePackets]
  rfl

/-- All that a login can end in: a refusal, or a session of the user with the requested name. -/
inductive Entered (context : CommandContext) : CommandContext → Prop where
  | refused {status : StatusCode} : Refuses context .login status → Entered context (queueStatus context status)
  | registered {draw : Nat → Fin 16} {name : Bytes} {user : User} :
      context.payloadSize = sizeof PayloadReqLogin → context.clientFd ∉ context.authenticatedUsersByFd →
      extractFixedString (Packed.ofBytes (α := PayloadReqLogin) context.payloadData).userName.bytes =
        some name →
      name ≠ [] → findUserByName context.users name = none →
      findUserByUuid context.users (generateUuid draw) = none → user = User.new (generateUuid draw) name true →
      Entered context (perform context
        ((context.toServer.setUsers (context.users ++ [user])).addSession context.clientFd user.uuid.bytes)
        (toClient context [.ofStatus .ok] ++
          toEveryone (context.toServer.addSession context.clientFd user.uuid.bytes) (loginEvent user)))
  | loggedIn {name : Bytes} {user : User} :
      context.payloadSize = sizeof PayloadReqLogin → context.clientFd ∉ context.authenticatedUsersByFd →
      extractFixedString (Packed.ofBytes (α := PayloadReqLogin) context.payloadData).userName.bytes =
        some name →
      findUserByName context.users name = some user →
      Entered context (perform context
        ((context.toServer.setUsers (modifyFirst (fun user => user.name.bytes = name) User.addLoggedIn
          context.users)).addSession context.clientFd user.uuid.bytes)
        (toClient context [.ofStatus .ok] ++
          toEveryone (context.toServer.addSession context.clientFd user.uuid.bytes) (loginEvent user)))

theorem handleLogin_cases (h : handleLoginCommand context = some context') : Entered context context' := by
  unfold handleLoginCommand at h
  split at h
  · exact Option.some.inj h ▸ .refused ⟨by decide, trivial⟩
  next hsize =>
  split at h
  · next hfd => exact Option.some.inj h ▸ .refused ⟨by decide, hfd⟩
  next hfd =>
  simp only at h
  split at h
  · exact Option.some.inj h ▸ .refused ⟨by decide, trivial⟩
  next name hname =>
  split at h
  · exact Option.some.inj h ▸ .refused ⟨by decide, trivial⟩
  next hne =>
  split at h
  · next hnone =>
    obtain ⟨uuid, huuid, h⟩ := Option.bind_eq_some_iff.mp h
    obtain ⟨⟨draw, rfl⟩, hunused⟩ := generateUnused_eq_some huuid
    have hunused : findUserByUuid context.users (generateUuid draw) = none := by simpa using hunused
    rw [← Option.some.inj h, completeLogin_eq]
    exact .registered (not_not.mp hsize) hfd hname hne hnone hunused rfl
  · next user hsome =>
    have hentered := Entered.loggedIn (not_not.mp hsize) hfd hname hsome
    rw [← Option.some.inj h, completeLogin_eq]
    exact hentered

theorem handleLogin_does (h : handleLoginCommand context = some context') :
    Does context .login context' := by
  cases handleLogin_cases h with
  | refused hstatus => exact does_refuse hstatus
  | registered _ hfd _ hne hnone hunused huser =>
    exact ⟨_, _, .registered hfd hne hnone hunused huser, rfl⟩
  | loggedIn _ hfd _ hsome => exact ⟨_, _, .loggedIn hfd hsome, rfl⟩

theorem handleLogout_does : Does context .logout (handleLogoutCommand context) := by
  unfold handleLogoutCommand
  split
  · exact refuse (by decide) trivial
  split
  · exact refuse (by decide) trivial
  next uuid huuid =>
  simp only
  split
  · next hnone => exact ⟨_, _, .loggedOutUnknown huuid hnone, rfl⟩
  · next user hsome =>
    refine ⟨_, _, .loggedOut huuid hsome, ?_⟩
    rw [perform, ← queuePackets_queuePackets]
    rfl

theorem handleUsers_does : Does context .users (handleUsersCommand context) := by
  unfold handleUsersCommand
  split
  · exact refuse (by decide) trivial
  split
  · exact refuse (by decide) trivial
  next hfd =>
  have h := does_list (.users (not_not.mp hfd))
  rwa [List.map_map] at h

theorem handleUser_does : Does context .userInfo (handleUserCommand context) := by
  unfold handleUserCommand
  split
  · exact refuse (by decide) trivial
  split
  · exact refuse (by decide) trivial
  next hfd =>
  simp only
  split
  · exact refuse (by decide) trivial
  split
  · exact refuse (by decide) trivial
  split
  · next hnone => exact ⟨_, _, .unknownUser hnone, rfl⟩
  · next user hsome => exact does_answer (.user (not_not.mp hfd) (List.mem_of_find?_eq_some hsome))

theorem sendMessage_eq {message : Message} {target : Bytes} (h : message.receiverUuid.bytes = target) :
    sendMessage context message =
      queuePackets
        { context with
          authenticatedUsersByUUID :=
            (UnorderedMap.getOrInsert target [] context.authenticatedUsersByUUID).2 }
        ((context.toServer.sessions target).map fun fd => (fd, privateMessageEvent message)) := by
  subst h
  rw [Server.sessions, ← UnorderedMap.fst_getOrInsert]
  rfl

/-- All that a `CMD_SEND` can end in: a refusal, or a stored message that is delivered. -/
inductive Posted (context : CommandContext) : CommandContext → Prop where
  | refused {status : StatusCode} : status ∈ refusals .send → Posted context (queueStatus context status)
  | sent {author target body : Bytes} {message : Message} :
      context.payloadSize = sizeof PayloadReqSendMsg →
      context.authenticatedUsersByFd.lookup context.clientFd = some author →
      extractFixedString (Packed.ofBytes (α := PayloadReqSendMsg) context.payloadData).targetUuid.bytes =
        some target →
      extractFixedString (Packed.ofBytes (α := PayloadReqSendMsg) context.payloadData).messageBody.bytes =
        some body →
      isUuidFormatValid target = true → body ≠ [] → (∃ user ∈ context.users, user.uuid.bytes = target) →
      message = Message.new (generateUuid context.environment.draw) author context.environment.now body
        target →
      Posted context (perform context
        { context.toServer with
          messages := context.messages ++ [message]
          authenticatedUsersByUUID :=
            (UnorderedMap.getOrInsert target [] context.authenticatedUsersByUUID).2 }
        ((context.toServer.sessions target).map (fun fd => (fd, privateMessageEvent message)) ++
          toClient context [.ofStatus .ok]))

/-- A valid uuid is stored as it was requested. -/
theorem bytes_copyBuffer_uuid {uuid : Bytes} (h : isUuidFormatValid uuid = true) :
    (CString.copyBuffer uuidLength uuid).bytes = uuid :=
  CString.bytes_copyBuffer (Nat.le_of_eq (isUuidFormatValid_length h)) (isUuidFormatValid_noNul h)

theorem handleSend_cases (h : handleSendCommand context = context') : Posted context context' := by
  rw [← h]
  unfold handleSendCommand
  split
  · exact .refused (by decide)
  next hsize =>
  split
  · exact .refused (by decide)
  next author hauthor =>
  simp only
  split
  · next body target hbody htarget =>
    split
    · exact .refused (by decide)
    next hvalid =>
    split
    · next huser =>
      have huser : ∃ user ∈ context.users, user.uuid.bytes = target := by simpa using huser
      obtain ⟨hvalid, hne⟩ : isUuidFormatValid target = true ∧ body ≠ [] := by simpa using hvalid
      rw [sendMessage_eq (bytes_copyBuffer_uuid hvalid), queueStatus_queuePackets]
      exact .sent (not_not.mp hsize) hauthor htarget hbody hvalid hne huser rfl
    · exact .refused (by decide)
  · exact .refused (by decide)

theorem handleSend_does : Does context .send (handleSendCommand context) := by
  generalize hended : handleSendCommand context = ended
  cases handleSend_cases hended with
  | @refused status hstatus => exact refuse hstatus trivial
  | sent _ hauthor htarget _ hvalid hne huser hmessage =>
    exact ⟨_, _, .sent hauthor htarget hvalid hne huser hmessage, rfl⟩

theorem handleMessages_does : Does context .messages (handleMessagesCommand context) := by
  unfold handleMessagesCommand
  split
  · exact refuse (by decide) trivial
  split
  · exact refuse (by decide) trivial
  next clientUuid hclient =>
  simp only
  split
  · exact refuse (by decide) trivial
  next targetUuid htarget =>
  split
  · exact refuse (by decide) trivial
  split
  · exact refuse (by decide) trivial
  have h := does_list (.messages targetUuid hclient)
  rwa [List.map_map] at h

/-- A request to join or to leave a team: its sender is logged in, and it names the team. -/
structure Targets (context : CommandContext) (user : User) (uuid : Bytes) (team : Team) : Prop where
  authenticated : getAuthenticatedUser context = some user
  parsed : parseTeamUuidFromPayload context = some uuid
  found : findTeamByUuid context.teams uuid = some team

/-- Why such a request does not get to a team. -/
inductive Untargeted (context : CommandContext) : StatusCode → Prop where
  | unauthorized : getAuthenticatedUser context = none → Untargeted context .unauthorized
  | badRequest : parseTeamUuidFromPayload context = none → Untargeted context .badRequest
  | notFound {uuid : Bytes} : parseTeamUuidFromPayload context = some uuid →
      findTeamByUuid context.teams uuid = none → Untargeted context .notFound

section

variable {user : User} {uuid : Bytes} {team : Team} {status : StatusCode}

theorem Untargeted.not_targets (h : Untargeted context status) : ¬Targets context user uuid team := by
  intro htargets
  cases h with
  | unauthorized hnone => cases hnone.symm.trans htargets.authenticated
  | badRequest hnone => cases hnone.symm.trans htargets.parsed
  | notFound huuid hnone =>
    cases huuid.symm.trans htargets.parsed
    cases hnone.symm.trans htargets.found

theorem Untargeted.isError (h : Untargeted context status) : status.isError = true := by
  cases h <;> rfl

theorem Untargeted.not_isEvent (h : Untargeted context status) : status.isEvent = false := by
  cases h <;> rfl

theorem Untargeted.refuses (h : Untargeted context status) :
    Refuses context .subscribe status ∧ Refuses context .unsubscribe status := by
  cases h with
  | unauthorized => exact ⟨⟨by decide, trivial⟩, by decide, trivial⟩
  | badRequest hnone => exact ⟨⟨by decide, hnone⟩, by decide, hnone⟩
  | notFound => exact ⟨⟨by decide, trivial⟩, by decide, trivial⟩

/-- Both commands follow their request to the team in the same way. -/
theorem targets_or_refused (context : CommandContext) :
    (∃ user uuid team, Targets context user uuid team) ∨
      ∃ status, Untargeted context status ∧ handleSubscribeCommand context = queueStatus context status ∧
        handleUnsubscribeCommand context = queueStatus context status := by
  cases huser : getAuthenticatedUser context with
  | none =>
    right
    refine ⟨_, .unauthorized huser, ?_, ?_⟩
    · simp [handleSubscribeCommand, huser]
    · simp [handleUnsubscribeCommand, huser]
  | some user =>
    cases huuid : parseTeamUuidFromPayload context with
    | none =>
      right
      refine ⟨_, .badRequest huuid, ?_, ?_⟩
      · simp [handleSubscribeCommand, huser, huuid]
      · simp [handleUnsubscribeCommand, huser, huuid]
    | some uuid =>
      cases hteam : findTeamByUuid context.teams uuid with
      | none =>
        right
        refine ⟨_, .notFound huuid hteam, ?_, ?_⟩
        · simp [handleSubscribeCommand, huser, huuid, hteam]
        · simp [handleUnsubscribeCommand, huser, huuid, hteam]
      | some team => exact .inl ⟨user, uuid, team, huser, huuid, hteam⟩

theorem Targets.subscribe_eq (h : Targets context user uuid team) :
    handleSubscribeCommand context =
      if team.isUserSubscribed user.uuid.bytes = true then queueStatus context .ok
      else
        perform context
          (context.toServer.setTeams
            (updateTeam context.teams uuid fun team => team.addSubscribedUser user.uuid.bytes))
          (toClient context [⟨.usersList, buildUserPayload user⟩]) := by
  simp only [handleSubscribeCommand, h.authenticated, h.parsed, h.found]
  rfl

theorem Targets.unsubscribe_eq (h : Targets context user uuid team) :
    handleUnsubscribeCommand context =
      perform context
        (context.toServer.setTeams
          (updateTeam context.teams uuid fun team => (team.removeSubscribedUser user.uuid.bytes).2))
        (toClient context
          [if (team.removeSubscribedUser user.uuid.bytes).1 then ⟨.usersList, buildUserPayload user⟩
            else .ofStatus .ok]) := by
  simp only [handleUnsubscribeCommand, h.authenticated, h.parsed, h.found]
  by_cases hremoved : (team.removeSubscribedUser user.uuid.bytes).1 = true
  · simp only [hremoved, not_true, if_false, if_true]
    rfl
  · simp only [hremoved]
    rfl

end

theorem handleSubscribe_does : Does context .subscribe (handleSubscribeCommand context) := by
  rcases targets_or_refused context with ⟨user, uuid, team, h⟩ | ⟨status, huntargeted, hrefused, -⟩
  · rw [h.subscribe_eq]
    split
    · next hsub => exact does_answer (.alreadySubscribed h.authenticated (List.mem_of_find?_eq_some h.found) hsub)
    · next hsub => exact ⟨_, _, .subscribed h.authenticated h.found (by simpa using hsub), rfl⟩
  · rw [hrefused]
    exact does_refuse huntargeted.refuses.1

theorem handleUnsubscribe_does : Does context .unsubscribe (handleUnsubscribeCommand context) := by
  rcases targets_or_refused context with ⟨user, uuid, team, h⟩ | ⟨status, huntargeted, -, hrefused⟩
  · rw [h.unsubscribe_eq]
    exact ⟨_, _, .unsubscribed h.authenticated h.found rfl, rfl⟩
  · rw [hrefused]
    exact does_refuse huntargeted.refuses.2

theorem handleSubscribedList_does :
    Does context .subscribedList (handleSubscribedListCommand context) := by
  unfold handleSubscribedListCommand
  split
  · exact refuse (by decide) trivial
  next user huser =>
  split
  · next hsize =>
    have h := does_list (.subscribedTeams huser hsize)
    rwa [List.map_map] at h
  next hsize =>
  split
  · next hparse => exact refuse (by decide) ⟨hsize, hparse⟩
  split
  · exact refuse (by decide) trivial
  next team hteam =>
  have h := does_list (.subscribedUsers huser hsize (List.mem_of_find?_eq_some hteam))
  rwa [List.map_map] at h

theorem handleUse_does : Does context .use (handleUseCommand context) := by
  unfold handleUseCommand
  split
  · exact refuse (by decide) trivial
  split
  · exact refuse (by decide) trivial
  next hfd =>
  split
  · exact refuse (by decide) trivial
  · next hparse => exact ⟨_, _, .used (not_not.mp hfd) hparse, rfl⟩

theorem handleList_does : Does context .list (handleListCommand context) := by
  unfold handleListCommand
  split
  · exact refuse (by decide) trivial
  split
  · exact refuse (by decide) trivial
  next user huser =>
  simp only
  split
  · exact refuse (by decide) trivial
  split
  · exact does_list (.teams huser)
  split
  · exact refuse (by decide) trivial
  next team hteam =>
  split
  · exact refuse (by decide) trivial
  next hsub =>
  have hin : InTeam context user team := ⟨huser, hteam, not_not.mp hsub⟩
  split
  · exact does_list (.channels hin)
  split
  · exact refuse (by decide) trivial
  next channel hchannel =>
  split
  · exact does_list (.threads ⟨hin, hchannel⟩)
  split
  · exact refuse (by decide) trivial
  · next thread hthread => exact does_list (.replies ⟨⟨hin, hchannel⟩, hthread⟩)

theorem handleInfo_does : Does context .info (handleInfoCommand context) := by
  unfold handleInfoCommand
  split
  · exact refuse (by decide) trivial
  split
  · exact refuse (by decide) trivial
  next user huser =>
  simp only
  split
  · exact refuse (by decide) trivial
  split
  · exact does_answer (.userInfo huser)
  split
  · exact refuse (by decide) trivial
  next team hteam =>
  split
  · exact refuse (by decide) trivial
  next hsub =>
  have hin : InTeam context user team := ⟨huser, hteam, not_not.mp hsub⟩
  split
  · exact does_answer (.teamInfo hin)
  split
  · exact refuse (by decide) trivial
  next channel hchannel =>
  split
  · exact does_answer (.channelInfo ⟨hin, hchannel⟩)
  split
  · exact refuse (by decide) trivial
  · next thread hthread => exact does_answer (.threadInfo ⟨⟨hin, hchannel⟩, hthread⟩)

theorem zero_notMem_of_extract {rawData text : Bytes} (h : extractFixedString rawData = some text) :
    0 ∉ text := by
  unfold extractFixedString at h
  split at h
  · exact Option.some.inj h ▸ zero_notMem_beforeNul rawData
  · cases h

/-- A text without NUL is padded into an array as its stored copy is. -/
theorem copyPadded_copyBuffer {n : Nat} {text : Bytes} (h : 0 ∉ text) :
    CharArray.copyPadded n (CString.copyBuffer n text).bytes = CharArray.copyPadded n text := by
  have htake : 0 ∉ text.take (n - 1) := fun hmem => h (List.mem_of_mem_take hmem)
  simp only [CharArray.copyPadded, CString.copyBuffer, beforeNul_eq_self htake, List.take_take,
    Nat.min_self]

theorem zero_notMem_generateUuid (draw : Nat → Fin 16) : 0 ∉ generateUuid draw := by
  have hdigit : ∀ d : Fin 16, hexDigit d ≠ 0 := by decide
  intro h
  obtain ⟨i, -, hi⟩ := List.mem_map.mp h
  split at hi
  · cases hi
  · exact hdigit _ hi

theorem parseCreateTeamPayload_eq_some {name description : Bytes}
    (h : parseCreateTeamPayload context = some (name, description)) :
    context.payloadSize = sizeof PayloadReqCreateTeam ∧ name ≠ [] := by
  unfold parseCreateTeamPayload at h
  split at h
  · cases h
  next hsize =>
  obtain ⟨_, _, h⟩ := Option.bind_eq_some_iff.mp h
  obtain ⟨_, _, h⟩ := Option.bind_eq_some_iff.mp h
  split at h
  · cases h
  · next hne =>
    cases h
    exact ⟨not_not.mp hsize, hne⟩

theorem parseCreateChannelPayload_eq_some {name description : Bytes}
    (h : parseCreateChannelPayload context = some (name, description)) :
    context.payloadSize = sizeof PayloadReqCreateChannel ∧ name ≠ [] ∧ 0 ∉ name ∧ 0 ∉ description := by
  unfold parseCreateChannelPayload at h
  split at h
  · cases h
  next hsize =>
  obtain ⟨_, hname, h⟩ := Option.bind_eq_some_iff.mp h
  obtain ⟨_, hdescription, h⟩ := Option.bind_eq_some_iff.mp h
  split at h
  · cases h
  · next hne =>
    cases h
    exact ⟨not_not.mp hsize, hne, zero_notMem_of_extract hname, zero_notMem_of_extract hdescription⟩

theorem parseCreateThreadPayload_eq_some {title body : Bytes}
    (h : parseCreateThreadPayload context = some (title, body)) :
    context.payloadSize = sizeof PayloadReqCreateThread ∧ title ≠ [] ∧ body ≠ [] ∧ 0 ∉ title ∧
      0 ∉ body := by
  unfold parseCreateThreadPayload at h
  split at h
  · cases h
  next hsize =>
  obtain ⟨_, htitle, h⟩ := Option.bind_eq_some_iff.mp h
  obtain ⟨_, hbody, h⟩ := Option.bind_eq_some_iff.mp h
  split at h
  · cases h
  · next hne =>
    cases h
    obtain ⟨h₁, h₂⟩ : title ≠ [] ∧ body ≠ [] := by simpa using hne
    exact ⟨not_not.mp hsize, h₁, h₂, zero_notMem_of_extract htitle, zero_notMem_of_extract hbody⟩

theorem parseCreateReplyPayload_eq_some {body : Bytes} (h : parseCreateReplyPayload context = some body) :
    context.payloadSize = sizeof PayloadReqCreateReply ∧ body ≠ [] ∧ 0 ∉ body := by
  unfold parseCreateReplyPayload at h
  split at h
  · cases h
  next hsize =>
  obtain ⟨_, hbody, h⟩ := Option.bind_eq_some_iff.mp h
  split at h
  · cases h
  · next hne =>
    cases h
    exact ⟨not_not.mp hsize, hne, zero_notMem_of_extract hbody⟩

/-- All that the handler of creations can end in: a refusal, or one more entity where the context of
the connection leads, with the texts of the request. -/
inductive Created (context : CommandContext) : CommandContext → Prop where
  | refused {status : StatusCode} : status ∈ refusals .create → Created context (queueStatus context status)
  | team {user : User} {name description : Bytes} {draw : Nat → Fin 16} {team : Team} :
      getAuthenticatedUser context = some user →
      context.contextTeamUuid = [] → context.contextChannelUuid = [] → context.contextThreadUuid = [] →
      parseCreateTeamPayload context = some (name, description) →
      (∀ t ∈ context.teams, t.name.bytes ≠ name) →
      findTeamByUuid context.teams (generateUuid draw) = none →
      team = (Team.new (generateUuid draw) name description).addSubscribedUser user.uuid.bytes →
      Created context (perform context (context.toServer.setTeams (context.teams ++ [team]))
        (toClient context [⟨.created, buildTeamPayload team⟩] ++
          toEveryone context.toServer (teamCreatedEvent team)))
  | channel {user : User} {team : Team} {name description : Bytes} {draw : Nat → Fin 16} {channel : Channel} :
      InTeam context user team → context.contextChannelUuid = [] → context.contextThreadUuid = [] →
      parseCreateChannelPayload context = some (name, description) →
      (∀ c ∈ team.channels, c.name.bytes ≠ name) →
      isChannelUuidUsed context.teams (generateUuid draw) = false →
      channel = Channel.new (generateUuid draw) name description →
      Created context (perform context
        (context.toServer.setTeams (updateTeam context.teams context.contextTeamUuid fun team =>
          team.addChannel channel))
        (toClient context [⟨.created, buildChannelPayload channel⟩] ++
          toSubscribers context.toServer team (channelCreatedEvent channel)))
  | thread {user : User} {team : Team} {channel : Channel} {title body : Bytes} {draw : Nat → Fin 16}
      {thread : Thread} :
      InChannel context user team channel → context.contextThreadUuid = [] →
      parseCreateThreadPayload context = some (title, body) →
      (∀ d ∈ channel.threads, d.title.bytes ≠ title) →
      isThreadUuidUsed context.teams (generateUuid draw) = false →
      thread = Thread.new (generateUuid draw) user.uuid.bytes context.environment.now title body →
      Created context (perform context
        (context.toServer.setTeams (updateTeam context.teams team.uuid.bytes fun team =>
          updateChannel team channel.uuid.bytes fun channel => channel.addThread thread))
        (toClient context [⟨.created, buildThreadPayload thread⟩] ++
          toSubscribers context.toServer team (threadCreatedEvent thread)))
  | reply {user : User} {team : Team} {channel : Channel} {thread : Thread} {body : Bytes} {reply : Message} :
      InThread context user team channel thread → parseCreateReplyPayload context = some body →
      reply = Message.new (generateUuid context.environment.draw) user.uuid.bytes
        context.environment.now body →
      Created context (perform context
        (context.toServer.setTeams (updateTeam context.teams team.uuid.bytes fun team =>
          updateChannel team channel.uuid.bytes fun channel =>
            updateThread channel thread.uuid.bytes fun thread => thread.addReply reply))
        (toClient context [⟨.created, buildReplyPayload thread reply⟩] ++
          toSubscribers context.toServer team (replyCreatedEvent team thread reply)))

theorem handleCreateTeam_cases {user : User} (huser : getAuthenticatedUser context = some user)
    (hteam : context.contextTeamUuid = []) (hchannel : context.contextChannelUuid = [])
    (hthread : context.contextThreadUuid = []) (h : handleCreateTeam context user = some context') :
    Created context context' := by
  unfold handleCreateTeam at h
  split at h
  · exact Option.some.inj h ▸ .refused (by decide)
  next name description hparse =>
  split at h
  · exact Option.some.inj h ▸ .refused (by decide)
  next hnames =>
  have hnames : ∀ t ∈ context.teams, t.name.bytes ≠ name := by simpa using hnames
  obtain ⟨uuid, huuid, h⟩ := Option.bind_eq_some_iff.mp h
  obtain ⟨⟨draw, rfl⟩, hunused⟩ := generateUnused_eq_some huuid
  have hunused : findTeamByUuid context.teams (generateUuid draw) = none := by simpa using hunused
  let team := (Team.new (generateUuid draw) name description).addSubscribedUser user.uuid.bytes
  have hended : context' = perform context (context.toServer.setTeams (context.teams ++ [team]))
      (toClient context [⟨.created, buildTeamPayload team⟩] ++
        toEveryone context.toServer (teamCreatedEvent team)) := by
    rw [← Option.some.inj h, perform, ← queuePackets_queuePackets]
    rfl
  rw [hended]
  exact .team huser hteam hchannel hthread hparse hnames hunused rfl

theorem handleCreateChannel_cases {user : User} (huser : getAuthenticatedUser context = some user)
    (hchannel : context.contextChannelUuid = []) (hthread : context.contextThreadUuid = [])
    (h : handleCreateChannel context user = some context') : Created context context' := by
  unfold handleCreateChannel at h
  split at h
  · exact Option.some.inj h ▸ .refused (by decide)
  next name description hparse =>
  simp only at h
  split at h
  · exact Option.some.inj h ▸ .refused (by decide)
  next team hteam =>
  split at h
  · exact Option.some.inj h ▸ .refused (by decide)
  next hsub =>
  split at h
  · exact Option.some.inj h ▸ .refused (by decide)
  next hnames =>
  have hnames : ∀ c ∈ team.channels, c.name.bytes ≠ name := by simpa using hnames
  obtain ⟨uuid, huuid, h⟩ := Option.bind_eq_some_iff.mp h
  obtain ⟨⟨draw, rfl⟩, hunused⟩ := generateUnused_eq_some huuid
  obtain ⟨-, -, hname, hdescription⟩ := parseCreateChannelPayload_eq_some hparse
  let channel := Channel.new (generateUuid draw) name description
  have hended : context' = perform context
      (context.toServer.setTeams (updateTeam context.teams context.contextTeamUuid fun team =>
        team.addChannel channel))
      (toClient context [⟨.created, buildChannelPayload channel⟩] ++
        toSubscribers context.toServer team (channelCreatedEvent channel)) := by
    rw [← Option.some.inj h, perform, ← queuePackets_queuePackets]
    simp only [← copyPadded_copyBuffer hname, ← copyPadded_copyBuffer hdescription,
      ← copyPadded_copyBuffer (n := uuidLength) (zero_notMem_generateUuid draw)]
    rfl
  rw [hended]
  exact .channel ⟨huser, hteam, not_not.mp hsub⟩ hchannel hthread hparse hnames hunused rfl

theorem resolveContextTeamChannel_error {user : User} {status : StatusCode}
    (h : resolveContextTeamChannel context user = .error status) :
    status = .notFound ∨ status = .unauthorized := by
  unfold resolveContextTeamChannel at h
  split at h
  · cases h
    exact .inl rfl
  split at h
  · cases h
    exact .inr rfl
  split at h
  · cases h
    exact .inl rfl
  · cases h

theorem resolveContextTeamChannel_ok {user : User} {team : Team} {channel : Channel}
    (huser : getAuthenticatedUser context = some user)
    (h : resolveContextTeamChannel context user = .ok (team, channel)) :
    InChannel context user team channel := by
  unfold resolveContextTeamChannel at h
  split at h
  · cases h
  next hteam =>
  split at h
  · cases h
  next hsub =>
  split at h
  · cases h
  next hchannel =>
  cases h
  exact ⟨⟨huser, hteam, not_not.mp hsub⟩, hchannel⟩

theorem created_unresolved {user : User} {status : StatusCode}
    (h : resolveContextTeamChannel context user = .error status) :
    Created context (queueStatus context status) := by
  rcases resolveContextTeamChannel_error h with rfl | rfl <;> exact .refused (by decide)

theorem handleCreateThread_cases {user : User} (huser : getAuthenticatedUser context = some user)
    (hthread : context.contextThreadUuid = []) (h : handleCreateThread context user = some context') :
    Created context context' := by
  unfold handleCreateThread at h
  split at h
  · exact Option.some.inj h ▸ .refused (by decide)
  next title body hparse =>
  split at h
  · next herror => exact Option.some.inj h ▸ created_unresolved herror
  next team channel hok =>
  split at h
  · exact Option.some.inj h ▸ .refused (by decide)
  next htitles =>
  have htitles : ∀ d ∈ channel.threads, d.title.bytes ≠ title := by simpa using htitles
  obtain ⟨uuid, huuid, h⟩ := Option.bind_eq_some_iff.mp h
  obtain ⟨⟨draw, rfl⟩, hunused⟩ := generateUnused_eq_some huuid
  obtain ⟨-, -, -, htitle, hbody⟩ := parseCreateThreadPayload_eq_some hparse
  let thread := Thread.new (generateUuid draw) user.uuid.bytes context.environment.now title body
  have hended : context' = perform context
      (context.toServer.setTeams (updateTeam context.teams team.uuid.bytes fun team =>
        updateChannel team channel.uuid.bytes fun channel => channel.addThread thread))
      (toClient context [⟨.created, buildThreadPayload thread⟩] ++
        toSubscribers context.toServer team (threadCreatedEvent thread)) := by
    rw [← Option.some.inj h, perform, ← queuePackets_queuePackets]
    simp only [← copyPadded_copyBuffer htitle, ← copyPadded_copyBuffer hbody,
      ← copyPadded_copyBuffer (n := uuidLength) user.uuid.noNul,
      ← copyPadded_copyBuffer (n := uuidLength) (zero_notMem_generateUuid draw)]
    rfl
  rw [hended]
  exact .thread (resolveContextTeamChannel_ok huser hok) hthread hparse htitles hunused rfl

theorem handleCreateReply_cases {user : User} (huser : getAuthenticatedUser context = some user) :
    Created context (handleCreateReply context user) := by
  unfold handleCreateReply
  split
  · exact .refused (by decide)
  next body hparse =>
  split
  · next herror => exact created_unresolved herror
  next team channel hok =>
  split
  · exact .refused (by decide)
  next thread hthread =>
  obtain ⟨-, -, hbody⟩ := parseCreateReplyPayload_eq_some hparse
  have hin : InThread context user team channel thread := ⟨resolveContextTeamChannel_ok huser hok, hthread⟩
  refine Eq.subst (motive := Created context) ?_ (.reply hin hparse rfl)
  rw [perform, ← queuePackets_queuePackets]
  simp only [← copyPadded_copyBuffer hbody,
    ← copyPadded_copyBuffer (n := uuidLength) user.uuid.noNul]
  rfl

theorem handleCreate_cases (h : handleCreateCommand context = some context') : Created context context' := by
  unfold handleCreateCommand at h
  split at h
  · exact Option.some.inj h ▸ .refused (by decide)
  next user huser =>
  simp only at h
  split at h
  · exact Option.some.inj h ▸ .refused (by decide)
  next hteamGap =>
  split at h
  · exact Option.some.inj h ▸ .refused (by decide)
  next hchannelGap =>
  split at h
  · next hteam => exact handleCreateTeam_cases huser (by grind) (by grind) (by grind) h
  split at h
  · next hchannel => exact handleCreateChannel_cases huser (by grind) (by grind) h
  split at h
  · next hthread => exact handleCreateThread_cases huser (by grind) h
  · exact Option.some.inj h ▸ handleCreateReply_cases huser

theorem handleCreate_does (h : handleCreateCommand context = some context') :
    Does context .create context' := by
  cases handleCreate_cases h with
  | @refused status hstatus => exact refuse hstatus trivial
  | team huser _ _ _ hparse hnames hunused hteam =>
    obtain ⟨hsize, hne⟩ := parseCreateTeamPayload_eq_some hparse
    exact ⟨_, _, .createdTeam huser hne hnames hunused hteam hsize, rfl⟩
  | channel hin _ _ hparse hnames hunused hchannel =>
    obtain ⟨hsize, hne, -⟩ := parseCreateChannelPayload_eq_some hparse
    exact ⟨_, _, .createdChannel hin hne hnames hunused hchannel hsize, rfl⟩
  | thread hin _ hparse htitles hunused hthread =>
    obtain ⟨hsize, htitle, hbody, -⟩ := parseCreateThreadPayload_eq_some hparse
    exact ⟨_, _, .createdThread hin htitle hbody htitles hunused hthread hsize, rfl⟩
  | reply hin hparse hreply =>
    obtain ⟨hsize, hbody, -⟩ := parseCreateReplyPayload_eq_some hparse
    exact ⟨_, _, .createdReply hin hbody hreply hsize, rfl⟩

/-- The handler registered under the code of a command ends in an effect of that command. -/
theorem dispatch_command {command : CommandID}
    (h : dispatchCommand context command.code = some context') : Does context command context' := by
  cases command with
  | login => exact handleLogin_does h
  | logout => exact Option.some.inj h ▸ handleLogout_does
  | users => exact Option.some.inj h ▸ handleUsers_does
  | userInfo => exact Option.some.inj h ▸ handleUser_does
  | send => exact Option.some.inj h ▸ handleSend_does
  | messages => exact Option.some.inj h ▸ handleMessages_does
  | subscribe => exact Option.some.inj h ▸ handleSubscribe_does
  | unsubscribe => exact Option.some.inj h ▸ handleUnsubscribe_does
  | subscribedList => exact Option.some.inj h ▸ handleSubscribedList_does
  | use => exact Option.some.inj h ▸ handleUse_does
  | create => exact handleCreate_does h
  | list => exact Option.some.inj h ▸ handleList_does
  | info => exact Option.some.inj h ▸ handleInfo_does

theorem commandHandlers_codes :
    commandHandlers.map Prod.fst =
      [CommandID.login, .users, .userInfo, .info, .logout, .use, .create, .list, .subscribe, .unsubscribe,
        .subscribedList, .messages, .send].map CommandID.code :=
  rfl

theorem exists_command_of_mem {entry : UInt16 × (CommandContext → Option CommandContext)}
    (h : entry ∈ commandHandlers) : ∃ command : CommandID, command.code = entry.1 := by
  have hcode : entry.1 ∈ commandHandlers.map Prod.fst := List.mem_map_of_mem h
  rw [commandHandlers_codes] at hcode
  obtain ⟨command, -, he⟩ := List.mem_map.mp hcode
  exact ⟨command, he⟩

/-- Any packet ends in an effect; one with an unknown code is refused like an ill-formed command. -/
theorem dispatch_does {code : UInt16} (h : dispatchCommand context code = some context') :
    ∃ command, Does context command context' := by
  cases hentry : commandHandlers.find? fun entry => entry.1 = code with
  | none =>
    rw [dispatchCommand, hentry] at h
    exact ⟨.login, Option.some.inj h ▸ refuse (by decide) trivial⟩
  | some entry =>
    obtain ⟨command, hcode⟩ := exists_command_of_mem (List.mem_of_find?_eq_some hentry)
    have hentry' : entry.1 = code := by simpa using List.find?_some hentry
    rw [← hentry', ← hcode] at h
    exact ⟨command, dispatch_command h⟩

/-- How a packet ends, by its code: in an effect of the command, or refused when there is none. -/
inductive Ends (context : CommandContext) (code : UInt16) : Server → List (Fd × Packet) → Prop where
  | command {command : CommandID} {s : Server} {packets : List (Fd × Packet)} : code = command.code →
      Effect context command s packets → Ends context code s packets
  | unknown : (∀ command : CommandID, code ≠ command.code) →
      Ends context code context.toServer (toClient context [.ofStatus .badRequest])

theorem dispatch_unknown {code : UInt16} (h : ∀ command : CommandID, code ≠ command.code) :
    dispatchCommand context code = some (queueStatus context .badRequest) := by
  have hnone : (commandHandlers.find? fun entry => entry.1 = code) = none := by
    rw [List.find?_eq_none]
    intro entry hentry he
    obtain ⟨command, hcommand⟩ := exists_command_of_mem hentry
    rw [of_decide_eq_true he] at hcommand
    exact h command hcommand.symm
  rw [dispatchCommand, hnone]

theorem dispatch_ends {code : UInt16} (h : dispatchCommand context code = some context') :
    ∃ s packets, Ends context code s packets ∧ context' = perform context s packets := by
  by_cases hcode : ∃ command : CommandID, code = command.code
  · obtain ⟨command, rfl⟩ := hcode
    obtain ⟨s, packets, heffect, he⟩ := dispatch_command h
    exact ⟨s, packets, .command rfl heffect, he⟩
  · have hunknown : ∀ command : CommandID, code ≠ command.code := fun command he => hcode ⟨command, he⟩
    rw [dispatch_unknown hunknown] at h
    exact ⟨_, _, .unknown hunknown, (Option.some.inj h).symm⟩

end TeamsMirror
