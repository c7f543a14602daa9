import TeamsMirror.Server.Sessions

/-!
# Where packets come from

Every packet that a command queues was built from something the server holds
once the command is done. `Issued` says from what, and for whom; it is the one
place where all commands are searched for the packets they can queue.
-/

namespace TeamsMirror

open Lists Server

/-- `fd` is logged in as a subscriber of `team`. -/
def Server.Subscriber (s : Server) (fd : Fd) (team : Team) : Prop :=
  ∃ uuid, s.authenticatedUsersByFd.lookup fd = some uuid ∧ team.isUserSubscribed uuid = true

inductive Issued (context : CommandContext) (s : Server) : Fd × Packet → Prop where
  | status (status : StatusCode) : Issued context s (context.clientFd, .ofStatus status)
  | unknownUser (uuid : Bytes) :
      Issued context s (context.clientFd, ⟨.notFound, .errUnknown { unknownUuid := .copyPadded _ uuid }⟩)
  | user (status : StatusCode) {u : User} : s.users = context.users →
      s.authenticatedUsersByFd = context.authenticatedUsersByFd → u ∈ s.users →
      Issued context s (context.clientFd, ⟨status, buildUserPayload u⟩)
  | message (message : Message) :
      Issued context s (context.clientFd, ⟨.messagesList, buildMessagePayload message⟩)
  | team (status : StatusCode) (t : Team) :
      Issued context s (context.clientFd, ⟨status, buildTeamPayload t⟩)
  | login (fd : Fd) (u : User) : Issued context s (fd, loginEvent u)
  | logout (fd : Fd) (u : User) : Issued context s (fd, logoutEvent u)
  | privateMessage {fd : Fd} {message : Message} : message ∈ s.messages →
      fd ∈ context.toServer.sessions message.receiverUuid.bytes →
      Issued context s (fd, privateMessageEvent message)
  | teamEvent (fd : Fd) (t : Team) : Issued context s (fd, teamCreatedEvent t)
  | channel (status : StatusCode) {fd : Fd} {t : Team} {c : Channel} : t ∈ s.teams → c ∈ t.channels →
      s.Subscriber fd t → Issued context s (fd, ⟨status, buildChannelPayload c⟩)
  | channelEvent {fd : Fd} {t : Team} {c : Channel} : t ∈ s.teams → c ∈ t.channels →
      s.Subscriber fd t → Issued context s (fd, channelCreatedEvent c)
  | thread (status : StatusCode) {fd : Fd} {t : Team} {c : Channel} {d : Thread} : t ∈ s.teams →
      c ∈ t.channels → d ∈ c.threads → s.Subscriber fd t →
      Issued context s (fd, ⟨status, buildThreadPayload d⟩)
  | threadEvent {fd : Fd} {t : Team} {c : Channel} {d : Thread} : t ∈ s.teams → c ∈ t.channels →
      d ∈ c.threads → s.Subscriber fd t → Issued context s (fd, threadCreatedEvent d)
  | reply (status : StatusCode) {fd : Fd} {t : Team} {c : Channel} {d : Thread} {m : Message} :
      t ∈ s.teams → c ∈ t.channels → d ∈ c.threads → m ∈ d.replies → s.Subscriber fd t →
      Issued context s (fd, ⟨status, buildReplyPayload d m⟩)
  | replyEvent {fd : Fd} {t : Team} {c : Channel} {d : Thread} {m : Message} : t ∈ s.teams →
      c ∈ t.channels → d ∈ c.threads → m ∈ d.replies → s.Subscriber fd t →
      Issued context s (fd, replyCreatedEvent t d m)

theorem mem_users_of_authenticated {context : CommandContext} {u : User}
    (h : getAuthenticatedUser context = some u) : u ∈ context.users := by
  obtain ⟨uuid, -, h⟩ := Option.bind_eq_some_iff.mp h
  exact List.mem_of_find?_eq_some h

theorem lookup_of_authenticated {context : CommandContext} {u : User}
    (h : getAuthenticatedUser context = some u) :
    context.authenticatedUsersByFd.lookup context.clientFd = some u.uuid.bytes := by
  obtain ⟨uuid, huuid, h⟩ := Option.bind_eq_some_iff.mp h
  have hu : u.uuid.bytes = uuid := by simpa using List.find?_some h
  rw [huuid, hu]

theorem uuid_of_findTeam {teams : List Team} {uuid : Bytes} {t : Team}
    (h : findTeamByUuid teams uuid = some t) : t.uuid.bytes = uuid := by
  simpa using List.find?_some h

theorem uuid_of_findChannel {t : Team} {uuid : Bytes} {c : Channel}
    (h : findChannelByUuid t uuid = some c) : c.uuid.bytes = uuid := by
  simpa using List.find?_some h

theorem uuid_of_findThread {c : Channel} {uuid : Bytes} {d : Thread}
    (h : findThreadByUuid c uuid = some d) : d.uuid.bytes = uuid := by
  simpa using List.find?_some h

theorem mem_modifyFirst_of_find {α : Type} {p : α → Bool} {l : List α} {x : α} (h : l.find? p = some x)
    (f : α → α) : f x ∈ modifyFirst p f l := by
  obtain ⟨l₁, l₂, -, -, -, hupdate⟩ := exists_split h
  rw [hupdate f]
  simp

theorem mem_updateTeam {teams : List Team} {uuid : Bytes} {t : Team}
    (h : findTeamByUuid teams uuid = some t) (f : Team → Team) : f t ∈ updateTeam teams uuid f :=
  mem_modifyFirst_of_find h f

theorem mem_updateChannel {t : Team} {uuid : Bytes} {c : Channel}
    (h : findChannelByUuid t uuid = some c) (f : Channel → Channel) :
    f c ∈ (updateChannel t uuid f).channels :=
  mem_modifyFirst_of_find h f

theorem mem_updateThread {c : Channel} {uuid : Bytes} {d : Thread}
    (h : findThreadByUuid c uuid = some d) (f : Thread → Thread) :
    f d ∈ (updateThread c uuid f).threads :=
  mem_modifyFirst_of_find h f

section

variable {context : CommandContext} {u : User} {t : Team} {c : Channel} {d : Thread}

theorem InTeam.mem (h : InTeam context u t) : t ∈ context.teams := List.mem_of_find?_eq_some h.found

theorem InTeam.subscriber (h : InTeam context u t) : context.toServer.Subscriber context.clientFd t :=
  ⟨_, lookup_of_authenticated h.authenticated, h.subscribed⟩

theorem InTeam.found_uuid (h : InTeam context u t) :
    findTeamByUuid context.teams t.uuid.bytes = some t := by
  rw [uuid_of_findTeam h.found]
  exact h.found

theorem InChannel.mem (h : InChannel context u t c) : c ∈ t.channels :=
  List.mem_of_find?_eq_some h.foundChannel

theorem InChannel.found_uuid (h : InChannel context u t c) :
    findChannelByUuid t c.uuid.bytes = some c := by
  rw [uuid_of_findChannel h.foundChannel]
  exact h.foundChannel

theorem InThread.mem (h : InThread context u t c d) : d ∈ c.threads :=
  List.mem_of_find?_eq_some h.foundThread

theorem InThread.found_uuid (h : InThread context u t c d) :
    findThreadByUuid c d.uuid.bytes = some d := by
  rw [uuid_of_findThread h.foundThread]
  exact h.foundThread

end

section

variable {context : CommandContext} {s : Server}

theorem issued_toClient {ps : List Packet} (h : ∀ p ∈ ps, Issued context s (context.clientFd, p)) :
    ∀ q ∈ toClient context ps, Issued context s q := by
  intro q hq
  obtain ⟨p, hp, rfl⟩ := List.mem_map.mp hq
  exact h p hp

theorem issued_one {p : Packet} (h : Issued context s (context.clientFd, p)) :
    ∀ q ∈ toClient context [p], Issued context s q :=
  issued_toClient fun _ hp => List.mem_singleton.mp hp ▸ h

theorem issued_list {α : Type} {status : StatusCode} {f : α → Payload} {xs : List α}
    (h : ∀ x ∈ xs, Issued context s (context.clientFd, ⟨status, f x⟩)) :
    ∀ q ∈ toClient context (listReply status (xs.map f)), Issued context s q := by
  refine issued_toClient fun p hp => ?_
  rcases List.mem_append.mp hp with hp | hp
  · obtain ⟨payload, hpayload, rfl⟩ := List.mem_map.mp hp
    obtain ⟨x, hx, rfl⟩ := List.mem_map.mp hpayload
    exact h x hx
  · exact List.mem_singleton.mp hp ▸ .status .ok

theorem issued_each {fds : List Fd} {p : Packet} (h : ∀ fd ∈ fds, Issued context s (fd, p)) :
    ∀ q ∈ fds.map fun fd => (fd, p), Issued context s q := by
  intro q hq
  obtain ⟨fd, hfd, rfl⟩ := List.mem_map.mp hq
  exact h fd hfd

theorem issued_append {ps qs : List (Fd × Packet)} (hp : ∀ q ∈ ps, Issued context s q)
    (hq : ∀ q ∈ qs, Issued context s q) : ∀ q ∈ ps ++ qs, Issued context s q := by
  intro q h
  rcases List.mem_append.mp h with h | h
  · exact hp q h
  · exact hq q h

/-- The fan-out to a team reaches subscribers only. -/
theorem issued_subscribers {s₀ : Server} {t : Team} {p : Packet}
    (h : ∀ fd, s₀.Subscriber fd t → Issued context s (fd, p)) :
    ∀ q ∈ toSubscribers s₀ t p, Issued context s q := by
  intro q hq
  obtain ⟨entry, hentry, rfl⟩ := List.mem_map.mp hq
  obtain ⟨hmem, hsub⟩ := List.mem_filter.mp hentry
  exact h entry.1 ⟨entry.2, UnorderedMap.mem_entries_iff.mp hmem, hsub⟩

end

variable {context : CommandContext} {command : CommandID} {s : Server} {packets : List (Fd × Packet)}

theorem Answer.issued {ps : List Packet} (h : Answer context command ps) :
    ∀ q ∈ toClient context ps, Issued context context.toServer q := by
  cases h with
  | users => exact issued_list fun u hu => .user _ rfl rfl hu
  | user _ hu => exact issued_one (.user _ rfl rfl hu)
  | messages => exact issued_list fun m _ => .message m
  | alreadySubscribed => exact issued_one (.status _)
  | subscribedTeams => exact issued_list fun t _ => .team _ t
  | subscribedUsers =>
    refine issued_list fun u hu => .user _ rfl rfl ?_
    obtain ⟨_, _, hu⟩ := List.mem_filterMap.mp hu
    exact List.mem_of_find?_eq_some hu
  | teams => exact issued_list fun t _ => .team _ t
  | channels h => exact issued_list fun c hc => .channel _ h.mem hc h.subscriber
  | threads h => exact issued_list fun d hd => .thread _ h.toInTeam.mem h.mem hd h.subscriber
  | replies h =>
    exact issued_list fun m hm => .reply _ h.toInTeam.mem h.toInChannel.mem h.mem hm h.subscriber
  | userInfo h => exact issued_one (.user _ rfl rfl (mem_users_of_authenticated h))
  | teamInfo => exact issued_one (.team _ _)
  | channelInfo h => exact issued_one (.channel _ h.toInTeam.mem h.mem h.subscriber)
  | threadInfo h =>
    exact issued_one (.thread _ h.toInTeam.mem h.toInChannel.mem h.mem h.subscriber)

theorem Effect.issued (h : Effect context command s packets) : ∀ q ∈ packets, Issued context s q := by
  cases h with
  | refused => exact issued_one (.status _)
  | unknownUser => exact issued_one (.unknownUser _)
  | answered hanswer => exact hanswer.issued
  | registered | loggedIn =>
    exact issued_append (issued_one (.status _)) (issued_each fun fd _ => .login fd _)
  | loggedOut =>
    refine issued_append (issued_toClient fun p hp => ?_) (issued_each fun fd _ => .logout fd _)
    rcases List.mem_cons.mp hp with rfl | hp
    · exact .status _
    · exact List.mem_singleton.mp hp ▸ .logout _ _
  | loggedOutUnknown => exact issued_one (.status _)
  | sent _ _ hvalid _ _ hmessage =>
    refine issued_append (issued_each fun fd hfd => .privateMessage (by simp) ?_) (issued_one (.status _))
    rw [hmessage]
    rwa [Message.new, bytes_copyBuffer_uuid hvalid]
  | subscribed huser => exact issued_one (.user _ rfl rfl (mem_users_of_authenticated huser))
  | unsubscribed huser _ hreply =>
    refine issued_one ?_
    rw [hreply]
    split
    · exact .user _ rfl rfl (mem_users_of_authenticated huser)
    · exact .status _
  | used => exact issued_one (.status _)
  | createdTeam => exact issued_append (issued_one (.team _ _)) (issued_each fun fd _ => .teamEvent fd _)
  | @createdChannel _ _ _ _ _ channel h =>
    have ht := mem_updateTeam h.found fun team => team.addChannel channel
    exact issued_append (issued_one (.channel _ ht (by simp [Team.addChannel]) h.subscriber))
      (issued_subscribers fun fd hfd => .channelEvent ht (by simp [Team.addChannel]) hfd)
  | @createdThread _ _ _ _ _ channel thread h =>
    have hc := mem_updateChannel h.found_uuid fun channel => channel.addThread thread
    have ht := mem_updateTeam h.toInTeam.found_uuid fun team =>
      updateChannel team channel.uuid.bytes fun channel => channel.addThread thread
    exact issued_append (issued_one (.thread _ ht hc (by simp [Channel.addThread]) h.subscriber))
      (issued_subscribers fun fd hfd => .threadEvent ht hc (by simp [Channel.addThread]) hfd)
  | @createdReply _ _ team channel thread reply h =>
    have hd := mem_updateThread h.found_uuid fun thread => thread.addReply reply
    have hc := mem_updateChannel h.toInChannel.found_uuid fun channel =>
      updateThread channel thread.uuid.bytes fun thread => thread.addReply reply
    have ht := mem_updateTeam h.toInTeam.found_uuid fun team =>
      updateChannel team channel.uuid.bytes fun channel =>
        updateThread channel thread.uuid.bytes fun thread => thread.addReply reply
    have hm : reply ∈ (thread.addReply reply).replies := by simp [Thread.addReply]
    have hreply : Issued context (context.toServer.setTeams _)
        (context.clientFd, ⟨.created, buildReplyPayload (thread.addReply reply) reply⟩) :=
      .reply _ ht hc hd hm h.subscriber
    refine issued_append (issued_one hreply) (issued_subscribers fun fd hfd => ?_)
    have hevent : Issued context (context.toServer.setTeams _)
        (fd, replyCreatedEvent (updateChannel team channel.uuid.bytes fun channel =>
          updateThread channel thread.uuid.bytes fun thread => thread.addReply reply)
          (thread.addReply reply) reply) :=
      .replyEvent ht hc hd hm hfd
    exact hevent

/-- So is every packet of every step, when the step is done. -/
theorem Server.handle_issued {s s' : Server} {e : Event} {queued : List (Fd × Packet)}
    (hs : s.handle e = some (s', queued)) : ∀ q ∈ queued, ∃ context middle, Issued context middle q ∧
      middle.users = s'.users ∧ middle.teams = s'.teams ∧
      middle.authenticatedUsersByFd = s'.authenticatedUsersByFd := by
  intro q hq
  cases e with
  | dispatch fd environment =>
    obtain ⟨-, command, payload, middle, size, heffect, rfl⟩ := handle_dispatch hs
    exact ⟨_, middle, heffect.issued q hq, rfl, rfl, rfl⟩
  | disconnect fd =>
    obtain ⟨-, middle, hd, rfl⟩ := handle_disconnect hs
    cases hd with
    | known =>
      obtain ⟨fd', -, rfl⟩ := List.mem_map.mp hq
      exact ⟨s.context fd [] default, _, .logout fd' _, rfl, rfl, rfl⟩
    | _ => cases hq
  | accept fd =>
    obtain ⟨-, -, rfl⟩ := handle_accept hs
    cases hq
  | receive fd chunk =>
    obtain ⟨-, rfl, -⟩ := handle_receive hs
    cases hq
  | flush fd n =>
    obtain ⟨-, -, rfl, -⟩ := handle_flush hs
    cases hq

end TeamsMirror
