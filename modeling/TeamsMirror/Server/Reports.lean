import TeamsMirror.Server.Provenance

/-!
# What packets report

The texts of a packet are those of users, messages and places of the forest that
are stored when the command is done, whoever the packet goes to. `Reports` lists
what a packet may be built from.
-/

namespace TeamsMirror

open Lists Server

/-- The packet is a status, names a user that is unknown, or is built from something stored. -/
inductive Reports (users : List User) (teams : List Team) (messages : List Message) : Packet → Prop where
  | status (status : StatusCode) : Reports users teams messages (.ofStatus status)
  | unknownUser (uuid : Bytes) :
      Reports users teams messages ⟨.notFound, .errUnknown { unknownUuid := .copyPadded _ uuid }⟩
  | user (status : StatusCode) {u : User} : u ∈ users →
      Reports users teams messages ⟨status, buildUserPayload u⟩
  | login {u : User} : u ∈ users → Reports users teams messages (loginEvent u)
  | logout {u : User} : u ∈ users → Reports users teams messages (logoutEvent u)
  | message (status : StatusCode) {m : Message} : m ∈ messages →
      Reports users teams messages ⟨status, buildMessagePayload m⟩
  | privateMessage {m : Message} : m ∈ messages → Reports users teams messages (privateMessageEvent m)
  | team (status : StatusCode) {t : Team} : t ∈ teams →
      Reports users teams messages ⟨status, buildTeamPayload t⟩
  | teamEvent {t : Team} : t ∈ teams → Reports users teams messages (teamCreatedEvent t)
  | channel (status : StatusCode) {t : Team} {c : Channel} : t ∈ teams → c ∈ t.channels →
      Reports users teams messages ⟨status, buildChannelPayload c⟩
  | channelEvent {t : Team} {c : Channel} : t ∈ teams → c ∈ t.channels →
      Reports users teams messages (channelCreatedEvent c)
  | thread (status : StatusCode) {t : Team} {c : Channel} {d : Thread} : t ∈ teams → c ∈ t.channels →
      d ∈ c.threads → Reports users teams messages ⟨status, buildThreadPayload d⟩
  | threadEvent {t : Team} {c : Channel} {d : Thread} : t ∈ teams → c ∈ t.channels → d ∈ c.threads →
      Reports users teams messages (threadCreatedEvent d)
  | reply (status : StatusCode) {t : Team} {c : Channel} {d : Thread} {m : Message} : t ∈ teams →
      c ∈ t.channels → d ∈ c.threads → m ∈ d.replies →
      Reports users teams messages ⟨status, buildReplyPayload d m⟩
  | replyEvent {t : Team} {c : Channel} {d : Thread} {m : Message} : t ∈ teams → c ∈ t.channels →
      d ∈ c.threads → m ∈ d.replies → Reports users teams messages (replyCreatedEvent t d m)

/-- The packet reports what the server holds. -/
abbrev Server.Reports (s : Server) (p : Packet) : Prop := TeamsMirror.Reports s.users s.teams s.messages p

/-- The events of a session show a user's uuid and name only. -/
theorem Reports.login_of_same {users : List User} {teams : List Team} {messages : List Message} {u u' : User}
    (hmem : u' ∈ users) (huuid : u'.uuid = u.uuid) (hname : u'.name = u.name) :
    Reports users teams messages (loginEvent u) := by
  have hevent : loginEvent u = loginEvent u' := by rw [loginEvent, loginEvent, huuid, hname]
  rw [hevent]
  exact .login hmem

theorem Reports.logout_of_same {users : List User} {teams : List Team} {messages : List Message} {u u' : User}
    (hmem : u' ∈ users) (huuid : u'.uuid = u.uuid) (hname : u'.name = u.name) :
    Reports users teams messages (logoutEvent u) := by
  have hevent : logoutEvent u = logoutEvent u' := by rw [logoutEvent, logoutEvent, huuid, hname]
  rw [hevent]
  exact .logout hmem

/-- A user whose login is forgotten is stored with the same uuid and name. -/
theorem Reports.logout_of_found {users : List User} {teams : List Team} {messages : List Message}
    {uuid : Bytes} {u : User} (h : findUserByUuid users uuid = some u) :
    Reports (updateUser users uuid User.removeLoggedIn) teams messages (logoutEvent u) :=
  .logout_of_same (mem_modifyFirst_of_find h _) u.uuid_removeLoggedIn u.name_removeLoggedIn

section

variable {context : CommandContext} {P : Packet → Prop}

theorem forall_toClient {ps : List Packet} (h : ∀ p ∈ ps, P p) : ∀ q ∈ toClient context ps, P q.2 := by
  intro q hq
  obtain ⟨p, hp, rfl⟩ := List.mem_map.mp hq
  exact h p hp

theorem forall_toClient_one {p : Packet} (h : P p) : ∀ q ∈ toClient context [p], P q.2 :=
  forall_toClient (List.forall_mem_singleton.mpr h)

theorem forall_toClient_list {α : Type} {status : StatusCode} {f : α → Payload} {xs : List α}
    (hlast : P (.ofStatus .ok)) (h : ∀ x ∈ xs, P ⟨status, f x⟩) :
    ∀ q ∈ toClient context (listReply status (xs.map f)), P q.2 := by
  apply forall_toClient
  refine List.forall_mem_append.mpr ⟨fun p hp => ?_, List.forall_mem_singleton.mpr hlast⟩
  obtain ⟨payload, hpayload, rfl⟩ := List.mem_map.mp hp
  obtain ⟨x, hx, rfl⟩ := List.mem_map.mp hpayload
  exact h x hx

/-- A fan-out sends one packet. -/
theorem forall_each {α : Type} {xs : List α} {fd : α → Fd} {p : Packet} (h : P p) :
    ∀ q ∈ xs.map fun x => (fd x, p), P q.2 := by
  intro q hq
  obtain ⟨x, -, rfl⟩ := List.mem_map.mp hq
  exact h

end

variable {context : CommandContext} {command : CommandID} {s : Server} {packets : List (Fd × Packet)}

theorem mem_of_filterMessages {messages : List Message} {a b : Bytes} {m : Message}
    (h : m ∈ filterMessages messages a b) : m ∈ messages :=
  List.mem_of_mem_filter h

theorem Answer.reports {ps : List Packet} (h : Answer context command ps) :
    ∀ q ∈ toClient context ps, context.toServer.Reports q.2 := by
  cases h with
  | users => exact forall_toClient_list (.status _) fun u hu => .user _ hu
  | user _ hu => exact forall_toClient_one (.user _ hu)
  | messages =>
    refine forall_toClient_list (.status _) fun m hm => .message _ ?_
    exact mem_of_filterMessages ((context.environment.sorter.perm _).mem_iff.mp hm)
  | alreadySubscribed => exact forall_toClient_one (.status _)
  | subscribedTeams => exact forall_toClient_list (.status _) fun t ht => .team _ (List.mem_of_mem_filter ht)
  | subscribedUsers =>
    refine forall_toClient_list (.status _) fun u hu => .user _ ?_
    obtain ⟨_, _, hu⟩ := List.mem_filterMap.mp hu
    exact List.mem_of_find?_eq_some hu
  | teams => exact forall_toClient_list (.status _) fun t ht => .team _ ht
  | channels h => exact forall_toClient_list (.status _) fun c hc => .channel _ h.mem hc
  | threads h => exact forall_toClient_list (.status _) fun d hd => .thread _ h.toInTeam.mem h.mem hd
  | replies h =>
    exact forall_toClient_list (.status _) fun m hm => .reply _ h.toInTeam.mem h.toInChannel.mem h.mem hm
  | userInfo h => exact forall_toClient_one (.user _ (mem_users_of_authenticated h))
  | teamInfo h => exact forall_toClient_one (.team _ h.mem)
  | channelInfo h => exact forall_toClient_one (.channel _ h.toInTeam.mem h.mem)
  | threadInfo h => exact forall_toClient_one (.thread _ h.toInTeam.mem h.toInChannel.mem h.mem)

theorem Effect.reports (h : Effect context command s packets) : ∀ q ∈ packets, s.Reports q.2 := by
  cases h with
  | refused => exact forall_toClient_one (.status _)
  | unknownUser => exact forall_toClient_one (.unknownUser _)
  | answered hanswer => exact hanswer.reports
  | registered =>
    refine List.forall_mem_append.mpr ⟨forall_toClient_one (.status _), forall_each (.login ?_)⟩
    simp [setUsers, addSession]
  | loggedIn _ hfind =>
    refine List.forall_mem_append.mpr ⟨forall_toClient_one (.status _), forall_each ?_⟩
    refine .login_of_same (mem_modifyFirst_of_find hfind _) ?_ ?_
    · exact User.uuid_addLoggedIn _
    · exact User.name_addLoggedIn _
  | @loggedOut uuid user _ hfind =>
    have hlogout : Reports (updateUser context.users uuid User.removeLoggedIn) context.teams context.messages
      (logoutEvent user) := .logout_of_found hfind
    refine List.forall_mem_append.mpr ⟨forall_toClient ?_, forall_each hlogout⟩
    exact List.forall_mem_cons.mpr ⟨.status _, List.forall_mem_singleton.mpr hlogout⟩
  | loggedOutUnknown => exact forall_toClient_one (.status _)
  | sent =>
    refine List.forall_mem_append.mpr ⟨forall_each (.privateMessage ?_), forall_toClient_one (.status _)⟩
    simp
  | subscribed huser => exact forall_toClient_one (.user _ (mem_users_of_authenticated huser))
  | unsubscribed huser _ hreply =>
    apply forall_toClient_one
    rw [hreply]
    split
    · exact .user _ (mem_users_of_authenticated huser)
    · exact .status _
  | used => exact forall_toClient_one (.status _)
  | @createdTeam _ _ _ _ team =>
    have ht : team ∈ context.teams ++ [team] := by simp
    exact List.forall_mem_append.mpr ⟨forall_toClient_one (.team _ ht), forall_each (.teamEvent ht)⟩
  | @createdChannel _ _ _ _ team channel h =>
    have ht := mem_updateTeam h.found fun team => team.addChannel channel
    have hc : channel ∈ (team.addChannel channel).channels := by simp [Team.addChannel]
    exact List.forall_mem_append.mpr
      ⟨forall_toClient_one (.channel _ ht hc), forall_each (.channelEvent ht hc)⟩
  | @createdThread _ _ _ _ team channel thread h =>
    have hc := mem_updateChannel h.found_uuid fun channel => channel.addThread thread
    have ht := mem_updateTeam h.toInTeam.found_uuid fun team =>
      updateChannel team channel.uuid.bytes fun channel => channel.addThread thread
    have hd : thread ∈ (channel.addThread thread).threads := by simp [Channel.addThread]
    exact List.forall_mem_append.mpr
      ⟨forall_toClient_one (.thread _ ht hc hd), forall_each (.threadEvent ht hc hd)⟩
  | @createdReply _ _ team channel thread reply h =>
    have hd := mem_updateThread h.found_uuid fun thread => thread.addReply reply
    have hc := mem_updateChannel h.toInChannel.found_uuid fun channel =>
      updateThread channel thread.uuid.bytes fun thread => thread.addReply reply
    have ht := mem_updateTeam h.toInTeam.found_uuid fun team =>
      updateChannel team channel.uuid.bytes fun channel =>
        updateThread channel thread.uuid.bytes fun thread => thread.addReply reply
    have hm : reply ∈ (thread.addReply reply).replies := by simp [Thread.addReply]
    have hreply : (context.toServer.setTeams _).Reports
        ⟨.created, buildReplyPayload (thread.addReply reply) reply⟩ := .reply _ ht hc hd hm
    have hevent : (context.toServer.setTeams _).Reports
        (replyCreatedEvent (updateChannel team channel.uuid.bytes fun channel =>
          updateThread channel thread.uuid.bytes fun thread => thread.addReply reply)
          (thread.addReply reply) reply) := .replyEvent ht hc hd hm
    exact List.forall_mem_append.mpr ⟨forall_toClient_one hreply, forall_each hevent⟩

/-- Every packet of every step reports what the server holds when the step is done. -/
theorem Server.handle_reports {s s' : Server} {e : Event} {queued : List (Fd × Packet)}
    (hs : s.handle e = some (s', queued)) : ∀ q ∈ queued, s'.Reports q.2 := by
  cases e with
  | dispatch fd environment =>
    obtain ⟨-, command, payload, middle, size, heffect, rfl⟩ := handle_dispatch hs
    exact heffect.reports
  | disconnect fd =>
    obtain ⟨-, middle, hd, rfl⟩ := handle_disconnect hs
    cases hd with
    | known _ hfind => exact forall_each (.logout_of_found hfind)
    | anonymous | unknown => simp
  | accept fd =>
    obtain ⟨-, -, rfl⟩ := handle_accept hs
    simp
  | receive fd chunk =>
    obtain ⟨-, rfl, -⟩ := handle_receive hs
    simp
  | flush fd n =>
    obtain ⟨-, -, rfl, -⟩ := handle_flush hs
    simp

end TeamsMirror
