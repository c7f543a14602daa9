import TeamsMirror.Common.Requests
import TeamsMirror.Server.Atomicity
import TeamsMirror.Server.Provenance

/-!
# Who is told

Events go out in loops over the session maps, some before and some after these
maps are changed, with a rule of exclusion for each handler. This file names the
connections that each loop reaches, and shows that it reaches each of them once.
-/

namespace TeamsMirror

open Lists Server

/-- `event` once for each of the recipients, and nothing else. -/
def Tells (packets : List (Fd × Packet)) (event : Packet) (recipients : Fd → Prop) : Prop :=
  ∃ fds : List Fd, fds.Nodup ∧ (∀ fd, fd ∈ fds ↔ recipients fd) ∧
    packets = fds.map fun fd => (fd, event)

/-- A reply to `fd`, and after it `event` once for each of the recipients. -/
def Announces (packets : List (Fd × Packet)) (fd : Fd) (reply event : Packet)
    (recipients : Fd → Prop) : Prop :=
  ∃ events, packets = (fd, reply) :: events ∧ Tells events event recipients

theorem Tells.congr {packets : List (Fd × Packet)} {event : Packet} {P Q : Fd → Prop}
    (h : Tells packets event P) (hPQ : ∀ fd, P fd ↔ Q fd) : Tells packets event Q := by
  obtain ⟨fds, hnodup, hmem, he⟩ := h
  exact ⟨fds, hnodup, fun fd => (hmem fd).trans (hPQ fd), he⟩

/-- One more recipient, told first. -/
theorem Tells.cons {packets : List (Fd × Packet)} {event : Packet} {P : Fd → Prop} {fd : Fd}
    (h : Tells packets event P) (hfd : ¬P fd) :
    Tells ((fd, event) :: packets) event fun fd' => fd' = fd ∨ P fd' := by
  obtain ⟨fds, hnodup, hmem, rfl⟩ := h
  have hnot : fd ∉ fds := fun hin => hfd ((hmem fd).mp hin)
  refine ⟨fd :: fds, List.nodup_cons.mpr ⟨hnot, hnodup⟩, fun fd' => ?_, rfl⟩
  rw [List.mem_cons, hmem]

theorem Tells.recipient {packets : List (Fd × Packet)} {event : Packet} {P : Fd → Prop}
    (h : Tells packets event P) : ∀ q ∈ packets, P q.1 := by
  obtain ⟨fds, -, hmem, rfl⟩ := h
  intro q hq
  obtain ⟨fd, hfd, rfl⟩ := List.mem_map.mp hq
  exact (hmem fd).mp hfd

section

variable (s : Server) (event : Packet)

theorem tells_toEveryone : Tells (toEveryone s event) event (· ∈ s.authenticatedUsersByFd) :=
  ⟨_, s.authenticatedUsersByFd.keys_nodup, fun _ => AList.mem_keys.symm, rfl⟩

theorem tells_toOthers (excludedClientFd : Fd) :
    Tells (toOthers s excludedClientFd event) event fun fd =>
      fd ∈ s.authenticatedUsersByFd ∧ fd ≠ excludedClientFd := by
  refine ⟨_, s.authenticatedUsersByFd.keys_nodup.filter _, fun fd => ?_, rfl⟩
  rw [List.mem_filter, decide_eq_true_eq]
  exact Iff.rfl

theorem tells_toSubscribers (team : Team) :
    Tells (toSubscribers s team event) event fun fd => s.Subscriber fd team := by
  refine ⟨(s.authenticatedUsersByFd.entries.filter fun entry =>
    team.isUserSubscribed entry.2).map Sigma.fst, ?_, fun fd => ?_, ?_⟩
  · have hsub : (s.authenticatedUsersByFd.entries.filter fun entry =>
        team.isUserSubscribed entry.2).map Sigma.fst |>.Sublist s.authenticatedUsersByFd.keys :=
      List.filter_sublist.map _
    exact hsub.nodup s.authenticatedUsersByFd.keys_nodup
  · constructor
    · intro hfd
      obtain ⟨entry, hentry, rfl⟩ := List.mem_map.mp hfd
      obtain ⟨hmem, hsub⟩ := List.mem_filter.mp hentry
      exact ⟨entry.2, UnorderedMap.mem_entries_iff.mp hmem, hsub⟩
    · intro hfd
      obtain ⟨uuid, hlookup, hsub⟩ := hfd
      exact List.mem_map.mpr ⟨⟨fd, uuid⟩,
        List.mem_filter.mpr ⟨UnorderedMap.mem_entries_iff.mpr hlookup, hsub⟩, rfl⟩
  · rw [toSubscribers, List.map_map]
    rfl

end

/-- No descriptor is the one that stands for "exclude nobody". -/
theorem Server.Linked.ne_neg_one {s : Server} (h : Linked s) {fd : Fd}
    (hfd : fd ∈ s.authenticatedUsersByFd) : fd ≠ -1 := by
  have hopen := (h.isOpen fd (h.live fd hfd)).1
  rintro rfl
  exact absurd hopen (by decide)

theorem Server.Linked.tells_all {s : Server} (h : Linked s) (event : Packet) :
    Tells (toOthers s (-1) event) event (· ∈ s.authenticatedUsersByFd) :=
  (tells_toOthers s event (-1)).congr fun _ => and_iff_left_of_imp h.ne_neg_one

/-- What a create command has made, and of what and whom it tells. -/
inductive Creation (s s' : Server) : (reply event : Packet) → (recipients : Fd → Prop) → Prop where
  | team {t : Team} : s'.teams = s.teams ++ [t] →
      Creation s s' ⟨.created, buildTeamPayload t⟩ (teamCreatedEvent t) (· ∈ s'.authenticatedUsersByFd)
  | channel {t : Team} {c : Channel} : findTeamByUuid s.teams t.uuid.bytes = some t →
      s'.teams = updateTeam s.teams t.uuid.bytes (fun team => team.addChannel c) →
      Creation s s' ⟨.created, buildChannelPayload c⟩ (channelCreatedEvent c) fun fd => s'.Subscriber fd t
  | thread {t : Team} {c : Channel} {d : Thread} : findTeamByUuid s.teams t.uuid.bytes = some t →
      findChannelByUuid t c.uuid.bytes = some c →
      s'.teams = updateTeam s.teams t.uuid.bytes (fun team =>
        updateChannel team c.uuid.bytes fun channel => channel.addThread d) →
      Creation s s' ⟨.created, buildThreadPayload d⟩ (threadCreatedEvent d) fun fd => s'.Subscriber fd t
  | reply {t : Team} {c : Channel} {d : Thread} {m : Message} :
      findTeamByUuid s.teams t.uuid.bytes = some t → findChannelByUuid t c.uuid.bytes = some c →
      findThreadByUuid c d.uuid.bytes = some d →
      s'.teams = updateTeam s.teams t.uuid.bytes (fun team =>
        updateChannel team c.uuid.bytes fun channel =>
          updateThread channel d.uuid.bytes fun thread => thread.addReply m) →
      Creation s s' ⟨.created, buildReplyPayload d m⟩ (replyCreatedEvent t d m)
        fun fd => s'.Subscriber fd t

namespace Effect

variable {context : CommandContext} {command : CommandID} {s : Server} {packets : List (Fd × Packet)}

/-- A refusal is neither an OK nor a creation. -/
theorem refusal_status {status : StatusCode} (h : Refuses context command status) :
    status ≠ .ok ∧ status ≠ .created ∧ status.isEvent = false := by
  have hall : ∀ status ∈ refusals command,
      status ≠ .ok ∧ status ≠ .created ∧ status.isEvent = false := by
    cases command <;> decide
  exact hall status h.1

theorem status_of_mem_toClient {p p' : Packet} {fd : Fd} (h : (fd, p) ∈ toClient context [p']) : p = p' := by
  obtain ⟨q, hq, he⟩ := List.mem_map.mp h
  cases List.mem_singleton.mp hq
  exact (congrArg Prod.snd he).symm

theorem login_told (h : Effect context .login s packets)
    (hok : (context.clientFd, .ofStatus .ok) ∈ packets) :
    ∃ user ∈ s.users, s.authenticatedUsersByFd.lookup context.clientFd = some user.uuid.bytes ∧
      Announces packets context.clientFd (.ofStatus .ok) (loginEvent user)
        (· ∈ s.authenticatedUsersByFd) := by
  cases h with
  | refused hrefuses =>
    have hstatus := congrArg Packet.status (status_of_mem_toClient hok)
    exact absurd hstatus.symm (refusal_status hrefuses).1
  | answered hanswer => cases hanswer
  | @registered _ _ user =>
    exact ⟨user, by simp [setUsers, addSession], AList.lookup_insert _, _, rfl, tells_toEveryone _ _⟩
  | @loggedIn name user _ hfind =>
    have hmem := mem_modifyFirst_of_find hfind User.addLoggedIn
    exact ⟨user.addLoggedIn, hmem, AList.lookup_insert _, _, rfl, tells_toEveryone _ _⟩

theorem logout_told (h : Effect context .logout s packets) (hlinked : Linked context.toServer)
    (hlive : context.clientFd ∈ context.clientSockets)
    (hok : (context.clientFd, .ofStatus .ok) ∈ packets) :
    ∃ user ∈ context.users,
      context.authenticatedUsersByFd.lookup context.clientFd = some user.uuid.bytes ∧
      context.clientFd ∉ s.authenticatedUsersByFd ∧
      Announces packets context.clientFd (.ofStatus .ok) (logoutEvent user)
        (fun fd => fd = context.clientFd ∨ fd ∈ s.authenticatedUsersByFd) := by
  have hlinked' := hlinked.effect hlive h
  cases h with
  | refused hrefuses =>
    have hstatus := congrArg Packet.status (status_of_mem_toClient hok)
    exact absurd hstatus.symm (refusal_status hrefuses).1
  | answered hanswer => cases hanswer
  | @loggedOut uuid user huuid hfind =>
    have huser : user.uuid.bytes = uuid := by simpa using List.find?_some hfind
    have hgone : context.clientFd ∉ context.authenticatedUsersByFd.erase context.clientFd := by
      simp [AList.mem_erase]
    have hothers := hlinked'.tells_all (logoutEvent user)
    exact ⟨user, List.mem_of_find?_eq_some hfind, by rw [huuid, huser], hgone, _, rfl, hothers.cons hgone⟩
  | loggedOutUnknown =>
    have hstatus := congrArg Packet.status (status_of_mem_toClient hok)
    cases hstatus

theorem creation_told (h : Effect context .create s packets) {p : Packet}
    (hp : (context.clientFd, p) ∈ packets) (hcreated : p.status = .created) :
    ∃ reply event recipients, Creation context.toServer s reply event recipients ∧
      Announces packets context.clientFd reply event recipients := by
  cases h with
  | refused hrefuses =>
    have hstatus := congrArg Packet.status (status_of_mem_toClient hp)
    rw [hcreated] at hstatus
    exact absurd hstatus.symm (refusal_status hrefuses).2.1
  | answered hanswer => cases hanswer
  | createdTeam => exact ⟨_, _, _, .team rfl, _, rfl, tells_toEveryone _ _⟩
  | createdChannel h =>
    refine ⟨_, _, _, .channel h.found_uuid ?_, _, rfl, tells_toSubscribers _ _ _⟩
    rw [uuid_of_findTeam h.found]
    rfl
  | createdThread h =>
    exact ⟨_, _, _, .thread h.toInTeam.found_uuid h.found_uuid rfl, _, rfl, tells_toSubscribers _ _ _⟩
  | createdReply h =>
    exact ⟨_, _, _, .reply h.toInTeam.found_uuid h.toInChannel.found_uuid h.found_uuid rfl, _, rfl,
      tells_toSubscribers _ _ _⟩

/-- A list reply is no event. -/
theorem isEvent_listReply {status : StatusCode} {payloads : List Payload} (h : status.isEvent = false) :
    ∀ p ∈ listReply status payloads, p.status.isEvent = false := by
  intro p hp
  rcases mem_listReply hp with hstatus | rfl
  · rw [hstatus, h]
  · rfl

theorem isEvent_answer {ps : List Packet} (h : Answer context command ps) :
    ∀ p ∈ ps, p.status.isEvent = false := by
  cases h with
  | users | messages | subscribedTeams | subscribedUsers | teams | channels | threads | replies =>
    exact isEvent_listReply rfl
  | user | alreadySubscribed | userInfo | teamInfo | channelInfo | threadInfo =>
    exact List.forall_mem_singleton.mpr rfl

theorem silent (h : Effect context command s packets)
    (hcommand : command ∉ [CommandID.login, .logout, .create, .send]) :
    ∀ q ∈ packets, q.2.status.isEvent = false := by
  cases h with
  | refused hrefuses =>
    exact List.forall_mem_singleton.mpr (refusal_status hrefuses).2.2
  | unknownUser | subscribed | used => exact List.forall_mem_singleton.mpr rfl
  | answered hanswer => exact List.forall_mem_map.mpr (isEvent_answer hanswer)
  | unsubscribed _ _ hreply =>
    refine List.forall_mem_singleton.mpr ?_
    simp only [hreply]
    split <;> rfl
  | registered | loggedIn | loggedOut | loggedOutUnknown | sent | createdTeam | createdChannel
  | createdThread | createdReply => exact absurd (by decide) hcommand

end Effect

theorem CommandID.code_injective {c d : CommandID} (h : c.code = d.code) : c = d := by
  cases c <;> cases d <;> first | rfl | (exact absurd h (by decide))

namespace Server

variable {s s' : Server} {queued : List (Fd × Packet)}

/-- The effect of a dispatched command, with the server that it leaves. -/
theorem handle_dispatch_command {fd : Fd} {environment : Environment} {header : PacketHeader}
    {payload : Bytes} {command : CommandID} (h : s.handle (.dispatch fd environment) = some (s', queued))
    (hpeek : peekPacket (s.clientManager.getIncomingBuffer fd) = some (header, payload))
    (hcode : header.code = command.code) :
    ∃ middle, Effect (s.context fd payload environment) command middle queued ∧
      s' = { middle.deliver queued with
        clientManager := (middle.deliver queued).clientManager.consumeIncomingBuffer fd
          (sizeof PacketHeader + header.payloadSize.toNat) } := by
  obtain ⟨-, header', payload', middle, hpeek', hends, hs'⟩ := handle_dispatch_ends h
  cases hpeek.symm.trans hpeek'
  cases hends with
  | command hcode' heffect =>
    cases CommandID.code_injective (hcode.symm.trans hcode')
    exact ⟨middle, heffect, hs'⟩
  | unknown hunknown => exact absurd hcode (hunknown command)

theorem disconnection_told (hs : Linked s) (hknown : Known s) {fd : Fd} {uuid : Bytes}
    (h : s.handle (.disconnect fd) = some (s', queued))
    (huuid : s.authenticatedUsersByFd.lookup fd = some uuid) :
    ∃ user ∈ s.users, user.uuid.bytes = uuid ∧ fd ∉ s'.authenticatedUsersByFd ∧
      Tells queued (logoutEvent user) (· ∈ s'.authenticatedUsersByFd) := by
  obtain ⟨-, middle, hd, rfl⟩ := handle_disconnect h
  have hgone := (hs.disconnection hd).2.1
  cases hd with
  | anonymous hnone =>
    rw [huuid] at hnone
    cases hnone
  | unknown huuid' hnone =>
    obtain ⟨user, huser, -, -⟩ := hknown.exists_user huuid'
    rw [hnone] at huser
    cases huser
  | @known uuid' user huuid' hfind =>
    cases huuid.symm.trans huuid'
    have huser : user.uuid.bytes = uuid := by simpa using List.find?_some hfind
    refine ⟨user, List.mem_of_find?_eq_some hfind, huser, hgone, ?_⟩
    refine (tells_toOthers _ _ fd).congr fun fd' => and_iff_left_of_imp fun hfd' he => ?_
    exact hgone (he ▸ hfd')

/-- Connection 5 is logged in when connection 4 sends a login of its own. -/
def twoLoginsRun : List Event :=
  [.accept 4, .accept 5, .receive 5 (Request.login [98]).packet, .dispatch 5 default,
    .receive 4 (Request.login [98]).packet]

end Server

end TeamsMirror
