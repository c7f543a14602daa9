import TeamsMirror.Common.Requests
import TeamsMirror.Server.Sessions

/-!
# Errors change nothing

A command that answers a 4xx or 5xx status has done nothing else. The one
handler that changes the server before its last error branch is logout, and
there the branch is dead: a session always belongs to a user.
-/

namespace TeamsMirror

open Server

variable {context : CommandContext} {command : CommandID} {s : Server} {packets : List (Fd × Packet)}

theorem mem_listReply {status : StatusCode} {payloads : List Payload} {p : Packet}
    (h : p ∈ listReply status payloads) : p.status = status ∨ p = .ofStatus .ok := by
  rcases List.mem_append.mp h with h | h
  · obtain ⟨payload, -, rfl⟩ := List.mem_map.mp h
    exact .inl rfl
  · exact .inr (List.mem_singleton.mp h)

theorem listReply_isError {status : StatusCode} {payloads : List Payload}
    (hstatus : status.isError = false) : ∀ p ∈ listReply status payloads, p.status.isError = false := by
  intro p hp
  rcases mem_listReply hp with h | rfl
  · rw [h, hstatus]
  · rfl

theorem Answer.isError {packets : List Packet} (h : Answer context command packets) :
    ∀ p ∈ packets, p.status.isError = false := by
  cases h with
  | users | messages | subscribedTeams | subscribedUsers | teams | channels | threads | replies =>
    exact listReply_isError rfl
  | user | alreadySubscribed | userInfo | teamInfo | channelInfo | threadInfo =>
    intro p hp
    rw [List.mem_singleton.mp hp]
    rfl

theorem toClient_isError {ps : List Packet} (h : ∀ p ∈ ps, p.status.isError = false) :
    ∀ q ∈ toClient context ps, q.2.status.isError = false := by
  intro q hq
  obtain ⟨p, hp, rfl⟩ := List.mem_map.mp hq
  exact h p hp

theorem map_isError {fds : List Fd} {p : Packet} (h : p.status.isError = false) :
    ∀ q ∈ fds.map fun fd => (fd, p), q.2.status.isError = false := by
  intro q hq
  obtain ⟨fd, -, rfl⟩ := List.mem_map.mp hq
  exact h

theorem toSubscribers_isError {t : Team} {p : Packet} (h : p.status.isError = false) :
    ∀ q ∈ toSubscribers s t p, q.2.status.isError = false := by
  intro q hq
  obtain ⟨entry, -, rfl⟩ := List.mem_map.mp hq
  exact h

theorem append_isError {ps qs : List (Fd × Packet)} (hp : ∀ q ∈ ps, q.2.status.isError = false)
    (hq : ∀ q ∈ qs, q.2.status.isError = false) : ∀ q ∈ ps ++ qs, q.2.status.isError = false := by
  intro q h
  rcases List.mem_append.mp h with h | h
  · exact hp q h
  · exact hq q h

/-- An effect either changes nothing and answers one packet, or queues no error,
or is the logout of a session without a user. -/
theorem Effect.error_cases (h : Effect context command s packets) :
    (s = context.toServer ∧ ∃ p, packets = [(context.clientFd, p)]) ∨
      (∀ q ∈ packets, q.2.status.isError = false) ∨
      ∃ uuid, context.authenticatedUsersByFd.lookup context.clientFd = some uuid ∧
        findUserByUuid context.users uuid = none := by
  cases h with
  | refused => exact .inl ⟨rfl, _, rfl⟩
  | unknownUser => exact .inl ⟨rfl, _, rfl⟩
  | answered hanswer => exact .inr (.inl (toClient_isError hanswer.isError))
  | registered | loggedIn =>
    exact .inr (.inl (append_isError (toClient_isError (by simp [Packet.ofStatus]; decide)) (map_isError rfl)))
  | loggedOut =>
    refine .inr (.inl (append_isError (toClient_isError ?_) (map_isError rfl)))
    intro p hp
    rcases List.mem_cons.mp hp with rfl | hp
    · rfl
    · rw [List.mem_singleton.mp hp]
      rfl
  | loggedOutUnknown huuid hnone => exact .inr (.inr ⟨_, huuid, hnone⟩)
  | sent =>
    exact .inr (.inl (append_isError (map_isError rfl) (toClient_isError (by simp [Packet.ofStatus]; decide))))
  | subscribed | used => exact .inr (.inl (toClient_isError (by simp [Packet.ofStatus]; decide)))
  | unsubscribed _ _ hreply =>
    refine .inr (.inl (toClient_isError ?_))
    intro p hp
    rw [List.mem_singleton.mp hp, hreply]
    split <;> rfl
  | createdTeam =>
    exact .inr (.inl (append_isError (toClient_isError (by simp; decide)) (map_isError rfl)))
  | createdChannel | createdThread | createdReply =>
    exact .inr (.inl (append_isError (toClient_isError (by simp; decide)) (toSubscribers_isError rfl)))

namespace ClientManager

variable (m : ClientManager) (fd : Fd)

/-- The three parts of the context of a connection. -/
def getContext : Bytes × Bytes × Bytes :=
  (m.getContextTeamUuid fd, m.getContextChannelUuid fd, m.getContextThreadUuid fd)

theorem getContext_sendAll (packets : List (Fd × Packet)) :
    (m.sendAll packets).getContext fd = m.getContext fd := by
  simp only [getContext, getContextTeamUuid, getContextChannelUuid, getContextThreadUuid, find,
    lookup_sendAll, Option.map_map, Function.comp_def]

/-- A change that keeps the context of every client keeps them all. -/
theorem getContext_update {m : ClientManager} {fd fd' : Fd} {f : Client → Client}
    (hf : ∀ c, (f c).ctxTeamUuid = c.ctxTeamUuid ∧ (f c).ctxChannelUuid = c.ctxChannelUuid ∧
      (f c).ctxThreadUuid = c.ctxThreadUuid) :
    (m.update fd f).getContext fd' = m.getContext fd' := by
  simp only [getContext, getContextTeamUuid, getContextChannelUuid, getContextThreadUuid, find,
    lookup_update]
  cases m.clients.lookup fd' with
  | none => rfl
  | some c => by_cases hfd : fd' = fd <;> simp [hfd, hf]

/-- What queueing adds to the buffer of a live connection. -/
theorem getQueuedData_sendAll {fd : Fd} (hfd : fd ∈ m.clients) (packets : List (Fd × Packet)) :
    (m.sendAll packets).getQueuedData fd = m.getQueuedData fd ++ bytesFor fd packets := by
  obtain ⟨c, hc⟩ := UnorderedMap.exists_lookup hfd
  simp [getQueuedData, find, lookup_sendAll, hc]

theorem getQueuedData_sendAll_of_bytesFor {packets : List (Fd × Packet)} (h : bytesFor fd packets = []) :
    (m.sendAll packets).getQueuedData fd = m.getQueuedData fd := by
  simp [getQueuedData, find, lookup_sendAll, h]

theorem getIncomingBuffer_sendAll (packets : List (Fd × Packet)) :
    (m.sendAll packets).getIncomingBuffer fd = m.getIncomingBuffer fd := by
  simp only [getIncomingBuffer, find, lookup_sendAll, Option.map_map, Function.comp_def]

end ClientManager

/-- A command answered with an error has queued one packet and changed nothing else. -/
theorem error_shape {s : Server} (hs : s.Known) {fd : Fd} {payload : Bytes} {environment : Environment}
    {code : UInt16} {context' : CommandContext}
    (h : dispatchCommand (s.context fd payload environment) code = some context')
    (herror : ∃ p, (fd, p) ∈ context'.queued ∧ p.status.isError = true) :
    ∃ p : Packet, p.status.isError = true ∧ context'.queued = [(fd, p)] ∧
      context'.toServer = s.deliver [(fd, p)] := by
  obtain ⟨command, middle, packets, heffect, rfl⟩ := dispatch_does h
  have hqueued : (perform (s.context fd payload environment) middle packets).queued = packets :=
    queued_perform _ _ _
  rw [hqueued] at herror ⊢
  rw [toServer_perform]
  obtain ⟨p, hp, hperror⟩ := herror
  rcases heffect.error_cases with ⟨rfl, p', rfl⟩ | hnone | ⟨uuid, huuid, hunknown⟩
  · cases List.mem_singleton.mp hp
    exact ⟨p, hperror, rfl, rfl⟩
  · rw [hnone _ hp] at hperror
    cases hperror
  · have huuid : s.authenticatedUsersByFd.lookup fd = some uuid := huuid
    obtain ⟨user, huser, -, -⟩ := hs.exists_user huuid
    rw [show findUserByUuid s.users uuid = none from hunknown] at huser
    cases huser

/-- Whatever packet a connection sends, if the server answers an error status then nothing but
the sender's outgoing buffer has changed, and there by exactly one packet. -/
theorem error_changes_nothing {s : Server} (hs : s.Reachable) {fd : Fd} (hfd : fd ∈ s.clientSockets)
    {payload : Bytes} {environment : Environment} {code : UInt16} {context' : CommandContext}
    (h : dispatchCommand (s.context fd payload environment) code = some context')
    (herror : ∃ p, (fd, p) ∈ context'.queued ∧ p.status.isError = true) :
    context'.users = s.users ∧ context'.teams = s.teams ∧ context'.messages = s.messages ∧
      (∀ fd', context'.clientManager.getContext fd' = s.clientManager.getContext fd') ∧
      context'.authenticatedUsersByFd = s.authenticatedUsersByFd ∧
      context'.authenticatedUsersByUUID = s.authenticatedUsersByUUID ∧
      (∀ fd', fd' ≠ fd →
        context'.clientManager.getQueuedData fd' = s.clientManager.getQueuedData fd') ∧
      ∃ p : Packet, context'.queued = [(fd, p)] ∧ p.status.isError = true ∧
        context'.clientManager.getQueuedData fd = s.clientManager.getQueuedData fd ++ p.bytes := by
  obtain ⟨p, hp, hqueued, hserver⟩ := error_shape hs.known h herror
  have hown : bytesFor fd [(fd, p)] = p.bytes := by simp [bytesFor]
  rw [hserver]
  refine ⟨rfl, rfl, rfl, fun fd' => ?_, rfl, rfl, fun fd' hne => ?_, p, hqueued, hp, ?_⟩
  · exact ClientManager.getContext_sendAll _ fd' _
  · exact ClientManager.getQueuedData_sendAll_of_bytesFor _ fd' (by simp [bytesFor, Ne.symm hne])
  · rw [← hown]
    exact ClientManager.getQueuedData_sendAll _ ((hs.linked.clients fd).mpr hfd) _

/-- Two users log in, the second one creates a team and gets a message from the first. -/
def filledRun : List Event :=
  let secondUserUuid := generateUuid (drawing 2).draw
  [.accept 4, .accept 5,
    .receive 4 (Request.login [97]).packet, .dispatch 4 (drawing 1),
    .receive 5 (Request.login [98]).packet, .dispatch 5 (drawing 2),
    .receive 5 (Request.createTeam [99] []).packet, .dispatch 5 (drawing 3),
    .receive 4 (Request.send secondUserUuid [104, 105]).packet, .dispatch 4 (drawing 4)]

/-- A team of that name is there already. -/
theorem error_changes_nothing_known_name :
    ∃ s context', Runs.run Server.step (Server.start 3 [] [] []) filledRun = some s ∧
      (s.users.length, s.teams.length, s.messages.length) = (2, 1, 1) ∧
      dispatchCommand (s.context 4 (Request.createTeam [99] [100]).payload default) CommandID.create.code =
        some context' ∧
      context'.users = s.users ∧ context'.teams = s.teams ∧ context'.messages = s.messages ∧
      ∃ p, context'.queued = [(4, p)] ∧ p.status = .alreadyExist := by
  have hfacts : ((Runs.run Server.step (Server.start 3 [] [] []) filledRun).bind fun s =>
      (dispatchCommand (s.context 4 (Request.createTeam [99] [100]).payload default) CommandID.create.code).map
        fun context' => ((s.users.length, s.teams.length, s.messages.length), decide (4 ∈ s.clientSockets),
          context'.queued.map fun q => (q.1, q.2.status))) =
      some ((2, 1, 1), true, [((4 : Fd), .alreadyExist)]) := by decide +kernel
  obtain ⟨s, hs, hfacts⟩ := Option.bind_eq_some_iff.mp hfacts
  obtain ⟨context', hdispatch, hfacts⟩ := Option.map_eq_some_iff.mp hfacts
  obtain ⟨hstored, hfacts⟩ := Prod.mk.inj hfacts
  obtain ⟨hfd, hstatus⟩ := Prod.mk.inj hfacts
  obtain ⟨⟨fd, p⟩, hqueued, hfirst⟩ := List.map_eq_singleton_iff.mp hstatus
  obtain ⟨rfl, hp⟩ := Prod.mk.inj hfirst
  obtain ⟨husers, hteams, hmessages, -⟩ := error_changes_nothing ⟨3, [], [], [], filledRun, hs⟩
    (of_decide_eq_true hfd) hdispatch ⟨p, by simp [hqueued], by rw [hp]; rfl⟩
  exact ⟨s, context', hs, hstored, hdispatch, husers, hteams, hmessages, p, hqueued, hp⟩

end TeamsMirror
