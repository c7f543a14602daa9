import TeamsMirror.Common.Requests
import TeamsMirror.Link.Outbound
import TeamsMirror.Server.Recipients

/-!
# The authentication gate

Each handler tests the session of its sender by itself, some with the user behind
it and some with the map alone, before or after the size of the payload. The
order differs, and the outcome does not: without a session every request but a
login ends in a bare status. Whatever a request sets off reaches only connections
that are logged in, the sender's apart.
-/

namespace TeamsMirror

open Server

variable {context context' : CommandContext}

/-- The request is turned away with a bare status, and nothing else happens. -/
def TurnedAway (context context' : CommandContext) : Prop :=
  ∃ status : StatusCode, (status = .unauthorized ∨ status = .badRequest) ∧
    context' = queueStatus context status

theorem turnedAway_unauthorized : TurnedAway context (queueStatus context .unauthorized) :=
  ⟨_, .inl rfl, rfl⟩

theorem turnedAway_badRequest : TurnedAway context (queueStatus context .badRequest) :=
  ⟨_, .inr rfl, rfl⟩

/-- A size check before the test of the session. -/
theorem TurnedAway.guard {P : Prop} [Decidable P] (h : TurnedAway context context') :
    TurnedAway context (if P then queueStatus context .badRequest else context') := by
  split
  · exact turnedAway_badRequest
  · exact h

section

variable (h : context.clientFd ∉ context.authenticatedUsersByFd)
include h

theorem getAuthenticatedUser_eq_none : getAuthenticatedUser context = none := by
  rw [getAuthenticatedUser, AList.lookup_eq_none.mpr h]
  rfl

theorem handleLogout_turnedAway : TurnedAway context (handleLogoutCommand context) := by
  rw [handleLogoutCommand, AList.lookup_eq_none.mpr h]
  exact turnedAway_unauthorized.guard

theorem handleUsers_turnedAway : TurnedAway context (handleUsersCommand context) := by
  rw [handleUsersCommand, if_pos h]
  exact turnedAway_unauthorized.guard

theorem handleUser_turnedAway : TurnedAway context (handleUserCommand context) := by
  rw [handleUserCommand, if_pos h]
  exact turnedAway_unauthorized.guard

theorem handleUse_turnedAway : TurnedAway context (handleUseCommand context) := by
  rw [handleUseCommand, if_pos h]
  exact turnedAway_unauthorized.guard

theorem handleSend_turnedAway : TurnedAway context (handleSendCommand context) := by
  rw [handleSendCommand, AList.lookup_eq_none.mpr h]
  exact turnedAway_unauthorized.guard

theorem handleMessages_turnedAway : TurnedAway context (handleMessagesCommand context) := by
  rw [handleMessagesCommand, AList.lookup_eq_none.mpr h]
  exact turnedAway_unauthorized.guard

theorem handleSubscribe_turnedAway : TurnedAway context (handleSubscribeCommand context) := by
  rw [handleSubscribeCommand, getAuthenticatedUser_eq_none h]
  exact turnedAway_unauthorized

theorem handleUnsubscribe_turnedAway : TurnedAway context (handleUnsubscribeCommand context) := by
  rw [handleUnsubscribeCommand, getAuthenticatedUser_eq_none h]
  exact turnedAway_unauthorized

theorem handleSubscribedList_turnedAway : TurnedAway context (handleSubscribedListCommand context) := by
  rw [handleSubscribedListCommand, getAuthenticatedUser_eq_none h]
  exact turnedAway_unauthorized

theorem handleList_turnedAway : TurnedAway context (handleListCommand context) := by
  rw [handleListCommand, getAuthenticatedUser_eq_none h]
  exact turnedAway_unauthorized.guard

theorem handleInfo_turnedAway : TurnedAway context (handleInfoCommand context) := by
  rw [handleInfoCommand, getAuthenticatedUser_eq_none h]
  exact turnedAway_unauthorized.guard

theorem handleCreate_turnedAway :
    handleCreateCommand context = some (queueStatus context .unauthorized) := by
  rw [handleCreateCommand, getAuthenticatedUser_eq_none h]

/-- Whatever the code, but for that of a login. -/
theorem dispatch_turnedAway {code : UInt16} (hcode : code ≠ CommandID.login.code) :
    ∃ context', dispatchCommand context code = some context' ∧ TurnedAway context context' := by
  by_cases hknown : ∃ command : CommandID, code = command.code
  · obtain ⟨command, rfl⟩ := hknown
    cases command with
    | login => exact absurd rfl hcode
    | logout => exact ⟨_, rfl, handleLogout_turnedAway h⟩
    | users => exact ⟨_, rfl, handleUsers_turnedAway h⟩
    | userInfo => exact ⟨_, rfl, handleUser_turnedAway h⟩
    | send => exact ⟨_, rfl, handleSend_turnedAway h⟩
    | messages => exact ⟨_, rfl, handleMessages_turnedAway h⟩
    | subscribe => exact ⟨_, rfl, handleSubscribe_turnedAway h⟩
    | unsubscribe => exact ⟨_, rfl, handleUnsubscribe_turnedAway h⟩
    | subscribedList => exact ⟨_, rfl, handleSubscribedList_turnedAway h⟩
    | use => exact ⟨_, rfl, handleUse_turnedAway h⟩
    | create => exact ⟨_, handleCreate_turnedAway h, turnedAway_unauthorized⟩
    | list => exact ⟨_, rfl, handleList_turnedAway h⟩
    | info => exact ⟨_, rfl, handleInfo_turnedAway h⟩
  · exact ⟨_, dispatch_unknown fun command he => hknown ⟨command, he⟩, turnedAway_badRequest⟩

end

theorem fd_of_mem_toClient {packets : List Packet} {q : Fd × Packet} (h : q ∈ toClient context packets) :
    q.1 = context.clientFd := by
  obtain ⟨p, -, rfl⟩ := List.mem_map.mp h
  rfl

theorem mem_authenticated_of_session {s : Server} (h : Linked s) {fd : Fd} {uuid : Bytes}
    (hfd : fd ∈ s.sessions uuid) : fd ∈ s.authenticatedUsersByFd :=
  UnorderedMap.mem_of_lookup (h.owned uuid fd hfd)

/-- Others than the sender are told of something only while they are logged in. -/
theorem Effect.recipient {command : CommandID} {s : Server} {packets : List (Fd × Packet)}
    (h : Effect context command s packets) (hlinked : Linked context.toServer) :
    ∀ q ∈ packets, q.1 = context.clientFd ∨ q.1 ∈ context.authenticatedUsersByFd := by
  intro q hq
  cases h with
  | refused | unknownUser | answered | loggedOutUnknown | subscribed | unsubscribed | used =>
    exact .inl (fd_of_mem_toClient hq)
  | registered | loggedIn =>
    rcases List.mem_append.mp hq with hq | hq
    · exact .inl (fd_of_mem_toClient hq)
    · exact (AList.mem_insert _).mp ((tells_toEveryone _ _).recipient q hq)
  | loggedOut =>
    rcases List.mem_append.mp hq with hq | hq
    · exact .inl (fd_of_mem_toClient hq)
    · exact .inr (AList.mem_erase.mp ((tells_toOthers _ _ _).recipient q hq).1).2
  | sent =>
    rcases List.mem_append.mp hq with hq | hq
    · obtain ⟨fd, hfd, rfl⟩ := List.mem_map.mp hq
      exact .inr (mem_authenticated_of_session hlinked hfd)
    · exact .inl (fd_of_mem_toClient hq)
  | createdTeam =>
    rcases List.mem_append.mp hq with hq | hq
    · exact .inl (fd_of_mem_toClient hq)
    · exact .inr ((tells_toEveryone _ _).recipient q hq)
  | createdChannel | createdThread | createdReply =>
    rcases List.mem_append.mp hq with hq | hq
    · exact .inl (fd_of_mem_toClient hq)
    · obtain ⟨uuid, hlookup, -⟩ := (tells_toSubscribers _ _ _).recipient q hq
      exact .inr (UnorderedMap.mem_of_lookup hlookup)

/-- The connection whose packet is processed, or which ends. -/
def Event.ofClient : Event → Option Fd
  | .dispatch fd _ => some fd
  | .disconnect fd => some fd
  | _ => none

namespace Server

variable {s s' : Server} {fd : Fd} {queued : List (Fd × Packet)}

theorem recipient_step (hs : Linked s) {e : Event} (h : s.handle e = some (s', queued)) :
    ∀ q ∈ queued, e.ofClient = some q.1 ∨ q.1 ∈ s.authenticatedUsersByFd := by
  intro q hq
  cases e with
  | accept fd' =>
    obtain ⟨-, -, rfl⟩ := handle_accept h
    cases hq
  | receive fd' chunk =>
    obtain ⟨-, rfl, -⟩ := handle_receive h
    cases hq
  | flush fd' n =>
    obtain ⟨-, -, rfl, -⟩ := handle_flush h
    cases hq
  | dispatch fd' environment =>
    obtain ⟨-, command, payload, middle, size, heffect, -⟩ := handle_dispatch h
    exact (heffect.recipient hs q hq).imp (fun hq => congrArg some hq.symm) id
  | disconnect fd' =>
    obtain ⟨-, middle, hd, -⟩ := handle_disconnect h
    cases hd with
    | anonymous | unknown => cases hq
    | known => exact .inr (AList.mem_erase.mp ((tells_toOthers _ _ _).recipient q hq).1).2

theorem bytesFor_eq_nil (h : ∀ q ∈ queued, q.1 ≠ fd) : bytesFor fd queued = [] := by
  rw [bytesFor, List.filter_eq_nil_iff.mpr fun q hq => by simpa using h q hq]
  rfl

/-- What a step for another connection adds to an outgoing buffer. -/
theorem outgoing_step (hs : Linked s) {e : Event} {fd' : Fd} (he : e.ofClient = some fd')
    (hne : fd ≠ fd') (hfd : fd ∈ s.clientSockets) (h : s.handle e = some (s', queued)) :
    s'.clientManager.getQueuedData fd = s.clientManager.getQueuedData fd ++ bytesFor fd queued := by
  have hlive : fd ∈ s'.clientSockets := by
    cases e with
    | dispatch fd'' environment =>
      obtain ⟨-, command, payload, middle, size, heffect, rfl⟩ := handle_dispatch h
      have hsame : SameConnections s middle := heffect.sameConnections
      exact hsame.clientSockets ▸ hfd
    | disconnect fd'' =>
      obtain ⟨-, middle, -, rfl⟩ := handle_disconnect h
      cases he
      exact Finset.mem_erase_of_ne_of_mem hne hfd
    | accept | receive | flush => cases he
  have haccount := written_step hs h hfd hlive
  cases e with
  | dispatch | disconnect => exact haccount
  | accept | receive | flush => cases he

/-- From a connection that is not logged in, every packet but a login is answered with a bare
"unauthorized" or "bad request", and changes nothing else; and no step made for one connection
queues a byte for another one that is not logged in. -/
theorem authentication_gate (hs : s.Reachable) :
    (∀ fd ∈ s.clientSockets, fd ∉ s.authenticatedUsersByFd → ∀ header payload,
      peekPacket (s.clientManager.getIncomingBuffer fd) = some (header, payload) →
      header.code ≠ CommandID.login.code → ∀ environment, ∃ status : StatusCode,
        (status = .unauthorized ∨ status = .badRequest) ∧
        s.handle (.dispatch fd environment) =
          some ({ s with
            clientManager :=
              (s.clientManager.queueDataToSend fd (Packet.ofStatus status).bytes).consumeIncomingBuffer fd
                (sizeof PacketHeader + header.payloadSize.toNat) }, [(fd, .ofStatus status)])) ∧
    (∀ e fd' s' queued, e.ofClient = some fd' → s.handle e = some (s', queued) →
      ∀ fd ∈ s.clientSockets, fd ≠ fd' → fd ∉ s.authenticatedUsersByFd →
        (∀ q ∈ queued, q.1 ≠ fd) ∧
          s'.clientManager.getQueuedData fd = s.clientManager.getQueuedData fd) := by
  refine ⟨?_, ?_⟩
  · intro fd hlive hfd header payload hpeek hcode environment
    have hcontext : (s.context fd payload environment).clientFd ∉
        (s.context fd payload environment).authenticatedUsersByFd := hfd
    obtain ⟨context', hdispatch, status, hstatus, rfl⟩ := dispatch_turnedAway hcontext hcode
    refine ⟨status, hstatus, ?_⟩
    simp only [handle, if_pos hlive, hpeek, processPacket, hdispatch]
    rfl
  · intro e fd' s' queued he h fd hlive hne hfd
    have hnone : ∀ q ∈ queued, q.1 ≠ fd := by
      rintro q hq rfl
      rcases recipient_step hs.linked h q hq with hq | hq
      · exact hne (Option.some.inj (hq.symm.trans he))
      · exact hfd hq
    refine ⟨hnone, ?_⟩
    rw [outgoing_step hs.linked he hne hlive h, bytesFor_eq_nil hnone, List.append_nil]

/-- A connection asks for the users before it has logged in. -/
theorem authentication_gate_users :
    ∃ s status, Runs.run step (start 3 [] [] []) [.accept 4, .receive 4 Request.users.packet] = some s ∧
      (status = .unauthorized ∨ status = .badRequest) ∧
      (s.handle (.dispatch 4 default)).map Prod.snd = some [(4, Packet.ofStatus status)] := by
  have hfacts : (Runs.run step (start 3 [] [] []) [.accept 4, .receive 4 Request.users.packet]).map
      (fun s => (decide ((4 : Fd) ∈ s.clientSockets ∧ (4 : Fd) ∉ s.authenticatedUsersByFd),
        peekPacket (s.clientManager.getIncomingBuffer 4))) =
      some (true, some (⟨CommandID.users.code, 0⟩, [])) := by decide +kernel
  obtain ⟨s, hs, hfacts⟩ := Option.map_eq_some_iff.mp hfacts
  obtain ⟨hsession, hpeek⟩ := Prod.mk.inj hfacts
  obtain ⟨hlive, hfd⟩ := of_decide_eq_true hsession
  obtain ⟨status, hstatus, hhandle⟩ := (authentication_gate ⟨3, [], [], [], _, hs⟩).1 4 hlive hfd _ _ hpeek
    (by decide) default
  exact ⟨s, status, hs, hstatus, by rw [hhandle]; rfl⟩

end Server

end TeamsMirror
