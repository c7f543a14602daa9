import TeamsMirror.Common.Requests
import TeamsMirror.Server.Provenance

/-!
# Live delivery of private messages

A message reaches the sessions that the reverse index lists for its receiver.
Login and logout keep the index complete; a disconnection erases the whole entry
of its user, and with it the other sessions of that user.
-/

namespace TeamsMirror

open Lists

namespace Server

variable {s s' : Server} {fd : Fd} {uuid : Bytes}

/-- The reverse index lists every session. -/
def Complete (s : Server) : Prop :=
  ∀ fd uuid, s.authenticatedUsersByFd.lookup fd = some uuid → fd ∈ s.sessions uuid

/-- The connection that ends, if any, is the only session of its user. -/
def EndsSoleSession (s : Server) (e : Event) : Prop :=
  ∀ fd, e = .disconnect fd → ∀ uuid, s.authenticatedUsersByFd.lookup fd = some uuid →
    ∀ fd', s.authenticatedUsersByFd.lookup fd' = some uuid → fd' = fd

theorem Complete.effect {context : CommandContext} {command : CommandID} {packets : List (Fd × Packet)}
    (h : Complete context.toServer) (he : Effect context command s packets) : Complete s := by
  cases he.sessionChange with
  | none hmap hsessions =>
    intro fd uuid hl
    rw [hmap] at hl
    rw [hsessions]
    exact h fd uuid hl
  | added _ hmap hsessions =>
    intro fd uuid hl
    rw [hmap] at hl
    rw [hsessions]
    by_cases hfd : fd = context.clientFd
    · rw [hfd, AList.lookup_insert] at hl
      cases hl
      simp [hfd]
    · rw [AList.lookup_insert_ne hfd] at hl
      split
      · next heq => exact List.mem_append_left _ (heq ▸ h fd uuid hl)
      · exact h fd uuid hl
  | removed huuid hmap hsessions =>
    intro fd uuid hl
    rw [hmap] at hl
    obtain ⟨hne, hl⟩ := lookup_erase_some hl
    rw [hsessions]
    split
    · next heq => exact List.mem_filter.mpr ⟨heq ▸ h fd uuid hl, by simpa using hne⟩
    · exact h fd uuid hl

theorem Complete.dropSessions (h : Complete s)
    (hsole : ∀ fd', s.authenticatedUsersByFd.lookup fd' = some uuid → fd' = fd) :
    Complete (s.dropSessions fd uuid) := by
  intro fd' uuid' hl
  obtain ⟨hne, hl⟩ := lookup_erase_some hl
  rw [sessions_dropSessions]
  split
  · next heq => exact absurd (hsole fd' (heq ▸ hl)) hne
  · exact h fd' uuid' hl

theorem Complete.step {e : Event} {queued : List (Fd × Packet)} (h : Complete s)
    (hsole : s.EndsSoleSession e) (hs : s.handle e = some (s', queued)) : Complete s' := by
  cases e with
  | accept fd =>
    obtain ⟨-, rfl, -⟩ := handle_accept hs
    exact h
  | receive fd chunk =>
    obtain ⟨-, -, rfl⟩ := handle_receive hs
    exact h
  | dispatch fd environment =>
    obtain ⟨-, command, payload, middle, size, heffect, rfl⟩ := handle_dispatch hs
    have hmiddle : Complete middle := Complete.effect h heffect
    exact hmiddle
  | flush fd n =>
    obtain ⟨-, -, -, rfl⟩ := handle_flush hs
    exact h
  | disconnect fd =>
    obtain ⟨-, middle, hd, rfl⟩ := handle_disconnect hs
    cases hd with
    | anonymous => exact h
    | known huuid => exact h.dropSessions (hsole fd rfl _ huuid)
    | unknown huuid => exact h.dropSessions (hsole fd rfl _ huuid)

/-- Whoever sends a message that is answered OK, every connection logged in as its receiver gets
exactly one event for it. -/
def DeliversMessages (s : Server) : Prop :=
  ∀ fd ∈ s.clientSockets, ∀ payload environment context',
    dispatchCommand (s.context fd payload environment) CommandID.send.code = some context' →
    (fd, .ofStatus .ok) ∈ context'.queued →
    ∃ message, context'.messages = s.messages ++ [message] ∧
      extractFixedString (Packed.ofBytes (α := PayloadReqSendMsg) payload).targetUuid.bytes =
        some message.receiverUuid.bytes ∧
      ∀ fd', s.authenticatedUsersByFd.lookup fd' = some message.receiverUuid.bytes →
        (context'.queued.filter fun q => q.1 = fd' && q.2.status = .evtPrivateMsgRcvd) =
          [(fd', privateMessageEvent message)]

theorem filter_recipient {fds : List Fd} (hfds : fds.Nodup) {fd : Fd} (hfd : fd ∈ fds)
    (message : Message) :
    ((fds.map fun fd => (fd, privateMessageEvent message)).filter fun q =>
      q.1 = fd && q.2.status = .evtPrivateMsgRcvd) = [(fd, privateMessageEvent message)] := by
  have hfun : ((fun q : Fd × Packet => decide (q.1 = fd) && decide (q.2.status = .evtPrivateMsgRcvd)) ∘
      fun fd => (fd, privateMessageEvent message)) = fun fd' => fd' == fd := by
    funext fd'
    simp [privateMessageEvent, beq_eq_decide]
  rw [List.filter_map, hfun, List.filter_beq, List.count_eq_one_of_mem hfds hfd]
  rfl

theorem Complete.delivers (h : Complete s) (hlinked : Linked s) : s.DeliversMessages := by
  intro fd hfd payload environment context' hdispatch hok
  obtain ⟨middle, packets, heffect, rfl⟩ := dispatch_command hdispatch
  have hmessages : (perform (s.context fd payload environment) middle packets).messages =
      middle.messages := by
    rw [toServer_perform]
    rfl
  have hqueued : (perform (s.context fd payload environment) middle packets).queued = packets :=
    queued_perform _ _ _
  rw [hmessages]
  rw [hqueued] at hok ⊢
  cases heffect with
  | refused hrefuses =>
    -- no refusal is an OK
    obtain ⟨p, hp, he⟩ := List.mem_map.mp hok
    cases List.mem_singleton.mp hp
    cases he
    exact absurd hrefuses.1 (by decide)
  | answered hanswer => cases hanswer
  | @sent author target body message hauthor htarget hvalid _ _ hmessage =>
    have hreceiver : message.receiverUuid.bytes = target := by
      rw [hmessage]
      exact bytes_copyBuffer_uuid hvalid
    refine ⟨message, rfl, hreceiver ▸ htarget, fun fd' hl => ?_⟩
    have hmem : fd' ∈ s.sessions target := h fd' target (hreceiver ▸ hl)
    rw [List.filter_append, toServer_context, filter_recipient (hlinked.once target) hmem]
    simp [toClient, Packet.ofStatus]

/-- In every run in which no connection ends while its user has another session, messages are
delivered in every state that is reached. -/
theorem delivers_of_sole_disconnections {listenFd : Fd} {users : List User} {teams : List Team}
    {messages : List Message} {events : List Event} {s : Server}
    (hsole : Runs.Always Server.step EndsSoleSession (Server.start listenFd users teams messages) events)
    (hrun : Runs.run Server.step (Server.start listenFd users teams messages) events = some s) :
    s.DeliversMessages := by
  have hinv : Complete s ∧ Linked s := by
    refine Runs.run_invariant_of (P := fun s => Complete s ∧ Linked s) ?_
      ⟨fun _ _ h => by simp [Server.start] at h, .start _ _ _ _⟩ hsole hrun
    rintro s e s' ⟨hcomplete, hlinked⟩ hsole hstep
    obtain ⟨queued, hs⟩ := step_eq_some.mp hstep
    exact ⟨hcomplete.step hsole hs, hlinked.step hs⟩
  exact hinv.1.delivers hinv.2

/-- Connection 4 is one user, 5 and 6 are another one and 7 is a third. -/
def threeUsersRun : List Event :=
  [.accept 4, .accept 5, .accept 6, .accept 7,
    .receive 4 (Request.login [97]).packet, .dispatch 4 (drawing 1),
    .receive 5 (Request.login [98]).packet, .dispatch 5 (drawing 2),
    .receive 6 (Request.login [98]).packet, .dispatch 6 (drawing 3),
    .receive 7 (Request.login [99]).packet, .dispatch 7 (drawing 4)]

/-- The user of connections 5 and 6. -/
def secondUserUuid : Bytes := generateUuid fun _ => ⟨2, by decide⟩

/-- Whether a message from 4 to that user is answered OK, and the connections that it is queued for. -/
def messageToSecondUser (s : Server) : Option (Bool × List Fd) :=
  (dispatchCommand (s.context 4 (Request.send secondUserUuid [104, 105]).payload default) CommandID.send.code).map
    fun context' =>
      (context'.queued.contains (4, .ofStatus .ok),
        (context'.queued.filter fun q => q.2.status = .evtPrivateMsgRcvd).map Prod.fst)

/-- The third user goes, who was there once; a message to the second one still reaches both connections. -/
theorem delivers_of_sole_disconnections_three_users :
    ∃ s, Runs.run Server.step (Server.start 3 [] [] []) (threeUsersRun ++ [.disconnect 7]) = some s ∧
      s.DeliversMessages ∧ messageToSecondUser s = some (true, [5, 6]) := by
  have hbefore : (Runs.run Server.step (Server.start 3 [] [] []) threeUsersRun).map (fun t =>
      t.authenticatedUsersByFd.keys.filter fun fd =>
        t.authenticatedUsersByFd.lookup fd = t.authenticatedUsersByFd.lookup 7) = some [7] := by decide +kernel
  have hfacts : (Runs.run Server.step (Server.start 3 [] [] []) (threeUsersRun ++ [.disconnect 7])).map
      messageToSecondUser = some (some (true, [5, 6])) := by decide +kernel
  obtain ⟨s, hs, hmessage⟩ := Option.map_eq_some_iff.mp hfacts
  have hsole : Runs.Always Server.step EndsSoleSession (Server.start 3 [] [] []) (threeUsersRun ++ [.disconnect 7]) := by
    refine Runs.always_append (Runs.always_of_forall_mem (fun e he t fd hdisconnect => ?_) _) fun t ht => ?_
    · subst hdisconnect
      simp [threeUsersRun] at he
    · rw [ht, Option.map_some] at hbefore
      refine ⟨fun fd he uuid huuid fd' hl => ?_, fun _ _ => trivial⟩
      cases he
      have hmem : fd' ∈ t.authenticatedUsersByFd.keys.filter fun fd =>
          t.authenticatedUsersByFd.lookup fd = t.authenticatedUsersByFd.lookup 7 :=
        List.mem_filter.mpr ⟨UnorderedMap.mem_of_lookup hl, by simp [hl, huuid]⟩
      rw [Option.some.inj hbefore] at hmem
      exact List.mem_singleton.mp hmem
  exact ⟨s, hs, delivers_of_sole_disconnections hsole hs, hmessage⟩

/-- Connection 4 is one user; 5 and 6 are another, and 5 ends. -/
def secondSessionRun : List Event :=
  [.accept 4, .accept 5, .accept 6,
    .receive 4 (Request.login [97]).packet, .dispatch 4 (drawing 1),
    .receive 5 (Request.login [98]).packet, .dispatch 5 (drawing 2),
    .receive 6 (Request.login [98]).packet, .dispatch 6 (drawing 3),
    .disconnect 5]

/-- What the reached state does with a message from 4 to the user of 6: whether it answers OK,
as whom 6 is logged in, and the events queued for 6. -/
def messageToSecondSession (s : Server) : Option (Bool × Option Bytes × List (Fd × Packet)) :=
  (dispatchCommand (s.context 4 (Request.send secondUserUuid [104, 105]).payload default) CommandID.send.code).map
    fun context' =>
      (context'.queued.contains (4, .ofStatus .ok), s.authenticatedUsersByFd.lookup 6,
        context'.queued.filter fun q => q.1 = 6 && q.2.status = .evtPrivateMsgRcvd)

/-- After `secondSessionRun`, a message that is answered OK never reaches connection 6. -/
theorem not_delivers_reachable : ¬∀ s : Server, s.Reachable → s.DeliversMessages := by
  intro hall
  have hrun : (Runs.run Server.step (Server.start 3 [] [] []) secondSessionRun).bind
      messageToSecondSession = some (true, some secondUserUuid, []) := by
    decide +kernel
  obtain ⟨s, hs, hmessage⟩ := Option.bind_eq_some_iff.mp hrun
  unfold messageToSecondSession at hmessage
  obtain ⟨context', hdispatch, hresult⟩ := Option.map_eq_some_iff.mp hmessage
  obtain ⟨hok, hrest⟩ := Prod.mk.inj hresult
  obtain ⟨hlookup, hevents⟩ := Prod.mk.inj hrest
  have hlive : (4 : Fd) ∈ s.clientSockets := by
    have hsockets : (Runs.run Server.step (Server.start 3 [] [] []) secondSessionRun).map
        (fun s => decide ((4 : Fd) ∈ s.clientSockets)) = some true := by decide +kernel
    rw [hs] at hsockets
    simpa using hsockets
  obtain ⟨message, -, htarget, hdelivered⟩ := hall s ⟨3, [], [], [], secondSessionRun, hs⟩ 4 hlive _ _ _
    hdispatch (by simpa using hok)
  have hreceiver : message.receiverUuid.bytes = secondUserUuid := by
    have hpayload : extractFixedString (Packed.ofBytes (α := PayloadReqSendMsg)
        (Request.send secondUserUuid [104, 105]).payload).targetUuid.bytes =
          some secondUserUuid := by decide +kernel
    exact Option.some.inj (htarget.symm.trans hpayload)
  rw [hdelivered 6 (by rw [hreceiver]; exact hlookup)] at hevents
  cases hevents

end Server

end TeamsMirror
