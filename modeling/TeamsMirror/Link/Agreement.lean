import TeamsMirror.Link.Synchrony

/-!
# A session kept twice

Who is logged in on a connection, and in which context, is kept by the server and
again by the client. The two change at different moments, one when a request is
dispatched, the other when its reply is read, with any actions of other clients
in between. This file runs one client against the server and compares the copies
whenever no request is under way.
-/

namespace TeamsMirror

open Cli

namespace ClientManager

variable {m m' : ClientManager} {fd fd' : Fd}

theorem getContext_of_lookup (h : m'.clients.lookup fd = m.clients.lookup fd) :
    m'.getContext fd = m.getContext fd := by
  simp only [getContext, getContextTeamUuid, getContextChannelUuid, getContextThreadUuid, find, h]

theorem lookup_update_ne {f : Client → Client} (hne : fd' ≠ fd) :
    (m.update fd f).clients.lookup fd' = m.clients.lookup fd' := by
  rw [lookup_update]
  cases m.clients.lookup fd' <;> simp [hne]

theorem getContext_addClient (hfd : fd ∉ m.clients) : (m.addClient fd).getContext fd = ([], [], []) := by
  simp only [getContext, getContextTeamUuid, getContextChannelUuid, getContextThreadUuid, find, addClient,
    UnorderedMap.lookup_emplace_of_notMem hfd, if_true, Option.map_some, Option.getD_some]
  rfl

theorem getContext_setContext (hfd : fd ∈ m.clients) {teamUuid channelUuid threadUuid : Bytes}
    (hvalid : ∀ uuid ∈ [teamUuid, channelUuid, threadUuid], uuid = [] ∨ isUuidFormatValid uuid = true) :
    (m.setContext fd teamUuid channelUuid threadUuid).getContext fd =
      (teamUuid, channelUuid, threadUuid) := by
  have hcopy : ∀ uuid ∈ [teamUuid, channelUuid, threadUuid],
      (CString.copyBuffer uuidLength uuid).bytes = uuid := by
    intro uuid huuid
    rcases hvalid uuid huuid with rfl | hvalid
    · rfl
    · exact bytes_copyBuffer_uuid hvalid
  obtain ⟨c, hc⟩ := UnorderedMap.exists_lookup hfd
  simp only [getContext, getContextTeamUuid, getContextChannelUuid, getContextThreadUuid, find, setContext,
    lookup_update, hc, Option.map_some, if_true, Option.getD_some, Client.setContext]
  rw [hcopy _ (by simp), hcopy _ (by simp), hcopy _ (by simp)]

end ClientManager

namespace Effect

variable {context : CommandContext} {command : CommandID} {s : Server} {packets : List (Fd × Packet)}

/-- Other connections than the sender's get events only. -/
theorem isEvent_of_other (h : Effect context command s packets) :
    ∀ q ∈ packets, q.1 ≠ context.clientFd → q.2.status.isEvent = true := by
  have hclient : ∀ {ps : List Packet}, ∀ q ∈ toClient context ps, q.1 ≠ context.clientFd →
      q.2.status.isEvent = true := by
    intro ps q hq hne
    obtain ⟨p, -, rfl⟩ := List.mem_map.mp hq
    exact absurd rfl hne
  have hmap : ∀ {α : Type} {f : α → Fd} {xs : List α} {event : Packet}, event.status.isEvent = true →
      ∀ q ∈ xs.map fun x => (f x, event), q.1 ≠ context.clientFd → q.2.status.isEvent = true := by
    intro α f xs event hevent q hq _
    obtain ⟨x, -, rfl⟩ := List.mem_map.mp hq
    exact hevent
  cases h with
  | refused | unknownUser | answered | loggedOutUnknown | subscribed | unsubscribed | used => exact hclient
  | registered | loggedIn | loggedOut | createdTeam | createdChannel | createdThread | createdReply =>
    intro q hq
    exact (List.mem_append.mp hq).elim (hclient q) (hmap rfl q)
  | sent =>
    intro q hq
    exact (List.mem_append.mp hq).elim (hmap rfl q) (hclient q)

/-- A command changes the context of its sender only, and `/use` alone does. -/
theorem getContext (h : Effect context command s packets) {fd : Fd}
    (hfd : fd ≠ context.clientFd ∨ command ≠ .use) :
    s.clientManager.getContext fd = context.clientManager.getContext fd := by
  cases h with
  | used =>
    have hne : fd ≠ context.clientFd := hfd.resolve_right (not_not.mpr rfl)
    exact ClientManager.getContext_of_lookup (ClientManager.lookup_update_ne hne)
  | _ => rfl

/-- Only the sender's own session may change, and only by a login or a logout. -/
theorem mem_authenticated (h : Effect context command s packets) {fd : Fd}
    (hfd : fd ≠ context.clientFd ∨ command ≠ .login ∧ command ≠ .logout) :
    fd ∈ s.authenticatedUsersByFd ↔ fd ∈ context.authenticatedUsersByFd := by
  cases h with
  | registered | loggedIn =>
    have hne : fd ≠ context.clientFd := hfd.resolve_right fun hc => hc.1 rfl
    simp [Server.addSession, Server.setUsers, AList.mem_insert, hne]
  | loggedOut | loggedOutUnknown =>
    have hne : fd ≠ context.clientFd := hfd.resolve_right fun hc => hc.2 rfl
    simp [Server.removeSession, Server.setUsers, AList.mem_erase, hne]
  | _ => rfl

end Effect

theorem answersTo_eq_nil {fd : Fd} {queued : List (Fd × Packet)}
    (h : ∀ q ∈ queued, q.1 = fd → q.2.status.isEvent = true) : answersTo fd queued = [] := by
  rw [answersTo, repliesOf, List.filter_eq_nil_iff]
  intro p hp
  obtain ⟨q, hq, rfl⟩ := List.mem_map.mp hp
  obtain ⟨hq, hfd⟩ := List.mem_filter.mp hq
  simp [h q hq (of_decide_eq_true hfd)]

/-- The two copies of a session agree. -/
structure Agree (fd : Fd) (s : Server) (client : Cli.Client) : Prop where
  connected : client.connected = true ↔ fd ∈ s.authenticatedUsersByFd
  context : s.clientManager.getContext fd =
    (client.contextTeamUuid, client.contextChannelUuid, client.contextThreadUuid)

theorem Agree.congr {fd : Fd} {s s' : Server} {client : Cli.Client} (h : Agree fd s client)
    (hfd : fd ∈ s'.authenticatedUsersByFd ↔ fd ∈ s.authenticatedUsersByFd)
    (hcontext : s'.clientManager.getContext fd = s.clientManager.getContext fd) : Agree fd s' client :=
  ⟨h.connected.trans hfd.symm, hcontext.trans h.context⟩

/-- The part of `sent` that an event leaves, `none` for what does not happen to a connection that
stays up: its loss, and the receipt of what was not sent. -/
def Event.unsent (fd : Fd) (sent : Bytes) : Event → Option Bytes
  | .receive fd' chunk =>
    if fd' ≠ fd then some sent else if chunk <+: sent then some (sent.drop chunk.length) else none
  | .disconnect fd' => if fd' = fd then none else some sent
  | _ => some sent

namespace Server

variable {s s' : Server} {fd : Fd}

/-- What is neither a dispatch for a connection nor its loss leaves its session alone, answers it
nothing, and takes what it receives from what was sent. -/
structure Elsewhere (fd : Fd) (sent : Bytes) (s : Server) (sent' : Bytes) (s' : Server)
    (queued : List (Fd × Packet)) : Prop where
  live : fd ∈ s'.clientSockets
  authenticated : fd ∈ s'.authenticatedUsersByFd ↔ fd ∈ s.authenticatedUsersByFd
  context : s'.clientManager.getContext fd = s.clientManager.getContext fd
  unread : s'.clientManager.getIncomingBuffer fd ++ sent' = s.clientManager.getIncomingBuffer fd ++ sent
  answers : answersTo fd queued = []

theorem getContext_dispatched (m : ClientManager) (fd fd' : Fd) (n : Nat) :
    (m.consumeIncomingBuffer fd n).getContext fd' = m.getContext fd' := by
  apply ClientManager.getContext_update
  exact fun _ => ⟨rfl, rfl, rfl⟩

theorem elsewhere_receive {sent sent' chunk : Bytes} {fd' : Fd} {queued : List (Fd × Packet)} (h : Linked s)
    (hfd : fd ∈ s.clientSockets) (hsent : (Event.receive fd' chunk).unsent fd sent = some sent')
    (hs : s.handle (.receive fd' chunk) = some (s', queued)) : Elsewhere fd sent s sent' s' queued := by
  obtain ⟨hfd', rfl, rfl⟩ := handle_receive hs
  have hbuffer := ClientManager.getIncomingBuffer_append ((h.clients fd').mpr hfd') fd chunk
  refine ⟨hfd, Iff.rfl, ?_, ?_, rfl⟩
  · simp only [ClientManager.appendToIncomingBuffer_eq]
    apply ClientManager.getContext_update
    exact fun _ => ⟨rfl, rfl, rfl⟩
  · simp only [hbuffer]
    simp only [Event.unsent] at hsent
    by_cases hne : fd' = fd
    · subst hne
      rw [if_neg (not_not.mpr rfl)] at hsent
      rw [if_pos rfl]
      split at hsent
      · next hpre =>
        obtain ⟨more, rfl⟩ := hpre
        cases hsent
        rw [List.drop_left, List.append_assoc]
      · cases hsent
    · rw [if_pos hne] at hsent
      rw [if_neg (Ne.symm hne)]
      cases hsent
      rfl

theorem elsewhere_dispatch {sent : Bytes} {fd' : Fd} {environment : Environment} {queued : List (Fd × Packet)}
    (hfd : fd ∈ s.clientSockets) (hne : fd ≠ fd')
    (hs : s.handle (.dispatch fd' environment) = some (s', queued)) :
    Elsewhere fd sent s sent s' queued := by
  obtain ⟨-, command, payload, middle, size, heffect, rfl⟩ := handle_dispatch hs
  have hsame : SameConnections s middle := heffect.sameConnections
  refine ⟨hsame.clientSockets ▸ hfd, heffect.mem_authenticated (.inl hne), ?_, ?_, ?_⟩
  · rw [getContext_dispatched]
    exact (ClientManager.getContext_sendAll _ _ _).trans (heffect.getContext (.inl hne))
  · rw [ClientManager.getIncomingBuffer_consume, if_neg hne]
    exact congrArg (· ++ sent) ((ClientManager.getIncomingBuffer_sendAll _ _ _).trans (hsame.incoming fd))
  · exact answersTo_eq_nil fun q hq hfd => heffect.isEvent_of_other q hq (hfd ▸ hne)

theorem elsewhere_accept {sent : Bytes} {fd' : Fd} {queued : List (Fd × Packet)} (h : Linked s)
    (hfd : fd ∈ s.clientSockets) (hs : s.handle (.accept fd') = some (s', queued)) :
    Elsewhere fd sent s sent s' queued := by
  obtain ⟨hnew, rfl, rfl⟩ := handle_accept hs
  have hne : fd ≠ fd' := fun he => hnew.2.2.2 (he ▸ hfd)
  have hfresh : fd' ∉ s.clientManager.clients := fun hmem => hnew.2.2.2 ((h.clients fd').mp hmem)
  refine ⟨Finset.mem_insert_of_mem hfd, Iff.rfl, ?_, ?_, rfl⟩
  · refine ClientManager.getContext_of_lookup ?_
    rw [accepted, ClientManager.addClient, UnorderedMap.lookup_emplace_of_notMem hfresh, if_neg hne]
  · rw [getIncomingBuffer_accepted _ hfresh, if_neg hne]

theorem elsewhere_flush {sent : Bytes} {fd' : Fd} {n : Nat} {queued : List (Fd × Packet)}
    (hfd : fd ∈ s.clientSockets) (hs : s.handle (.flush fd' n) = some (s', queued)) :
    Elsewhere fd sent s sent s' queued := by
  obtain ⟨-, -, rfl, rfl⟩ := handle_flush hs
  refine ⟨hfd, Iff.rfl, ?_, ?_, rfl⟩
  · apply ClientManager.getContext_update
    exact fun _ => ⟨rfl, rfl, rfl⟩
  · rw [getIncomingBuffer_flush]

theorem elsewhere_disconnect {sent : Bytes} {fd' : Fd} {queued : List (Fd × Packet)}
    (hfd : fd ∈ s.clientSockets) (hne : fd ≠ fd') (hs : s.handle (.disconnect fd') = some (s', queued)) :
    Elsewhere fd sent s sent s' queued := by
  obtain ⟨-, middle, hd, rfl⟩ := handle_disconnect hs
  have hmiddle : fd ∈ middle.authenticatedUsersByFd ↔ fd ∈ s.authenticatedUsersByFd := by
    cases hd with
    | anonymous => rfl
    | known | unknown => simp [dropSessions, setUsers, AList.mem_erase, hne]
  have hmanager : middle.clientManager = s.clientManager := by
    cases hd with
    | anonymous | known | unknown => rfl
  refine ⟨Finset.mem_erase_of_ne_of_mem hne hfd, hmiddle, ?_, ?_, answersTo_eq_nil fun q hq _ => ?_⟩
  · refine (ClientManager.getContext_of_lookup (AList.lookup_erase_ne hne)).trans ?_
    rw [deliver, ClientManager.getContext_sendAll, hmanager]
  · rw [getIncomingBuffer_removeClient _ hne, deliver, ClientManager.getIncomingBuffer_sendAll, hmanager]
  · cases hd with
    | known =>
      obtain ⟨fd'', -, rfl⟩ := List.mem_map.mp hq
      rfl
    | anonymous | unknown => cases hq

/-- Whatever happens to the server short of a dispatch for the connection. -/
theorem elsewhere {e : Event} {sent sent' : Bytes} {queued : List (Fd × Packet)} (h : Linked s)
    (hfd : fd ∈ s.clientSockets) (hdispatch : ∀ environment, e ≠ .dispatch fd environment)
    (hsent : e.unsent fd sent = some sent') (hs : s.handle e = some (s', queued)) :
    Elsewhere fd sent s sent' s' queued := by
  cases e with
  | accept fd' =>
    cases hsent
    exact elsewhere_accept h hfd hs
  | receive fd' chunk => exact elsewhere_receive h hfd hsent hs
  | dispatch fd' environment =>
    cases hsent
    exact elsewhere_dispatch hfd (fun he => hdispatch environment (he ▸ rfl)) hs
  | flush fd' n =>
    cases hsent
    exact elsewhere_flush hfd hs
  | disconnect fd' =>
    simp only [Event.unsent] at hsent
    split at hsent
    · cases hsent
    · next hne =>
      cases hsent
      exact elsewhere_disconnect hfd (Ne.symm hne) hs

end Server

theorem extractOptionalUuid_copyPadded {uuid : Bytes} (h : uuid = [] ∨ isUuidFormatValid uuid = true) :
    extractOptionalUuid (CharArray.copyPadded uuidLength uuid).bytes = some uuid := by
  rcases h with rfl | hvalid
  · rfl
  · have hextract := extractFixedString_uuid hvalid
    unfold extractOptionalUuid
    split
    · next hnil =>
      rw [hnil] at hextract
      cases hextract
    · next front rest hcons =>
      rw [hcons] at hextract ⊢
      split
      · next hzero =>
        -- A field that starts with a NUL holds the empty text.
        rw [extractFixedString, if_pos (by simp [hzero]), hzero] at hextract
        exact hextract
      · rw [hextract, Option.filter_some, if_pos hvalid]

/-- The server reads the context that the client asks for, or refuses it as a whole. -/
theorem parseUsePayload_request {teamUuid channelUuid threadUuid : Bytes}
    (hvalid : ∀ uuid ∈ [teamUuid, channelUuid, threadUuid], uuid = [] ∨ isUuidFormatValid uuid = true)
    {parsed : Bytes × Bytes × Bytes}
    (h : parseUsePayload (Request.use teamUuid channelUuid threadUuid).payload = some parsed) :
    parsed = (teamUuid, channelUuid, threadUuid) := by
  have hlen : (Request.use teamUuid channelUuid threadUuid).payload.length ≠
      sizeof PayloadReqTeamTarget := by
    rw [Request.use, Packed.length_toBytes]
    decide
  rw [parseUsePayload, if_neg hlen] at h
  have hteam := extractOptionalUuid_copyPadded (hvalid teamUuid (by simp))
  have hchannel := extractOptionalUuid_copyPadded (hvalid channelUuid (by simp))
  have hthread := extractOptionalUuid_copyPadded (hvalid threadUuid (by simp))
  simp only [Request.use, Packed.ofBytes_toBytes, hteam, hchannel, hthread, Option.bind_eq_bind,
    Option.bind_some] at h
  split at h
  · exact (Option.some.inj h).symm
  · cases h

section

variable {context : CommandContext} {command : CommandID} {status : StatusCode}

theorem answersTo_refused (h : Refuses context command status) :
    answersTo context.clientFd (toClient context [.ofStatus status]) ≠ [.ofStatus .ok] := by
  have hne : status ≠ .ok := by
    have hmem := h.1
    rintro rfl
    revert hmem
    cases command <;> decide
  intro heq
  have hmem : Packet.ofStatus .ok ∈ answersTo context.clientFd (toClient context [.ofStatus status]) := by
    rw [heq]
    exact List.mem_singleton_self _
  rw [answersTo_toClient] at hmem
  have hmem := List.mem_singleton.mp (List.mem_filter.mp hmem).1
  exact hne (congrArg Packet.status hmem).symm

theorem answersTo_accepted {α : Type*} {fd : Fd} {replies answers : List Packet} {event : Packet}
    {f : α → Fd} {recipients : List α} (hfd : context.clientFd = fd)
    (hevent : event.status.isEvent = true) (hreplies : repliesOf replies = answers) :
    answersTo fd (toClient context replies ++ recipients.map fun x => (f x, event)) = answers := by
  rw [← hfd, answersTo_append, answersTo_toClient, answersTo_map hevent, List.append_nil, hreplies]

end

namespace Agree

variable {client clientAfterOk : Cli.Client} {s middle : Server} {fd : Fd} {environment : Environment}
  {queued : List (Fd × Packet)}

theorem login {username : Bytes} (h : Agree fd s client) {payload : Bytes}
    (heffect : Effect (s.context fd payload environment) .login middle queued) :
    Agree fd middle (if answersTo fd queued = [.ofStatus .ok] then
      { client with connected := true, username := username } else client) := by
  split
  · next hok =>
    cases heffect with
    | refused hrefuses => exact absurd hok (answersTo_refused hrefuses)
    | answered hanswer => cases hanswer
    | registered | loggedIn =>
      refine ⟨iff_of_true rfl ?_, h.context⟩
      exact (AList.mem_insert _).mpr (.inl rfl)
  · next hok =>
    cases heffect with
    | refused => exact h
    | answered hanswer => cases hanswer
    | registered | loggedIn => exact (hok (answersTo_accepted rfl rfl rfl)).elim

theorem use {teamUuid channelUuid threadUuid : Bytes} (h : Agree fd s client)
    (hlive : fd ∈ s.clientManager.clients)
    (hvalid : ∀ uuid ∈ [teamUuid, channelUuid, threadUuid], uuid = [] ∨ isUuidFormatValid uuid = true)
    (heffect : Effect (s.context fd (Request.use teamUuid channelUuid threadUuid).payload environment)
      .use middle queued) :
    Agree fd middle (if answersTo fd queued = [.ofStatus .ok] then
      { client with
        contextTeamUuid := teamUuid
        contextChannelUuid := channelUuid
        contextThreadUuid := threadUuid }
      else client) := by
  split
  · next hok =>
    cases heffect with
    | refused hrefuses => exact absurd hok (answersTo_refused hrefuses)
    | answered hanswer => cases hanswer
    | used _ hparse =>
      obtain ⟨rfl, hrest⟩ := Prod.mk.inj (parseUsePayload_request hvalid hparse)
      obtain ⟨rfl, rfl⟩ := Prod.mk.inj hrest
      exact ⟨h.connected, ClientManager.getContext_setContext hlive hvalid⟩
  · next hok =>
    cases heffect with
    | refused => exact h
    | answered hanswer => cases hanswer
    | used => exact (hok (answersTo_toClient (s.context fd _ environment) _)).elim

/-- The client forgets its context with its login, the server keeps it: the copies agree afterwards
exactly when there was none. -/
theorem logout (h : Agree fd s client) (hknown : s.Known) {payload : Bytes}
    (heffect : Effect (s.context fd payload environment) .logout middle queued) :
    Agree fd middle (if answersTo fd queued = [.ofStatus .ok] then .start else client) ↔
      (answersTo fd queued = [.ofStatus .ok] →
        client.contextTeamUuid = [] ∧ client.contextChannelUuid = [] ∧ client.contextThreadUuid = []) := by
  split
  · next hok =>
    cases heffect with
    | refused hrefuses => exact absurd hok (answersTo_refused hrefuses)
    | answered hanswer => cases hanswer
    | loggedOut =>
      constructor
      · intro hagree _
        have hcontext := h.context.symm.trans hagree.context
        simpa [Cli.Client.start] using hcontext
      · intro hempty
        obtain ⟨hteam, hchannel, hthread⟩ := hempty hok
        refine ⟨iff_of_false nofun fun hmem => (AList.mem_erase.mp hmem).1 rfl, ?_⟩
        exact h.context.trans (by rw [hteam, hchannel, hthread]; rfl)
    | loggedOutUnknown huuid hnone =>
      obtain ⟨user, huser, -⟩ := hknown.exists_user huuid
      cases hnone.symm.trans huser
  · next hok =>
    cases heffect with
    | refused => exact iff_of_true h fun he => absurd he hok
    | answered hanswer => cases hanswer
    | loggedOut => exact (hok (answersTo_accepted rfl rfl rfl)).elim
    | loggedOutUnknown huuid hnone =>
      obtain ⟨user, huser, -⟩ := hknown.exists_user huuid
      cases hnone.symm.trans huser

/-- After a request the copies agree, except that a logout must not end a session with a context. -/
theorem request {request : Request} {body : Body} (h : Agree fd s client) (hknown : s.Known)
    (hlive : fd ∈ s.clientManager.clients) (hexchange : Exchanges client request body clientAfterOk)
    (heffect : Effect (s.context fd request.payload environment) request.command middle queued) :
    Agree fd middle (if answersTo fd queued = [.ofStatus .ok] then clientAfterOk else client) ↔
      (request.command = .logout → answersTo fd queued = [.ofStatus .ok] →
        client.contextTeamUuid = [] ∧ client.contextChannelUuid = [] ∧ client.contextThreadUuid = []) := by
  cases hexchange with
  | login => exact iff_of_true (h.login heffect) nofun
  | use hvalid => exact iff_of_true (h.use hlive hvalid heffect) nofun
  | logout => exact (h.logout hknown heffect).trans ⟨fun hempty _ => hempty, fun hempty => hempty rfl⟩
  | _ =>
    rw [ite_self]
    refine iff_of_true (h.congr (heffect.mem_authenticated (.inr ?_)) (heffect.getContext (.inr ?_))) nofun
    · exact ⟨nofun, nofun⟩
    · exact nofun

end Agree

end TeamsMirror
