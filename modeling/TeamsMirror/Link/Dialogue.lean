import TeamsMirror.Link.Agreement

/-!
# One client and the server

The two programs run side by side: the client types lines, sends at most one
request at a time and reads until it is answered, while the server goes on with
its own steps and those of all other clients. The transport loses nothing and
keeps the order, but nothing is said about when a byte arrives.
-/

namespace TeamsMirror

open Cli

/-- The two programs, and what is between them on the connection. -/
structure Dialogue where
  server : Server
  client : Cli.Client
  /-- What the client has written and the server has not received. -/
  sent : Bytes
  /-- What the server has queued and the client has not read. -/
  inbox : List Packet
  /-- The handler that is waiting for its reply. -/
  pending : Option (Request × Body)

namespace Dialogue

inductive Action where
  | server (e : Event)
  | type (line : Bytes)
  | reply
  | handleEvent

variable (lib : LibCall → Int) (fd : Fd)

/-- The connection of a client that has just been started is accepted. -/
def start (s : Server) : Dialogue := ⟨s.accepted fd, .start, [], [], none⟩

/-- What the client leaves unread includes all that the server still has to write. -/
def CanLeave (x : Dialogue) (rest : List Packet) : Prop :=
  (x.server.clientManager.getQueuedData fd).length ≤ (rest.flatMap Packet.bytes).length

instance (x : Dialogue) (rest : List Packet) : Decidable (x.CanLeave fd rest) := by
  unfold CanLeave
  infer_instance

def step (x : Dialogue) : Action → Option Dialogue
  | .server e =>
    (e.unsent fd x.sent).bind fun sent =>
      (x.server.handle e).map fun r =>
        { x with server := r.1, sent := sent, inbox := x.inbox ++ packetsFor fd r.2 }
  | .type line =>
    if x.pending.isSome then none
    else
      match handlingInput x.client line with
      | .ended shown ended =>
        some { x with client := if (display lib shown).2 = none then ended.after x.client else x.client }
      | .exchange request body =>
        some { x with sent := x.sent ++ request.packet, pending := some (request, body) }
  | .reply =>
    match x.pending with
    | none => none
    | some (_, body) =>
      match readReplies lib body 0 (x.inbox.map Packet.received) with
      | .waiting => none
      | .finished _ ended rest =>
        let inbox := x.inbox.drop (x.inbox.length - rest.length)
        if x.CanLeave fd inbox then
          some { x with client := ended.after x.client, inbox := inbox, pending := none }
        else none
  | .handleEvent =>
    match x.pending, x.inbox with
    | none, p :: inbox =>
      -- A call of the library that fails here ends the client, and the run with it.
      let shown := (handleAsyncEventPacket p.status.code p.payload.bytes).toList
      if x.CanLeave fd inbox ∧ (display lib shown).2 = none then some { x with inbox := inbox } else none
    | _, _ => none

/-- The line logs the client out. -/
def LogsOut (client : Cli.Client) (line : Bytes) : Prop :=
  client.connected = true ∧ (parseLine line).1 = bytesOf "/logout" ∧
    (parseLine line).2.hasRemainingArgs = false

instance (client : Cli.Client) (line : Bytes) : Decidable (LogsOut client line) := by
  unfold LogsOut
  infer_instance

/-- No session ends with a context: whoever has set one takes it back before `/logout`. -/
def LogsOutBare (x : Dialogue) : Action → Prop
  | .type line => LogsOut x.client line → x.client.contextTeamUuid = [] ∧
      x.client.contextChannelUuid = [] ∧ x.client.contextThreadUuid = []
  | _ => True

instance (x : Dialogue) (a : Action) : Decidable (x.LogsOutBare a) := by
  cases a <;> unfold LogsOutBare <;> infer_instance

def unread (x : Dialogue) : Bytes := x.server.clientManager.getIncomingBuffer fd ++ x.sent

/-- Where a request stands; between its dispatch and its reply the client is behind the server. -/
inductive Phase (x : Dialogue) : Prop where
  | idle : x.pending = none → x.unread fd = [] → repliesOf x.inbox = [] → Agree fd x.server x.client →
      Phase x
  | asked {request : Request} {body : Body} {clientAfterOk : Cli.Client} :
      x.pending = some (request, body) → Exchanges x.client request body clientAfterOk →
      x.unread fd = request.packet → repliesOf x.inbox = [] → Agree fd x.server x.client →
      (request.command = .logout → x.client.contextTeamUuid = [] ∧ x.client.contextChannelUuid = [] ∧
        x.client.contextThreadUuid = []) →
      Phase x
  | answered {request : Request} {body : Body} {client' : Cli.Client} :
      x.pending = some (request, body) → x.unread fd = [] →
      Settles x.client body (repliesOf x.inbox) client' → Agree fd x.server client' → Phase x

structure InSync (x : Dialogue) : Prop where
  live : fd ∈ x.server.clientSockets
  linked : x.server.Linked
  known : x.server.Known
  events : ∀ p ∈ x.inbox, p.status.isEvent = true → IsEvent p
  phase : x.Phase fd

variable {lib fd}

theorem handle_dispatch_next {s s' : Server} {environment : Environment} {queued : List (Fd × Packet)}
    (h : s.handle (.dispatch fd environment) = some (s', queued)) :
    ∃ f rest, packetFraming.next (s.clientManager.getIncomingBuffer fd) = some (f, rest) := by
  simp only [Server.handle] at h
  split at h
  · split at h
    · cases h
    · next header payload hpeek =>
      obtain ⟨f, hnext, -⟩ := next_of_peekPacket hpeek
      exact ⟨f, _, hnext⟩
  · cases h

/-- Nothing is dispatched of a request before it has been received to its last byte. -/
theorem received_of_next {request : Request} (hlen : request.payload.length < 65536)
    {buffer sent rest : Bytes} {f : Framing.Frame UInt8} (hunread : buffer ++ sent = request.packet)
    (hnext : packetFraming.next buffer = some (f, rest)) : sent = [] := by
  obtain ⟨f', hwhole, -⟩ := next_of_peekPacket (peekPacket_request hlen [])
  have hsize : (UInt16.ofNat request.payload.length).toNat = request.payload.length := by
    rw [UInt16.toNat_ofNat', Nat.mod_eq_of_lt hlen]
  have hpacket : request.packet.length = sizeof PacketHeader + request.payload.length := by
    rw [Request.packet, List.length_append, Packed.length_toBytes]
    rfl
  have happend := packetFraming.next_append hnext sent
  rw [hunread] at happend
  rw [List.append_nil, happend, hsize, List.drop_eq_nil_of_le (Nat.le_of_eq hpacket)] at hwhole
  exact (List.append_eq_nil_iff.mp (Prod.mk.inj (Option.some.inj hwhole)).2).2

theorem answersTo_inbox (inbox : List Packet) (queued : List (Fd × Packet)) :
    repliesOf (inbox ++ packetsFor fd queued) = repliesOf inbox ++ answersTo fd queued :=
  repliesOf_append _ _

namespace InSync

variable {x x' : Dialogue}

/-- Events keep their payloads on the way. -/
theorem events_append (h : InSync fd x) {e : Event} {s' : Server} {queued : List (Fd × Packet)}
    (hs : x.server.handle e = some (s', queued)) :
    ∀ p ∈ x.inbox ++ packetsFor fd queued, p.status.isEvent = true → IsEvent p := by
  intro p hp hevent
  rcases List.mem_append.mp hp with hp | hp
  · exact h.events p hp hevent
  · obtain ⟨q, hq, rfl⟩ := List.mem_map.mp hp
    exact Server.handle_isEvent hs q (List.mem_filter.mp hq).1 hevent

/-- What happens elsewhere changes no phase. -/
theorem elsewhere (h : InSync fd x) {e : Event} {s' : Server} {sent' : Bytes}
    {queued : List (Fd × Packet)} (hdispatch : ∀ environment, e ≠ .dispatch fd environment)
    (hsent : e.unsent fd x.sent = some sent') (hs : x.server.handle e = some (s', queued)) :
    InSync fd { x with server := s', sent := sent', inbox := x.inbox ++ packetsFor fd queued } := by
  have helse := Server.elsewhere h.linked h.live hdispatch hsent hs
  have hreplies : repliesOf (x.inbox ++ packetsFor fd queued) = repliesOf x.inbox := by
    rw [answersTo_inbox, helse.answers, List.append_nil]
  refine ⟨helse.live, h.linked.step hs, h.known.step hs, h.events_append hs, ?_⟩
  cases h.phase with
  | idle hpending hunread hinbox hagree =>
    exact .idle hpending (helse.unread.trans hunread) (hreplies.trans hinbox)
      (hagree.congr helse.authenticated helse.context)
  | asked hpending hexchange hunread hinbox hagree hbare =>
    exact .asked hpending hexchange (helse.unread.trans hunread) (hreplies.trans hinbox)
      (hagree.congr helse.authenticated helse.context) hbare
  | answered hpending hunread hsettles hagree =>
    exact .answered hpending (helse.unread.trans hunread) (hreplies.symm ▸ hsettles)
      (hagree.congr helse.authenticated helse.context)

/-- Only a request that has arrived is dispatched, and it leaves its replies for the handler. -/
theorem dispatch (h : InSync fd x) {environment : Environment} {s' : Server}
    {queued : List (Fd × Packet)} (hs : x.server.handle (.dispatch fd environment) = some (s', queued)) :
    InSync fd { x with server := s', inbox := x.inbox ++ packetsFor fd queued } := by
  obtain ⟨f, rest, hnext⟩ := handle_dispatch_next hs
  have hread : x.unread fd ≠ [] := by
    intro hunread
    rw [(List.append_eq_nil_iff.mp hunread).1, packetFraming.next_nil] at hnext
    cases hnext
  cases h.phase with
  | idle _ hunread => exact absurd hunread hread
  | answered _ hunread => exact absurd hunread hread
  | @asked request body clientAfterOk hpending hexchange hunread hinbox hagree hbare =>
    have hlen := hexchange.payload_length
    have hsent : x.sent = [] := received_of_next hlen hunread hnext
    have hbuffer : x.server.clientManager.getIncomingBuffer fd = request.packet := by
      rw [← hunread, unread, hsent, List.append_nil]
    obtain ⟨middle, heffect, hs'⟩ := Server.handle_request hlen (hbuffer ▸ List.prefix_refl _) hs
    have hsame : Server.SameConnections x.server middle := heffect.sameConnections
    have hlive : fd ∈ s'.clientSockets := by
      rw [hs']
      exact hsame.clientSockets ▸ h.live
    have hclient : fd ∈ x.server.clientManager.clients := (h.linked.clients fd).mpr h.live
    have hanswers : repliesOf (x.inbox ++ packetsFor fd queued) = answersTo fd queued := by
      rw [answersTo_inbox, hinbox, List.nil_append]
    have hreplies : Replies (x.server.context fd request.payload environment) request.command
      (answersTo fd queued) := heffect.replies
    have hlogin : request.command = .login → fd ∉ x.server.authenticatedUsersByFd := by
      intro hcommand hfd
      cases hexchange with
      | login hconnected => exact absurd (hagree.connected.mpr hfd) (by simp [hconnected])
      | _ => cases hcommand
    have hsettles := hexchange.settles rfl hreplies hlogin
    rw [← hanswers] at hsettles
    refine ⟨hlive, h.linked.step hs, h.known.step hs, h.events_append hs, ?_⟩
    refine .answered hpending ?_ hsettles ?_
    · rw [unread, hsent, List.append_nil, hs', ClientManager.getIncomingBuffer_consume, if_pos rfl,
        Server.deliver, ClientManager.getIncomingBuffer_sendAll, hsame.incoming, hbuffer, List.drop_length]
    · have hagree' := (hagree.request h.known hclient hexchange heffect).mpr fun hcommand _ => hbare hcommand
      rw [hs', hanswers]
      refine hagree'.congr Iff.rfl ?_
      rw [Server.getContext_dispatched, Server.deliver, ClientManager.getContext_sendAll]

end InSync

theorem logsOut_of_exchange {client : Cli.Client} {line : Bytes} {request : Request} {body : Body}
    (h : handlingInput client line = .exchange request body) (hcommand : request.command = .logout) :
    LogsOut client line := by
  obtain ⟨htext, clientAfterOk, hexchange⟩ := (h ▸ handled client line).exchanges
  have hconnected : client.connected = true := by
    cases hexchange with
    | logout hconnected => exact hconnected
    | _ => cases hcommand
  have hline : (parseLine line).1 = bytesOf "/logout" := by
    rw [← htext, hcommand]
    rfl
  refine ⟨hconnected, hline, ?_⟩
  have hdispatch : Cli.dispatchCommand client (parseLine line).1 (parseLine line).2 =
    .exchange request body := h
  rw [hline] at hdispatch
  have hhandler : handleLogout client (parseLine line).2 = .exchange request body := hdispatch
  unfold handleLogout at hhandler
  split at hhandler
  · cases hhandler
  · next hargs => simpa using hargs

namespace InSync

variable {x x' : Dialogue}

theorem idle (h : InSync fd x) (hpending : x.pending = none) :
    x.unread fd = [] ∧ repliesOf x.inbox = [] ∧ Agree fd x.server x.client := by
  cases h.phase with
  | idle _ hunread hinbox hagree => exact ⟨hunread, hinbox, hagree⟩
  | asked hsome | answered hsome => cases hpending.symm.trans hsome

theorem type (h : InSync fd x) {line : Bytes} (hbare : x.LogsOutBare (.type line))
    (hs : x.step lib fd (.type line) = some x') : InSync fd x' := by
  simp only [step] at hs
  split at hs
  · cases hs
  · next hnone =>
    have hpending : x.pending = none := by simpa using hnone
    obtain ⟨hunread, hinbox, hagree⟩ := h.idle hpending
    split at hs
    · next shown ended hended =>
      have hclient : ended.after x.client = x.client := by
        cases hended ▸ handled x.client line with
        | ended hclient => exact hclient
      rw [hclient, ite_self] at hs
      cases hs
      exact h
    · next request body hexchange =>
      obtain ⟨-, clientAfterOk, hsent⟩ := (hexchange ▸ handled x.client line).exchanges
      cases hs
      refine ⟨h.live, h.linked, h.known, h.events, ?_⟩
      refine .asked rfl hsent ?_ hinbox hagree fun hcommand => ?_
      · rw [unread, ← List.append_assoc]
        exact (congrArg (· ++ request.packet) hunread).trans (List.nil_append _)
      · exact hbare (logsOut_of_exchange hexchange hcommand)

theorem reply (h : InSync fd x) (hlib : Succeeds lib) (hs : x.step lib fd .reply = some x') :
    InSync fd x' := by
  simp only [step] at hs
  split at hs
  · cases hs
  · next request body hpending =>
    cases h.phase with
    | idle hnone => cases hpending.symm.trans hnone
    | asked _ _ _ hinbox =>
      rw [readReplies_of_events hlib body 0 hinbox h.events] at hs
      cases hs
    | answered hpending' hunread hsettles hagree =>
      obtain ⟨-, rfl⟩ := Prod.mk.inj (Option.some.inj (hpending.symm.trans hpending'))
      obtain ⟨shown, ended, hconsumes, -, -, hclient⟩ := hsettles
      obtain ⟨consumed, rest, shown', hsplit, hread, -, hrest, -⟩ := hconsumes.readReplies hlib h.events
      have hinbox : x.inbox.drop (x.inbox.length - (rest.map Packet.received).length) = rest := by
        rw [List.length_map, hsplit, List.length_append, Nat.add_sub_cancel, List.drop_left]
      rw [hread] at hs
      simp only [hinbox, hclient] at hs
      split at hs
      · cases hs
        refine ⟨h.live, h.linked, h.known, fun p hp => ?_, .idle rfl hunread hrest hagree⟩
        exact h.events p (hsplit ▸ List.mem_append_right consumed hp)
      · cases hs

theorem handleEvent (h : InSync fd x) (hs : x.step lib fd .handleEvent = some x') : InSync fd x' := by
  simp only [step] at hs
  split at hs
  · next p inbox hpending hinbox =>
    split at hs
    · obtain ⟨hunread, hreplies, hagree⟩ := h.idle hpending
      cases hs
      rw [hinbox] at hreplies
      refine ⟨h.live, h.linked, h.known, fun q hq => ?_, .idle hpending hunread ?_ hagree⟩
      · exact h.events q (hinbox ▸ List.mem_cons_of_mem p hq)
      · exact List.filter_eq_nil_iff.mpr fun q hq =>
          List.filter_eq_nil_iff.mp hreplies q (List.mem_cons_of_mem p hq)
    · cases hs
  · cases hs

/-- Every step keeps the two programs in sync, a logout under its condition. -/
theorem step (h : InSync fd x) (hlib : Succeeds lib) {a : Action} (hbare : x.LogsOutBare a)
    (hs : x.step lib fd a = some x') : InSync fd x' := by
  cases a with
  | type line => exact h.type hbare hs
  | reply => exact h.reply hlib hs
  | handleEvent => exact h.handleEvent hs
  | server e =>
    obtain ⟨sent', hsent, hs⟩ := Option.bind_eq_some_iff.mp hs
    obtain ⟨⟨s', queued⟩, hhandle, hs⟩ := Option.map_eq_some_iff.mp hs
    cases hs
    by_cases hdispatch : ∃ environment, e = .dispatch fd environment
    · obtain ⟨environment, rfl⟩ := hdispatch
      cases hsent
      exact h.dispatch hhandle
    · exact h.elsewhere (fun environment he => hdispatch ⟨environment, he⟩) hsent hhandle

theorem start {s : Server} (hs : s.Reachable) (hfd : s.CanAccept fd) : InSync fd (Dialogue.start fd s) := by
  have hlinked := hs.linked
  have hfresh : fd ∉ s.clientManager.clients := fun hmem => hfd.2.2.2 ((hlinked.clients fd).mp hmem)
  have hhandle : s.handle (.accept fd) = some (s.accepted fd, []) := if_pos hfd
  have hevents : ∀ p ∈ (Dialogue.start fd s).inbox, p.status.isEvent = true → IsEvent p := fun _ hp =>
    absurd hp List.not_mem_nil
  refine ⟨Finset.mem_insert_self _ _, hlinked.accepted hfd, hs.known.step hhandle, hevents, ?_⟩
  refine .idle rfl ?_ rfl ⟨iff_of_false nofun fun hmem => hfd.2.2.2 (hlinked.live fd hmem), ?_⟩
  · rw [unread]
    exact congrArg (· ++ []) ((Server.getIncomingBuffer_accepted s hfresh fd).trans (if_pos rfl))
  · exact ClientManager.getContext_addClient hfresh

end InSync

/-- In every state of every such run in which no request is under way, the copies agree. -/
theorem agreement_of_bare_logouts {lib : LibCall → Int} (hlib : Succeeds lib) {s : Server}
    (hs : s.Reachable) {fd : Fd} (hfd : s.CanAccept fd) {actions : List Action} {x : Dialogue}
    (hbare : Runs.Always (step lib fd) LogsOutBare (start fd s) actions)
    (hrun : Runs.run (step lib fd) (start fd s) actions = some x) (hidle : x.pending = none) :
    (x.client.connected = true ↔ fd ∈ x.server.authenticatedUsersByFd) ∧
      x.client.contextTeamUuid = x.server.clientManager.getContextTeamUuid fd ∧
      x.client.contextChannelUuid = x.server.clientManager.getContextChannelUuid fd ∧
      x.client.contextThreadUuid = x.server.clientManager.getContextThreadUuid fd := by
  have hsync : InSync fd x := Runs.run_invariant_of (fun _ _ _ h hC hstep => h.step hlib hC hstep)
    (InSync.start hs hfd) hbare hrun
  obtain ⟨-, -, hagree⟩ := hsync.idle hidle
  obtain ⟨hteam, hrest⟩ := Prod.mk.inj hagree.context
  obtain ⟨hchannel, hthread⟩ := Prod.mk.inj hrest
  exact ⟨hagree.connected, hteam.symm, hchannel.symm, hthread.symm⟩

/-- A request, from its line to its reply, with nothing else going on; `queued` bytes answer it. -/
def exchangeActions (line : Bytes) (request : Request) (queued : Nat) : List Action :=
  [.type line, .server (.receive 4 request.packet), .server (.dispatch 4 default),
    .server (.flush 4 queued), .reply]

/-- What a reply and the event of one's own login or logout take. -/
def selfEventSize : Nat := sizeof PacketHeader + (sizeof PacketHeader + sizeof PayloadEvtUserConnection)

def someTeamUuid : Bytes := bytesOf "00000000-0000-0000-0000-000000000000"

/-- A session in which a context is set. -/
def useActions : List Action :=
  exchangeActions (bytesOf "/login \"a\"") (.login [97]) selfEventSize ++ [.handleEvent] ++
    exchangeActions (bytesOf "/use \"00000000-0000-0000-0000-000000000000\"") (.use someTeamUuid [] [])
      (sizeof PacketHeader)

def logoutActions : List Action :=
  exchangeActions (bytesOf "/logout") .logout selfEventSize ++ [.handleEvent]

/-- The same session, in which the context is taken back before it ends. -/
theorem agreement_of_bare_logouts_reset :
    ∃ x, Runs.run (step (fun _ => 0) 4) (start 4 (.start 3 [] [] []))
        (useActions ++ exchangeActions (bytesOf "/use") (.use [] [] []) (sizeof PacketHeader) ++
          logoutActions) = some x ∧
      x.client.contextTeamUuid = x.server.clientManager.getContextTeamUuid 4 := by
  have hfacts : (Runs.run (step (fun _ => 0) 4) (start 4 (.start 3 [] [] []))
      (useActions ++ exchangeActions (bytesOf "/use") (.use [] [] []) (sizeof PacketHeader) ++
        logoutActions)).map (fun x => x.pending.isNone) = some true := by
    decide +kernel
  obtain ⟨x, hrun, hidle⟩ := Option.map_eq_some_iff.mp hfacts
  have hlib : Succeeds fun _ => 0 := fun _ => le_refl 0
  have hreachable : (Server.start 3 [] [] []).Reachable := ⟨3, [], [], [], [], rfl⟩
  have hagreement := agreement_of_bare_logouts hlib hreachable (by decide) (by decide +kernel) hrun
    (by simpa using hidle)
  exact ⟨x, hrun, hagreement.2.1⟩

/-- Without that, the client forgets the context at its logout, and the server does not. -/
theorem not_agreement : ¬∀ (lib : LibCall → Int), Succeeds lib → ∀ (s : Server), s.Reachable →
    ∀ fd, s.CanAccept fd → ∀ actions x, Runs.run (step lib fd) (start fd s) actions = some x →
      x.pending = none →
      (x.client.connected = true ↔ fd ∈ x.server.authenticatedUsersByFd) ∧
        x.client.contextTeamUuid = x.server.clientManager.getContextTeamUuid fd ∧
        x.client.contextChannelUuid = x.server.clientManager.getContextChannelUuid fd ∧
        x.client.contextThreadUuid = x.server.clientManager.getContextThreadUuid fd := by
  intro hall
  have hfacts : (Runs.run (step (fun _ => 0) 4) (start 4 (.start 3 [] [] []))
      (useActions ++ logoutActions)).map (fun x => (x.pending.isNone, x.client.contextTeamUuid,
        x.server.clientManager.getContextTeamUuid 4)) = some (true, [], someTeamUuid) := by
    decide +kernel
  obtain ⟨x, hrun, hfacts⟩ := Option.map_eq_some_iff.mp hfacts
  obtain ⟨hidle, hcontexts⟩ := Prod.mk.inj hfacts
  obtain ⟨hclient, hserver⟩ := Prod.mk.inj hcontexts
  have hteam := (hall (fun _ => 0) (fun _ => le_refl 0) (.start 3 [] [] []) ⟨3, [], [], [], [], rfl⟩ 4
    (by decide) _ x hrun (by simpa using hidle)).2.1
  rw [hclient, hserver] at hteam
  exact absurd hteam (by decide +kernel)

end Dialogue

end TeamsMirror
