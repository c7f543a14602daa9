import TeamsMirror.Link.PollLoop
import TeamsMirror.Server.Provenance

/-!
# Recycled descriptors

The number of a closed connection comes back with the next one. Every turn of the
poll loop is a sequence of events of `Server.handle`, so the containers stay linked,
and the list of descriptors handed to `poll` is the list of open connections. What is
found under a number then belongs to its present owner alone.
-/

namespace TeamsMirror

open Relation

namespace Server

variable {s s' : Server}

/-- The recipients of a command are its sender and the connections that are logged in. -/
theorem Linked.recipient_effect {context : CommandContext} {command : CommandID}
    {packets : List (Fd × Packet)} (h : Linked context.toServer) (he : Effect context command s packets)
    {q : Fd × Packet} (hq : q ∈ packets) : q.1 = context.clientFd ∨ q.1 ∈ s.authenticatedUsersByFd := by
  have htoClient : ∀ {ps : List Packet}, q ∈ toClient context ps → q.1 = context.clientFd := by
    intro ps hmem
    obtain ⟨p, -, rfl⟩ := List.mem_map.mp hmem
    rfl
  have htoEveryone : ∀ {t : Server} {p : Packet}, q ∈ toEveryone t p → q.1 ∈ t.authenticatedUsersByFd := by
    intro t p hmem
    obtain ⟨fd, hfd, rfl⟩ := List.mem_map.mp hmem
    exact AList.mem_keys.mpr hfd
  have htoSubscribers : ∀ {t : Server} {team : Team} {p : Packet}, q ∈ toSubscribers t team p →
      q.1 ∈ t.authenticatedUsersByFd := by
    intro t team p hmem
    obtain ⟨entry, hentry, rfl⟩ := List.mem_map.mp hmem
    exact UnorderedMap.mem_of_lookup (UnorderedMap.mem_entries_iff.mp (List.mem_filter.mp hentry).1)
  cases he with
  | registered | loggedIn | createdTeam =>
    rcases List.mem_append.mp hq with hq | hq
    · exact .inl (htoClient hq)
    · exact .inr (htoEveryone hq)
  | loggedOut =>
    rcases List.mem_append.mp hq with hq | hq
    · exact .inl (htoClient hq)
    · obtain ⟨fd, hfd, rfl⟩ := List.mem_map.mp hq
      exact .inr (AList.mem_keys.mpr (List.mem_filter.mp hfd).1)
  | sent =>
    rcases List.mem_append.mp hq with hq | hq
    · obtain ⟨fd, hfd, rfl⟩ := List.mem_map.mp hq
      exact .inr (UnorderedMap.mem_of_lookup (h.owned _ _ hfd))
    · exact .inl (htoClient hq)
  | createdChannel | createdThread | createdReply =>
    rcases List.mem_append.mp hq with hq | hq
    · exact .inl (htoClient hq)
    · exact .inr (htoSubscribers hq)
  | _ => exact .inl (htoClient hq)

/-- For whom an event may queue a packet: the sender of the command, or a connection that is logged
in; and a private message only for a connection logged in as its receiver. -/
structure Meant (s : Server) (e : Event) (s' : Server) (q : Fd × Packet) : Prop where
  isOpen : q.1 ∈ s.clientSockets
  owner : (∃ environment, e = .dispatch q.1 environment) ∨ q.1 ∈ s'.authenticatedUsersByFd
  addressee : ∀ r, q.2.payload = .evtPrivateMsg r → ∃ message ∈ s'.messages,
    q.2 = privateMessageEvent message ∧
      s.authenticatedUsersByFd.lookup q.1 = some message.receiverUuid.bytes

theorem Linked.meant {e : Event} {queued : List (Fd × Packet)} (h : Linked s)
    (hs : s.handle e = some (s', queued)) : ∀ q ∈ queued, Meant s e s' q := by
  intro q hq
  have hlinked := h.step hs
  cases e with
  | accept fd =>
    obtain ⟨-, -, rfl⟩ := handle_accept hs
    cases hq
  | receive fd chunk =>
    obtain ⟨-, rfl, -⟩ := handle_receive hs
    cases hq
  | flush fd n =>
    obtain ⟨-, -, rfl, -⟩ := handle_flush hs
    cases hq
  | dispatch fd environment =>
    obtain ⟨hfd, command, payload, middle, size, heffect, rfl⟩ := handle_dispatch hs
    have hsame : SameConnections s middle := heffect.sameConnections
    have hrecipient := Linked.recipient_effect h heffect hq
    refine ⟨?_, ?_, fun r hr => ?_⟩
    · rcases hrecipient with hself | hauth
      · exact hself ▸ hfd
      · have hlive : q.1 ∈ middle.clientSockets := hlinked.live q.1 hauth
        exact hsame.clientSockets ▸ hlive
    · rcases hrecipient with hself | hauth
      · exact .inl ⟨environment, by rw [hself]; rfl⟩
      · exact .inr hauth
    · have hissued := heffect.issued q hq
      cases hissued with
      | privateMessage hmem hsession => exact ⟨_, hmem, rfl, h.owned _ _ hsession⟩
      | _ => cases hr
  | disconnect fd =>
    obtain ⟨-, middle, hd, rfl⟩ := handle_disconnect hs
    cases hd with
    | known =>
      obtain ⟨fd', hfd', rfl⟩ := List.mem_map.mp hq
      have hauth := AList.mem_keys.mpr (List.mem_filter.mp hfd').1
      refine ⟨h.live fd' (AList.mem_erase.mp hauth).2, .inr hauth, fun r hr => ?_⟩
      cases hr
    | _ => cases hq

end Server

/-- What is done for a connection that stays: bytes are taken from its socket, a packet of its is
dispatched, or bytes are given to its socket. -/
def Event.IsServiceOf (fd : Fd) : Event → Prop
  | .receive fd' _ | .dispatch fd' _ | .flush fd' _ => fd' = fd
  | .accept _ | .disconnect _ => False

namespace Outbound

variable {x y : Outbound} {fd : Fd}

/-- One event of the server, with what it means for the histories. -/
def Serves (x y : Outbound) : Prop :=
  ∃ e queued, x.server.handle e = some (y.server, queued) ∧ y.streams = x.history e queued

/-- One event of the server, all of whose packets are for the present owners of their descriptors. -/
def ServesOwners (x y : Outbound) : Prop :=
  ∃ e queued, x.server.handle e = some (y.server, queued) ∧ y.streams = x.history e queued ∧
    ∀ q ∈ queued, Server.Meant x.server e y.server q

theorem Serves.intact (h : Serves x y) (hx : Intact x) : Intact y := by
  obtain ⟨e, queued, hs, hstreams⟩ := h
  obtain ⟨server, streams⟩ := y
  cases hstreams
  exact hx.server hs

theorem Intact.serves (hx : Intact x) (h : ReflTransGen Serves x y) : Intact y := by
  induction h with
  | refl => exact hx
  | tail _ hyz ih => exact hyz.intact ih

theorem Intact.servesOwners (hx : Intact x) (h : ReflTransGen Serves x y) :
    ReflTransGen ServesOwners x y := by
  induction h with
  | refl => exact .refl
  | tail hxy hyz ih =>
    have hy := hx.serves hxy
    obtain ⟨e, queued, hs, hstreams⟩ := hyz
    exact ih.tail ⟨e, queued, hs, hstreams, hy.linked.meant hs⟩

/-- The states of the loop are states that the events of the server reach. -/
theorem reachable_serves (h : ReflTransGen Serves x y) (hx : Server.Reachable x.server) :
    Server.Reachable y.server := by
  induction h with
  | refl => exact hx
  | tail _ hyz ih =>
    obtain ⟨listenFd, users, teams, messages, events, hrun⟩ := ih
    obtain ⟨e, queued, hs, -⟩ := hyz
    exact ⟨listenFd, users, teams, messages, events ++ [e],
      Runs.run_snoc hrun (Server.step_eq_some.mpr ⟨queued, hs⟩)⟩

/-- One event of serving a connection. -/
def ServesConnection (fd : Fd) (x y : Outbound) : Prop :=
  ∃ e queued, Event.IsServiceOf fd e ∧ x.server.handle e = some (y.server, queued) ∧
    y.streams = x.history e queued

theorem ServesConnection.serves (h : ServesConnection fd x y) : Serves x y := by
  obtain ⟨e, queued, -, hs, hstreams⟩ := h
  exact ⟨e, queued, hs, hstreams⟩

/-- An event that neither opens a connection nor writes to one. -/
theorem history_after {e : TeamsMirror.Event} (s : Server) (queued : List (Fd × Packet))
    (hopens : e.opens = none) (hwritten : ∀ fd, e.written x.server fd = []) :
    (x.after s queued).streams = x.history e queued := by
  funext fd
  simp [history, after, hopens, hwritten]

theorem after_nil (x : Outbound) : x.after x.server [] = x := by
  simp [after, packetsFor]

theorem after_after (x : Outbound) (s s' : Server) (ps qs : List (Fd × Packet)) :
    (x.after s ps).after s' qs = x.after s' (ps ++ qs) := by
  simp [after, packetsFor]

/-- Events that leave the set of connections alone. -/
structure Steady (x y : Outbound) : Prop where
  serves : ReflTransGen Serves x y
  listenFd : y.server.listenFd = x.server.listenFd
  clientSockets : y.server.clientSockets = x.server.clientSockets

theorem Steady.refl (x : Outbound) : Steady x x := ⟨.refl, rfl, rfl⟩

theorem Steady.trans {z : Outbound} (h : Steady x y) (h' : Steady y z) : Steady x z :=
  ⟨h.serves.trans h'.serves, h'.listenFd.trans h.listenFd, h'.clientSockets.trans h.clientSockets⟩

/-- Serving one connection leaves the set of connections alone. -/
structure Attends (fd : Fd) (x y : Outbound) : Prop where
  serves : ReflTransGen (ServesConnection fd) x y
  listenFd : y.server.listenFd = x.server.listenFd
  clientSockets : y.server.clientSockets = x.server.clientSockets

theorem Attends.refl (fd : Fd) (x : Outbound) : Attends fd x x := ⟨.refl, rfl, rfl⟩

theorem Attends.trans {z : Outbound} (h : Attends fd x y) (h' : Attends fd y z) : Attends fd x z :=
  ⟨h.serves.trans h'.serves, h'.listenFd.trans h.listenFd, h'.clientSockets.trans h.clientSockets⟩

theorem Attends.steady (h : Attends fd x y) : Steady x y :=
  ⟨h.serves.lift id fun _ _ => ServesConnection.serves, h.listenFd, h.clientSockets⟩

theorem attends_receive {data : Bytes} (hfd : fd ∈ x.server.clientSockets) (hdata : data ≠ [])
    (hlength : data.length ≤ readBufferSize) :
    Attends fd x (x.setManager (x.server.clientManager.appendToIncomingBuffer fd data)) := by
  have hs : x.server.handle (.receive fd data) = some
      ({ x.server with clientManager := x.server.clientManager.appendToIncomingBuffer fd data }, []) := by
    rw [Server.handle, if_pos ⟨hfd, hdata, hlength⟩]
  have hstreams : (x.setManager (x.server.clientManager.appendToIncomingBuffer fd data)).streams =
      x.history (.receive fd data) [] := by
    rw [← history_after x.server [] rfl fun _ => rfl, after_nil]
    rfl
  exact ⟨.single ⟨.receive fd data, [], rfl, hs, hstreams⟩, rfl, rfl⟩

theorem attends_process {oracle : Server → Environment} {fuel : Nat} {s : Server}
    {dispatched : List Dispatched} (hfd : fd ∈ x.server.clientSockets)
    (h : processClientIncomingPackets oracle fd fuel x.server = .ok (s, dispatched)) :
    Attends fd x (x.after s (dispatched.flatMap Dispatched.queued)) := by
  have hstep : ∀ s queued environment s' packets, Attends fd x (x.after s queued) →
      s.handle (.dispatch fd environment) = some (s', packets) →
      Attends fd x (x.after s' (queued ++ packets)) := by
    intro s queued environment s' packets hattends hs
    have hserves : ServesConnection fd (x.after s queued) ((x.after s queued).after s' packets) :=
      ⟨.dispatch fd environment, _, rfl, hs, history_after s' packets rfl fun _ => rfl⟩
    rw [after_after] at hserves
    obtain ⟨-, command, payload, middle, size, heffect, rfl⟩ := Server.handle_dispatch hs
    have hsame : Server.SameConnections s middle := heffect.sameConnections
    exact ⟨hattends.serves.tail hserves, hsame.listenFd.trans hattends.listenFd,
      hsame.clientSockets.trans hattends.clientSockets⟩
  exact Server.processClientIncomingPackets_induction hstep hfd [] (x.after_nil.symm ▸ .refl fd x) h

theorem attends_flush {n : Nat} (hfd : fd ∈ x.server.clientSockets) (hn : 0 < n)
    (hlength : n ≤ (x.server.clientManager.getQueuedData fd).length) :
    Attends fd x (x.flushed fd (x.server.clientManager.consumeQueuedData fd n)) := by
  have hs : x.server.handle (.flush fd n) = some
      ({ x.server with clientManager := x.server.clientManager.consumeQueuedData fd n }, []) := by
    rw [Server.handle, if_pos ⟨hfd, hn, hlength⟩]
  refine ⟨.single ⟨.flush fd n, _, rfl, hs, ?_⟩, rfl, rfl⟩
  funext fd'
  have hsent : (x.server.clientManager.getQueuedData fd).length -
      ((x.server.clientManager.getQueuedData fd).length - n) = n := by omega
  by_cases hne : fd' = fd
  · simp [flushed, history, Event.opens, Event.written, packetsFor, hne,
      ClientManager.getQueuedData_consume, hsent]
  · simp [flushed, history, Event.opens, Event.written, packetsFor, hne, Ne.symm hne]

theorem attends_idle (x : Outbound) (fd : Fd) : Attends fd x (x.flushed fd x.server.clientManager) := by
  have hsame : x.flushed fd x.server.clientManager = x := by
    simp [flushed]
  rw [hsame]
  exact .refl fd x

theorem serves_accepted (hfd : x.server.CanAccept fd) : Serves x (x.accepted fd) := by
  refine ⟨.accept fd, [], by rw [Server.handle, if_pos hfd]; rfl, ?_⟩
  funext fd'
  by_cases hne : fd' = fd
  · simp [accepted, history, TeamsMirror.Event.opens, hne]
  · simp [accepted, history, TeamsMirror.Event.opens, TeamsMirror.Event.written, packetsFor, hne,
      Ne.symm hne]

theorem serves_disconnected (hfd : fd ∈ x.server.clientSockets) : Serves x (x.disconnected fd) :=
  ⟨.disconnect fd, _, by rw [Server.handle, if_pos hfd]; rfl, history_after _ _ rfl fun _ => rfl⟩

end Outbound

/-- A read that keeps its connection brought bytes. -/
theorem handleReadableEvent_true {m m' : ClientManager} {fd : Fd} {read : Outcome Bytes}
    (h : handleReadableEvent m fd read = some (true, m')) :
    ∃ data, read = .value data ∧ data ≠ [] ∧ m' = m.appendToIncomingBuffer fd data := by
  cases read with
  | value data =>
    simp only [handleReadableEvent, readClientData, Outcome.map, Outcome.caught] at h
    split at h
    · cases h
    · next hdata =>
      cases h
      exact ⟨data, rfl, hdata, rfl⟩
  | socketException => cases h
  | uncaught => cases h

/-- A write that keeps its connection had nothing to write, or the socket took some of it. -/
theorem handleWritableEvent_true {m m' : ClientManager} {fd : Fd}
    {write : (queuedData : Bytes) → Outcome (Fin (queuedData.length + 1))}
    (h : handleWritableEvent m fd write = some (true, m')) :
    m' = m ∨ ∃ n, 0 < n ∧ n ≤ (m.getQueuedData fd).length ∧ m' = m.consumeQueuedData fd n := by
  simp only [handleWritableEvent, flushClientData] at h
  split at h
  · cases h
    exact .inl rfl
  · split at h
    · cases h
      exact .inl rfl
    · cases hwrite : write (m.getQueuedData fd) with
      | value bytesSent =>
        simp only [hwrite, Outcome.map, Outcome.caught] at h
        split at h
        · cases h
        · cases h
          exact .inr ⟨bytesSent, by omega, by omega, rfl⟩
      | socketException => simp [hwrite, Outcome.map, Outcome.caught] at h
      | uncaught => simp [hwrite, Outcome.map, Outcome.caught] at h

namespace Outbound

variable {x y : Outbound} {fd : Fd} {outside : Outside} {verdict : Verdict}

theorem attends_handleInput (hfd : fd ∈ x.server.clientSockets)
    (h : handleInput x fd outside = some (y, verdict)) : Attends fd x y := by
  simp only [handleInput] at h
  split at h
  · cases h
    exact .refl fd x
  · cases h
    exact .refl fd x
  · next m hread =>
    obtain ⟨data, hvalue, hdata, rfl⟩ := handleReadableEvent_true hread
    have hlength : data.length ≤ readBufferSize := by
      cases hcall : outside.read with
      | value a =>
        rw [hcall] at hvalue
        cases hvalue
        exact a.2
      | socketException => rw [hcall] at hvalue; cases hvalue
      | uncaught => rw [hcall] at hvalue; cases hvalue
    have hreceive := attends_receive hfd hdata hlength
    split at h
    · cases h
    · next s dispatched hloop =>
      cases h
      exact hreceive.trans (attends_process (hreceive.clientSockets ▸ hfd) hloop)

theorem attends_handleOutput (hfd : fd ∈ x.server.clientSockets)
    (h : handleOutput x fd outside = (y, verdict)) : Attends fd x y := by
  simp only [handleOutput] at h
  split at h
  · cases h
    exact .refl fd x
  · cases h
    exact .refl fd x
  · next m hwrite =>
    cases h
    rcases handleWritableEvent_true hwrite with rfl | ⟨n, hn, hlength, rfl⟩
    · exact attends_idle x fd
    · exact attends_flush hfd hn hlength

theorem attends_turn {clientEvents : PollEvents} (hfd : fd ∈ x.server.clientSockets)
    (h : shouldKeepClientConnected x fd clientEvents outside = some (y, verdict)) : Attends fd x y := by
  have hinput : ∀ {z : Outbound} {v : Verdict},
      (if clientEvents.pollIn then handleInput x fd outside else some (x, .keep)) = some (z, v) →
        Attends fd x z := by
    intro z v hz
    split at hz
    · exact attends_handleInput hfd hz
    · cases hz
      exact .refl fd x
  simp only [shouldKeepClientConnected] at h
  split at h
  · cases h
    exact .refl fd x
  · split at h
    · cases h
    · next z hz =>
      have hattends := hinput hz
      have hy := Option.some.inj h
      split at hy
      · exact hattends.trans (attends_handleOutput (hattends.clientSockets ▸ hfd) hy)
      · cases hy
        exact hattends
    · next z v _ hz =>
      cases h
      exact hinput hz

end Outbound

theorem Outbound.listenFd_disconnected {x : Outbound} (h : x.server.Linked) (clientFd : Fd) :
    (x.disconnected clientFd).server.listenFd = x.server.listenFd := by
  obtain ⟨middle, packets, hd, he⟩ := Server.handleClientDisconnection_eq x.server clientFd default
  simp only [Outbound.disconnected, Outbound.after, Server.removed, he, toServer_perform]
  exact (h.disconnection hd).2.2.listenFd

namespace PollLoop

variable {p p' : PollLoop}

/-- The descriptors handed to `poll`. -/
def fds (p : PollLoop) : List Fd := p.pollFds.map PollFd.fd

/-- The list is the listening descriptor and the open connections, each once. -/
structure Tracked (p : PollLoop) : Prop where
  intact : p.link.Intact
  distinct : p.fds.Nodup
  listed : ∀ fd, fd ∈ p.fds ↔ fd = p.link.server.listenFd ∨ fd ∈ p.link.server.clientSockets

/-- What one step of the loop does. -/
inductive Move (p p' : PollLoop) : Prop where
  | steady : Outbound.Steady p.link p'.link → p'.fds = p.fds → Move p p'
  | accepted {fd : Fd} : p.link.server.CanAccept fd → p'.link = p.link.accepted fd →
      p'.fds = p.fds ++ [fd] → Move p p'
  | removed {x : Outbound} {index : Nat} {currentPollFd : PollFd} : Outbound.Steady p.link x →
      p.pollFds[index]? = some currentPollFd → currentPollFd.fd ∈ x.server.clientSockets →
      p'.link = x.disconnected currentPollFd.fd → p'.pollFds = p.pollFds.eraseIdx index → Move p p'

theorem fds_set {index : Nat} {currentPollFd : PollFd} (pollFd : PollFd)
    (hcurrent : p.pollFds[index]? = some currentPollFd) (hfd : pollFd.fd = currentPollFd.fd) :
    (p.pollFds.set index pollFd).map PollFd.fd = p.fds := by
  have hindex := (List.getElem?_eq_some_iff.mp hcurrent).1
  rw [List.map_set, fds, hfd]
  apply List.ext_getElem?
  intro i
  rw [List.getElem?_set]
  split
  · next hi =>
    rw [if_pos (by rwa [List.length_map]), ← hi, List.getElem?_map, hcurrent]
    rfl
  · rfl

theorem fds_pollTurn (p : PollLoop) (result : PollResult) (isRunning : Bool) :
    (p.pollTurn result isRunning).fds = p.fds := by
  have hrefresh : ∀ (m : ClientManager) (listenFd : Fd),
      (refreshAllPollInterests p.pollFds m listenFd).map PollFd.fd = p.fds := by
    intro m listenFd
    rw [refreshAllPollInterests, List.map_map, fds]
    congr 1
    funext pollFd
    by_cases h : pollFd.fd = listenFd <;> simp [h, refreshClientPollInterest]
  cases result with
  | failed => exact hrefresh _ _
  | nothing => exact hrefresh _ _
  | ready revents =>
    rw [← hrefresh p.link.server.clientManager p.link.server.listenFd]
    apply List.ext_getElem?
    intro i
    simp [fds, pollTurn, Function.comp_def]

/-- What the turn of one descriptor comes to. -/
inductive Serviced (p : PollLoop) (current : PollFd) (p' : PollLoop) : Prop where
  | kept {index : Nat} (refreshed : PollFd) : p.phase = .turn index → p.pollFds[index]? = some current →
      Outbound.Attends current.fd p.link p'.link → refreshed.fd = current.fd →
      p'.pollFds = p.pollFds.set index refreshed → p'.phase = .turn (index + 1) → Serviced p current p'
  | accepted {index : Nat} (fd : Fd) : p.phase = .turn index → p.pollFds[index]? = some current →
      current.revents ≠ .none → p.link.server.CanAccept fd → p'.link = p.link.accepted fd →
      p'.pollFds = appendClientPollFd (p.pollFds.set index { current with revents := .none }) fd →
      p'.phase = .turn (index + 1) → Serviced p current p'
  | removed {index : Nat} (x : Outbound) : p.phase = .turn index → p.pollFds[index]? = some current →
      Outbound.Attends current.fd p.link x → current.fd ∈ x.server.clientSockets →
      p'.link = x.disconnected current.fd → p'.pollFds = p.pollFds.eraseIdx index →
      p'.phase = .turn index → Serviced p current p'
  | aborted : Outbound.Attends current.fd p.link p'.link → p'.fds = p.fds → p'.phase = .aborted →
      Serviced p current p'

theorem Tracked.serviced (h : Tracked p) {index : Nat} {current : PollFd} {outside : Outside}
    (hphase : p.phase = .turn index) (hcurrent : p.pollFds[index]? = some current)
    (hs : p.forTurn index outside = some p') : Serviced p current p' := by
  simp only [forTurn, hcurrent] at hs
  split at hs
  · cases hs
    have hset : p.pollFds = p.pollFds.set index current := by
      obtain ⟨hindex, rfl⟩ := List.getElem?_eq_some_iff.mp hcurrent
      exact (List.set_getElem_self hindex).symm
    exact .kept current hphase hcurrent (.refl _ _) rfl hset rfl
  · next hready =>
    split at hs
    · simp only [acceptTurn] at hs
      split at hs
      · split at hs
        · next clientFd _ =>
          obtain ⟨hfd, hsome⟩ := Option.ite_none_right_eq_some.mp hs
          cases hsome
          exact .accepted clientFd hphase hcurrent hready hfd rfl rfl rfl
        · cases hs
          exact .aborted (.refl _ _) (fds_set _ hcurrent rfl) rfl
      · cases hs
        exact .kept { current with revents := .none } hphase hcurrent (.refl _ _) rfl rfl rfl
    · next hclient =>
      have hmem : current.fd ∈ p.fds := List.mem_map_of_mem (List.mem_of_getElem? hcurrent)
      have hfd := ((h.listed current.fd).mp hmem).resolve_left hclient
      simp only [clientTurn] at hs
      split at hs
      · cases hs
      · next x hturn =>
        cases hs
        exact .kept (refreshClientPollInterest current x.server.clientManager current.fd) hphase hcurrent
          (Outbound.attends_turn hfd hturn) rfl rfl rfl
      · next x hturn =>
        cases hs
        have hattends := Outbound.attends_turn hfd hturn
        exact .removed x hphase hcurrent hattends (hattends.clientSockets ▸ hfd) rfl rfl hphase
      · next x hturn =>
        cases hs
        exact .aborted (Outbound.attends_turn hfd hturn) rfl rfl

theorem Serviced.move {current : PollFd} (h : Serviced p current p') : Move p p' := by
  cases h with
  | kept refreshed _ hcurrent hattends hfd hpollFds =>
    refine .steady hattends.steady ?_
    rw [fds, hpollFds]
    exact fds_set _ hcurrent hfd
  | accepted fd _ hcurrent _ hfd hlink hpollFds =>
    refine .accepted hfd hlink ?_
    rw [fds, hpollFds, appendClientPollFd, List.map_append, fds_set { current with revents := .none } hcurrent rfl]
    rfl
  | removed x _ hcurrent hattends hfd hlink hpollFds =>
    exact .removed hattends.steady hcurrent hfd hlink hpollFds
  | aborted hattends hfds => exact .steady hattends.steady hfds

theorem forTurn_end {index : Nat} {outside : Outside} (hcurrent : p.pollFds[index]? = none)
    (hs : p.forTurn index outside = some p') : p' = { p with phase := .polling } := by
  simp only [forTurn, hcurrent] at hs
  exact (Option.some.inj hs).symm

theorem Tracked.turn (h : Tracked p) {index : Nat} {outside : Outside} (hphase : p.phase = .turn index)
    (hs : p.forTurn index outside = some p') : Move p p' := by
  cases hcurrent : p.pollFds[index]? with
  | none =>
    rw [forTurn_end hcurrent hs]
    exact .steady (.refl _) rfl
  | some current => exact (h.serviced hphase hcurrent hs).move

theorem Tracked.move (h : Tracked p) {e : Event} (hs : p.step e = some p') : Move p p' := by
  simp only [PollLoop.step] at hs
  split at hs
  · next result isRunning _ =>
    cases hs
    refine .steady ?_ (fds_pollTurn p result isRunning)
    have hlink : (p.pollTurn result isRunning).link = p.link := by cases result <;> rfl
    rw [hlink]
    exact .refl _
  · cases hs
    exact .steady (.refl _) rfl
  · next hphase => exact h.turn hphase hs
  · cases hs

theorem Move.serves (h : Move p p') : Relation.ReflTransGen Outbound.Serves p.link p'.link := by
  cases h with
  | steady hsteady => exact hsteady.serves
  | accepted hfd hlink =>
    rw [hlink]
    exact .single (Outbound.serves_accepted hfd)
  | removed hsteady _ hfd hlink =>
    rw [hlink]
    exact hsteady.serves.tail (Outbound.serves_disconnected hfd)

theorem Tracked.start (listenFd : Fd) (users : List User) (teams : List Team) (messages : List Message) :
    Tracked (PollLoop.start listenFd users teams messages) where
  intact := .start _ _ _ _
  distinct := List.nodup_singleton _
  listed fd := by simp [fds, PollLoop.start, Outbound.start, Server.start]

theorem Tracked.step (h : Tracked p) {e : Event} (hs : p.step e = some p') : Tracked p' := by
  have hmove := h.move hs
  have hintact := h.intact.serves hmove.serves
  cases hmove with
  | steady hsteady hfds =>
    refine ⟨hintact, hfds ▸ h.distinct, fun fd => ?_⟩
    rw [hfds, hsteady.listenFd, hsteady.clientSockets]
    exact h.listed fd
  | accepted hfd hlink hfds =>
    rename_i clientFd
    have hnew : clientFd ∉ p.fds := by
      rw [h.listed]
      rintro (hlisten | hopen)
      · exact hfd.2.2.1 hlisten
      · exact hfd.2.2.2 hopen
    refine ⟨hintact, ?_, fun fd => ?_⟩
    · rw [hfds, List.nodup_append_comm]
      exact List.nodup_cons.mpr ⟨hnew, h.distinct⟩
    · rw [hfds, hlink, List.mem_append, List.mem_singleton, h.listed]
      simp only [Outbound.accepted, Server.accepted, Finset.mem_insert]
      tauto
  | removed hsteady hcurrent hfd hlink hpollFds =>
    rename_i x index currentPollFd
    have hxlinked := (h.intact.serves hsteady.serves).linked
    have hlisten : p'.link.server.listenFd = x.server.listenFd := by
      rw [hlink]
      exact Outbound.listenFd_disconnected hxlinked currentPollFd.fd
    have hsockets : p'.link.server.clientSockets = x.server.clientSockets.erase currentPollFd.fd := by
      rw [hlink]
      rfl
    refine ⟨hintact, ?_, fun fd => ?_⟩
    · rw [fds, hpollFds]
      exact h.distinct.sublist ((List.eraseIdx_sublist _ _).map _)
    · rw [fds, hpollFds, Lists.mem_map_eraseIdx h.distinct hcurrent, hlisten, hsockets,
        hsteady.listenFd, Finset.mem_erase]
      have hne : currentPollFd.fd ≠ p.link.server.listenFd := by
        rw [← hsteady.listenFd]
        exact (hxlinked.isOpen _ hfd).2.2
      have hlisted := h.listed fd
      rw [fds] at hlisted
      rw [hlisted, hsteady.clientSockets]
      constructor
      · rintro ⟨hl | hl, hf⟩
        · exact .inl hl
        · exact .inr ⟨hf, hl⟩
      · rintro (hl | ⟨hf, hl⟩)
        · exact ⟨.inl hl, fun he => hne (he ▸ hl)⟩
        · exact ⟨.inr hl, hf⟩

end PollLoop

/-- A connection of which nothing is known yet. -/
structure Outbound.Fresh (x : Outbound) (fd : Fd) : Prop where
  unauthenticated : fd ∉ x.server.authenticatedUsersByFd
  unindexed : ∀ uuid, fd ∉ x.server.sessions uuid
  teamUuid : x.server.clientManager.getContextTeamUuid fd = []
  channelUuid : x.server.clientManager.getContextChannelUuid fd = []
  threadUuid : x.server.clientManager.getContextThreadUuid fd = []
  incomingBuffer : x.server.clientManager.getIncomingBuffer fd = []
  outgoingBuffer : x.server.clientManager.getQueuedData fd = []
  queued : (x.streams fd).queued = []
  written : (x.streams fd).written = []

theorem Outbound.Intact.fresh {x : Outbound} (h : Intact x) {fd : Fd} (hfd : x.server.CanAccept fd) :
    Fresh (x.accepted fd) fd := by
  have hnew : fd ∉ x.server.clientManager.clients := fun hmem =>
    hfd.2.2.2 ((h.linked.clients fd).mp hmem)
  have hauth : fd ∉ x.server.authenticatedUsersByFd := fun hmem => hfd.2.2.2 (h.linked.live fd hmem)
  have hlookup : (x.server.accepted fd).clientManager.clients.lookup fd = some Client.new := by
    rw [Server.accepted, ClientManager.addClient, UnorderedMap.lookup_emplace_of_notMem hnew, if_pos rfl]
  refine ⟨hauth, h.linked.notMem_sessions hauth, ?_, ?_, ?_, ?_, ?_, ?_, ?_⟩
  · simp [accepted, ClientManager.getContextTeamUuid, ClientManager.find, hlookup, Client.new]
  · simp [accepted, ClientManager.getContextChannelUuid, ClientManager.find, hlookup, Client.new]
  · simp [accepted, ClientManager.getContextThreadUuid, ClientManager.find, hlookup, Client.new]
  · simp [accepted, ClientManager.getIncomingBuffer, ClientManager.find, hlookup, Client.new]
  · simp [accepted, ClientManager.getQueuedData, ClientManager.find, hlookup, Client.new]
  · simp [accepted]
  · simp [accepted]

namespace PollLoop

/-- Whatever is proved about the reachable states of the server holds in the loop. -/
theorem reachable {listenFd : Fd} {users : List User} {teams : List Team} {messages : List Message}
    {events : List Event} {p : PollLoop}
    (hrun : Runs.run step (start listenFd users teams messages) events = some p) :
    Server.Reachable p.link.server := by
  have hstart : Server.Reachable (start listenFd users teams messages).link.server :=
    ⟨listenFd, users, teams, messages, [], rfl⟩
  have hboth : Tracked p ∧ Server.Reachable p.link.server := by
    refine Runs.run_invariant (P := fun p => Tracked p ∧ Server.Reachable p.link.server)
      (fun p e p' h hs => ?_) ⟨Tracked.start _ _ _ _, hstart⟩ hrun
    exact ⟨h.1.step hs, Outbound.reachable_serves (h.1.move hs).serves h.2⟩
  exact hboth.2

/-- The descriptors of `pollFds` other than the listening one. -/
def clientFds (p : PollLoop) : List Fd := p.fds.filter fun fd => fd ≠ p.link.server.listenFd

theorem Tracked.mem_clientFds {p : PollLoop} (h : Tracked p) {fd : Fd} :
    fd ∈ p.clientFds ↔ fd ∈ p.link.server.clientSockets := by
  rw [clientFds, List.mem_filter, h.listed, decide_eq_true_eq]
  constructor
  · rintro ⟨hl | hl, hne⟩
    · exact absurd hl hne
    · exact hl
  · exact fun hl => ⟨.inr hl, (h.intact.linked.isOpen fd hl).2.2⟩

theorem Move.fresh {p p' : PollLoop} (h : Move p p') (hp : Tracked p) {fd : Fd}
    (hfd : fd ∈ p'.link.server.clientSockets) (hclosed : fd ∉ p.link.server.clientSockets) :
    p'.link.Fresh fd := by
  cases h with
  | steady hsteady => exact absurd (hsteady.clientSockets ▸ hfd) hclosed
  | accepted hcan hlink =>
    rw [hlink] at hfd ⊢
    rcases Finset.mem_insert.mp hfd with rfl | hfd
    · exact hp.intact.fresh hcan
    · exact absurd hfd hclosed
  | removed hsteady _ _ hlink =>
    rw [hlink] at hfd
    have hmem := Finset.mem_of_mem_erase hfd
    exact absurd (hsteady.clientSockets ▸ hmem) hclosed

/-- In every state of the poll loop, the descriptors of `pollFds` besides the listening one are
pairwise distinct, and those of the sockets and of the clients; every session is that of one of
them, and is indexed once, under its own user only. Everything that a connection was and will be
sent was queued since it was accepted. A step of the loop is a sequence of events whose packets are
for the present owners of their descriptors, and a connection that it opens starts with nothing. -/
theorem no_leakage {listenFd : Fd} {users : List User} {teams : List Team} {messages : List Message}
    {events : List Event} {p : PollLoop}
    (hrun : Runs.run step (start listenFd users teams messages) events = some p) :
    p.clientFds.Nodup ∧
    (∀ fd, fd ∈ p.clientFds ↔ fd ∈ p.link.server.clientSockets) ∧
    (∀ fd, fd ∈ p.clientFds ↔ fd ∈ p.link.server.clientManager.clients) ∧
    (∀ fd ∈ p.link.server.authenticatedUsersByFd, fd ∈ p.clientFds) ∧
    (∀ uuid fds, p.link.server.authenticatedUsersByUUID.lookup uuid = some fds →
      fds.Nodup ∧ ∀ fd ∈ fds, p.link.server.authenticatedUsersByFd.lookup fd = some uuid) ∧
    (∀ fd ∈ p.clientFds,
      (p.link.streams fd).written ++ p.link.server.clientManager.getQueuedData fd =
        (p.link.streams fd).queued.flatMap Packet.bytes) ∧
    ∀ e p', p.step e = some p' →
      Relation.ReflTransGen Outbound.ServesOwners p.link p'.link ∧
      ∀ fd ∈ p'.link.server.clientSockets, fd ∉ p.link.server.clientSockets → p'.link.Fresh fd := by
  have htracked : Tracked p :=
    Runs.run_invariant (fun _ _ _ h hs => h.step hs) (Tracked.start _ _ _ _) hrun
  have hlinked := htracked.intact.linked
  refine ⟨htracked.distinct.filter _, fun fd => htracked.mem_clientFds, fun fd => ?_, fun fd hfd => ?_,
    fun uuid fds hfds => ?_, fun fd hfd => ?_, fun e p' hs => ⟨?_, fun fd hfd hclosed => ?_⟩⟩
  · rw [htracked.mem_clientFds, hlinked.clients]
  · exact htracked.mem_clientFds.mpr (hlinked.live fd hfd)
  · have hsessions : p.link.server.sessions uuid = fds := by rw [Server.sessions, hfds]; rfl
    exact ⟨hsessions ▸ hlinked.once uuid, fun fd hfd => hlinked.owned uuid fd (hsessions ▸ hfd)⟩
  · exact htracked.intact.account fd (htracked.mem_clientFds.mp hfd)
  · exact htracked.intact.servesOwners (htracked.move hs).serves
  · exact (htracked.move hs).fresh htracked hfd hclosed

/-- What the outside answers when a turn asks for none of it. -/
def quietOutside : Outside where
  accept := .socketException
  read := .socketException
  write := fun queuedData => .value (Fin.last queuedData.length)
  oracle := fun _ => default

/-- The flags of a round in which one entry of `pollFds` is ready. -/
def oneReady (ready : Nat) (revents : PollEvents) : PollResult :=
  .ready fun index => if index = ready then revents else .none

/-- Connection 4 logs in and hangs up; then the listening descriptor is ready again. -/
def hangUpRun : List Event :=
  let login := (Request.login [97]).packet
  [.poll (oneReady 0 .input) true, .turn { quietOutside with accept := .value 4 }, .turn quietOutside,
    .turn quietOutside,
    .poll (oneReady 1 .input) true, .turn quietOutside,
    .turn { quietOutside with read := .value ⟨login, by decide⟩ }, .turn quietOutside,
    .poll (oneReady 1 { PollEvents.none with pollHup := true }) true, .turn quietOutside,
    .turn quietOutside, .turn quietOutside,
    .poll (oneReady 0 .input) true]

theorem no_leakage_after_hang_up :
    ∃ p p', Runs.run step (start 3 [] [] []) hangUpRun = some p ∧
      p.step (.turn { quietOutside with accept := .value 4 }) = some p' ∧
      p'.link.server.users.length = 1 ∧ p'.link.Fresh 4 := by
  have hfacts : ((Runs.run step (start 3 [] [] []) hangUpRun).map fun p =>
      (decide ((4 : Fd) ∈ p.link.server.clientSockets),
        (p.step (.turn { quietOutside with accept := .value 4 })).map fun p' =>
          (decide ((4 : Fd) ∈ p'.link.server.clientSockets), p'.link.server.users.length))) =
      some (false, some (true, 1)) := by decide +kernel
  obtain ⟨p, hp, hfacts⟩ := Option.map_eq_some_iff.mp hfacts
  obtain ⟨hclosed, hstep⟩ := Prod.mk.inj hfacts
  obtain ⟨p', hp', hfacts'⟩ := Option.map_eq_some_iff.mp hstep
  obtain ⟨hopen, husers⟩ := Prod.mk.inj hfacts'
  obtain ⟨-, -, -, -, -, -, hsteps⟩ := no_leakage hp
  exact ⟨p, p', hp, hp', husers, (hsteps _ p' hp').2 4 (by simpa using hopen) (by simpa using hclosed)⟩

end PollLoop

end TeamsMirror
