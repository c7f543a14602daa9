import TeamsMirror.Client.Wire
import TeamsMirror.Server.Inbound

/-!
# The outbound stream

Packets are queued for a connection at any time, the socket takes any non-empty
prefix of what is queued, and the client finds the bytes in chunks that have
nothing to do with either. One equation survives every step: what was written,
followed by what still waits, is the concatenation of all that was queued. The
client's reader splits it again.
-/

namespace TeamsMirror

/-- The bytes that an event hands to the socket of a connection. -/
def Event.written (e : Event) (s : Server) (fd : Fd) : Bytes :=
  match e with
  | .flush fd' bytesSent => if fd' = fd then (s.clientManager.getQueuedData fd).take bytesSent else []
  | _ => []

/-- The connection that an event opens. -/
def Event.opens : Event → Option Fd
  | .accept fd => some fd
  | _ => none

/-- The packets of a list that are for one connection. -/
def packetsFor (fd : Fd) (queued : List (Fd × Packet)) : List Packet :=
  (queued.filter fun q => q.1 = fd).map Prod.snd

theorem bytes_packetsFor (fd : Fd) (queued : List (Fd × Packet)) :
    (packetsFor fd queued).flatMap Packet.bytes = bytesFor fd queued := by
  rw [packetsFor, bytesFor, List.flatMap_map]

namespace ClientManager

theorem getQueuedData_update {f : Client → Client} (hf : ∀ c, (f c).outgoingBuffer = c.outgoingBuffer)
    (m : ClientManager) (fd fd' : Fd) : (m.update fd f).getQueuedData fd' = m.getQueuedData fd' := by
  rw [getQueuedData, getQueuedData, find, find, lookup_update, Option.map_map]
  congr 2
  funext c
  by_cases h : fd' = fd <;> simp [h, hf]

theorem getQueuedData_receive (m : ClientManager) (fd fd' : Fd) (data : Bytes) :
    (m.appendToIncomingBuffer fd data).getQueuedData fd' = m.getQueuedData fd' := by
  rw [appendToIncomingBuffer_eq]
  apply getQueuedData_update
  exact fun _ => rfl

theorem getQueuedData_dispatched (m : ClientManager) (fd fd' : Fd) (n : Nat) :
    (m.consumeIncomingBuffer fd n).getQueuedData fd' = m.getQueuedData fd' := by
  apply getQueuedData_update
  exact fun _ => rfl

theorem getQueuedData_consume (m : ClientManager) (fd fd' : Fd) (n : Nat) :
    (m.consumeQueuedData fd n).getQueuedData fd' =
      if fd' = fd then (m.getQueuedData fd').drop n else m.getQueuedData fd' := by
  rw [consumeQueuedData, getQueuedData, getQueuedData, find, find, lookup_update]
  by_cases h : fd' = fd <;> cases m.clients.lookup fd' <;> simp [h, consumed_eq_drop]

theorem getQueuedData_addClient {m : ClientManager} {fd : Fd} (hfd : fd ∉ m.clients) (fd' : Fd) :
    (m.addClient fd).getQueuedData fd' = if fd' = fd then [] else m.getQueuedData fd' := by
  rw [addClient, getQueuedData, getQueuedData, find, find, UnorderedMap.lookup_emplace_of_notMem hfd]
  split <;> rfl

theorem getQueuedData_removeClient (m : ClientManager) {fd fd' : Fd} (hne : fd' ≠ fd) :
    (m.removeClient fd).getQueuedData fd' = m.getQueuedData fd' := by
  rw [removeClient, getQueuedData, getQueuedData, find, find, AList.lookup_erase_ne hne]

end ClientManager

namespace Server

variable {s s' : Server} {fd : Fd}

/-- The account of one event: what it writes and what it leaves is what was there and what it queues. -/
theorem written_step {e : Event} {queued : List (Fd × Packet)} (h : Linked s)
    (hs : s.handle e = some (s', queued)) (hfd : fd ∈ s.clientSockets) :
    fd ∈ s'.clientSockets →
      e.written s fd ++ s'.clientManager.getQueuedData fd =
        s.clientManager.getQueuedData fd ++ bytesFor fd queued := by
  intro hfd'
  have hclient : fd ∈ s.clientManager.clients := (h.clients fd).mpr hfd
  cases e with
  | accept fd' =>
    obtain ⟨hnew, rfl, rfl⟩ := handle_accept hs
    have hfresh : fd' ∉ s.clientManager.clients := fun hmem => hnew.2.2.2 ((h.clients fd').mp hmem)
    have hne : fd ≠ fd' := fun he => hnew.2.2.2 (he ▸ hfd)
    rw [accepted, ClientManager.getQueuedData_addClient hfresh, if_neg hne]
    simp [Event.written, bytesFor]
  | receive fd' chunk =>
    obtain ⟨-, rfl, rfl⟩ := handle_receive hs
    rw [ClientManager.getQueuedData_receive]
    simp [Event.written, bytesFor]
  | dispatch fd' environment =>
    obtain ⟨-, command, payload, middle, size, heffect, rfl⟩ := handle_dispatch hs
    have hsame : SameConnections s middle := heffect.sameConnections
    have hmiddle : fd ∈ middle.clientManager.clients := by
      rw [AList.mem_keys, hsame.keys, ← AList.mem_keys]
      exact hclient
    rw [ClientManager.getQueuedData_dispatched, deliver, ClientManager.getQueuedData_sendAll _ hmiddle,
      hsame.outgoing]
    rfl
  | flush fd' n =>
    obtain ⟨-, -, rfl, rfl⟩ := handle_flush hs
    simp only [ClientManager.getQueuedData_consume, Event.written]
    by_cases hne : fd = fd'
    · simp [hne, bytesFor]
    · simp [hne, Ne.symm hne, bytesFor]
  | disconnect fd' =>
    obtain ⟨-, middle, hd, rfl⟩ := handle_disconnect hs
    have hne : fd ≠ fd' := Finset.ne_of_mem_erase hfd'
    have hsame := (h.disconnection hd).2.2
    have hmiddle : fd ∈ middle.clientManager.clients := by
      rw [AList.mem_keys, hsame.keys, ← AList.mem_keys]
      exact hclient
    rw [ClientManager.getQueuedData_removeClient _ hne, deliver,
      ClientManager.getQueuedData_sendAll _ hmiddle, hsame.outgoing]
    rfl

/-- A connection that is open after an event was open before, or the event is its acceptance. -/
theorem open_before {e : Event} {queued : List (Fd × Packet)} (hs : s.handle e = some (s', queued))
    (hfd : fd ∈ s'.clientSockets) : e.opens = some fd ∨ fd ∈ s.clientSockets := by
  cases e with
  | accept fd' =>
    obtain ⟨-, rfl, -⟩ := handle_accept hs
    rcases Finset.mem_insert.mp hfd with rfl | hfd
    · exact .inl rfl
    · exact .inr hfd
  | receive fd' chunk =>
    obtain ⟨-, -, rfl⟩ := handle_receive hs
    exact .inr hfd
  | dispatch fd' environment =>
    obtain ⟨-, command, payload, middle, size, heffect, rfl⟩ := handle_dispatch hs
    have hsame : SameConnections s middle := heffect.sameConnections
    exact .inr (hsame.clientSockets ▸ hfd)
  | flush fd' n =>
    obtain ⟨-, -, -, rfl⟩ := handle_flush hs
    exact .inr hfd
  | disconnect fd' =>
    obtain ⟨-, middle, -, rfl⟩ := handle_disconnect hs
    exact .inr (Finset.mem_of_mem_erase hfd)

end Server

/-- The history of a connection since it was accepted: the packets queued for it, the bytes its
socket took, and what the client has found at its end. -/
structure OutStream where
  queued : List Packet
  written : Bytes
  arrivals : Arrivals

structure Outbound where
  server : Server
  streams : Fd → OutStream

namespace Outbound

/-- The server takes a step, packets of any kind are queued besides those of the handlers, or a
chunk reaches the client. -/
inductive Event where
  | server (e : TeamsMirror.Event)
  | queuePacket (fd : Fd) (packet : Packet)
  | queueStatus (fd : Fd) (status : StatusCode)
  | arrive (fd : Fd) (chunk : Bytes)

def start (listenFd : Fd) (users : List User) (teams : List Team) (messages : List Message) : Outbound :=
  ⟨.start listenFd users teams messages, fun _ => ⟨[], [], []⟩⟩

/-- The history of a connection after an event of the server. -/
def history (x : Outbound) (e : TeamsMirror.Event) (queued : List (Fd × Packet)) (fd : Fd) : OutStream :=
  if e.opens = some fd then ⟨[], [], []⟩
  else
    { queued := (x.streams fd).queued ++ packetsFor fd queued
      written := (x.streams fd).written ++ e.written x.server fd
      arrivals := (x.streams fd).arrivals }

def step (x : Outbound) : Event → Option Outbound
  | .server e => (x.server.handle e).map fun r => ⟨r.1, x.history e r.2⟩
  | .queuePacket fd packet =>
    if fd ∈ x.server.clientSockets then
      some
        { server := (TeamsMirror.queuePacket (x.server.context fd [] default) fd packet).toServer
          streams := Function.update x.streams fd
            { x.streams fd with queued := (x.streams fd).queued ++ [packet] } }
    else none
  | .queueStatus fd status =>
    if fd ∈ x.server.clientSockets then
      some
        { server := (TeamsMirror.queueStatus (x.server.context fd [] default) status).toServer
          streams := Function.update x.streams fd
            { x.streams fd with queued := (x.streams fd).queued ++ [.ofStatus status] } }
    else none
  | .arrive fd chunk =>
    if (x.streams fd).arrivals.flatten ++ chunk <+: (x.streams fd).written then
      some
        { x with
          streams := Function.update x.streams fd
            { x.streams fd with arrivals := (x.streams fd).arrivals ++ [chunk] } }
    else none

/-- The equation of the stream, and the transport's promise to deliver what was written, in order. -/
structure Intact (x : Outbound) : Prop where
  linked : x.server.Linked
  account : ∀ fd ∈ x.server.clientSockets,
    (x.streams fd).written ++ x.server.clientManager.getQueuedData fd =
      (x.streams fd).queued.flatMap Packet.bytes
  inOrder : ∀ fd, (x.streams fd).arrivals.flatten <+: (x.streams fd).written

namespace Intact

variable {x : Outbound}

theorem start (listenFd : Fd) (users : List User) (teams : List Team) (messages : List Message) :
    Intact (Outbound.start listenFd users teams messages) where
  linked := .start _ _ _ _
  account fd hfd := by simp [Outbound.start, Server.start] at hfd
  inOrder fd := List.nil_prefix

theorem server (h : Intact x) {e : TeamsMirror.Event} {s : Server} {queued : List (Fd × Packet)}
    (hs : x.server.handle e = some (s, queued)) : Intact ⟨s, x.history e queued⟩ := by
  refine ⟨h.linked.step hs, fun fd hfd => ?_, fun fd => ?_⟩
  · simp only [history]
    split
    · next hopens =>
      obtain ⟨rfl⟩ : e = .accept fd := by
        cases e <;> simp_all [TeamsMirror.Event.opens]
      obtain ⟨hnew, rfl, -⟩ := Server.handle_accept hs
      have hfresh : fd ∉ x.server.clientManager.clients := fun hmem =>
        hnew.2.2.2 ((h.linked.clients fd).mp hmem)
      rw [Server.accepted, ClientManager.getQueuedData_addClient hfresh, if_pos rfl]
      rfl
    · next hopens =>
      have hbefore := (Server.open_before hs hfd).resolve_left hopens
      have hstep := Server.written_step h.linked hs hbefore hfd
      rw [List.append_assoc, hstep, ← List.append_assoc, h.account fd hbefore, List.flatMap_append,
        bytes_packetsFor]
  · simp only [history]
    split
    · exact List.nil_prefix
    · exact (h.inOrder fd).trans (List.prefix_append _ _)

/-- Appending to the outgoing buffer of a live connection, wherever its flushes stand. -/
theorem queue (h : Intact x) {fd : Fd} (hfd : fd ∈ x.server.clientSockets) (packet : Packet) :
    Intact
      ⟨{ x.server with clientManager := x.server.clientManager.queueDataToSend fd packet.bytes },
        Function.update x.streams fd
          { x.streams fd with queued := (x.streams fd).queued ++ [packet] }⟩ := by
  have hqueue : x.server.clientManager.queueDataToSend fd packet.bytes =
    x.server.clientManager.sendAll [(fd, packet)] := rfl
  rw [hqueue]
  refine ⟨h.linked.deliver _, fun fd' hfd' => ?_, fun fd' => ?_⟩
  · have hclient := (h.linked.clients fd').mpr hfd'
    simp only
    rw [ClientManager.getQueuedData_sendAll _ hclient, ← List.append_assoc]
    by_cases hne : fd' = fd
    · subst hne
      simp only [Function.update_self]
      rw [h.account fd' hfd', List.flatMap_append]
      simp [bytesFor]
    · simp only [Function.update_of_ne hne]
      rw [h.account fd' hfd']
      simp [bytesFor, Ne.symm hne]
  · by_cases hne : fd' = fd
    · subst hne
      simp only [Function.update_self]
      exact h.inOrder fd'
    · simp only [Function.update_of_ne hne]
      exact h.inOrder fd'

theorem arrive (h : Intact x) {fd : Fd} {chunk : Bytes}
    (hchunk : (x.streams fd).arrivals.flatten ++ chunk <+: (x.streams fd).written) :
    Intact ⟨x.server, Function.update x.streams fd
      { x.streams fd with arrivals := (x.streams fd).arrivals ++ [chunk] }⟩ := by
  refine ⟨h.linked, fun fd' hfd' => ?_, fun fd' => ?_⟩
  · by_cases hne : fd' = fd
    · subst hne
      simp only [Function.update_self]
      exact h.account fd' hfd'
    · simp only [Function.update_of_ne hne]
      exact h.account fd' hfd'
  · by_cases hne : fd' = fd
    · subst hne
      simpa only [Function.update_self, List.flatten_append, List.flatten_singleton] using hchunk
    · simp only [Function.update_of_ne hne]
      exact h.inOrder fd'

theorem step {y : Outbound} {e : Event} (h : Intact x) (hs : x.step e = some y) : Intact y := by
  cases e with
  | server e =>
    obtain ⟨⟨s, queued⟩, hhandle, rfl⟩ := Option.map_eq_some_iff.mp hs
    exact h.server hhandle
  | queuePacket fd packet =>
    obtain ⟨hfd, hsome⟩ := Option.ite_none_right_eq_some.mp hs
    cases hsome
    exact h.queue hfd packet
  | queueStatus fd status =>
    obtain ⟨hfd, hsome⟩ := Option.ite_none_right_eq_some.mp hs
    cases hsome
    exact h.queue hfd (.ofStatus status)
  | arrive fd chunk =>
    obtain ⟨hchunk, hsome⟩ := Option.ite_none_right_eq_some.mp hs
    cases hsome
    exact h.arrive hchunk

end Intact

/-- From a prefix of the stream the client reads the packets that it completes. -/
theorem readServerPackets_prefix {queued : List Packet} {arrivals : Arrivals}
    (hpatient : Patient arrivals) (hpre : arrivals.flatten <+: queued.flatMap Packet.bytes) :
    ∃ count rest, count ≤ queued.length ∧
      readServerPackets count arrivals = .done ((queued.take count).map Packet.received) rest ∧
      readServerPacket rest = .waiting ∧
      arrivals.flatten = (queued.take count).flatMap Packet.bytes ++ rest.flatten ∧
      (arrivals.flatten = queued.flatMap Packet.bytes → count = queued.length) := by
  rw [← Packet.join_frames] at hpre ⊢
  have hframes : ∀ f ∈ queued.map Packet.frame, packetFraming.WellFormed f := by
    intro f hf
    obtain ⟨p, -, rfl⟩ := List.mem_map.mp hf
    exact p.wellFormed_frame
  obtain ⟨count, left, hcount, hsplits⟩ := packetFraming.splits_of_prefix hframes hpre
  rw [List.length_map] at hcount
  rw [← List.map_take] at hsplits
  obtain ⟨rest, hread, hleft, hwaiting⟩ := readServerPackets_spec hsplits rfl hpatient
  rw [List.length_map, List.length_take, Nat.min_eq_left hcount, List.map_map] at hread
  have hreceived : receivedFrame ∘ Packet.frame = Packet.received := funext receivedFrame_frame
  refine ⟨count, rest, hcount, hreceived ▸ hread, hwaiting, ?_, fun hall => ?_⟩
  · rw [hleft, ← Packet.join_frames]
    exact (Framing.splits_iff.mp hsplits).1
  · rw [hall] at hsplits
    have hwhole : packetFraming.Splits (Framing.join (queued.map Packet.frame)) (queued.map Packet.frame) [] :=
      Framing.splits_iff.mpr ⟨by simp, hframes, packetFraming.next_nil⟩
    have hlen := congrArg List.length (hsplits.deterministic hwhole).1
    simp only [List.length_map, List.length_take] at hlen
    omega

/-- After any run, for every open connection: what its socket took, followed by what still waits, is
everything that was queued; and the client's successive calls return the packets that have arrived
whole, in order, and then wait, with no packet missing once everything has arrived. -/
theorem integrity {listenFd : Fd} {users : List User} {teams : List Team} {messages : List Message}
    {events : List Event} {x : Outbound}
    (hrun : Runs.run step (Outbound.start listenFd users teams messages) events = some x) :
    ∀ fd ∈ x.server.clientSockets,
      (x.streams fd).written ++ x.server.clientManager.getQueuedData fd =
          (x.streams fd).queued.flatMap Packet.bytes ∧
      (Patient (x.streams fd).arrivals → ∃ count rest, count ≤ (x.streams fd).queued.length ∧
        readServerPackets count (x.streams fd).arrivals =
          .done (((x.streams fd).queued.take count).map Packet.received) rest ∧
        readServerPacket rest = .waiting ∧
        (x.streams fd).arrivals.flatten =
          ((x.streams fd).queued.take count).flatMap Packet.bytes ++ rest.flatten ∧
        ((x.streams fd).arrivals.flatten = (x.streams fd).queued.flatMap Packet.bytes →
          count = (x.streams fd).queued.length)) := by
  have hintact : Intact x :=
    Runs.run_invariant (fun _ _ _ h hs => h.step hs) (Intact.start _ _ _ _) hrun
  intro fd hfd
  refine ⟨hintact.account fd hfd, fun hpatient => readServerPackets_prefix hpatient ?_⟩
  rw [← hintact.account fd hfd]
  exact (hintact.inOrder fd).trans (List.prefix_append _ _)

/-- Two packets, the second queued between two partial writes, and cut where they should not be. -/
def partialWritesRun : List Event :=
  [.server (.accept 4), .queueStatus 4 .ok, .server (.flush 4 3), .queuePacket 4 (.ofStatus .notFound),
    .server (.flush 4 5), .arrive 4 [200], .arrive 4 [], .arrive 4 [0, 0, 0, 148, 1, 0, 0]]

theorem integrity_partial_writes :
    ∃ x, Runs.run step (Outbound.start 3 [] [] []) partialWritesRun = some x ∧
      ∃ rest, readServerPackets 2 (x.streams 4).arrivals =
        .done [Packet.received (.ofStatus .ok), Packet.received (.ofStatus .notFound)] rest := by
  have hfacts : (Runs.run step (Outbound.start 3 [] [] []) partialWritesRun).map (fun x =>
      (decide ((4 : Fd) ∈ x.server.clientSockets), (x.streams 4).arrivals, (x.streams 4).queued)) =
        some (true, [[200], [], [0, 0, 0, 148, 1, 0, 0]], [.ofStatus .ok, .ofStatus .notFound]) := by
    decide +kernel
  obtain ⟨x, hx, hfacts⟩ := Option.map_eq_some_iff.mp hfacts
  obtain ⟨hopen, hrest⟩ := Prod.mk.inj hfacts
  obtain ⟨harrivals, hqueued⟩ := Prod.mk.inj hrest
  obtain ⟨-, hread⟩ := integrity hx 4 (by simpa using hopen)
  rw [harrivals, hqueued] at hread
  have hpatient : Patient [[200], [], [0, 0, 0, 148, 1, 0, 0]] := by
    intro hinfix
    have hlen := hinfix.length_le
    rw [List.length_replicate] at hlen
    exact absurd hlen (by decide)
  obtain ⟨count, rest, -, hdone, -, -, hall⟩ := hread hpatient
  obtain rfl : count = 2 := hall (by decide)
  exact ⟨x, hx, rest, harrivals ▸ hdone⟩

end Outbound

end TeamsMirror
