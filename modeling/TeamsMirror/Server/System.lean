import Mathlib.Data.List.Sort
import TeamsMirror.Lib.Runs
import TeamsMirror.Server.Inversion

/-!
# The server as a state machine

What can happen to a running server, one step at a time: a connection is
accepted, bytes arrive, a complete packet is dispatched, queued bytes are
written, a connection ends. The order of steps is left open, so that every
schedule of the poll loop is one of the runs.
-/

namespace TeamsMirror

/-- Creation order, one of the orders `std::sort` may leave equal timestamps in. -/
def Sorter.stable : Sorter where
  sort messages := messages.insertionSort fun a b => a.createdAt ≤ b.createdAt
  perm messages := List.perm_insertionSort _ messages
  sorted messages := by
    have htotal : Std.Total fun a b : Message => a.createdAt ≤ b.createdAt :=
      ⟨fun a b => Int64.le_total a.createdAt b.createdAt⟩
    have htrans : IsTrans Message fun a b => a.createdAt ≤ b.createdAt :=
      ⟨fun _ _ _ => Int64.le_trans⟩
    exact List.pairwise_insertionSort _ messages

instance : Inhabited Environment := ⟨⟨fun _ => ⟨0, by decide⟩, [], 0, .stable⟩⟩

/-- Every digit drawn is this one. -/
def drawing (digit : Nat) : Environment :=
  { (default : Environment) with draw := fun _ => (BitVec.ofNat 4 digit).toFin }

/-- The state in which `runPollLoop` enters its loop, from what the database holds. -/
def Server.start (listenFd : Fd) (users : List User) (teams : List Team) (messages : List Message) :
    Server where
  listenFd := listenFd
  clientManager := .empty
  users := users.map User.resetLoggedIn
  teams := teams
  messages := messages
  clientSockets := ∅
  authenticatedUsersByFd := ∅
  authenticatedUsersByUUID := ∅

/-- The largest number of bytes that one `recv` returns. -/
def readBufferSize : Nat := 4096

inductive Event where
  | accept (fd : Fd)
  | receive (fd : Fd) (chunk : Bytes)
  | dispatch (fd : Fd) (environment : Environment)
  | flush (fd : Fd) (bytesSent : Nat)
  | disconnect (fd : Fd)

/-- The descriptor that an event is about. -/
def Event.fd : Event → Fd
  | .accept fd | .receive fd _ | .dispatch fd _ | .flush fd _ | .disconnect fd => fd

namespace Server

/-- `accept` returns a descriptor that is not open. -/
def CanAccept (s : Server) (fd : Fd) : Prop :=
  0 ≤ fd ∧ fd < 2 ^ 31 ∧ fd ≠ s.listenFd ∧ fd ∉ s.clientSockets

instance (s : Server) (fd : Fd) : Decidable (s.CanAccept fd) := by
  unfold CanAccept
  infer_instance

def accepted (s : Server) (fd : Fd) : Server :=
  { s with
    clientSockets := insert fd s.clientSockets
    clientManager := s.clientManager.addClient fd }

/-- `removeClientAt`, but for the poll list. -/
def removed (s : Server) (context : CommandContext) (fd : Fd) : Server :=
  { context.toServer with
    clientSockets := s.clientSockets.erase fd
    clientManager := context.clientManager.removeClient fd }

/-- One step, with the packets that it queues; `none` when the event cannot happen. -/
def handle (s : Server) : Event → Option (Server × List (Fd × Packet))
  | .accept fd => if s.CanAccept fd then some (s.accepted fd, []) else none
  | .receive fd chunk =>
    if fd ∈ s.clientSockets ∧ chunk ≠ [] ∧ chunk.length ≤ readBufferSize then
      some ({ s with clientManager := s.clientManager.appendToIncomingBuffer fd chunk }, [])
    else none
  | .dispatch fd environment =>
    if fd ∈ s.clientSockets then
      match peekPacket (s.clientManager.getIncomingBuffer fd) with
      | none => none
      | some (header, payload) =>
        (processPacket s fd environment header payload).map fun r => (r.1, r.2.queued)
    else none
  | .flush fd bytesSent =>
    if fd ∈ s.clientSockets ∧ 0 < bytesSent ∧ bytesSent ≤ (s.clientManager.getQueuedData fd).length then
      some ({ s with clientManager := s.clientManager.consumeQueuedData fd bytesSent }, [])
    else none
  | .disconnect fd =>
    if fd ∈ s.clientSockets then
      let context := handleClientDisconnection (s.context fd [] default)
      some (s.removed context fd, context.queued)
    else none

def step (s : Server) (e : Event) : Option Server := (s.handle e).map Prod.fst

/-- Reached from a start on some database. -/
def Reachable (s : Server) : Prop :=
  ∃ listenFd users teams messages events,
    Runs.run step (start listenFd users teams messages) events = some s

theorem step_eq_some {s s' : Server} {e : Event} :
    s.step e = some s' ↔ ∃ queued, s.handle e = some (s', queued) := by
  simp [step]

/-- An invariant of starts and steps holds of every reachable state. -/
theorem Reachable.induction {P : Server → Prop}
    (hstart : ∀ listenFd users teams messages, P (start listenFd users teams messages))
    (hstep : ∀ s e s' queued, P s → s.handle e = some (s', queued) → P s') {s : Server}
    (h : Reachable s) : P s := by
  obtain ⟨listenFd, users, teams, messages, events, hrun⟩ := h
  refine Runs.run_invariant (fun s e s' hs hstep' => ?_) (hstart listenFd users teams messages) hrun
  obtain ⟨queued, hq⟩ := step_eq_some.mp hstep'
  exact hstep s e s' queued hs hq

theorem handle_accept {s s' : Server} {fd : Fd} {queued : List (Fd × Packet)}
    (h : s.handle (.accept fd) = some (s', queued)) :
    s.CanAccept fd ∧ s' = s.accepted fd ∧ queued = [] := by
  simp only [handle] at h
  split at h
  · next hc =>
    cases h
    exact ⟨hc, rfl, rfl⟩
  · cases h

theorem handle_receive {s s' : Server} {fd : Fd} {chunk : Bytes} {queued : List (Fd × Packet)}
    (h : s.handle (.receive fd chunk) = some (s', queued)) :
    fd ∈ s.clientSockets ∧ queued = [] ∧
      s' = { s with clientManager := s.clientManager.appendToIncomingBuffer fd chunk } := by
  simp only [handle] at h
  split at h
  · next hc =>
    cases h
    exact ⟨hc.1, rfl, rfl⟩
  · cases h

theorem handle_flush {s s' : Server} {fd : Fd} {n : Nat} {queued : List (Fd × Packet)}
    (h : s.handle (.flush fd n) = some (s', queued)) :
    fd ∈ s.clientSockets ∧ n ≤ (s.clientManager.getQueuedData fd).length ∧ queued = [] ∧
      s' = { s with clientManager := s.clientManager.consumeQueuedData fd n } := by
  simp only [handle] at h
  split at h
  · next hc =>
    cases h
    exact ⟨hc.1, hc.2.2, rfl, rfl⟩
  · cases h

/-- A dispatched packet ends in an effect, after which it is consumed. -/
theorem processPacket_eq_some {s s' : Server} {fd : Fd} {environment : Environment}
    {header : PacketHeader} {payload : Bytes} {dispatched : Dispatched}
    (h : processPacket s fd environment header payload = some (s', dispatched)) :
    ∃ command middle,
      Effect (s.context fd payload environment) command middle dispatched.queued ∧
      dispatched.code = header.code ∧ dispatched.payload = payload ∧
      s' = { middle.deliver dispatched.queued with
        clientManager := (middle.deliver dispatched.queued).clientManager.consumeIncomingBuffer fd
          (sizeof PacketHeader + header.payloadSize.toNat) } := by
  obtain ⟨context', hd, h⟩ := Option.bind_eq_some_iff.mp h
  obtain ⟨command, middle, packets, heffect, rfl⟩ := dispatch_does hd
  cases h
  have hq : (perform (s.context fd payload environment) middle packets).queued = packets :=
    queued_perform _ _ _
  refine ⟨command, middle, ?_, rfl, rfl, ?_⟩
  · rw [hq]
    exact heffect
  · rw [hq, toServer_perform]

theorem handle_dispatch {s s' : Server} {fd : Fd} {environment : Environment}
    {queued : List (Fd × Packet)} (h : s.handle (.dispatch fd environment) = some (s', queued)) :
    fd ∈ s.clientSockets ∧ ∃ command payload middle size,
      Effect (s.context fd payload environment) command middle queued ∧
      s' = { middle.deliver queued with
        clientManager := (middle.deliver queued).clientManager.consumeIncomingBuffer fd size } := by
  simp only [handle] at h
  split at h
  · next hfd =>
    split at h
    · cases h
    · next header payload hpeek =>
      obtain ⟨⟨s₁, dispatched⟩, hp, h⟩ := Option.map_eq_some_iff.mp h
      cases h
      obtain ⟨command, middle, heffect, -, -, hs⟩ := processPacket_eq_some hp
      exact ⟨hfd, command, payload, middle, _, heffect, hs⟩
  · cases h

/-- A dispatch runs the handler of its packet, and then consumes the packet. -/
theorem handle_dispatch_context {s s' : Server} {fd : Fd} {environment : Environment}
    {queued : List (Fd × Packet)} (h : s.handle (.dispatch fd environment) = some (s', queued)) :
    ∃ (header : PacketHeader) (payload : Bytes) (context' : CommandContext),
      peekPacket (s.clientManager.getIncomingBuffer fd) = some (header, payload) ∧
      dispatchCommand (s.context fd payload environment) header.code = some context' ∧
      queued = context'.queued ∧
      s' = { context'.toServer with
        clientManager := context'.clientManager.consumeIncomingBuffer fd
          (sizeof PacketHeader + header.payloadSize.toNat) } := by
  simp only [handle] at h
  split at h
  · split at h
    · cases h
    · next header payload hpeek =>
      obtain ⟨⟨s₁, dispatched⟩, hp, h⟩ := Option.map_eq_some_iff.mp h
      cases h
      obtain ⟨context', hd, hp⟩ := Option.bind_eq_some_iff.mp hp
      cases hp
      exact ⟨header, payload, context', hpeek, hd, rfl, rfl⟩
  · cases h

/-- A dispatch takes the packet at the head of the buffer, and ends as its code says. -/
theorem handle_dispatch_ends {s s' : Server} {fd : Fd} {environment : Environment}
    {queued : List (Fd × Packet)} (h : s.handle (.dispatch fd environment) = some (s', queued)) :
    fd ∈ s.clientSockets ∧ ∃ header payload middle,
      peekPacket (s.clientManager.getIncomingBuffer fd) = some (header, payload) ∧
      Ends (s.context fd payload environment) header.code middle queued ∧
      s' = { middle.deliver queued with
        clientManager := (middle.deliver queued).clientManager.consumeIncomingBuffer fd
          (sizeof PacketHeader + header.payloadSize.toNat) } := by
  simp only [handle] at h
  split at h
  · next hfd =>
    split at h
    · cases h
    · next header payload hpeek =>
      obtain ⟨⟨s₁, dispatched⟩, hp, h⟩ := Option.map_eq_some_iff.mp h
      cases h
      obtain ⟨context', hd, hp⟩ := Option.bind_eq_some_iff.mp hp
      obtain ⟨middle, packets, hends, rfl⟩ := dispatch_ends hd
      have hqueued : (perform (s.context fd payload environment) middle packets).queued = packets :=
        queued_perform _ _ _
      cases hp
      refine ⟨hfd, header, payload, middle, hpeek, ?_, ?_⟩
      · rw [hqueued]
        exact hends
      · rw [hqueued, toServer_perform]
  · cases h

/-- What a disconnection does before the connection is forgotten. -/
inductive Disconnection (s : Server) (fd : Fd) : Server → List (Fd × Packet) → Prop where
  | anonymous : s.authenticatedUsersByFd.lookup fd = none → Disconnection s fd s []
  | known {uuid : Bytes} {user : User} : s.authenticatedUsersByFd.lookup fd = some uuid →
      findUserByUuid s.users uuid = some user →
      Disconnection s fd
        ((s.dropSessions fd uuid).setUsers (updateUser s.users uuid User.removeLoggedIn))
        (toOthers (s.dropSessions fd uuid) fd (logoutEvent user))
  | unknown {uuid : Bytes} : s.authenticatedUsersByFd.lookup fd = some uuid →
      findUserByUuid s.users uuid = none → Disconnection s fd (s.dropSessions fd uuid) []

theorem handleClientDisconnection_eq (s : Server) (fd : Fd) (environment : Environment) :
    ∃ middle packets, Disconnection s fd middle packets ∧
      handleClientDisconnection (s.context fd [] environment) =
        perform (s.context fd [] environment) middle packets := by
  unfold handleClientDisconnection
  split
  · next hnone => exact ⟨_, _, .anonymous hnone, rfl⟩
  · next uuid huuid =>
    simp only
    split
    · next hnone => exact ⟨_, _, .unknown huuid hnone, rfl⟩
    · next user huser => exact ⟨_, _, .known huuid huser, rfl⟩

theorem handle_disconnect {s s' : Server} {fd : Fd} {queued : List (Fd × Packet)}
    (h : s.handle (.disconnect fd) = some (s', queued)) :
    fd ∈ s.clientSockets ∧ ∃ middle, Disconnection s fd middle queued ∧
      s' = { middle.deliver queued with
        clientSockets := s.clientSockets.erase fd
        clientManager := (middle.deliver queued).clientManager.removeClient fd } := by
  simp only [handle] at h
  split at h
  · next hfd =>
    obtain ⟨middle, packets, hd, he⟩ := handleClientDisconnection_eq s fd default
    have hq : (perform (s.context fd [] default) middle packets).queued = packets :=
      queued_perform _ _ _
    rw [he] at h
    cases h
    refine ⟨hfd, middle, hq.symm ▸ hd, ?_⟩
    rw [hq, removed, toServer_perform]
  · cases h

end Server

end TeamsMirror
