import Mathlib.Logic.Relation
import TeamsMirror.Link.Outbound

/-!
# The poll loop

`runPollLoop` takes one turn for every ready descriptor. A step here is one call of
`poll` or one turn of the `for` loop; what the operating system answers is a
parameter of the step, errors and removals in the middle of a round included. The
loop acts on the server together with the history of each connection, so that every
turn can be compared with the events of `Server.handle` that it is made of.
-/

namespace TeamsMirror

/-- A value, a `SocketException`, or one of the exceptions that the loop does not catch. -/
inductive Outcome (α : Type) where
  | value (a : α)
  | socketException
  | uncaught
deriving DecidableEq

def Outcome.map (f : α → β) : Outcome α → Outcome β
  | .value a => .value (f a)
  | .socketException => .socketException
  | .uncaught => .uncaught

/-- What one turn of the loop observes of the outside. A read returns no more than it was asked
for, and a write takes no more than it was given. -/
structure Outside where
  accept : Outcome Fd
  read : Outcome { data : Bytes // data.length ≤ readBufferSize }
  write : (queuedData : Bytes) → Outcome (Fin (queuedData.length + 1))
  oracle : Server → Environment

structure PollFd where
  fd : Fd
  events : PollEvents
  revents : PollEvents
deriving DecidableEq

/-- `Reciever::readClientData`. -/
def readClientData (m : ClientManager) (clientFd : Fd) (read : Outcome Bytes) :
    Outcome (Bool × ClientManager) :=
  read.map fun data => if data = [] then (false, m) else (true, m.appendToIncomingBuffer clientFd data)

/-- `Sender::flushClientData`. -/
def flushClientData (m : ClientManager) (clientFd : Fd)
    (write : (queuedData : Bytes) → Outcome (Fin (queuedData.length + 1))) :
    Outcome (Bool × ClientManager) :=
  if m.hasPendingWrite clientFd = false then .value (true, m)
  else if m.getQueuedData clientFd = [] then .value (true, m)
  else
    (write (m.getQueuedData clientFd)).map fun bytesSent : Fin _ =>
      if bytesSent.val = 0 then (false, m) else (true, m.consumeQueuedData clientFd bytesSent)

/-- The `catch` around a read or a write; `none` when the exception is not caught there. -/
def Outcome.caught (m : ClientManager) : Outcome (Bool × ClientManager) → Option (Bool × ClientManager)
  | .value result => some result
  | .socketException => some (false, m)
  | .uncaught => none

def handleReadableEvent (m : ClientManager) (clientFd : Fd) (read : Outcome Bytes) :
    Option (Bool × ClientManager) :=
  (readClientData m clientFd read).caught m

def handleWritableEvent (m : ClientManager) (clientFd : Fd)
    (write : (queuedData : Bytes) → Outcome (Fin (queuedData.length + 1))) :
    Option (Bool × ClientManager) :=
  if m.hasPendingWrite clientFd = false then some (true, m)
  else (flushClientData m clientFd write).caught m

namespace Outbound

def setManager (x : Outbound) (m : ClientManager) : Outbound :=
  { x with server := { x.server with clientManager := m } }

/-- The server changed and queued packets. -/
def after (x : Outbound) (s : Server) (queued : List (Fd × Packet)) : Outbound where
  server := s
  streams fd := { x.streams fd with queued := (x.streams fd).queued ++ packetsFor fd queued }

/-- A connection's socket took the part of its queue that `m` no longer has. -/
def flushed (x : Outbound) (clientFd : Fd) (m : ClientManager) : Outbound where
  server := { x.server with clientManager := m }
  streams :=
    let queuedData := x.server.clientManager.getQueuedData clientFd
    let bytesSent := queuedData.length - (m.getQueuedData clientFd).length
    Function.update x.streams clientFd
      { x.streams clientFd with written := (x.streams clientFd).written ++ queuedData.take bytesSent }

def accepted (x : Outbound) (clientFd : Fd) : Outbound where
  server := x.server.accepted clientFd
  streams := Function.update x.streams clientFd ⟨[], [], []⟩

def disconnected (x : Outbound) (clientFd : Fd) : Outbound :=
  let context := handleClientDisconnection (x.server.context clientFd [] default)
  x.after (x.server.removed context clientFd) context.queued

end Outbound

/-- What becomes of a connection after its turn; `leave` when an exception leaves the loop. -/
inductive Verdict where
  | keep
  | remove
  | leave
deriving DecidableEq

/-- The `POLLIN` part of `shouldKeepClientConnected`; `none` as for `processClientIncomingPackets`. -/
def handleInput (x : Outbound) (clientFd : Fd) (outside : Outside) : Option (Outbound × Verdict) :=
  match handleReadableEvent x.server.clientManager clientFd (outside.read.map Subtype.val) with
  | none => some (x, .leave)
  | some (false, _) => some (x, .remove)
  | some (true, m) =>
    let x := x.setManager m
    match processClientIncomingPackets outside.oracle clientFd
        ((x.server.clientManager.getIncomingBuffer clientFd).length + 1) x.server with
    | .error _ => none
    | .ok (s, dispatched) => some (x.after s (dispatched.flatMap Dispatched.queued), .keep)

/-- The `POLLOUT` part of `shouldKeepClientConnected`. -/
def handleOutput (x : Outbound) (clientFd : Fd) (outside : Outside) : Outbound × Verdict :=
  match handleWritableEvent x.server.clientManager clientFd outside.write with
  | none => (x, .leave)
  | some (false, _) => (x, .remove)
  | some (true, m) => (x.flushed clientFd m, .keep)

def shouldKeepClientConnected (x : Outbound) (clientFd : Fd) (clientEvents : PollEvents)
    (outside : Outside) : Option (Outbound × Verdict) :=
  if clientEvents.pollErr || clientEvents.pollHup || clientEvents.pollNval then some (x, .remove)
  else
    match if clientEvents.pollIn then handleInput x clientFd outside else some (x, .keep) with
    | none => none
    | some (x, .keep) =>
      some (if clientEvents.pollOut then handleOutput x clientFd outside else (x, .keep))
    | some (x, verdict) => some (x, verdict)

/-- Where the loop stands: before `poll`, at an index of the `for` loop, or left. -/
inductive Phase where
  | polling
  | turn (index : Nat)
  | stopped
  | aborted
deriving DecidableEq

structure PollLoop where
  link : Outbound
  pollFds : List PollFd
  phase : Phase

def refreshClientPollInterest (clientPollFd : PollFd) (m : ClientManager) (clientFd : Fd) : PollFd :=
  { clientPollFd with
    events := if m.hasPendingWrite clientFd then .inputOutput else .input
    revents := .none }

def refreshAllPollInterests (pollFds : List PollFd) (m : ClientManager) (listenFd : Fd) : List PollFd :=
  pollFds.map fun pollFd =>
    if pollFd.fd = listenFd then { pollFd with events := .input, revents := .none }
    else refreshClientPollInterest pollFd m pollFd.fd

def appendClientPollFd (pollFds : List PollFd) (clientFd : Fd) : List PollFd :=
  pollFds ++ [⟨clientFd, .input, .none⟩]

/-- What `pollSockets` brings: the flags of each entry, nothing, or an exception. -/
inductive PollResult where
  | ready (revents : Nat → PollEvents)
  | nothing
  | failed

namespace PollLoop

/-- `_isRunning` is read before `poll` and after it. -/
inductive Event where
  | poll (result : PollResult) (isRunning : Bool)
  | turn (outside : Outside)
  | stop

def start (listenFd : Fd) (users : List User) (teams : List Team) (messages : List Message) :
    PollLoop where
  link := .start listenFd users teams messages
  pollFds := [⟨listenFd, .input, .none⟩]
  phase := .polling

/-- The part of the `while` loop before its `for` loop. -/
def pollTurn (p : PollLoop) (result : PollResult) (isRunning : Bool) : PollLoop :=
  let pollFds := refreshAllPollInterests p.pollFds p.link.server.clientManager p.link.server.listenFd
  match result with
  | .failed => { p with pollFds := pollFds, phase := .aborted }
  | .nothing => { p with pollFds := pollFds }
  | .ready revents =>
    { p with
      pollFds := pollFds.mapIdx fun index pollFd => { pollFd with revents := revents index }
      phase := if isRunning then .turn 0 else .stopped }

def removeClientAt (p : PollLoop) (index : Nat) (clientFd : Fd) : PollLoop :=
  { p with link := p.link.disconnected clientFd, pollFds := p.pollFds.eraseIdx index }

/-- The body of the `for` loop for the listening descriptor. -/
def acceptTurn (p : PollLoop) (index : Nat) (currentPollFd : PollFd) (outside : Outside) :
    Option PollLoop :=
  let pollFds := p.pollFds.set index { currentPollFd with revents := .none }
  if currentPollFd.revents.pollIn then
    match outside.accept with
    | .value clientFd =>
      if p.link.server.CanAccept clientFd then
        some ⟨p.link.accepted clientFd, appendClientPollFd pollFds clientFd, .turn (index + 1)⟩
      else none
    | _ => some { p with pollFds := pollFds, phase := .aborted }
  else some { p with pollFds := pollFds, phase := .turn (index + 1) }

/-- The body of the `for` loop for a client. -/
def clientTurn (p : PollLoop) (index : Nat) (currentPollFd : PollFd) (outside : Outside) :
    Option PollLoop :=
  let currentFd := currentPollFd.fd
  match shouldKeepClientConnected p.link currentFd currentPollFd.revents outside with
  | none => none
  | some (x, .keep) =>
    let refreshed := refreshClientPollInterest currentPollFd x.server.clientManager currentFd
    some ⟨x, p.pollFds.set index refreshed, .turn (index + 1)⟩
  | some (x, .remove) => some ({ p with link := x }.removeClientAt index currentFd)
  | some (x, .leave) => some { p with link := x, phase := .aborted }

/-- One turn of the `for` loop, or its end. -/
def forTurn (p : PollLoop) (index : Nat) (outside : Outside) : Option PollLoop :=
  match p.pollFds[index]? with
  | none => some { p with phase := .polling }
  | some currentPollFd =>
    if currentPollFd.revents = .none then some { p with phase := .turn (index + 1) }
    else if currentPollFd.fd = p.link.server.listenFd then p.acceptTurn index currentPollFd outside
    else p.clientTurn index currentPollFd outside

def step (p : PollLoop) (e : Event) : Option PollLoop :=
  match p.phase, e with
  | .polling, .poll result isRunning => some (p.pollTurn result isRunning)
  | .polling, .stop => some { p with phase := .stopped }
  | .turn index, .turn outside => p.forTurn index outside
  | _, _ => none

end PollLoop

end TeamsMirror
