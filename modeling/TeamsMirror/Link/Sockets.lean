import TeamsMirror.Link.LoggedTurns
import TeamsMirror.Link.Turns

/-!
# Failing system calls

What a turn of the poll loop comes to is decided by the answers of the system calls
it makes. The exceptions of the socket layer are translated on their way up, but not
all of them: the one that is thrown for a peer that is gone passes every `catch`, and
so do that of a failing read or write and that of a call of `libmyteams`. A turn here
is a turn of the loop together with the calls it makes.
-/

namespace TeamsMirror

structure RecvCalls extends DescriptorCalls, ReadCalls readBufferSize

structure SendCalls extends DescriptorCalls, WriteCalls

/-- What passes the `catch` for a `SocketException`, here and in the callers. -/
def Outcome.translated : Except Thrown α → Outcome α
  | .ok a => .value a
  | .error (.socketException _ _) => .socketException
  | .error .socketClosed => .uncaught
  | .error (.systemException _ _) => .uncaught

def acceptClientSocket (calls : AcceptCalls) : Outcome Fd := .translated (Socket.accept calls)

/-- `Reciever::recvBytes`. -/
def recvBytes (socketFd : Fd) (calls : RecvCalls) :
    Outcome { data : Bytes // data.length ≤ readBufferSize } :=
  .translated <|
    match Socket.ofFd socketFd calls.toDescriptorCalls with
    | .error thrown => .error thrown
    | .ok _ => Socket.read calls.toReadCalls

/-- `Sender::sendBytes`. -/
def sendBytes (socketFd : Fd) (payload : Bytes) (calls : SendCalls) : Outcome (Fin (payload.length + 1)) :=
  .translated <|
    match Socket.ofFd socketFd calls.toDescriptorCalls with
    | .error thrown => .error thrown
    | .ok _ => Socket.write payload calls.toWriteCalls

/-- The system calls of one turn with their answers, `none` for those that are not made, and the answers of
`libmyteams`. -/
structure Calls where
  accept : Option AcceptCalls
  recv : Option RecvCalls
  send : Option SendCalls
  logs : List Int
  oracle : Server → Environment

def Calls.outside (calls : Calls) (currentFd : Fd) : Outside where
  accept := calls.accept.elim .socketException acceptClientSocket
  read := calls.recv.elim .socketException (recvBytes currentFd)
  write queuedData := calls.send.elim .socketException (sendBytes currentFd queuedData)
  oracle := calls.oracle

def PollEvents.gone (clientEvents : PollEvents) : Bool :=
  clientEvents.pollErr || clientEvents.pollHup || clientEvents.pollNval

/-- The client is still there after the `POLLIN` part of its turn, and something waits for it. -/
def isWritten (x : Outbound) (clientFd : Fd) (clientEvents : PollEvents) (outside : Outside) : Bool :=
  match inputPart x clientFd clientEvents outside with
  | some (x, .keep) =>
    clientEvents.pollOut && x.server.clientManager.hasPendingWrite clientFd &&
      x.server.clientManager.getQueuedData clientFd ≠ []
  | _ => false

/-- No call of `libmyteams` throws in the `POLLIN` part of the turn. -/
def Calls.inputReturns (calls : Calls) (x : Outbound) (clientFd : Fd) (clientEvents : PollEvents)
    (outside : Outside) : Bool :=
  match Logs.inputPart (.ofAnswers calls.logs) x clientFd clientEvents outside [] with
  | .ok _ => true
  | .error _ => false

namespace PollLoop

/-- The entry whose turn it is. -/
def current (p : PollLoop) : Option PollFd :=
  match p.phase with
  | .turn index => p.pollFds[index]?
  | _ => none

def currentFd (p : PollLoop) : Fd := p.current.elim (-1) PollFd.fd

/-- The system calls are those that the turn makes. -/
def makes (p : PollLoop) (calls : Calls) : Bool :=
  let outside := calls.outside p.currentFd
  match p.current with
  | none => calls.accept.isNone && calls.recv.isNone && calls.send.isNone && calls.logs.isEmpty
  | some currentPollFd =>
    let currentFd := currentPollFd.fd
    let currentEvents := currentPollFd.revents
    if currentFd = p.link.server.listenFd then
      calls.accept.isSome = currentEvents.pollIn && calls.recv.isNone && calls.send.isNone && calls.logs.isEmpty
    else
      calls.accept.isNone && calls.recv.isSome = (!currentEvents.gone && currentEvents.pollIn) &&
        calls.send.isSome = (!currentEvents.gone && calls.inputReturns p.link currentFd currentEvents outside &&
          isWritten p.link currentFd currentEvents outside)

end PollLoop

/-- When the socket is in order, its calls leave nothing but a `SocketException` to throw. -/
def RecvCalls.Handled (calls : RecvCalls) : Prop :=
  calls.toDescriptorCalls.Succeed → calls.toReadCalls.Served

def SendCalls.Handled (calls : SendCalls) : Prop :=
  calls.toDescriptorCalls.Succeed → calls.toWriteCalls.Served

structure Calls.Handled (calls : Calls) : Prop where
  accept : ∀ accept ∈ calls.accept, accept.Succeed
  recv : ∀ recv ∈ calls.recv, recv.Handled
  send : ∀ send ∈ calls.send, send.Handled
  logs : ∀ answer ∈ calls.logs, 0 ≤ answer

theorem Outcome.translated_eq_uncaught {e : Except Thrown α} :
    Outcome.translated e = .uncaught ↔ ∃ thrown, e = .error thrown ∧ ¬ thrown.IsSocketException := by
  cases e with
  | ok a => simp [translated]
  | error thrown => cases thrown <;> simp [translated, Thrown.IsSocketException]

theorem acceptClientSocket_eq_value {calls : AcceptCalls} :
    (∃ fd, acceptClientSocket calls = .value fd) ↔ calls.Succeed := by
  rw [Socket.succeed_accept_iff, acceptClientSocket]
  cases Socket.accept calls with
  | ok fd => simp [Outcome.translated]
  | error thrown => cases thrown <;> simp [Outcome.translated]

/-- On an open descriptor, what gets through is what the calls on its socket throw. -/
theorem translated_eq_uncaught_iff {fd : Fd} (hfd : 0 ≤ fd) {descriptor : DescriptorCalls}
    {call : Except Thrown α} {served : Prop}
    (hserved : served ↔ ∀ thrown, call = .error thrown → thrown.IsSocketException) :
    Outcome.translated (match Socket.ofFd fd descriptor with
      | .error thrown => .error thrown
      | .ok _ => call) = .uncaught ↔ ¬ (descriptor.Succeed → served) := by
  rw [Outcome.translated_eq_uncaught, Socket.succeed_ofFd_iff hfd, hserved]
  cases hsocket : Socket.ofFd fd descriptor with
  | error thrown =>
    have hcaught := Socket.isSocketException_ofFd hsocket
    simp only [Except.error.injEq, exists_eq_left', reduceCtorEq, exists_false, false_implies, not_true,
      iff_false, not_not]
    exact hcaught
  | ok socketFd =>
    simp only [Except.ok.injEq, exists_eq', true_implies, not_forall, exists_prop]

theorem recvBytes_eq_uncaught {fd : Fd} (hfd : 0 ≤ fd) {calls : RecvCalls} :
    recvBytes fd calls = .uncaught ↔ ¬ calls.Handled :=
  translated_eq_uncaught_iff hfd Socket.served_read_iff

theorem sendBytes_eq_uncaught {fd : Fd} (hfd : 0 ≤ fd) {calls : SendCalls} (payload : Bytes) :
    sendBytes fd payload calls = .uncaught ↔ ¬ calls.Handled :=
  translated_eq_uncaught_iff hfd Socket.served_write_iff

theorem Calls.read_outside {calls : Calls} {fd : Fd} (hfd : 0 ≤ fd) :
    (calls.outside fd).read = .uncaught ↔ ∃ recv ∈ calls.recv, ¬ recv.Handled := by
  rw [outside]
  cases calls.recv with
  | none => simp
  | some recv => simp [recvBytes_eq_uncaught hfd]

theorem Calls.write_outside {calls : Calls} {fd : Fd} (hfd : 0 ≤ fd) (payload : Bytes) :
    (calls.outside fd).write payload = .uncaught ↔ ∃ send ∈ calls.send, ¬ send.Handled := by
  rw [outside]
  cases calls.send with
  | none => simp
  | some send => simp [sendBytes_eq_uncaught hfd]

section Turns

variable {x y : Outbound} {fd : Fd} {clientEvents : PollEvents} {outside : Outside} {verdict : Verdict}

theorem Outcome.map_eq_uncaught {f : α → β} {o : Outcome α} : o.map f = .uncaught ↔ o = .uncaught := by
  cases o <;> simp [map]

theorem Outcome.caught_eq_none {m : ClientManager} {o : Outcome (Bool × ClientManager)} :
    o.caught m = none ↔ o = .uncaught := by
  cases o <;> simp [caught]

theorem handleReadableEvent_eq_none {m : ClientManager} {read : Outcome Bytes} :
    handleReadableEvent m fd read = none ↔ read = .uncaught := by
  rw [handleReadableEvent, Outcome.caught_eq_none, readClientData, Outcome.map_eq_uncaught]

theorem handleWritableEvent_eq_none {m : ClientManager}
    {write : (queuedData : Bytes) → Outcome (Fin (queuedData.length + 1))} :
    handleWritableEvent m fd write = none ↔ m.hasPendingWrite fd = true ∧
      m.getQueuedData fd ≠ [] ∧ write (m.getQueuedData fd) = .uncaught := by
  unfold handleWritableEvent flushClientData
  split
  · next hpending => simp [hpending]
  · next hpending =>
    rw [Outcome.caught_eq_none]
    split
    · next hqueued => simp [hqueued]
    · next hqueued =>
      rw [Outcome.map_eq_uncaught]
      simp [hpending, hqueued]

theorem handleInput_leave (h : handleInput x fd outside = some (y, verdict)) :
    verdict = .leave ↔ outside.read = .uncaught := by
  have hleave : handleReadableEvent x.server.clientManager fd (outside.read.map Subtype.val) = none ↔
      outside.read = .uncaught := by
    rw [handleReadableEvent_eq_none, Outcome.map_eq_uncaught]
  rw [← hleave]
  simp only [handleInput] at h
  split at h
  · next hread =>
    cases h
    simp [hread]
  · next hread =>
    cases h
    simp [hread]
  · next hread =>
    split at h
    · cases h
    · cases h
      simp [hread]

theorem handleOutput_leave (h : handleOutput x fd outside = (y, verdict)) :
    verdict = .leave ↔ x.server.clientManager.hasPendingWrite fd = true ∧
      x.server.clientManager.getQueuedData fd ≠ [] ∧
      outside.write (x.server.clientManager.getQueuedData fd) = .uncaught := by
  rw [← handleWritableEvent_eq_none]
  simp only [handleOutput] at h
  split at h
  all_goals
    next hwrite =>
      cases h
      simp [hwrite]

/-- The turn of a client leaves the loop when its read or its write throws something uncaught. -/
theorem turn_leave (hwrite : ∀ data data', outside.write data = .uncaught → outside.write data' = .uncaught)
    (h : shouldKeepClientConnected x fd clientEvents outside = some (y, verdict)) :
    verdict = .leave ↔ clientEvents.gone = false ∧ (clientEvents.pollIn = true ∧ outside.read = .uncaught ∨
      isWritten x fd clientEvents outside = true ∧ outside.write [] = .uncaught) := by
  simp only [shouldKeepClientConnected] at h
  split at h
  · next hgone =>
    cases h
    have hgone : clientEvents.gone = true := hgone
    simp [hgone]
  · next hgone =>
    have hgone : clientEvents.gone = false := Bool.eq_false_of_not_eq_true hgone
    have hinput : ∀ {z : Outbound} {v : Verdict}, inputPart x fd clientEvents outside = some (z, v) →
        (v = .leave ↔ clientEvents.pollIn = true ∧ outside.read = .uncaught) := by
      intro z v hz
      simp only [inputPart] at hz
      split at hz
      · next hin => simp [handleInput_leave hz, hin]
      · next hin =>
        cases hz
        simp [hin]
    split at h
    · cases h
    · next z hz =>
      have hz : inputPart x fd clientEvents outside = some (z, .keep) := hz
      have hread := hinput hz
      simp only [reduceCtorEq, false_iff] at hread
      have hy := Option.some.inj h
      simp only [hgone, hread, false_or, true_and, isWritten, hz]
      split at hy
      · next hout =>
        rw [handleOutput_leave hy]
        simp only [hout, Bool.true_and, Bool.and_eq_true, decide_eq_true_eq, and_assoc]
        exact and_congr_right fun _ => and_congr_right fun _ => ⟨hwrite _ _, hwrite _ _⟩
      · next hout =>
        cases hy
        simp [hout]
    · next z v hkeep hz =>
      cases h
      have hz : inputPart x fd clientEvents outside = some (y, verdict) := hz
      have hwritten : isWritten x fd clientEvents outside = false := by
        cases verdict with
        | keep => exact (hkeep rfl).elim
        | remove | leave => simp only [isWritten, hz]
      simp [hinput hz, hgone, hwritten]

end Turns

theorem Calls.handled_of_accept {calls : Calls} (hrecv : calls.recv = none) (hsend : calls.send = none)
    (hlogs : calls.logs = []) : calls.Handled ↔ ∀ accept ∈ calls.accept, accept.Succeed := by
  refine ⟨Handled.accept, fun haccept => ⟨haccept, ?_, ?_, ?_⟩⟩
  · simp [hrecv]
  · simp [hsend]
  · simp [hlogs]

theorem Calls.handled_of_client {calls : Calls} (haccept : calls.accept = none)
    (hlogs : ∀ answer ∈ calls.logs, 0 ≤ answer) :
    calls.Handled ↔ (∀ recv ∈ calls.recv, recv.Handled) ∧ ∀ send ∈ calls.send, send.Handled := by
  refine ⟨fun h => ⟨h.recv, h.send⟩, fun h => ⟨?_, h.1, h.2, hlogs⟩⟩
  simp [haccept]

/-- Where no call of `libmyteams` fails, the `POLLIN` part of the turn comes to its end. -/
theorem Calls.inputReturns_eq_true {calls : Calls} (hlogs : ∀ answer ∈ calls.logs, 0 ≤ answer) (x : Outbound)
    (fd : Fd) (clientEvents : PollEvents) (outside : Outside) :
    calls.inputReturns x fd clientEvents outside = true := by
  have haccepts : ∀ journal call, (LoggingServer.ofAnswers calls.logs).accepts journal call = true := by
    intro journal call
    simp only [LoggingServer.accepts, LoggingServer.ofAnswers]
    by_cases hjournal : journal.length < calls.logs.length
    · simpa [hjournal] using hlogs _ (List.getElem_mem hjournal)
    · simp [hjournal]
  obtain ⟨made, hwrites⟩ := inputPart_retells (.ofAnswers calls.logs) x fd outside clientEvents
  rw [inputReturns, hwrites.ok haccepts []]

namespace PollLoop

variable {p p' : PollLoop} {index : Nat} {currentPollFd : PollFd} {calls : Calls}

theorem step_turn {outside : Outside} (hs : p.step (.turn outside) = some p') :
    ∃ index, p.phase = .turn index ∧ p.forTurn index outside = some p' := by
  simp only [step] at hs
  split at hs
  any_goals contradiction
  next index _ hphase he =>
    cases he
    exact ⟨index, hphase, hs⟩

/-- A turn without calls for it leaves the loop running. -/
theorem makes_ready (hlogs : ∀ answer ∈ calls.logs, 0 ≤ answer) (hmakes : p.makes calls = true)
    (hcurrent : p.current = some currentPollFd) (hidle : currentPollFd.revents = .none) : calls.Handled := by
  have hunwritten : ∀ (x : Outbound) (outside : Outside), isWritten x currentPollFd.fd .none outside = false := by
    intro x outside
    simp [isWritten, inputPart, PollEvents.none]
  simp only [makes, hcurrent, hidle, hunwritten, Bool.and_false] at hmakes
  split at hmakes
  · have hmakes : calls.accept = none ∧ calls.recv = none ∧ calls.send = none ∧ calls.logs = [] := by
      simpa [PollEvents.none, and_assoc] using hmakes
    obtain ⟨haccept, hrecv, hsend, -⟩ := hmakes
    exact ⟨by simp [haccept], by simp [hrecv], by simp [hsend], hlogs⟩
  · have hmakes : calls.accept = none ∧ calls.recv = none ∧ calls.send = none := by
      simpa [PollEvents.none, and_assoc] using hmakes
    obtain ⟨haccept, hrecv, hsend⟩ := hmakes
    exact ⟨by simp [haccept], by simp [hrecv], by simp [hsend], hlogs⟩

theorem acceptTurn_aborted {outside : Outside} (hs : p.acceptTurn index currentPollFd outside = some p') :
    p'.phase = .aborted ↔
      currentPollFd.revents.pollIn = true ∧ ∀ clientFd, outside.accept ≠ .value clientFd := by
  simp only [acceptTurn] at hs
  split at hs
  · next hin =>
    split at hs
    · next clientFd haccept =>
      obtain ⟨-, hsome⟩ := Option.ite_none_right_eq_some.mp hs
      cases hsome
      simp [haccept]
    · next haccept =>
      cases hs
      simpa [hin] using haccept
  · next hin =>
    cases hs
    simp [hin]

theorem clientTurn_aborted {outside : Outside} (hphase : p.phase = .turn index)
    (hs : p.clientTurn index currentPollFd outside = some p') : ∃ y verdict,
    shouldKeepClientConnected p.link currentPollFd.fd currentPollFd.revents outside = some (y, verdict) ∧
      (p'.phase = .aborted ↔ verdict = .leave) := by
  simp only [clientTurn] at hs
  split at hs
  · cases hs
  · next y hturn =>
    cases hs
    exact ⟨y, .keep, hturn, by simp⟩
  · next y hturn =>
    cases hs
    exact ⟨y, .remove, hturn, by simp [removeClientAt, hphase]⟩
  · next y hturn =>
    cases hs
    exact ⟨y, .leave, hturn, by simp⟩

theorem clientTurn_handled (hlogs : ∀ answer ∈ calls.logs, 0 ≤ answer) (hfd : 0 ≤ currentPollFd.fd)
    (hphase : p.phase = .turn index) (haccept : calls.accept = none)
    (hrecv : calls.recv.isSome = (!currentPollFd.revents.gone && currentPollFd.revents.pollIn))
    (hsend : calls.send.isSome = (!currentPollFd.revents.gone &&
      isWritten p.link currentPollFd.fd currentPollFd.revents (calls.outside currentPollFd.fd)))
    (hs : p.clientTurn index currentPollFd (calls.outside currentPollFd.fd) = some p') :
    p'.phase = .aborted ↔ ¬ calls.Handled := by
  obtain ⟨y, verdict, hturn, haborted⟩ := clientTurn_aborted hphase hs
  have hwrite : ∀ data data', (calls.outside currentPollFd.fd).write data = .uncaught →
      (calls.outside currentPollFd.fd).write data' = .uncaught := by
    intro data data' hthrown
    exact (Calls.write_outside hfd data').mpr ((Calls.write_outside hfd data).mp hthrown)
  rw [haborted, turn_leave hwrite hturn, Calls.read_outside hfd, Calls.write_outside hfd,
    Calls.handled_of_client haccept hlogs]
  cases hgone : currentPollFd.revents.gone with
  | true => simp_all
  | false =>
    simp only [hgone, Bool.not_false, Bool.true_and] at hrecv hsend
    rw [← hrecv, ← hsend]
    cases calls.recv <;> cases calls.send <;> simp [imp_iff_not_or]

/-- A turn in which no call of `libmyteams` fails leaves the loop through an exception exactly when one of its
system calls is not handled. -/
theorem Tracked.aborted_iff (h : Tracked p) (hlogs : ∀ answer ∈ calls.logs, 0 ≤ answer)
    (hphase : p.phase = .turn index) (hmakes : p.makes calls = true)
    (hs : p.forTurn index (calls.outside p.currentFd) = some p') :
    p'.phase = .aborted ↔ ¬ calls.Handled := by
  cases hentry : p.pollFds[index]? with
  | none =>
    have hcurrent : p.current = none := by rw [current, hphase]; exact hentry
    have hmakes : calls.accept = none ∧ calls.recv = none ∧ calls.send = none ∧ calls.logs = [] := by
      simpa [makes, hcurrent, and_assoc] using hmakes
    obtain ⟨haccept, hrecv, hsend, hunlogged⟩ := hmakes
    rw [forTurn_end hentry hs, Calls.handled_of_accept hrecv hsend hunlogged]
    simp [haccept]
  | some currentPollFd =>
    have hcurrent : p.current = some currentPollFd := by rw [current, hphase]; exact hentry
    have hfd : p.currentFd = currentPollFd.fd := by rw [currentFd, hcurrent]; rfl
    rw [hfd] at hs
    simp only [forTurn, hentry] at hs
    split at hs
    · next hidle =>
      cases hs
      simp [makes_ready hlogs hmakes hcurrent hidle]
    · split at hs
      · next hlisten =>
        simp only [makes, hcurrent, if_pos hlisten] at hmakes
        have hmakes : calls.accept.isSome = currentPollFd.revents.pollIn ∧ calls.recv = none ∧
            calls.send = none ∧ calls.logs = [] := by
          simpa [and_assoc] using hmakes
        obtain ⟨haccept, hrecv, hsend, hunlogged⟩ := hmakes
        rw [acceptTurn_aborted hs, Calls.handled_of_accept hrecv hsend hunlogged, ← haccept, Calls.outside]
        cases hcall : calls.accept with
        | none => simp
        | some accept => simp [← acceptClientSocket_eq_value]
      · next hclient =>
        have hmem : currentPollFd.fd ∈ p.fds := List.mem_map_of_mem (List.mem_of_getElem? hentry)
        have hopen := ((h.listed currentPollFd.fd).mp hmem).resolve_left hclient
        simp only [makes, hcurrent, if_neg hclient, hfd, Calls.inputReturns_eq_true hlogs, Bool.and_true] at hmakes
        have hmakes : calls.accept = none ∧
            calls.recv.isSome = (!currentPollFd.revents.gone && currentPollFd.revents.pollIn) ∧
            calls.send.isSome = (!currentPollFd.revents.gone &&
              isWritten p.link currentPollFd.fd currentPollFd.revents (calls.outside currentPollFd.fd)) := by
          simpa [and_assoc] using hmakes
        obtain ⟨haccept, hrecv, hsend⟩ := hmakes
        exact clientTurn_handled hlogs (h.intact.linked.isOpen _ hopen).1 hphase haccept hrecv hsend hs

variable {current : PollFd}

/-- A bound on the steps to the end of the loop, when no other round begins. -/
def remaining (p : PollLoop) : Nat :=
  match p.phase with
  | .turn index => p.pollFds.length - index + (p.pollFds.drop index).countP (fun e => e.revents ≠ .none) + 2
  | .polling => 1
  | _ => 0

theorem remaining_turn (hphase : p.phase = .turn index) (hcurrent : p.pollFds[index]? = some current) :
    p.remaining = p.pollFds.length - (index + 1) +
      (p.pollFds.drop (index + 1)).countP (fun e => e.revents ≠ .none) +
      (if current.revents ≠ .none then 1 else 0) + 3 := by
  obtain ⟨hindex, rfl⟩ := List.getElem?_eq_some_iff.mp hcurrent
  simp only [remaining, hphase]
  rw [List.drop_eq_getElem_cons hindex, List.countP_cons]
  simp only [decide_eq_true_eq]
  omega

/-- Every turn brings the end of the loop nearer, the connections that it accepts included. -/
theorem Serviced.remaining_lt (h : Serviced p current p') (hphase : p.phase = .turn index)
    (hcurrent : p.pollFds[index]? = some current) : p'.remaining < p.remaining := by
  have hindex := (List.getElem?_eq_some_iff.mp hcurrent).1
  rw [remaining_turn hphase hcurrent]
  cases h with
  | kept refreshed hphase' _ _ _ hpollFds hnext =>
    cases hphase.symm.trans hphase'
    have hdrop : (p.pollFds.set index refreshed).drop (index + 1) = p.pollFds.drop (index + 1) :=
      List.drop_set_of_lt (by omega)
    simp only [remaining, hnext, hpollFds, hdrop, List.length_set]
    omega
  | accepted fd hphase' _ hready _ _ hpollFds hnext =>
    cases hphase.symm.trans hphase'
    have hdrop : (p.pollFds.set index { current with revents := .none }).drop (index + 1) =
        p.pollFds.drop (index + 1) := List.drop_set_of_lt (by omega)
    simp only [remaining, hnext, hpollFds, appendClientPollFd, List.length_append, List.length_set,
      List.length_singleton, if_pos hready]
    rw [List.drop_append_of_le_length (by rw [List.length_set]; omega), hdrop, List.countP_append]
    simp
    omega
  | removed x hphase' _ _ _ _ hpollFds hnext =>
    cases hphase.symm.trans hphase'
    have hdrop : (p.pollFds.eraseIdx index).drop index = p.pollFds.drop (index + 1) := by
      rw [List.eraseIdx_eq_take_drop_succ, List.drop_left' (List.length_take_of_le hindex.le)]
    simp only [remaining, hnext, hpollFds, hdrop, List.length_eraseIdx_of_lt hindex]
    omega
  | aborted _ _ hphase' =>
    simp only [remaining, hphase']
    omega

theorem handleInput_refused (x : Outbound) (fd : Fd) {outside : Outside}
    (hread : outside.read = .socketException) : handleInput x fd outside = some (x, .remove) := by
  simp [handleInput, hread, Outcome.map, handleReadableEvent, readClientData, Outcome.caught]

/-- A turn is enabled when what it asks of the outside fails. -/
theorem forTurn_isSome {outside : Outside} (haccept : outside.accept = .socketException)
    (hread : outside.read = .socketException) : ∃ p', p.forTurn index outside = some p' := by
  have hturn : ∀ (clientFd : Fd) (clientEvents : PollEvents), ∃ y verdict,
      shouldKeepClientConnected p.link clientFd clientEvents outside = some (y, verdict) := by
    intro clientFd clientEvents
    simp only [shouldKeepClientConnected, handleInput_refused p.link clientFd hread]
    split
    · exact ⟨_, _, rfl⟩
    · cases clientEvents.pollIn with
      | true => exact ⟨_, _, rfl⟩
      | false => exact ⟨_, _, rfl⟩
  simp only [forTurn]
  split
  · exact ⟨_, rfl⟩
  · next current _ =>
    split
    · exact ⟨_, rfl⟩
    · split
      · simp only [acceptTurn, haccept]
        split <;> exact ⟨_, rfl⟩
      · obtain ⟨y, verdict, hkeep⟩ := hturn current.fd current.revents
        simp only [clientTurn, hkeep]
        cases verdict <;> exact ⟨_, rfl⟩

/-- Calls on descriptors that turn out to be invalid. -/
def refusing (accept recv send : Bool) (logs : List Int) : Calls where
  accept := if accept then some { fstat := .error ebadf, dup := .error ebadf, accept := .error ebadf } else none
  recv := if recv then
    some { fstat := .error ebadf, dup := .error ebadf, poll := .error ebadf, read := .error ebadf } else none
  send := if send then
    some { fstat := .error ebadf, dup := .error ebadf, poll := .error ebadf, write := .error ebadf } else none
  logs := logs
  oracle := fun _ => default

theorem refusing_outside (accept recv send : Bool) (logs : List Int) (fd : Fd) :
    ((refusing accept recv send logs).outside fd).accept = .socketException ∧
      ((refusing accept recv send logs).outside fd).read = .socketException := by
  constructor
  · cases accept <;> rfl
  · cases recv with
    | false => rfl
    | true =>
      by_cases hfd : fd < 0 <;>
        simp [refusing, Calls.outside, recvBytes, Socket.ofFd, hfd, Outcome.translated]

theorem isWritten_refused {x : Outbound} {fd : Fd} {clientEvents : PollEvents} {outside : Outside}
    (hread : outside.read = .socketException) : isWritten x fd clientEvents outside =
      (!clientEvents.pollIn && (clientEvents.pollOut && x.server.clientManager.hasPendingWrite fd &&
        x.server.clientManager.getQueuedData fd ≠ [])) := by
  have hinput := handleInput_refused x fd hread
  cases hin : clientEvents.pollIn <;> simp [isWritten, inputPart, hin, hinput]

/-- The turn of the listening descriptor makes no call of `libmyteams`, nor does the end of a round. -/
theorem forTurn_silent {outside : Outside}
    (hentry : ∀ current, p.pollFds[index]? = some current → current.fd = p.link.server.listenFd) :
    Logs.outcome (fun lib => Logs.forTurn lib p index outside) [] = some (.value (p.forTurn index outside)) := by
  simp only [Logs.forTurn, forTurn]
  cases hcurrent : p.pollFds[index]? with
  | none => rfl
  | some current =>
    dsimp only
    by_cases hidle : current.revents = .none
    · simp only [if_pos hidle]
      rfl
    · simp only [if_neg hidle, if_pos (hentry current hcurrent)]
      rfl

/-- A round goes on, whatever its descriptors are. -/
theorem exists_turn (hphase : p.phase = .turn index) :
    ∃ calls p', p.makes calls = true ∧ (∀ answer ∈ calls.logs, 0 ≤ answer) ∧
      Logs.outcome (fun lib => Logs.forTurn lib p index (calls.outside p.currentFd)) calls.logs =
        some (.value (some p')) := by
  have hturn : ∀ accept recv send logs, ∃ p',
      p.forTurn index ((refusing accept recv send logs).outside p.currentFd) = some p' := by
    intro accept recv send logs
    obtain ⟨haccept, hread⟩ := refusing_outside accept recv send logs p.currentFd
    exact forTurn_isSome haccept hread
  have hcurrent : p.current = p.pollFds[index]? := by rw [current, hphase]
  by_cases hentry : ∀ current, p.pollFds[index]? = some current → current.fd = p.link.server.listenFd
  · have hsilent : ∀ accept recv send, ∃ p', Logs.outcome (fun lib =>
        Logs.forTurn lib p index ((refusing accept recv send []).outside p.currentFd)) [] =
          some (.value (some p')) := by
      intro accept recv send
      obtain ⟨p', hp'⟩ := hturn accept recv send []
      exact ⟨p', by rw [forTurn_silent hentry, hp']⟩
    cases hnext : p.pollFds[index]? with
    | none =>
      obtain ⟨p', hp'⟩ := hsilent false false false
      have hmakes : p.makes (refusing false false false []) = true := by
        simp only [makes, hcurrent, hnext]
        rfl
      exact ⟨_, p', hmakes, by simp [refusing], hp'⟩
    | some current =>
      have hlisten := hentry current hnext
      obtain ⟨p', hp'⟩ := hsilent current.revents.pollIn false false
      have hmakes : p.makes (refusing current.revents.pollIn false false []) = true := by
        simp only [makes, hcurrent, hnext, if_pos hlisten]
        cases hin : current.revents.pollIn <;> rfl
      exact ⟨_, p', hmakes, by simp [refusing], hp'⟩
  · push Not at hentry
    obtain ⟨current, hnext, hclient⟩ := hentry
    let recv := !current.revents.gone && current.revents.pollIn
    let send := !current.revents.gone && (!current.revents.pollIn && (current.revents.pollOut &&
      p.link.server.clientManager.hasPendingWrite current.fd &&
        p.link.server.clientManager.getQueuedData current.fd ≠ []))
    obtain ⟨logs, hlogs, houtcome⟩ := exists_outcome fun lib =>
      forTurn_retells lib p ((refusing false recv send []).outside p.currentFd) index
    obtain ⟨p', hp'⟩ := hturn false recv send []
    rw [hp'] at houtcome
    refine ⟨refusing false recv send logs, p', ?_, hlogs, houtcome⟩
    have hrecv : (refusing false recv send logs).recv.isSome = recv := by
      cases hrecv : recv <;> simp [refusing]
    have hsend : (refusing false recv send logs).send.isSome = send := by
      cases hsend : send <;> simp [refusing]
    have haccept : (refusing false recv send logs).accept.isNone = true := rfl
    have hgood : ∀ answer ∈ (refusing false recv send logs).logs, 0 ≤ answer := hlogs
    have hreturns := Calls.inputReturns_eq_true hgood
    simp only [makes, hcurrent, hnext, if_neg hclient, isWritten_refused (refusing_outside _ _ _ _ _).2, haccept, hrecv,
      hsend, hreturns, Bool.and_true, decide_true, recv, send]

end PollLoop

end TeamsMirror
