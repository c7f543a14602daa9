import TeamsMirror.Link.PollLoop
import TeamsMirror.Server.Journal

/-!
# Logged turns

What a turn of the poll loop reports to `libmyteams`: the functions of the loop that come
to a handler once more, with the calls where the handlers make them. As long as every
call succeeds, a logged turn is the plain one; a call that fails throws out of the loop.
-/

namespace TeamsMirror

open Logging

/-- The `POLLIN` part of a turn, when there is one. -/
def inputPart (x : Outbound) (clientFd : Fd) (clientEvents : PollEvents) (outside : Outside) :
    Option (Outbound × Verdict) :=
  if clientEvents.pollIn then handleInput x clientFd outside else some (x, .keep)

namespace Logs

variable (lib : LoggingServer)

def processPacket (s : Server) (clientFd : Fd) (environment : Environment) (header : PacketHeader)
    (payload : Bytes) : Logged LogCall (Option (Server × Dispatched)) := do
  let context ← dispatchCommand lib (s.context clientFd payload environment) header.code
  let packetSize := sizeof PacketHeader + header.payloadSize.toNat
  return context.map fun context =>
    ({ context.toServer with
        clientManager := context.clientManager.consumeIncomingBuffer clientFd packetSize },
      ⟨header.code, payload, context.queued⟩)

def processClientIncomingPackets (oracle : Server → Environment) (clientFd : Fd) :
    Nat → Server → Logged LogCall (Except Stuck (Server × List Dispatched))
  | 0, _ => return .error .fuel
  | fuel + 1, s =>
    match peekPacket (s.clientManager.getIncomingBuffer clientFd) with
    | none => return .ok (s, [])
    | some (header, payload) => do
      match ← processPacket lib s clientFd (oracle s) header payload with
      | none => return .error .draws
      | some (s', dispatched) =>
        match ← processClientIncomingPackets oracle clientFd fuel s' with
        | .error stuck => return .error stuck
        | .ok (s'', later) => return .ok (s'', dispatched :: later)

def handleInput (x : Outbound) (clientFd : Fd) (outside : Outside) :
    Logged LogCall (Option (Outbound × Verdict)) :=
  match handleReadableEvent x.server.clientManager clientFd (outside.read.map Subtype.val) with
  | none => return some (x, .leave)
  | some (false, _) => return some (x, .remove)
  | some (true, m) => do
    let x := x.setManager m
    match ← processClientIncomingPackets lib outside.oracle clientFd
        ((x.server.clientManager.getIncomingBuffer clientFd).length + 1) x.server with
    | .error _ => return none
    | .ok (s, dispatched) => return some (x.after s (dispatched.flatMap Dispatched.queued), .keep)

def inputPart (x : Outbound) (clientFd : Fd) (clientEvents : PollEvents) (outside : Outside) :
    Logged LogCall (Option (Outbound × Verdict)) :=
  if clientEvents.pollIn then handleInput lib x clientFd outside else return some (x, .keep)

def shouldKeepClientConnected (x : Outbound) (clientFd : Fd) (clientEvents : PollEvents)
    (outside : Outside) : Logged LogCall (Option (Outbound × Verdict)) :=
  if clientEvents.pollErr || clientEvents.pollHup || clientEvents.pollNval then return some (x, .remove)
  else do
    match ← inputPart lib x clientFd clientEvents outside with
    | none => return none
    | some (x, .keep) =>
      return some (if clientEvents.pollOut then handleOutput x clientFd outside else (x, .keep))
    | some (x, verdict) => return some (x, verdict)

def disconnected (x : Outbound) (clientFd : Fd) : Logged LogCall Outbound := do
  let context ← handleClientDisconnection lib (x.server.context clientFd [] default)
  return x.after (x.server.removed context clientFd) context.queued

def removeClientAt (p : PollLoop) (index : Nat) (clientFd : Fd) : Logged LogCall PollLoop := do
  let link ← disconnected lib p.link clientFd
  return { p with link := link, pollFds := p.pollFds.eraseIdx index }

def clientTurn (p : PollLoop) (index : Nat) (currentPollFd : PollFd) (outside : Outside) :
    Logged LogCall (Option PollLoop) := do
  let currentFd := currentPollFd.fd
  match ← shouldKeepClientConnected lib p.link currentFd currentPollFd.revents outside with
  | none => return none
  | some (x, .keep) =>
    let refreshed := refreshClientPollInterest currentPollFd x.server.clientManager currentFd
    return some ⟨x, p.pollFds.set index refreshed, .turn (index + 1)⟩
  | some (x, .remove) => return some (← removeClientAt lib { p with link := x } index currentFd)
  | some (x, .leave) => return some { p with link := x, phase := .aborted }

def forTurn (p : PollLoop) (index : Nat) (outside : Outside) : Logged LogCall (Option PollLoop) :=
  match p.pollFds[index]? with
  | none => return some { p with phase := .polling }
  | some currentPollFd =>
    if currentPollFd.revents = .none then return some { p with phase := .turn (index + 1) }
    else if currentPollFd.fd = p.link.server.listenFd then return p.acceptTurn index currentPollFd outside
    else clientTurn lib p index currentPollFd outside

end Logs

/-- What a logged computation makes of calls that all succeed. -/
def Retells (lib : LoggingServer) (logged : Logged LogCall α) (plain : α) : Prop :=
  ∃ calls, Writes lib.accepts logged plain calls

theorem retells_pure {lib : LoggingServer} (a : α) : Retells lib (pure a) a := ⟨[], writes_pure a⟩

theorem Retells.bind {lib : LoggingServer} {m : Logged LogCall α} {f : α → Logged LogCall β} {a : α} {b : β}
    (hm : Retells lib m a) (hf : Retells lib (f a) b) : Retells lib (m >>= f) b := by
  obtain ⟨calls, hm⟩ := hm
  obtain ⟨more, hf⟩ := hf
  exact ⟨calls ++ more, hm.bind hf⟩

section

variable (lib : LoggingServer) (x : Outbound) (p : PollLoop) (fd : Fd) (outside : Outside)

theorem processPacket_retells (s : Server) (environment : Environment) (header : PacketHeader)
    (payload : Bytes) : Retells lib (Logs.processPacket lib s fd environment header payload)
      (processPacket s fd environment header payload) := by
  have haccounts : AccountsFor lib (s.context fd payload environment) _ _ := dispatch_accounts header.code
  obtain ⟨calls, hwrites, -⟩ := haccounts
  refine Retells.bind ⟨calls, hwrites⟩ ?_
  rw [processPacket]
  cases dispatchCommand (s.context fd payload environment) header.code with
  | none => exact retells_pure _
  | some context => exact retells_pure _

theorem processClientIncomingPackets_retells (oracle : Server → Environment) (fuel : Nat) (s : Server) :
    Retells lib (Logs.processClientIncomingPackets lib oracle fd fuel s)
      (processClientIncomingPackets oracle fd fuel s) := by
  induction fuel generalizing s with
  | zero => exact retells_pure _
  | succ fuel ih =>
    simp only [Logs.processClientIncomingPackets, processClientIncomingPackets]
    cases peekPacket (s.clientManager.getIncomingBuffer fd) with
    | none => exact retells_pure _
    | some packet =>
      obtain ⟨header, payload⟩ := packet
      dsimp only
      refine (processPacket_retells lib fd s (oracle s) header payload).bind ?_
      cases processPacket s fd (oracle s) header payload with
      | none => exact retells_pure _
      | some result =>
        obtain ⟨s', dispatched⟩ := result
        dsimp only
        refine (ih s').bind ?_
        cases processClientIncomingPackets oracle fd fuel s' with
        | error stuck => exact retells_pure _
        | ok rest => exact retells_pure _

theorem handleInput_retells : Retells lib (Logs.handleInput lib x fd outside) (handleInput x fd outside) := by
  simp only [Logs.handleInput, handleInput]
  cases handleReadableEvent x.server.clientManager fd (outside.read.map Subtype.val) with
  | none => exact retells_pure _
  | some read =>
    obtain ⟨isOpen, m⟩ := read
    cases isOpen with
    | false => exact retells_pure _
    | true =>
      dsimp only
      refine (processClientIncomingPackets_retells lib fd _ _ _).bind ?_
      cases processClientIncomingPackets outside.oracle fd _ (x.setManager m).server with
      | error stuck => exact retells_pure _
      | ok result => exact retells_pure _

theorem inputPart_retells (clientEvents : PollEvents) :
    Retells lib (Logs.inputPart lib x fd clientEvents outside) (inputPart x fd clientEvents outside) := by
  simp only [Logs.inputPart, inputPart]
  cases clientEvents.pollIn with
  | true => exact handleInput_retells lib x fd outside
  | false => exact retells_pure _

theorem shouldKeep_retells (clientEvents : PollEvents) :
    Retells lib (Logs.shouldKeepClientConnected lib x fd clientEvents outside)
      (shouldKeepClientConnected x fd clientEvents outside) := by
  simp only [Logs.shouldKeepClientConnected, shouldKeepClientConnected]
  refine both_ite (fun _ => retells_pure _) fun _ => ?_
  refine (inputPart_retells lib x fd outside clientEvents).bind ?_
  rw [← inputPart]
  cases inputPart x fd clientEvents outside with
  | none => exact retells_pure _
  | some result =>
    obtain ⟨y, verdict⟩ := result
    cases verdict with
    | keep | remove | leave => exact retells_pure _

theorem removeClientAt_retells (index : Nat) :
    Retells lib (Logs.removeClientAt lib p index fd) (p.removeClientAt index fd) := by
  have haccounts : Accounts lib (p.link.server.context fd [] default) _ _ := handleClientDisconnection_accounts
  obtain ⟨calls, hwrites, -⟩ := haccounts
  have hdisconnected : Retells lib (Logs.disconnected lib p.link fd) (p.link.disconnected fd) :=
    Retells.bind ⟨calls, hwrites⟩ (retells_pure _)
  exact hdisconnected.bind (retells_pure _)

theorem clientTurn_retells (index : Nat) (currentPollFd : PollFd) :
    Retells lib (Logs.clientTurn lib p index currentPollFd outside) (p.clientTurn index currentPollFd outside) := by
  simp only [Logs.clientTurn, PollLoop.clientTurn]
  refine (shouldKeep_retells lib p.link currentPollFd.fd outside currentPollFd.revents).bind ?_
  cases shouldKeepClientConnected p.link currentPollFd.fd currentPollFd.revents outside with
  | none => exact retells_pure _
  | some result =>
    obtain ⟨y, verdict⟩ := result
    cases verdict with
    | keep | leave => exact retells_pure _
    | remove => exact (removeClientAt_retells lib _ _ index).bind (retells_pure _)

theorem forTurn_retells (index : Nat) : Retells lib (Logs.forTurn lib p index outside) (p.forTurn index outside) := by
  simp only [Logs.forTurn, PollLoop.forTurn]
  cases p.pollFds[index]? with
  | none => exact retells_pure _
  | some currentPollFd =>
    refine both_ite (fun _ => retells_pure _) fun _ => ?_
    exact both_ite (fun _ => retells_pure _) fun _ => clientTurn_retells lib p outside index currentPollFd

theorem loadUsers_retells (users : List User) : Retells lib (Logs.loadUsers lib users) () :=
  ⟨_, writes_forM _ users⟩

theorem logoutUsers_retells (users : UnorderedMap Fd Bytes) : Retells lib (Logs.logoutUsers lib users) () :=
  ⟨_, writes_forM _ users.entries⟩

end

/-- A library with these answers to the calls that it gets, in their order. -/
def LoggingServer.ofAnswers (answers : List Int) : LoggingServer := fun journal _ => answers.getD journal.length 0

/-- What a logged computation comes to when its calls get these answers; `none` when it makes more calls,
or fewer. What a call throws is no `SocketException`. -/
def Logs.outcome (logged : LoggingServer → Logged LogCall α) (answers : List Int) : Option (Outcome α) :=
  match logged (.ofAnswers answers) [] with
  | .ok (a, journal) => if journal.length = answers.length then some (.value a) else none
  | .error journal => if journal.length = answers.length then some .uncaught else none

section

variable {logged : LoggingServer → Logged LogCall α} {plain : α} {answers : List Int}

/-- The computation is the plain one when all answers are good, and throws when one is not. -/
theorem outcome_cases {o : Outcome α} (hlogged : ∀ lib, Retells lib (logged lib) plain)
    (ho : Logs.outcome logged answers = some o) :
    o = .value plain ∧ (∀ answer ∈ answers, 0 ≤ answer) ∨ o = .uncaught ∧ ∃ answer ∈ answers, answer < 0 := by
  obtain ⟨calls, hwrites⟩ := hlogged (.ofAnswers answers)
  have hlength : (journalOf (logged (.ofAnswers answers) [])).length = answers.length := by
    simp only [Logs.outcome] at ho
    split at ho
    all_goals
      next heq =>
        rw [heq]
        exact (Option.ite_none_right_eq_some.mp ho).1
  rcases Writes.answered (fun answer : Int => decide (0 ≤ answer)) 0 hwrites hlength with ⟨heq, hgood⟩ | ⟨journal, heq, answer, hanswer, hbad⟩
  · simp only [Logs.outcome, heq] at ho
    exact .inl ⟨(Option.some.inj (Option.ite_none_right_eq_some.mp ho).2).symm, by simpa using hgood⟩
  · simp only [Logs.outcome, heq] at ho
    exact .inr ⟨(Option.some.inj (Option.ite_none_right_eq_some.mp ho).2).symm, answer, hanswer, by simpa using hbad⟩

/-- The calls that a computation makes can be answered well. -/
theorem exists_outcome (hlogged : ∀ lib, Retells lib (logged lib) plain) :
    ∃ answers, (∀ answer ∈ answers, 0 ≤ answer) ∧ Logs.outcome logged answers = some (.value plain) := by
  have hzero : ∀ n : Nat, (.ofAnswers (List.replicate n 0) : LoggingServer) = fun _ _ => 0 := by
    intro n
    funext journal call
    by_cases hjournal : journal.length < n <;> simp [LoggingServer.ofAnswers, hjournal]
  obtain ⟨calls, hwrites⟩ := hlogged fun _ _ => 0
  refine ⟨List.replicate calls.length 0, fun answer hanswer => (List.eq_of_mem_replicate hanswer).ge, ?_⟩
  rw [Logs.outcome, hzero, hwrites.ok (fun _ _ => rfl) []]
  simp

end

end TeamsMirror
