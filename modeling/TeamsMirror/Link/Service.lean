import TeamsMirror.Link.Leakage
import TeamsMirror.Link.Sockets

/-!
# What the loop does for one connection

As long as a connection stays open, whatever happens to the others: every request
is dispatched in the turn that reads its last byte, so that no whole request waits
in a buffer and no buffer grows beyond one packet; and every turn in which `poll`
finds room for output takes something off what is queued, until nothing is left.
-/

namespace TeamsMirror

/-- A chunk taken from a socket, and the codes and payloads of the requests dispatched in that turn. -/
structure Intake where
  data : Bytes
  dispatched : List (UInt16 × Bytes)

namespace Outbound

/-- What `handleInput` takes in. -/
def intakes (x : Outbound) (clientFd : Fd) (outside : Outside) : List Intake :=
  match outside.read with
  | .value data =>
    let x := x.setManager (x.server.clientManager.appendToIncomingBuffer clientFd data)
    match processClientIncomingPackets outside.oracle clientFd
        ((x.server.clientManager.getIncomingBuffer clientFd).length + 1) x.server with
    | .ok (_, dispatched) => [⟨data, dispatched.map fun d => (d.code, d.payload)⟩]
    | .error _ => []
  | _ => []

end Outbound

/-- `POLLERR`, `POLLHUP` or `POLLNVAL`. -/
def PollEvents.isBroken (events : PollEvents) : Bool := events.pollErr || events.pollHup || events.pollNval

namespace PollLoop

/-- What an event takes in from a connection. -/
def intakes (fd : Fd) (p : PollLoop) : Event → List Intake
  | .turn outside =>
    match p.current with
    | some ⟨fd', _, revents⟩ =>
      if fd' = fd ∧ revents.isBroken = false ∧ revents.pollIn then p.link.intakes fd outside else []
    | none => []
  | _ => []

/-- The turns in which the socket of a connection has room for output. -/
def outputTurns (fd : Fd) (p : PollLoop) (e : Event) : List Event :=
  match p.current with
  | some ⟨fd', _, revents⟩ => if fd' = fd ∧ revents.pollOut then [e] else []
  | none => []

end PollLoop

namespace Server

variable {s s' : Server} {fd : Fd}

/-- An event of one connection takes nothing from the socket of another, and gives nothing to it. -/
theorem other_step {e : Event} {queued : List (Fd × Packet)} (h : Linked s)
    (hs : s.handle e = some (s', queued)) (hne : fd ≠ e.fd) :
    s'.clientManager.getIncomingBuffer fd = s.clientManager.getIncomingBuffer fd ∧ e.written s fd = [] := by
  cases e with
  | accept fd' =>
    replace hne : fd ≠ fd' := hne
    obtain ⟨hnew, rfl, -⟩ := handle_accept hs
    have hfresh : fd' ∉ s.clientManager.clients := fun hmem => hnew.2.2.2 ((h.clients fd').mp hmem)
    rw [getIncomingBuffer_accepted s hfresh, if_neg hne]
    exact ⟨rfl, rfl⟩
  | receive fd' chunk =>
    replace hne : fd ≠ fd' := hne
    obtain ⟨hfd', -, rfl⟩ := handle_receive hs
    refine ⟨?_, rfl⟩
    simp only [ClientManager.getIncomingBuffer_append ((h.clients fd').mpr hfd'), if_neg hne]
  | dispatch fd' environment =>
    replace hne : fd ≠ fd' := hne
    obtain ⟨-, command, payload, middle, size, heffect, rfl⟩ := handle_dispatch hs
    have hsame : SameConnections s middle := heffect.sameConnections
    rw [ClientManager.getIncomingBuffer_consume, if_neg hne, deliver,
      ClientManager.getIncomingBuffer_sendAll, hsame.incoming]
    exact ⟨rfl, rfl⟩
  | flush fd' n =>
    replace hne : fd ≠ fd' := hne
    obtain ⟨-, -, -, rfl⟩ := handle_flush hs
    exact ⟨getIncomingBuffer_flush _ _ _ _, if_neg (Ne.symm hne)⟩
  | disconnect fd' =>
    replace hne : fd ≠ fd' := hne
    obtain ⟨-, middle, hd, rfl⟩ := handle_disconnect hs
    have hsame := (h.disconnection hd).2.2
    rw [getIncomingBuffer_removeClient _ hne, deliver, ClientManager.getIncomingBuffer_sendAll,
      hsame.incoming]
    exact ⟨rfl, rfl⟩

end Server

theorem ClientManager.hasPendingWrite_iff (m : ClientManager) (fd : Fd) :
    m.hasPendingWrite fd = true ↔ m.getQueuedData fd ≠ [] := by
  rw [hasPendingWrite, getQueuedData, find]
  cases m.clients.lookup fd <;> simp

namespace Outbound

variable {x y : Outbound} {fd : Fd}

/-- All that was queued for a connection since it was accepted. -/
def allQueued (x : Outbound) (fd : Fd) : Bytes := (x.streams fd).queued.flatMap Packet.bytes

/-- Nothing is read from the socket of a connection or written to it. -/
structure Rests (fd : Fd) (x y : Outbound) : Prop where
  incoming : y.server.clientManager.getIncomingBuffer fd = x.server.clientManager.getIncomingBuffer fd
  written : (y.streams fd).written = (x.streams fd).written
  queued : x.allQueued fd <+: y.allQueued fd

theorem Rests.refl (fd : Fd) (x : Outbound) : Rests fd x x := ⟨rfl, rfl, List.prefix_rfl⟩

theorem Rests.trans {z : Outbound} (h : Rests fd x y) (h' : Rests fd y z) : Rests fd x z :=
  ⟨h'.incoming.trans h.incoming, h'.written.trans h.written, h.queued.trans h'.queued⟩

theorem allQueued_history {e : TeamsMirror.Event} {queued : List (Fd × Packet)}
    (hstreams : y.streams = x.history e queued) (hopens : e.opens ≠ some fd) :
    x.allQueued fd <+: y.allQueued fd := by
  rw [allQueued, allQueued, hstreams, history, if_neg hopens, List.flatMap_append]
  exact List.prefix_append _ _

theorem rests_of_handle {e : TeamsMirror.Event} {queued : List (Fd × Packet)} (h : x.server.Linked)
    (hs : x.server.handle e = some (y.server, queued)) (hstreams : y.streams = x.history e queued)
    (hne : fd ≠ e.fd) : Rests fd x y := by
  obtain ⟨hincoming, hwritten⟩ := Server.other_step h hs hne
  have hopens : e.opens ≠ some fd := by
    intro hopens
    cases e <;> cases hopens
    exact hne rfl
  refine ⟨hincoming, ?_, allQueued_history hstreams hopens⟩
  rw [hstreams, history, if_neg hopens, hwritten, List.append_nil]

theorem rests_accepted {fd' : Fd} (h : x.server.Linked) (hfd' : x.server.CanAccept fd') (hne : fd ≠ fd') :
    Rests fd x (x.accepted fd') := by
  have hfresh : fd' ∉ x.server.clientManager.clients := fun hmem => hfd'.2.2.2 ((h.clients fd').mp hmem)
  refine ⟨?_, ?_, ?_⟩
  · rw [accepted, Server.getIncomingBuffer_accepted _ hfresh, if_neg hne]
  · simp only [accepted, Function.update_of_ne hne]
  · simp only [Outbound.allQueued, accepted, Function.update_of_ne hne]
    exact List.prefix_rfl

theorem rests_disconnected {fd' : Fd} (h : x.server.Linked) (hfd' : fd' ∈ x.server.clientSockets) (hne : fd ≠ fd') :
    Rests fd x (x.disconnected fd') :=
  rests_of_handle (e := .disconnect fd') h (by rw [Server.handle, if_pos hfd']; rfl)
    (history_after _ _ rfl fun _ => rfl) hne

theorem Attends.allQueued {fd' : Fd} (h : Attends fd' x y) (fd : Fd) : x.allQueued fd <+: y.allQueued fd := by
  have hserves := h.serves
  clear h
  induction hserves with
  | refl => exact List.prefix_rfl
  | tail _ hserve ih =>
    obtain ⟨e, queued, hservice, -, hstreams⟩ := hserve
    refine ih.trans (allQueued_history hstreams ?_)
    intro hopens
    cases e <;> cases hopens
    exact hservice

theorem Attends.rests {fd' : Fd} (hx : Intact x) (h : Attends fd' x y) (hne : fd ≠ fd') : Rests fd x y := by
  have hserves := h.serves
  have hboth : Intact y ∧ Rests fd x y := by
    clear h
    induction hserves with
    | refl => exact ⟨hx, .refl fd x⟩
    | tail _ hserve ih =>
      obtain ⟨hintact, hrests⟩ := ih
      refine ⟨hserve.serves.intact hintact, hrests.trans ?_⟩
      obtain ⟨e, queued, hservice, hs, hstreams⟩ := hserve
      refine rests_of_handle hintact.linked hs hstreams ?_
      have hfd : e.fd = fd' := by
        cases e <;> simp_all [Event.IsServiceOf, Event.fd]
      exact hfd ▸ hne
  exact hboth.2

/-- The requests dispatched for `intakes` are those that the chunks complete, and the rest is kept. -/
def Served (fd : Fd) (x : Outbound) (intakes : List Intake) (y : Outbound) : Prop :=
  ∃ frames, packetFraming.Splits
      (x.server.clientManager.getIncomingBuffer fd ++ intakes.flatMap Intake.data) frames
      (y.server.clientManager.getIncomingBuffer fd) ∧
    intakes.flatMap Intake.dispatched = frames.map frameCommand

/-- No whole request waits in the buffer of the connection. -/
def Idle (x : Outbound) (fd : Fd) : Prop :=
  packetFraming.next (x.server.clientManager.getIncomingBuffer fd) = none

theorem Served.refl (h : x.Idle fd) : Served fd x [] x := ⟨[], by simpa using .done h, rfl⟩

theorem Served.trans {z : Outbound} {intakes later : List Intake} (h : Served fd x intakes y)
    (h' : Served fd y later z) : Served fd x (intakes ++ later) z := by
  obtain ⟨frames, hsplits, hdispatched⟩ := h
  obtain ⟨frames', hsplits', hdispatched'⟩ := h'
  refine ⟨frames ++ frames', ?_, ?_⟩
  · rw [List.flatMap_append, ← List.append_assoc]
    exact hsplits.append hsplits'
  · rw [List.flatMap_append, hdispatched, hdispatched', List.map_append]

theorem Served.rests {z : Outbound} {intakes : List Intake} (h : Served fd x intakes y) (h' : Rests fd y z) :
    Served fd x intakes z := by
  rw [Served, h'.incoming]
  exact h

theorem Served.idle {intakes : List Intake} (h : Served fd x intakes y) : y.Idle fd := by
  obtain ⟨frames, hsplits, -⟩ := h
  exact (Framing.splits_iff.mp hsplits).2.2

theorem handleInput_serves {outside : Outside} {verdict : Verdict} (hx : Intact x)
    (hfd : fd ∈ x.server.clientSockets) (hidle : x.Idle fd) (h : handleInput x fd outside = some (y, verdict))
    (hstays : verdict ≠ .remove) :
    Served fd x (x.intakes fd outside) y ∧ (y.streams fd).written = (x.streams fd).written := by
  cases hread : outside.read with
  | value data =>
    simp only [handleInput, hread, Outcome.map, handleReadableEvent, readClientData] at h
    by_cases hdata : data.val = []
    · simp only [hdata, if_true, Outcome.caught] at h
      cases h
      exact absurd rfl hstays
    · simp only [if_neg hdata, Outcome.caught] at h
      split at h
      · cases h
      · next s dispatched hloop =>
        cases h
        obtain ⟨-, frames, hsplits, hframes⟩ := Server.processClientIncomingPackets_splits hloop
        have hmanager := ClientManager.getIncomingBuffer_append ((hx.linked.clients fd).mpr hfd) fd data.val
        rw [if_pos rfl] at hmanager
        have hintakes : x.intakes fd outside = [⟨data, dispatched.map fun d => (d.code, d.payload)⟩] := by
          simp only [intakes, hread, hloop]
        rw [hintakes]
        refine ⟨⟨frames, ?_, ?_⟩, rfl⟩
        · rw [List.flatMap_singleton, ← hmanager]
          exact hsplits
        · rw [List.flatMap_singleton]
          exact hframes
  | socketException =>
    simp only [handleInput, hread, Outcome.map, handleReadableEvent, readClientData, Outcome.caught] at h
    cases h
    exact absurd rfl hstays
  | uncaught =>
    simp only [handleInput, hread, Outcome.map, handleReadableEvent, readClientData, Outcome.caught] at h
    cases h
    have hintakes : x.intakes fd outside = [] := by simp only [intakes, hread]
    exact ⟨hintakes ▸ .refl hidle, rfl⟩

/-- A write that keeps its connection took something, if there was anything to write. -/
theorem handleWritableEvent_takes {m m' : ClientManager}
    {write : (queuedData : Bytes) → Outcome (Fin (queuedData.length + 1))} (hqueued : m.getQueuedData fd ≠ [])
    (h : handleWritableEvent m fd write = some (true, m')) :
    ∃ n, 0 < n ∧ n ≤ (m.getQueuedData fd).length ∧ m' = m.consumeQueuedData fd n := by
  have hpending : m.hasPendingWrite fd ≠ false := by
    rw [Bool.ne_false_iff]
    exact (m.hasPendingWrite_iff fd).mpr hqueued
  rw [handleWritableEvent, if_neg hpending, flushClientData, if_neg hpending, if_neg hqueued] at h
  cases hwrite : write (m.getQueuedData fd) with
  | value bytesSent =>
    simp only [hwrite, Outcome.map, Outcome.caught] at h
    split at h
    · cases h
    · cases h
      exact ⟨bytesSent, by omega, by omega, rfl⟩
  | socketException => simp [hwrite, Outcome.map, Outcome.caught] at h
  | uncaught => simp [hwrite, Outcome.map, Outcome.caught] at h

theorem handleOutput_serves {outside : Outside} {verdict : Verdict} (h : handleOutput x fd outside = (y, verdict))
    (hstays : verdict ≠ .remove) :
    y.server.clientManager.getIncomingBuffer fd = x.server.clientManager.getIncomingBuffer fd ∧
      (x.streams fd).written.length ≤ (y.streams fd).written.length ∧
      (verdict = .keep → x.server.clientManager.getQueuedData fd ≠ [] →
        (x.streams fd).written.length < (y.streams fd).written.length) := by
  simp only [handleOutput] at h
  split at h
  · cases h
    exact ⟨rfl, le_rfl, fun hkeep => by cases hkeep⟩
  · cases h
    exact absurd rfl hstays
  · next m hwrite =>
    cases h
    have hlength : ∀ m : ClientManager, ((x.flushed fd m).streams fd).written.length =
        (x.streams fd).written.length +
          ((x.server.clientManager.getQueuedData fd).length - (m.getQueuedData fd).length) := by
      intro m
      simp [flushed]
    refine ⟨?_, by rw [hlength]; omega, fun _ hqueued => ?_⟩
    · rcases handleWritableEvent_true hwrite with rfl | ⟨n, -, -, rfl⟩
      · rfl
      · exact Server.getIncomingBuffer_flush _ _ _ _
    · obtain ⟨n, hpos, hle, rfl⟩ := handleWritableEvent_takes hqueued hwrite
      rw [hlength, ClientManager.getQueuedData_consume, if_pos rfl, List.length_drop]
      omega

/-- Where nothing waits, all that was queued has been written. -/
theorem Intact.written_eq (h : Intact x) (hfd : fd ∈ x.server.clientSockets)
    (hnil : x.server.clientManager.getQueuedData fd = []) : (x.streams fd).written = x.allQueued fd := by
  have haccount := h.account fd hfd
  rwa [hnil, List.append_nil] at haccount

/-- What a turn of the connection brings, if it stays. -/
structure Turned (fd : Fd) (revents : PollEvents) (outside : Outside) (x y : Outbound) (verdict : Verdict) :
    Prop where
  served : Served fd x (if revents.pollIn then x.intakes fd outside else []) y
  written : (x.streams fd).written.length ≤ (y.streams fd).written.length
  progress : verdict = .keep → revents.pollOut = true →
    (x.allQueued fd).length ≤ (x.streams fd).written.length ∨
      (x.streams fd).written.length < (y.streams fd).written.length

theorem turned {revents : PollEvents} {outside : Outside} {verdict : Verdict} (hx : Intact x)
    (hfd : fd ∈ x.server.clientSockets) (hidle : x.Idle fd)
    (h : shouldKeepClientConnected x fd revents outside = some (y, verdict)) (hstays : verdict ≠ .remove) :
    revents.isBroken = false ∧ Turned fd revents outside x y verdict := by
  rw [shouldKeepClientConnected] at h
  split at h
  · cases h
    exact absurd rfl hstays
  · next hbroken =>
    refine ⟨by simpa [PollEvents.isBroken] using hbroken, ?_⟩
    have hinput : ∀ {z : Outbound} {v : Verdict}, v ≠ .remove →
        (if revents.pollIn then handleInput x fd outside else some (x, .keep)) = some (z, v) →
          Attends fd x z ∧ Served fd x (if revents.pollIn then x.intakes fd outside else []) z ∧
            (z.streams fd).written = (x.streams fd).written := by
      intro z v hv hz
      by_cases hin : revents.pollIn
      · rw [if_pos hin] at hz ⊢
        obtain ⟨hserved, hwritten⟩ := handleInput_serves hx hfd hidle hz hv
        exact ⟨attends_handleInput hfd hz, hserved, hwritten⟩
      · rw [if_neg hin] at hz ⊢
        cases hz
        exact ⟨.refl fd x, .refl hidle, rfl⟩
    split at h
    · cases h
    · next z hz =>
      obtain ⟨hattends, hserved, hwritten⟩ := hinput (by simp) hz
      have hy := Option.some.inj h
      split at hy
      · obtain ⟨hincoming, hle, hprogress⟩ := handleOutput_serves hy hstays
        rw [hwritten] at hle hprogress
        refine ⟨?_, hle, fun hkeep _ => ?_⟩
        · obtain ⟨frames, hsplits, hframes⟩ := hserved
          exact ⟨frames, hincoming ▸ hsplits, hframes⟩
        · by_cases hnil : z.server.clientManager.getQueuedData fd = []
          · have hall := (hx.serves hattends.steady.serves).written_eq (hattends.clientSockets ▸ hfd) hnil
            rw [← hwritten, hall]
            exact .inl (hattends.allQueued fd).length_le
          · exact .inr (hprogress hkeep hnil)
      · next hout =>
        cases hy
        exact ⟨hserved, hwritten ▸ le_rfl, fun _ h => absurd h hout⟩
    · next z v hkeep hz =>
      cases h
      obtain ⟨-, hserved, hwritten⟩ := hinput hstays hz
      exact ⟨hserved, hwritten ▸ le_rfl, fun h => absurd h hkeep⟩

end Outbound

namespace PollLoop

variable {p p' : PollLoop} {fd : Fd} {e : Event}

/-- A step is the turn of a connection, or leaves it alone. -/
inductive Deals (fd : Fd) (p : PollLoop) (e : Event) (p' : PollLoop) : Prop where
  | elsewhere : Outbound.Rests fd p.link p'.link → p.intakes fd e = [] → p.outputTurns fd e = [] → Deals fd p e p'
  | turn {events revents : PollEvents} {outside : Outside} {verdict : Verdict} :
      e = .turn outside → p.current = some ⟨fd, events, revents⟩ →
      shouldKeepClientConnected p.link fd revents outside = some (p'.link, verdict) → verdict ≠ .remove →
      (verdict = .keep ∨ p'.phase = .aborted) → Deals fd p e p'

theorem Deals.of_quiet {outside : Outside} (hrests : Outbound.Rests fd p.link p'.link)
    (hcurrent : ∀ pollFd, p.current = some pollFd → pollFd.fd ≠ fd ∨ pollFd.revents = .none) :
    Deals fd p (.turn outside) p' := by
  cases hp : p.current with
  | none => exact .elsewhere hrests (by simp only [intakes, hp]) (by simp only [outputTurns, hp])
  | some pollFd =>
    refine .elsewhere hrests ?_ ?_
    · rcases hcurrent pollFd hp with hne | hnone
      · simp only [intakes, hp, hne, false_and, if_false]
      · simp [intakes, hp, hnone, PollEvents.none]
    · rcases hcurrent pollFd hp with hne | hnone
      · simp only [outputTurns, hp, hne, false_and, if_false]
      · simp [outputTurns, hp, hnone, PollEvents.none]

/-- The turn of the listener, or of another connection. -/
theorem Deals.of_other {pollFd : PollFd} {outside : Outside} (hp : p.current = some pollFd) (hne : pollFd.fd ≠ fd)
    (hrests : Outbound.Rests fd p.link p'.link) : Deals fd p (.turn outside) p' :=
  .of_quiet hrests fun _ hp' => .inl (Option.some.inj (hp.symm.trans hp') ▸ hne)

section

variable {index : Nat} {pollFd : PollFd} {outside : Outside}

theorem Tracked.deals_acceptTurn (h : Tracked p) (hp : p.current = some pollFd) (hne : pollFd.fd ≠ fd)
    (hs : p.acceptTurn index pollFd outside = some p') (hfd : fd ∈ p.link.server.clientSockets) :
    Deals fd p (.turn outside) p' := by
  simp only [acceptTurn] at hs
  split at hs
  · split at hs
    · obtain ⟨hcan, hsome⟩ := Option.ite_none_right_eq_some.mp hs
      cases hsome
      exact .of_other hp hne (Outbound.rests_accepted h.intact.linked hcan fun he => hcan.2.2.2 (he ▸ hfd))
    · cases hs
      exact .of_other hp hne (.refl fd _)
  · cases hs
    exact .of_other hp hne (.refl fd _)

theorem Tracked.deals_clientTurn (h : Tracked p) (hp : p.current = some pollFd)
    (hopen : pollFd.fd ∈ p.link.server.clientSockets) (hs : p.clientTurn index pollFd outside = some p')
    (hfd' : fd ∈ p'.link.server.clientSockets) : Deals fd p (.turn outside) p' := by
  have hothers : ∀ {x : Outbound} {verdict : Verdict}, pollFd.fd ≠ fd →
      shouldKeepClientConnected p.link pollFd.fd pollFd.revents outside = some (x, verdict) →
        Outbound.Rests fd p.link x := fun hne hturn =>
    (Outbound.attends_turn hopen hturn).rests h.intact (Ne.symm hne)
  simp only [clientTurn] at hs
  split at hs
  · cases hs
  · next x hturn =>
    cases hs
    by_cases he : pollFd.fd = fd
    · subst he
      exact .turn rfl hp hturn (by simp) (.inl rfl)
    · exact .of_other hp he (hothers he hturn)
  · next x hturn =>
    -- the connection that is removed is not the one that stays open
    cases hs
    have he : pollFd.fd ≠ fd := (Finset.ne_of_mem_erase hfd').symm
    have hattends := Outbound.attends_turn hopen hturn
    have hx := h.intact.serves hattends.steady.serves
    exact .of_other hp he ((hothers he hturn).trans
      (Outbound.rests_disconnected hx.linked (hattends.clientSockets ▸ hopen) (Ne.symm he)))
  · next x hturn =>
    cases hs
    by_cases he : pollFd.fd = fd
    · subst he
      exact .turn rfl hp hturn (by simp) (.inr rfl)
    · exact .of_other hp he (hothers he hturn)

theorem Tracked.deals_turn (h : Tracked p) (hphase : p.phase = .turn index) (hs : p.forTurn index outside = some p')
    (hfd : fd ∈ p.link.server.clientSockets) (hfd' : fd ∈ p'.link.server.clientSockets) :
    Deals fd p (.turn outside) p' := by
  cases hcurrent : p.pollFds[index]? with
  | none =>
    rw [forTurn_end hcurrent hs]
    refine .of_quiet (.refl fd _) fun pollFd hp => ?_
    simp [current, hphase, hcurrent] at hp
  | some pollFd =>
    have hp : p.current = some pollFd := by
      rw [current, hphase]
      exact hcurrent
    simp only [forTurn, hcurrent] at hs
    split at hs
    · next hnone =>
      cases hs
      exact .of_quiet (.refl fd _) fun pollFd' hp' => .inr (Option.some.inj (hp.symm.trans hp') ▸ hnone)
    · split at hs
      · next hlisten =>
        have hne : pollFd.fd ≠ fd := fun he => (h.intact.linked.isOpen fd hfd).2.2 (he ▸ hlisten)
        exact h.deals_acceptTurn hp hne hs hfd
      · next hlisten =>
        have hmem : pollFd.fd ∈ p.fds := List.mem_map_of_mem (List.mem_of_getElem? hcurrent)
        exact h.deals_clientTurn hp (((h.listed pollFd.fd).mp hmem).resolve_left hlisten) hs hfd'

end

theorem Tracked.deals (h : Tracked p) (hs : p.step e = some p') (hfd : fd ∈ p.link.server.clientSockets)
    (hfd' : fd ∈ p'.link.server.clientSockets) : Deals fd p e p' := by
  simp only [PollLoop.step] at hs
  split at hs
  · next result isRunning hphase =>
    cases hs
    have hlink : (p.pollTurn result isRunning).link = p.link := by cases result <;> rfl
    have hcurrent : p.current = none := by rw [current, hphase]
    exact .elsewhere (hlink ▸ .refl fd _) rfl (by rw [outputTurns, hcurrent])
  · next hphase =>
    cases hs
    have hcurrent : p.current = none := by rw [current, hphase]
    exact .elsewhere (.refl fd _) rfl (by rw [outputTurns, hcurrent])
  · next hphase => exact h.deals_turn hphase hs hfd hfd'
  · cases hs

/-- What a step brings to a connection that stays open. -/
theorem Tracked.serves (h : Tracked p) (hs : p.step e = some p') (hfd : fd ∈ p.link.server.clientSockets)
    (hfd' : fd ∈ p'.link.server.clientSockets) (hidle : p.link.Idle fd) :
    Outbound.Served fd p.link (p.intakes fd e) p'.link ∧
      p.link.allQueued fd <+: p'.link.allQueued fd ∧
      (p.link.streams fd).written.length ≤ (p'.link.streams fd).written.length ∧
      (p'.phase ≠ .aborted → p.outputTurns fd e ≠ [] →
        (p.link.allQueued fd).length ≤ (p.link.streams fd).written.length ∨
          (p.link.streams fd).written.length < (p'.link.streams fd).written.length) := by
  cases h.deals hs hfd hfd' with
  | elsewhere hrests hintakes houtput =>
    rw [hintakes, houtput]
    exact ⟨(Outbound.Served.refl hidle).rests hrests, hrests.queued, hrests.written ▸ le_rfl,
      fun _ h => absurd rfl h⟩
  | @turn events revents outside verdict he hcurrent hturn hstays hgoes =>
    subst he
    obtain ⟨hbroken, hturned⟩ := Outbound.turned h.intact hfd hidle hturn hstays
    have hintakes : p.intakes fd (.turn outside) = if revents.pollIn then p.link.intakes fd outside else [] := by
      simp only [intakes, hcurrent, hbroken, true_and]
    refine ⟨hintakes ▸ hturned.served, (Outbound.attends_turn hfd hturn).allQueued fd, hturned.written, ?_⟩
    intro hphase houtput
    refine hturned.progress (hgoes.resolve_right hphase) ?_
    by_contra hout
    simp [outputTurns, hcurrent, hout] at houtput

theorem length_outputTurns (fd : Fd) (p : PollLoop) (e : Event) : (p.outputTurns fd e).length ≤ 1 := by
  unfold outputTurns
  split
  · split <;> simp
  · simp

/-- In a state of the loop no whole request waits. -/
def Prompt (p : PollLoop) : Prop := ∀ fd ∈ p.link.server.clientSockets, p.link.Idle fd

theorem Prompt.step (h : Prompt p) (htracked : Tracked p) (hs : p.step e = some p') : Prompt p' := by
  intro fd hfd'
  by_cases hfd : fd ∈ p.link.server.clientSockets
  · exact (htracked.serves hs hfd hfd' (h fd hfd)).1.idle
  · have hfresh := (htracked.move hs).fresh htracked hfd' hfd
    rw [Outbound.Idle, hfresh.incomingBuffer]
    exact packetFraming.next_nil

/-- The connection is open after the step, and the loop has not been left by an exception. -/
def KeepsOpen (fd : Fd) (p : PollLoop) (e : Event) : Prop :=
  ∀ p', p.step e = some p' → fd ∈ p'.link.server.clientSockets ∧ p'.phase ≠ .aborted

instance (fd : Fd) (p : PollLoop) (e : Event) : Decidable (KeepsOpen fd p e) :=
  decidable_of_iff ((p.step e).all fun p' =>
    decide (fd ∈ p'.link.server.clientSockets ∧ p'.phase ≠ .aborted)) <| by
      simp [KeepsOpen, Option.all_eq_true]

/-- A connection that is open in a state in which no whole request waits. -/
structure Serving (fd : Fd) (p : PollLoop) : Prop where
  tracked : Tracked p
  prompt : Prompt p
  isOpen : fd ∈ p.link.server.clientSockets

theorem Serving.step (h : Serving fd p) (hkeeps : KeepsOpen fd p e) (hs : p.step e = some p') : Serving fd p' :=
  ⟨h.tracked.step hs, h.prompt.step h.tracked hs, (hkeeps p' hs).1⟩

theorem Serving.serves (h : Serving fd p) (hkeeps : KeepsOpen fd p e) (hs : p.step e = some p') :
    Outbound.Served fd p.link (p.intakes fd e) p'.link ∧
      p.link.allQueued fd <+: p'.link.allQueued fd ∧
      (p.link.streams fd).written.length ≤ (p'.link.streams fd).written.length ∧
      (p.outputTurns fd e ≠ [] → (p.link.allQueued fd).length ≤ (p.link.streams fd).written.length ∨
        (p.link.streams fd).written.length < (p'.link.streams fd).written.length) := by
  obtain ⟨hfd', hphase⟩ := hkeeps p' hs
  obtain ⟨hserved, hqueued, hwritten, hprogress⟩ := h.tracked.serves hs h.isOpen hfd' (h.prompt fd h.isOpen)
  exact ⟨hserved, hqueued, hwritten, hprogress hphase⟩

variable {listenFd : Fd} {users : List User} {teams : List Team} {messages : List Message}
  {before events : List Event}

theorem serving_of_run (hrun : Runs.run step (start listenFd users teams messages) before = some p)
    (hfd : fd ∈ p.link.server.clientSockets) : Serving fd p := by
  have hstart : Prompt (start listenFd users teams messages) := by
    intro fd hfd
    simp [PollLoop.start, Outbound.start, Server.start] at hfd
  have hboth : Tracked p ∧ Prompt p :=
    Runs.run_invariant (P := fun p => Tracked p ∧ Prompt p)
      (fun p e p' h hs => ⟨h.1.step hs, h.2.step h.1 hs⟩) ⟨Tracked.start _ _ _ _, hstart⟩ hrun
  exact ⟨hboth.1, hboth.2, hfd⟩

/-- While a connection stays open, whatever is answered by the system calls for it and for the others:
the requests dispatched for it are those of the bytes that it sent, each in the turn that reads its last
byte and in their order; what is left waits for more bytes, and is shorter than one packet. -/
theorem requests_served (hbefore : Runs.run step (start listenFd users teams messages) before = some p)
    (hrun : Runs.run step p events = some p') (hfd : fd ∈ p.link.server.clientSockets)
    (hopen : Runs.Always step (KeepsOpen fd) p events) :
    ∃ frames,
      p.link.server.clientManager.getIncomingBuffer fd ++
          (Runs.collect step (intakes fd) p events).flatMap Intake.data =
        Framing.join frames ++ p'.link.server.clientManager.getIncomingBuffer fd ∧
      (∀ f ∈ frames, packetFraming.WellFormed f) ∧
      (Runs.collect step (intakes fd) p events).flatMap Intake.dispatched = frames.map frameCommand ∧
      packetFraming.next (p'.link.server.clientManager.getIncomingBuffer fd) = none ∧
      (p'.link.server.clientManager.getIncomingBuffer fd).length < sizeof PacketHeader + 65535 := by
  have hserved : Outbound.Served fd p.link (Runs.collect step (intakes fd) p events) p'.link :=
    Runs.run_collect (P := Serving fd) (R := fun p intakes p' => Outbound.Served fd p.link intakes p'.link)
      (fun p h => .refl (h.prompt fd h.isOpen)) (fun _ _ _ _ _ => Outbound.Served.trans)
      (fun p e p' h hkeeps hs => ⟨h.step hkeeps hs, (h.serves hkeeps hs).1⟩)
      (serving_of_run hbefore hfd) hopen hrun
  obtain ⟨frames, hsplits, hframes⟩ := hserved
  obtain ⟨hjoin, hwellFormed, hnone⟩ := Framing.splits_iff.mp hsplits
  refine ⟨frames, hjoin, hwellFormed, hframes, hnone, packetFraming.length_lt_of_next hnone fun header => ?_⟩
  have hsize := (Packed.ofBytes (α := PacketHeader) header).payloadSize.toNat_lt
  exact Nat.le_of_lt_succ hsize

/-- Two connections; the first asks for something unknown in two pieces, the other hangs up in between. -/
def piecesRun : List Event :=
  [.poll (oneReady 1 .input) true, .turn quietOutside,
    .turn { quietOutside with read := .value ⟨[255, 255, 0], by decide⟩ }, .turn quietOutside, .turn quietOutside,
    .poll (oneReady 2 { PollEvents.none with pollHup := true }) true, .turn quietOutside, .turn quietOutside,
    .turn quietOutside, .turn quietOutside,
    .poll (oneReady 1 .input) true, .turn quietOutside,
    .turn { quietOutside with read := .value ⟨[0, 7], by decide⟩ }]

/-- Connections 4 and 5. -/
def twoAccepted : List Event :=
  [.poll (oneReady 0 .input) true, .turn { quietOutside with accept := .value 4 }, .turn quietOutside,
    .turn quietOutside,
    .poll (oneReady 0 .input) true, .turn { quietOutside with accept := .value 5 }, .turn quietOutside,
    .turn quietOutside, .turn quietOutside]

theorem requests_served_pieces :
    ∃ p p', Runs.run step (start 3 [] [] []) twoAccepted = some p ∧ Runs.run step p piecesRun = some p' ∧
      p'.link.server.clientManager.getIncomingBuffer 4 = [7] ∧
      ∃ frames : List (Framing.Frame UInt8),
        (Runs.collect step (intakes 4) p piecesRun).flatMap Intake.dispatched = frames.map frameCommand ∧
        packetFraming.next (p'.link.server.clientManager.getIncomingBuffer 4) = none := by
  have hfacts : ((Runs.run step (start 3 [] [] []) twoAccepted).map fun p =>
      (decide ((4 : Fd) ∈ p.link.server.clientSockets) && decide (Runs.Always step (KeepsOpen 4) p piecesRun),
        (Runs.run step p piecesRun).map fun p' => p'.link.server.clientManager.getIncomingBuffer 4)) =
      some (true, some [7]) := by decide +kernel
  obtain ⟨p, hp, hfacts⟩ := Option.map_eq_some_iff.mp hfacts
  obtain ⟨hopen, hrun⟩ := Prod.mk.inj hfacts
  obtain ⟨hfd, hopen⟩ := Bool.and_eq_true_iff.mp hopen
  obtain ⟨p', hp', hbuffer⟩ := Option.map_eq_some_iff.mp hrun
  obtain ⟨frames, -, -, hframes, hnone, -⟩ :=
    requests_served hp hp' (of_decide_eq_true hfd) (of_decide_eq_true hopen)
  exact ⟨p, p', hp, hp', hbuffer, frames, hframes, hnone⟩

/-- The entries of `pollFds` when `poll` is called. -/
theorem mem_pollTurn (result : PollResult) (isRunning : Bool) (hlisten : fd ≠ p.link.server.listenFd)
    (hfd : fd ∈ p.fds) :
    ∃ revents, ⟨fd, if p.link.server.clientManager.hasPendingWrite fd then .inputOutput else .input, revents⟩ ∈
      (p.pollTurn result isRunning).pollFds := by
  obtain ⟨pollFd, hmem, rfl⟩ := List.mem_map.mp hfd
  have hrefreshed : refreshClientPollInterest pollFd p.link.server.clientManager pollFd.fd ∈
      refreshAllPollInterests p.pollFds p.link.server.clientManager p.link.server.listenFd :=
    List.mem_map.mpr ⟨pollFd, hmem, if_neg hlisten⟩
  cases result with
  | ready revents =>
    obtain ⟨index, hindex, hget⟩ := List.mem_iff_getElem.mp hrefreshed
    refine ⟨revents index, List.mem_mapIdx.mpr ⟨index, hindex, ?_⟩⟩
    rw [hget]
    rfl
  | nothing => exact ⟨_, hrefreshed⟩
  | failed => exact ⟨_, hrefreshed⟩

theorem Serving.run (h : Serving fd p) (hrun : Runs.run PollLoop.step p events = some p')
    (hopen : Runs.Always PollLoop.step (KeepsOpen fd) p events) :
    Serving fd p' ∧ p.link.allQueued fd <+: p'.link.allQueued fd := by
  refine Runs.run_invariant_of (P := fun q => Serving fd q ∧ p.link.allQueued fd <+: q.link.allQueued fd)
    (fun q e q' hq hkeeps hs => ?_) ⟨h, List.prefix_rfl⟩ hopen hrun
  exact ⟨hq.1.step hkeeps hs, hq.2.trans (hq.1.serves hkeeps hs).2.1⟩

/-- Each turn with room is paid for by a byte, up to all that was queued at the beginning. -/
theorem Serving.outputTurns_le (h : Serving fd p) (hrun : Runs.run PollLoop.step p events = some p')
    (hopen : Runs.Always PollLoop.step (KeepsOpen fd) p events) :
    min (p.link.allQueued fd).length
        ((p.link.streams fd).written.length + (Runs.collect PollLoop.step (outputTurns fd) p events).length) ≤
      (p'.link.streams fd).written.length := by
  refine Runs.run_collect
    (P := fun q => Serving fd q ∧ (p.link.allQueued fd).length ≤ (q.link.allQueued fd).length)
    (R := fun q turns q' => min (p.link.allQueued fd).length
      ((q.link.streams fd).written.length + turns.length) ≤ (q'.link.streams fd).written.length)
    (fun q _ => ?_) (fun q q' q'' turns later h h' => ?_) (fun q e q' h hkeeps hs => ?_)
    ⟨h, le_rfl⟩ hopen hrun
  · rw [List.length_nil]
    omega
  · rw [List.length_append]
    omega
  · obtain ⟨hserving, hbound⟩ := h
    obtain ⟨-, hqueued, hwritten, hroom⟩ := hserving.serves hkeeps hs
    refine ⟨⟨hserving.step hkeeps hs, hbound.trans hqueued.length_le⟩, ?_⟩
    have hturns := length_outputTurns fd q e
    by_cases hnil : q.outputTurns fd e = []
    · rw [hnil, List.length_nil]
      omega
    · have hroom := hroom hnil
      omega

theorem Serving.account (h : Serving fd p) :
    (p.link.streams fd).written ++ p.link.server.clientManager.getQueuedData fd = p.link.allQueued fd :=
  h.tracked.intact.account fd h.isOpen

/-- `poll` is asked for room exactly if something is left to write. -/
theorem Serving.asks_for_room {result : PollResult} {isRunning : Bool} (h : Serving fd p)
    (hs : p.step (.poll result isRunning) = some p') :
    ∃ interest revents, ⟨fd, interest, revents⟩ ∈ p'.pollFds ∧ interest.pollIn = true ∧
      (interest.pollOut = true ↔ (p.link.streams fd).written ≠ p.link.allQueued fd) := by
  have hphase : p.phase = .polling := by
    cases hp : p.phase <;> simp [PollLoop.step, hp] at hs ⊢
  simp only [PollLoop.step, hphase] at hs
  cases hs
  have hlisten := (h.tracked.intact.linked.isOpen fd h.isOpen).2.2
  obtain ⟨revents, hmem⟩ := mem_pollTurn result isRunning hlisten ((h.tracked.listed fd).mpr (.inr h.isOpen))
  refine ⟨_, revents, hmem, by split <;> rfl, ?_⟩
  rw [← h.account]
  have hpending := p.link.server.clientManager.hasPendingWrite_iff fd
  by_cases hwrite : p.link.server.clientManager.hasPendingWrite fd = true
  · simp [hwrite, hpending.mp hwrite, PollEvents.inputOutput]
  · have hnil := not_not.mp (hpending.not.mp hwrite)
    simp [hwrite, hnil, PollEvents.input, PollEvents.none]

/-- While a connection stays open, every turn in which its socket has room writes some of what was queued
for it, until all that was queued at the beginning is written, which takes no more turns than bytes;
and whenever `poll` is called, it is asked for room exactly if something is left to write. -/
theorem output_drains (hbefore : Runs.run step (start listenFd users teams messages) before = some p)
    (hrun : Runs.run step p events = some p') (hfd : fd ∈ p.link.server.clientSockets)
    (hopen : Runs.Always step (KeepsOpen fd) p events) :
    (min (p.link.allQueued fd).length
        ((p.link.streams fd).written.length + (Runs.collect step (outputTurns fd) p events).length) ≤
      (p'.link.streams fd).written.length) ∧
    ((p.link.server.clientManager.getQueuedData fd).length ≤ (Runs.collect step (outputTurns fd) p events).length →
      p.link.allQueued fd <+: (p'.link.streams fd).written) ∧
    ∀ result isRunning q, p'.step (.poll result isRunning) = some q →
      ∃ interest revents, ⟨fd, interest, revents⟩ ∈ q.pollFds ∧ interest.pollIn = true ∧
        (interest.pollOut = true ↔ (p'.link.streams fd).written ≠ p'.link.allQueued fd) := by
  have hserving := serving_of_run hbefore hfd
  obtain ⟨hserving', hqueued⟩ := hserving.run hrun hopen
  have hprogress := hserving.outputTurns_le hrun hopen
  refine ⟨hprogress, fun hturns => ?_, fun result isRunning q hs => hserving'.asks_for_room hs⟩
  -- as many turns as bytes were waiting: nothing of what was queued at the beginning is left
  have hwritten : (p'.link.streams fd).written <+: p'.link.allQueued fd := ⟨_, hserving'.account⟩
  have haccount := congrArg List.length hserving.account
  rw [List.length_append] at haccount
  refine List.prefix_of_prefix_length_le hqueued hwritten ?_
  omega

/-- A socket that takes one byte at a time. -/
def slowOutside : Outside :=
  { quietOutside with write := fun queuedData => .value ⟨min 1 queuedData.length, by omega⟩ }

/-- A round in which the first connection has room for a byte. -/
def slowRound : List Event :=
  [.poll (oneReady 1 { PollEvents.none with pollOut := true }) true, .turn quietOutside, .turn slowOutside,
    .turn quietOutside]

/-- Connection 4 asks for something unknown. -/
def unknownAsked : List Event :=
  [.poll (oneReady 0 .input) true, .turn { quietOutside with accept := .value 4 }, .turn quietOutside,
    .turn quietOutside, .poll (oneReady 1 .input) true, .turn quietOutside,
    .turn { quietOutside with read := .value ⟨[255, 255, 0, 0], by decide⟩ }, .turn quietOutside]

theorem output_drains_slowly :
    ∃ p p', Runs.run step (start 3 [] [] []) unknownAsked = some p ∧
      Runs.run step p (slowRound ++ slowRound ++ slowRound ++ slowRound) = some p' ∧
      (p.link.streams 4).written = [] ∧ p.link.allQueued 4 ≠ [] ∧
      p.link.allQueued 4 <+: (p'.link.streams 4).written := by
  have hfacts : ((Runs.run step (start 3 [] [] []) unknownAsked).map fun p =>
      ((decide ((4 : Fd) ∈ p.link.server.clientSockets) &&
          decide (Runs.Always step (KeepsOpen 4) p (slowRound ++ slowRound ++ slowRound ++ slowRound))) &&
        decide ((p.link.server.clientManager.getQueuedData 4).length ≤
          (Runs.collect step (outputTurns 4) p (slowRound ++ slowRound ++ slowRound ++ slowRound)).length),
        decide ((p.link.streams 4).written = [] ∧ p.link.allQueued 4 ≠ []),
        (Runs.run step p (slowRound ++ slowRound ++ slowRound ++ slowRound)).isSome)) =
      some (true, true, true) := by decide +kernel
  obtain ⟨p, hp, hfacts⟩ := Option.map_eq_some_iff.mp hfacts
  obtain ⟨hpremises, hfacts⟩ := Prod.mk.inj hfacts
  obtain ⟨hqueued, hrun⟩ := Prod.mk.inj hfacts
  obtain ⟨hopen, hturns⟩ := Bool.and_eq_true_iff.mp hpremises
  obtain ⟨hfd, hopen⟩ := Bool.and_eq_true_iff.mp hopen
  obtain ⟨p', hp'⟩ := Option.isSome_iff_exists.mp hrun
  obtain ⟨hwritten, hnonempty⟩ := of_decide_eq_true hqueued
  obtain ⟨-, hdrained, -⟩ := output_drains hp hp' (of_decide_eq_true hfd) (of_decide_eq_true hopen)
  exact ⟨p, p', hp, hp', hwritten, hnonempty, hdrained (of_decide_eq_true hturns)⟩

end PollLoop

end TeamsMirror
