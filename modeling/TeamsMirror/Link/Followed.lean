import TeamsMirror.Link.Printed

/-!
# From the log to the screen

A client that connects, logs in and stays logged in prints, of the events that are not private
messages, the first of those that the log publishes for its user from that login on, and all of them
once it has read everything. In between are the queues of the server, the segments of the
transport, and whatever the user types.
-/

namespace TeamsMirror

open Cli

/-- The news of an event that is printed. -/
def Cli.LibCall.news : LibCall → Option News
  | .eventLoggedIn userUuid userName => some (.loggedIn userUuid userName)
  | .eventLoggedOut userUuid userName => some (.loggedOut userUuid userName)
  | .eventTeamCreated teamUuid teamName _ => some (.teamCreated teamUuid teamName)
  | .eventChannelCreated channelUuid channelName _ => some (.channelCreated channelUuid channelName)
  | .eventThreadCreated threadUuid userUuid _ threadTitle threadBody =>
    some (.threadCreated threadUuid userUuid threadTitle threadBody)
  | .eventThreadReplyReceived teamUuid threadUuid userUuid replyBody =>
    some (.replyCreated teamUuid threadUuid userUuid replyBody)
  | _ => none

/-- The news that a client has printed. -/
def Printing.news (v : Printing) : List News := (v.printed.filterMap Shown.event).filterMap LibCall.news

theorem receivedEvent_eq {p : Packet} {call : LibCall}
    (h : handleAsyncEventPacket p.status.code p.payload.bytes = some (.lib call)) (hevent : call.isEvent = true) :
    receivedEvent p.received = some call := by
  have hhandled : handleAsyncEventPacket p.received.1.code p.received.2 = some (.lib call) := h
  rw [receivedEvent, hhandled, Option.bind_some, Shown.event, if_pos hevent]

theorem IsEvent.received {p : Packet} (h : IsEvent p) :
    ∃ call, receivedEvent p.received = some call ∧ call.news = p.news := by
  cases h with
  | loggedIn r =>
    exact ⟨_, receivedEvent_eq (p := ⟨.evtLoggedIn, .evtUserConnection r⟩)
      (congrArg some (showPayload_toBytes _ _ r)) rfl, rfl⟩
  | loggedOut r =>
    exact ⟨_, receivedEvent_eq (p := ⟨.evtLoggedOut, .evtUserConnection r⟩)
      (congrArg some (showPayload_toBytes _ _ r)) rfl, rfl⟩
  | privateMessage r =>
    exact ⟨_, receivedEvent_eq (p := ⟨.evtPrivateMsgRcvd, .evtPrivateMsg r⟩)
      (congrArg some (showPayload_toBytes _ _ r)) rfl, rfl⟩
  | teamCreated r =>
    exact ⟨_, receivedEvent_eq (p := ⟨.evtTeamCreated, .evtTeamCreated r⟩)
      (congrArg some (showPayload_toBytes _ _ r)) rfl, rfl⟩
  | channelCreated r =>
    exact ⟨_, receivedEvent_eq (p := ⟨.evtChannelCreated, .evtChannelCreated r⟩)
      (congrArg some (showPayload_toBytes _ _ r)) rfl, rfl⟩
  | threadCreated r =>
    exact ⟨_, receivedEvent_eq (p := ⟨.evtThreadCreated, .evtThreadCreated r⟩)
      (congrArg some (showPayload_toBytes _ _ r)) rfl, rfl⟩
  | replyCreated r =>
    exact ⟨_, receivedEvent_eq (p := ⟨.evtReplyCreated, .evtReplyCreated r⟩)
      (congrArg some (showPayload_toBytes _ _ r)) rfl, rfl⟩

/-- The client finds in a packet the news that the server has put there. -/
theorem news_received {p : Packet} (h : p.status.isEvent = true → IsEvent p) :
    (receivedEvent p.received).bind LibCall.news = p.news := by
  cases hevent : p.status.isEvent with
  | false =>
    have hnone : handleAsyncEventPacket p.received.1.code p.received.2 = none :=
      handleAsyncEventPacket_eq_none hevent _
    rw [receivedEvent, hnone, news_of_isEvent hevent]
    rfl
  | true =>
    obtain ⟨call, hcall, hnews⟩ := IsEvent.received (h hevent)
    rw [hcall, Option.bind_some, hnews]

theorem told_eq (fd : Fd) (queued : List (Fd × Packet)) :
    told fd queued = (packetsFor fd queued).filterMap Packet.news := by
  rw [told, packetsFor, List.filterMap_map, List.filterMap_filter]
  simp only [decide_eq_true_eq]
  rfl

theorem isEvent_of_run {w w' : Server.Period} {events : List Event}
    (hrun : Runs.run Server.Period.step w events = some w')
    (h : ∀ q ∈ w.queued, q.2.status.isEvent = true → IsEvent q.2) :
    ∀ q ∈ w'.queued, q.2.status.isEvent = true → IsEvent q.2 := by
  refine Runs.run_invariant (P := fun w : Server.Period =>
    ∀ q ∈ w.queued, q.2.status.isEvent = true → IsEvent q.2) (fun w e w' h hs => ?_) h hrun
  obtain ⟨⟨s', queued⟩, hhandle, rfl⟩ := Option.map_eq_some_iff.mp hs
  exact List.forall_mem_append.mpr ⟨h, Server.handle_isEvent hhandle⟩

/-- What a client prints of the packets that it has read. -/
theorem news_of_events {v : Printing} {consumed : List Packet}
    (h : v.printed.filterMap Shown.event = (consumed.map Packet.received).filterMap receivedEvent)
    (hevents : ∀ p ∈ consumed, p.status.isEvent = true → IsEvent p) :
    v.news = consumed.filterMap Packet.news := by
  rw [Printing.news, h, List.filterMap_map, List.filterMap_filterMap]
  exact List.filterMap_congr fun p hp => news_received (hevents p hp)

namespace Station

variable {lib : LoggingServer} {st st' : Station} {s : Server}

/-- A connection is accepted, and logged in at the first of the events `later`, to the end: `middle` is the
station at which they begin. What its client prints, for any library, any lines that are typed and any
arrivals, as long as no call of its socket fails within a packet, is what the log publishes for the user
from there on, cut where the client has read to. -/
theorem screen_follows_log {disk : Disk} {before : List Event} {early later : List TeamsMirror.Event} {fd : Fd}
    {middle : Station} {w₁ : Server.Period} (hempty : ∀ file, readTextFile (disk file) = [])
    (hwhole : Runs.Always (step lib) Whole (new disk) before)
    (hbefore : Runs.run (step lib) (new disk) before = some st) (hs : st.process = .running s)
    (hfirst : Runs.run (step lib) st ((.accept fd :: early).map .server) = some middle)
    (hsecond : Runs.run (step lib) middle (later.map .server) = some st')
    (hgoes : st'.process ≠ .stopped)
    (hearly : Runs.run Server.Period.step ⟨s, []⟩ (.accept fd :: early) = some w₁)
    (hout : Runs.Always Server.Period.step (StaysOut fd) ⟨s, []⟩ (.accept fd :: early))
    (hstays : Runs.Always Server.Period.step (Stays fd) w₁ later) :
    ∃ w calls, Runs.run Server.Period.step ⟨s, []⟩ (.accept fd :: early ++ later) = some w ∧
      st'.life = middle.life ++ calls ∧
      ∀ userUuid, w.server.authenticatedUsersByFd.lookup fd = some userUuid →
        ∀ (printer : LibCall → Int) (events : List RunLoop.Event) (v : Printing),
          Runs.run (Printing.step printer) (.start (packetsFor fd w.queued)) events = some v →
          Runs.Always (RunLoop.step printer) RunLoop.FailsBetweenPackets (.start (packetsFor fd w.queued)) events →
          v.loop.task ≠ .exited →
          v.news <+: feed userUuid (published (View.rebuild (middle.durable ++ middle.life)) calls) ∧
            (v.loop.returned.length = (packetsFor fd w.queued).length →
              v.news = feed userUuid (published (View.rebuild (middle.durable ++ middle.life)) calls)) := by
  have hrebuilt : Rebuilt st :=
    Runs.run_invariant_of (fun _ _ _ h hwhole hs => h.step hwhole hs) (.new hempty) hwhole hbefore
  have hmiddle : middle.process ≠ .stopped := fun hstopped => hgoes (stopped_of_run hstopped hsecond)
  obtain ⟨w₁', -, hw₁, hprocess, -, -⟩ := told_run [] hrebuilt hs hfirst hmiddle
  obtain rfl : w₁ = w₁' := Option.some.inj (hearly.symm.trans hw₁)
  -- before the login the connection is told nothing
  have hfd : fd ∉ s.authenticatedUsersByFd := by
    obtain ⟨w, hw, -⟩ := Runs.run_cons_eq_some.mp hearly
    obtain ⟨⟨s', queued⟩, hhandle, -⟩ := Option.map_eq_some_iff.mp hw
    obtain ⟨hnew, -, -⟩ := Server.handle_accept hhandle
    obtain ⟨v, hv, -, hserver⟩ := hrebuilt.world
    exact fun hin => hnew.2.2.2 ((hserver s hs ▸ hv.sound.linked).live fd hin)
  have hsilent : told fd w₁.queued = [] := told_out hrebuilt hs hfirst hmiddle hearly hfd hout
  -- from the login on it is told the feed
  obtain ⟨w, calls, hw, -, ⟨-, hlife, -⟩, htold⟩ :=
    told_run w₁.queued (rebuilt_period hrebuilt hfirst) hprocess hsecond hgoes
  refine ⟨w, calls, Runs.run_join hearly hw, hlife, ?_⟩
  intro userUuid huser printer events v hprinting halways htask
  obtain ⟨-, hfeed⟩ := htold fd userUuid huser hstays
  rw [hsilent, List.nil_append, told_eq] at hfeed
  obtain ⟨consumed, hconsumed, hreturned⟩ := Printing.consumed_of_run hprinting halways htask
  have hevents : ∀ q ∈ w.queued, q.2.status.isEvent = true → IsEvent q.2 :=
    isEvent_of_run (Runs.run_join hearly hw) (fun q hq => by cases hq)
  have hsent : ∀ p ∈ consumed, p.status.isEvent = true → IsEvent p := by
    intro p hp
    obtain ⟨q, hq, rfl⟩ := List.mem_map.mp (hconsumed.subset hp)
    exact hevents q (List.mem_filter.mp hq).1
  have hprinted := (Printing.reported_of_run hprinting).events
  rw [hreturned] at hprinted
  have hnews := news_of_events hprinted hsent
  rw [← hfeed, hnews]
  refine ⟨hconsumed.filterMap _, fun hall => ?_⟩
  rw [hreturned, List.length_map] at hall
  rw [hconsumed.eq_of_length hall]

/-- A user with a team. -/
def ownerRun : List Event :=
  [.boot 3, .server (.accept 4), .server (.receive 4 (Request.login [97]).packet), .server (.dispatch 4 default),
    .server (.receive 4 (Request.createTeam [98] []).packet), .server (.dispatch 4 default)]

/-- A connection of another one. -/
def arrivalRun : List TeamsMirror.Event := [.receive 5 (Request.login [99]).packet]

/-- That user logs in and joins the team, in which the first one makes a channel. -/
def joinerRun : List TeamsMirror.Event :=
  let team := generateUuid (default : Environment).draw
  [.dispatch 5 { (default : Environment) with draw := fun _ => Fin.last 15 },
    .receive 5 (Request.subscribe team).packet, .dispatch 5 default,
    .receive 4 (Request.use team [] []).packet, .dispatch 4 default,
    .receive 4 (Request.createChannel [100] []).packet, .dispatch 4 default]

/-- The client of that user, which reads everything. -/
def joinerClient : List RunLoop.Event :=
  let subscribe := bytesOf "/subscribe \"" ++ generateUuid (default : Environment).draw ++ bytesOf "\""
  RunLoop.asks "/login \"c\"" ++ [RunLoop.arrived 4, .poll (.ok .input), RunLoop.arrived 4, RunLoop.arrived 600,
      .poll (.ok .none), .stdin (.ok (some subscribe)), .write ⟨.ok .inputOutput, .ok 600⟩, RunLoop.arrived 4,
      RunLoop.arrived 600, .poll (.ok .input), RunLoop.arrived 4, RunLoop.arrived 600]

theorem screen_follows_log_joiner :
    ∃ st middle st' s w v calls, Runs.run (step fun _ _ => 0) (new fun _ => none) ownerRun = some st ∧
      st.process = .running s ∧
      Runs.run (step fun _ _ => 0) st ((.accept 5 :: arrivalRun).map .server) = some middle ∧
      Runs.run (step fun _ _ => 0) middle (joinerRun.map .server) = some st' ∧
      Runs.run Server.Period.step ⟨s, []⟩ (.accept 5 :: arrivalRun ++ joinerRun) = some w ∧
      Runs.run (Printing.step fun _ => 0) (.start (packetsFor 5 w.queued)) joinerClient = some v ∧
      st'.life = middle.life ++ calls ∧
      v.news = feed (generateUuid fun _ => Fin.last 15)
        (published (View.rebuild (middle.durable ++ middle.life)) calls) ∧
      v.news = [.loggedIn (generateUuid fun _ => Fin.last 15) [99],
        .channelCreated (generateUuid (default : Environment).draw) [100]] := by
  have hfacts : (Runs.run (step fun _ _ => 0) (new fun _ => none) ownerRun).bind (fun st =>
      st.process.server?.bind fun s =>
        (Runs.run (step fun _ _ => 0) st ((TeamsMirror.Event.accept 5 :: arrivalRun).map .server)).bind
          fun middle => (Runs.run (step fun _ _ => 0) middle (joinerRun.map .server)).bind fun st' =>
          (Runs.run Server.Period.step ⟨s, []⟩ (.accept 5 :: arrivalRun)).bind fun w₁ =>
            (Runs.run Server.Period.step w₁ joinerRun).bind fun w =>
              (Runs.run (Printing.step fun _ => 0) (.start (packetsFor 5 w.queued)) joinerClient).map fun v =>
                st'.process.server?.isSome && v.loop.task.goes &&
                decide (Runs.Always Server.Period.step (StaysOut 5) ⟨s, []⟩ (.accept 5 :: arrivalRun)) &&
                decide (Runs.Always Server.Period.step (Stays 5) w₁ joinerRun) &&
                decide (Runs.Always (RunLoop.step fun _ => 0) RunLoop.FailsBetweenPackets
                  (.start (packetsFor 5 w.queued)) joinerClient) &&
                decide (w.server.authenticatedUsersByFd.lookup 5 = some (generateUuid fun _ => Fin.last 15)) &&
                decide (v.loop.returned.length = (packetsFor 5 w.queued).length) &&
                decide (v.news = [.loggedIn (generateUuid fun _ => Fin.last 15) [99],
                  .channelCreated (generateUuid (default : Environment).draw) [100]])) = some true := by
    decide +kernel
  obtain ⟨st, hbefore, hfacts⟩ := Option.bind_eq_some_iff.mp hfacts
  obtain ⟨s, hs, hfacts⟩ := Option.bind_eq_some_iff.mp hfacts
  obtain ⟨middle, hfirst, hfacts⟩ := Option.bind_eq_some_iff.mp hfacts
  obtain ⟨st', hsecond, hfacts⟩ := Option.bind_eq_some_iff.mp hfacts
  obtain ⟨w₁, hw₁, hfacts⟩ := Option.bind_eq_some_iff.mp hfacts
  obtain ⟨w, hw, hfacts⟩ := Option.bind_eq_some_iff.mp hfacts
  obtain ⟨v, hv, hfacts⟩ := Option.map_eq_some_iff.mp hfacts
  simp only [Bool.and_eq_true, decide_eq_true_eq] at hfacts
  obtain ⟨⟨⟨⟨⟨⟨⟨hstarted, hgoes⟩, hout⟩, hstays⟩, halways⟩, huser⟩, hall⟩, hnews⟩ := hfacts
  have hs := Process.server?_eq_some hs
  have hstarted : st'.process ≠ .stopped := by
    intro hstopped
    rw [hstopped] at hstarted
    cases hstarted
  obtain ⟨w', calls, hw', hlife, hprints⟩ :=
    screen_follows_log (fun _ => rfl) (by decide +kernel) hbefore hs hfirst hsecond hstarted hw₁ hout hstays
  obtain rfl : w = w' := Option.some.inj ((Runs.run_join hw₁ hw).symm.trans hw')
  obtain ⟨-, hfeed⟩ := hprints _ huser _ joinerClient v hv halways (Task.goes_iff.mp hgoes)
  exact ⟨st, middle, st', s, w, v, calls, hbefore, hs, hfirst, hsecond, hw', hv, hlife, hfeed hall, hnews⟩

end Station

end TeamsMirror
