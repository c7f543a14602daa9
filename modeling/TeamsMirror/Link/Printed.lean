import TeamsMirror.Link.Feeds
import TeamsMirror.Link.Hostile
import TeamsMirror.Link.RunLoop
import TeamsMirror.Link.Shown

/-!
# The events that the client prints

Events reach the client while it waits for replies, while it polls, and in the middle of a command
that fails. Each of these paths prints what it reads by itself. Whatever the user types, however the
socket behaves and whichever calls of the library fail, the library is told of every event that a
packet brings, once and in the order of the packets, and of no other event.
-/

namespace TeamsMirror

open Cli

namespace Cli

def LibCall.isEvent : LibCall → Bool
  | .eventLoggedIn .. | .eventLoggedOut .. | .eventPrivateMessageReceived .. | .eventThreadReplyReceived ..
  | .eventTeamCreated .. | .eventChannelCreated .. | .eventThreadCreated .. => true
  | _ => false

/-- The event that something shown reports. -/
def Shown.event : Shown → Option LibCall
  | .lib call => if call.isEvent then some call else none
  | _ => none

/-- The event that a packet brings; one with a malformed payload brings none. -/
def receivedEvent (packet : PacketHeader × Bytes) : Option LibCall :=
  (handleAsyncEventPacket packet.1.code packet.2).bind Shown.event

/-- Nothing of this is an event. -/
def Silent (shown : List Shown) : Prop := ∀ s ∈ shown, s.event = none

theorem silent_nil : Silent [] := fun _ h => by cases h

theorem silent_line (kind : Kind) (text : String) : Silent [.line kind text] :=
  List.forall_mem_singleton.mpr rfl

theorem silent_call {call : LibCall} (h : call.isEvent = false) : Silent [.lib call] :=
  List.forall_mem_singleton.mpr (by simp [Shown.event, h])

theorem Silent.filterMap {shown : List Shown} (h : Silent shown) : shown.filterMap Shown.event = [] :=
  List.filterMap_eq_nil_iff.mpr h

theorem silent_showPayload {α : Type} [Packed α] {call : α → LibCall} (hcall : ∀ a, (call a).isEvent = false)
    (text : String) (payload : Bytes) : Silent [showPayload α call (malformedLine text) payload] := by
  rw [showPayload]
  split
  · exact silent_line _ _
  · exact silent_call (hcall _)

theorem silent_showOrThrow {α : Type} [Packed α] {call : α → LibCall} (hcall : ∀ a, (call a).isEvent = false)
    (text : String) (payload : Bytes) {next : List Shown → Turn} (hnext : ∀ shown, (next shown).shown = shown) :
    Silent (showOrThrow α call text payload next).shown := by
  rw [showOrThrow]
  split
  · exact silent_nil
  · rw [hnext]
    exact silent_call (hcall _)

section

variable (client : Client) (expectedListCode code : UInt16) (payload : Bytes)

theorem silent_handleNotFound : Silent (handleNotFound client) := by
  unfold handleNotFound
  split
  · exact silent_call rfl
  split
  · exact silent_call rfl
  split
  · exact silent_call rfl
  · exact silent_nil

theorem silent_handleCommonError (teamUuid : Bytes) : Silent (handleCommonError client code teamUuid).shown := by
  unfold handleCommonError
  split
  · exact silent_call rfl
  split
  · exact silent_call rfl
  split
  · exact silent_call rfl
  split <;> exact silent_line _ _

theorem silent_handleListError : Silent (handleListError client code).shown := by
  unfold handleListError
  split
  · exact silent_call rfl
  split
  · exact silent_line _ _
  split
  · exact silent_handleNotFound client
  split <;> exact silent_line _ _

theorem silent_listBody : Silent (listBody client expectedListCode code payload).shown := by
  unfold listBody
  split
  · exact silent_nil
  split
  · exact silent_handleListError client code
  simp only
  generalize (if expectedListCode = 0 then code else expectedListCode) = expected
  split
  · exact silent_line _ _
  split
  · exact silent_showPayload (fun _ => rfl) _ _
  split
  · exact silent_showPayload (fun _ => rfl) _ _
  split
  · exact silent_showPayload (fun _ => rfl) _ _
  split
  · exact silent_showPayload (fun _ => rfl) _ _
  · exact silent_handleListError client code

theorem silent_handleCreatedReply (target : CreateTarget) : Silent [handleCreatedReply target payload] := by
  unfold handleCreatedReply
  cases target <;> exact silent_showPayload (fun _ => rfl) _ _

theorem silent_loginBody (username : Bytes) :
    Silent (loginBody client username expectedListCode code payload).shown := by
  simp only [loginBody]
  split
  · exact silent_nil
  split <;> exact silent_line _ _

theorem silent_logoutBody : Silent (logoutBody client expectedListCode code payload).shown := by
  simp only [logoutBody]
  split
  · exact silent_nil
  split
  · exact silent_call rfl
  split <;> exact silent_line _ _

theorem silent_usersBody : Silent (usersBody client expectedListCode code payload).shown := by
  simp only [usersBody]
  split
  · exact silent_nil
  split
  · exact silent_showOrThrow (fun _ => rfl) _ _ fun _ => rfl
  split
  · exact silent_call rfl
  split <;> exact silent_nil

theorem silent_userBody : Silent (userBody client expectedListCode code payload).shown := by
  simp only [userBody]
  split
  · exact silent_nil
  split
  · exact silent_showOrThrow (fun _ => rfl) _ _ fun _ => rfl
  split
  · exact silent_showOrThrow (fun _ => rfl) _ _ fun _ => rfl
  split
  · exact silent_call rfl
  split <;> exact silent_nil

theorem silent_sendBody (targetUuid : Bytes) :
    Silent (sendBody client targetUuid expectedListCode code payload).shown := by
  simp only [sendBody]
  split
  · exact silent_nil
  split
  · exact silent_call rfl
  split
  · exact silent_call rfl
  split <;> exact silent_line _ _

theorem silent_messagesBody (targetUuid : Bytes) :
    Silent (messagesBody client targetUuid expectedListCode code payload).shown := by
  simp only [messagesBody]
  split
  · exact silent_nil
  split
  · exact silent_showPayload (fun _ => rfl) _ _
  split
  · exact silent_call rfl
  split
  · exact silent_call rfl
  split <;> exact silent_line _ _

theorem silent_subscribeBody (teamUuid : Bytes) :
    Silent (subscribeBody client teamUuid expectedListCode code payload).shown := by
  simp only [subscribeBody]
  split
  · exact silent_nil
  split
  · exact silent_call rfl
  · exact silent_handleCommonError client code teamUuid

theorem silent_unsubscribeBody (teamUuid : Bytes) :
    Silent (unsubscribeBody client teamUuid expectedListCode code payload).shown := by
  simp only [unsubscribeBody]
  split
  · exact silent_nil
  split
  · exact silent_call rfl
  split
  · exact silent_line _ _
  · exact silent_handleCommonError client code teamUuid

theorem silent_subscribedListBody (hasTeamFilter : Bool) (teamUuid : Bytes) :
    Silent (subscribedListBody client hasTeamFilter teamUuid expectedListCode code payload).shown := by
  simp only [subscribedListBody]
  split
  · exact silent_nil
  split
  · exact silent_call rfl
  split
  · exact silent_call rfl
  split
  · exact silent_line _ _
  split
  · exact silent_showPayload (fun _ => rfl) _ _
  split
  · exact silent_showPayload (fun _ => rfl) _ _
  split <;> exact silent_line _ _

theorem silent_useBody (teamUuid channelUuid threadUuid : Bytes) :
    Silent (useBody client teamUuid channelUuid threadUuid expectedListCode code payload).shown := by
  simp only [useBody]
  split
  · exact silent_line _ _
  split
  · exact silent_line _ _
  split
  · exact silent_line _ _
  · exact silent_nil

theorem silent_infoBody : Silent (infoBody client expectedListCode code payload).shown := by
  simp only [infoBody, handleInfoError]
  split
  · exact silent_showPayload (fun _ => rfl) _ _
  split
  · exact silent_showPayload (fun _ => rfl) _ _
  split
  · exact silent_showPayload (fun _ => rfl) _ _
  split
  · exact silent_showPayload (fun _ => rfl) _ _
  split
  · exact silent_call rfl
  split
  · exact silent_handleNotFound client
  split <;> exact silent_line _ _

theorem silent_createBody (target : CreateTarget) :
    Silent (createBody client target expectedListCode code payload).shown := by
  simp only [createBody, handleCreateError]
  split
  · exact silent_handleCreatedReply payload target
  split
  · exact silent_call rfl
  split
  · exact silent_call rfl
  split
  · exact silent_handleNotFound client
  split <;> exact silent_line _ _

/-- No handler reports an event as the reply that it waits for. -/
theorem silent_body (reader : Reader) : Silent (reader.body client expectedListCode code payload).shown := by
  cases reader with
  | login username => exact silent_loginBody client expectedListCode code payload username
  | logout => exact silent_logoutBody client expectedListCode code payload
  | users => exact silent_usersBody client expectedListCode code payload
  | user => exact silent_userBody client expectedListCode code payload
  | send targetUuid => exact silent_sendBody client expectedListCode code payload targetUuid
  | messages targetUuid => exact silent_messagesBody client expectedListCode code payload targetUuid
  | subscribe teamUuid => exact silent_subscribeBody client expectedListCode code payload teamUuid
  | unsubscribe teamUuid => exact silent_unsubscribeBody client expectedListCode code payload teamUuid
  | subscribedList hasTeamFilter teamUuid =>
    exact silent_subscribedListBody client expectedListCode code payload hasTeamFilter teamUuid
  | use teamUuid channelUuid threadUuid =>
    exact silent_useBody client expectedListCode code payload teamUuid channelUuid threadUuid
  | list => exact silent_listBody client expectedListCode code payload
  | info => exact silent_infoBody client expectedListCode code payload
  | create target => exact silent_createBody client expectedListCode code payload target

end

/-- A handler that ends without a request reports no event. -/
def Handling.Quiet : Handling → Prop
  | .ended shown _ => Silent shown
  | .exchange .. => True

section

variable (client : Client) (input : ParsedInput)

theorem quiet_say (text : String) : (Handling.say client text).Quiet := silent_line _ _

theorem quiet_createNamed (target : CreateTarget) (request : Bytes → Bytes → Request) :
    (createNamed client target input request).Quiet := by
  simp only [createNamed]
  split
  · exact quiet_say client _
  · trivial

theorem quiet_handleHelp : (handleHelp client input).Quiet := by
  simp only [handleHelp]
  split <;> exact quiet_say client _

theorem quiet_handleInfo : (handleInfo client input).Quiet := by
  simp only [handleInfo]
  split
  · exact quiet_say client _
  · trivial

theorem quiet_handleLogin : (handleLogin client input).Quiet := by
  simp only [handleLogin]
  split
  · exact List.forall_mem_singleton.mpr rfl
  split
  · exact quiet_say client _
  split
  · exact quiet_say client _
  · trivial

theorem quiet_handleLogout : (handleLogout client input).Quiet := by
  simp only [handleLogout]
  split
  · exact quiet_say client _
  split
  · exact silent_call rfl
  · trivial

theorem quiet_handleUse : (handleUse client input).Quiet := by
  simp only [handleUse]
  split
  · exact quiet_say client _
  split
  · exact quiet_say client _
  split
  · exact quiet_say client _
  split
  · exact quiet_say client _
  · trivial

theorem quiet_handleCreate : (handleCreate client input).Quiet := by
  simp only [handleCreate]
  split
  · exact quiet_say client _
  split
  · split
    · exact quiet_say client _
    · trivial
  all_goals exact quiet_createNamed client input _ _

theorem quiet_handleList : (handleList client input).Quiet := by
  simp only [handleList]
  split
  · exact quiet_say client _
  · trivial

theorem quiet_handleSubscribe : (handleSubscribe client input).Quiet := by
  simp only [handleSubscribe]
  split
  · exact quiet_say client _
  split
  · exact quiet_say client _
  · trivial

theorem quiet_handleUnsubscribe : (handleUnsubscribe client input).Quiet := by
  simp only [handleUnsubscribe]
  split
  · exact quiet_say client _
  split
  · exact quiet_say client _
  · trivial

theorem quiet_handleSubscribedList : (handleSubscribedList client input).Quiet := by
  simp only [handleSubscribedList]
  split
  · split
    · exact quiet_say client _
    split
    · exact quiet_say client _
    · trivial
  · trivial

theorem quiet_handleUser : (handleUser client input).Quiet := by
  simp only [handleUser]
  split
  · exact silent_nil
  split
  · exact silent_nil
  · trivial

theorem quiet_handleUsers : (handleUsers client input).Quiet := by
  simp only [handleUsers]
  split
  · exact silent_nil
  · trivial

theorem quiet_handleSend : (handleSend client input).Quiet := by
  simp only [handleSend]
  split
  · exact quiet_say client _
  split
  · exact quiet_say client _
  split
  · exact quiet_say client _
  · trivial

theorem quiet_handleMessages : (handleMessages client input).Quiet := by
  simp only [handleMessages]
  split
  · exact quiet_say client _
  split
  · exact quiet_say client _
  · trivial

theorem quiet_handler {entry : Bytes × (Client → ParsedInput → Handling)} (h : entry ∈ commandTable) :
    (entry.2 client input).Quiet := by
  simp only [commandTable, List.mem_cons, List.not_mem_nil, or_false] at h
  rcases h with rfl | rfl | rfl | rfl | rfl | rfl | rfl | rfl | rfl | rfl | rfl | rfl | rfl | rfl
  · exact quiet_handleHelp client input
  · exact quiet_handleInfo client input
  · exact quiet_handleLogin client input
  · exact quiet_handleLogout client input
  · exact quiet_handleUse client input
  · exact quiet_handleCreate client input
  · exact quiet_handleList client input
  · exact quiet_handleSubscribe client input
  · exact quiet_handleUnsubscribe client input
  · exact quiet_handleSubscribedList client input
  · exact quiet_handleUser client input
  · exact quiet_handleUsers client input
  · exact quiet_handleSend client input
  · exact quiet_handleMessages client input

theorem quiet_handlingInput (line : Bytes) : (handlingInput client line).Quiet := by
  simp only [handlingInput, dispatchCommand]
  split
  · exact silent_nil
  split
  · next entry hentry => exact quiet_handler client _ (List.mem_of_find?_eq_some hentry)
  · exact List.forall_mem_singleton.mpr rfl

end

end Cli

namespace Cli

/-- What the loop of a handler prints when it receives a packet. -/
def printPacket (lib : LibCall → Int) (body : Body) (expectedListCode : UInt16)
    (packet : PacketHeader × Bytes) : List Shown :=
  match handleAsyncEventPacket packet.1.code packet.2 with
  | some event => (display lib [event]).1
  | none => (display lib (body expectedListCode packet.1.code packet.2).shown).1

/-- The variable of the loop after a packet. -/
def nextListCode (body : Body) (expectedListCode : UInt16) (packet : PacketHeader × Bytes) : UInt16 :=
  match handleAsyncEventPacket packet.1.code packet.2 with
  | some _ => expectedListCode
  | none =>
    match body expectedListCode packet.1.code packet.2 with
    | .again _ expectedListCode' => expectedListCode'
    | .done _ _ => expectedListCode

def printInbox (lib : LibCall → Int) (body : Body) : UInt16 → Inbox → List Shown
  | _, [] => []
  | expectedListCode, packet :: inbox =>
    printPacket lib body expectedListCode packet ++
      printInbox lib body (nextListCode body expectedListCode packet) inbox

/-- A handler has printed, packet by packet, what its loop comes to. -/
theorem printed_of_finished {lib : LibCall → Int} {body : Body} {expectedListCode : UInt16} {inbox rest : Inbox}
    {shown : List Shown} {ended : Ended}
    (h : readReplies lib body expectedListCode inbox = .finished shown ended rest) :
    ∃ consumed, inbox = consumed ++ rest ∧ shown = printInbox lib body expectedListCode consumed := by
  induction inbox generalizing expectedListCode shown with
  | nil => cases h
  | cons packet inbox ih =>
    obtain ⟨header, payload⟩ := packet
    rw [readReplies] at h
    -- after showing `now`, the loop goes on or has thrown
    have hgoes : ∀ {now : List Shown} {expectedListCode' : UInt16},
        (readReplies lib body expectedListCode' inbox).showing lib now inbox = .finished shown ended rest →
        printPacket lib body expectedListCode (header, payload) = (display lib now).1 →
        nextListCode body expectedListCode (header, payload) = expectedListCode' →
        ∃ consumed, (header, payload) :: inbox = consumed ++ rest ∧
          shown = printInbox lib body expectedListCode consumed := by
      intro now expectedListCode' hshowing hprint hnext
      rw [Reading.showing] at hshowing
      split at hshowing
      · next displayed error hdisplay =>
        cases hshowing
        exact ⟨[(header, payload)], rfl, by simp [printInbox, hprint, hdisplay]⟩
      · next displayed hdisplay =>
        cases hreading : readReplies lib body expectedListCode' inbox with
        | waiting =>
          rw [hreading] at hshowing
          cases hshowing
        | finished shown' ended' rest' =>
          rw [hreading] at hshowing
          cases hshowing
          obtain ⟨consumed, rfl, rfl⟩ := ih hreading
          exact ⟨(header, payload) :: consumed, rfl, by simp [printInbox, hprint, hdisplay, hnext]⟩
    cases hevent : handleAsyncEventPacket header.code payload with
    | some event =>
      rw [hevent] at h
      exact hgoes h (by simp [printPacket, hevent]) (by simp [nextListCode, hevent])
    | none =>
      simp only [hevent] at h
      cases hturn : body expectedListCode header.code payload with
      | again now expectedListCode' =>
        rw [hturn] at h
        exact hgoes h (by simp [printPacket, hevent, hturn, Turn.shown]) (by simp [nextListCode, hevent, hturn])
      | done now ended' =>
        have hprint : printPacket lib body expectedListCode (header, payload) = (display lib now).1 := by
          simp [printPacket, hevent, hturn, Turn.shown]
        rw [hturn, Turn.carryOut, Reading.showing] at h
        split at h
        · next displayed error hdisplay =>
          cases h
          exact ⟨[(header, payload)], rfl, by simp [printInbox, hprint, hdisplay]⟩
        · next displayed hdisplay =>
          cases h
          exact ⟨[(header, payload)], rfl, by simp [printInbox, hprint, hdisplay]⟩

end Cli

namespace RunLoop

/-- What a call of the client prints. -/
def prints (lib : LibCall → Int) (x : RunLoop) : Event → List Shown
  | .stdin (.ok (some line)) =>
    match x.task, Cli.handlingInput x.client line with
    | .handlingInput, .ended shown _ => (display lib shown).1
    | _, _ => []
  | .read arrival =>
    match x.task with
    | .readServerReply body received read =>
      match (x.readSocket read arrival).2 with
      | .returned frame => printPacket lib body (received.foldl (nextListCode body) 0) (receivedFrame frame)
      | _ => []
    | .handleEvent read =>
      match (x.readSocket read arrival).2 with
      | .returned frame =>
        (display lib (handleAsyncEventPacket (receivedFrame frame).1.code (receivedFrame frame).2).toList).1
      | _ => []
    | _ => []
  | _ => []

end RunLoop

/-- The client has not come to its end. -/
def Task.goes : Task → Bool
  | .exited => false
  | _ => true

theorem Task.goes_iff {task : Task} : task.goes = true ↔ task ≠ .exited := by
  cases task <;> simp [goes]

/-- The client, with all that it has printed. -/
structure Printing where
  loop : RunLoop
  printed : List Shown

namespace Printing

def start (sent : List Packet) : Printing := ⟨.start sent, []⟩

def step (lib : LibCall → Int) (v : Printing) (e : RunLoop.Event) : Option Printing :=
  (v.loop.step lib e).map fun loop => ⟨loop, v.printed ++ v.loop.prints lib e⟩

variable {lib : LibCall → Int} {v v' : Printing}

theorem display_takes (lib : LibCall → Int) (shown : List Shown) : (display lib shown).1 <+: shown := by
  induction shown with
  | nil => exact List.prefix_rfl
  | cons s rest ih =>
    cases s with
    | lib call =>
      rw [display]
      split
      · exact List.prefix_append [_] rest
      · exact (List.prefix_cons_inj _).mpr ih
    | line | alreadyLoggedIn | unknownCommand => exact (List.prefix_cons_inj _).mpr ih

/-- Nothing but events counts, and nothing that fails. -/
theorem events_display {shown : List Shown} (h : Silent shown) :
    (display lib shown).1.filterMap Shown.event = [] :=
  Silent.filterMap fun s hs => h s ((display_takes lib shown).subset hs)

theorem display_singleton (lib : LibCall → Int) (s : Shown) : (display lib [s]).1 = [s] := by
  cases s with
  | lib call =>
    rw [display]
    split <;> rfl
  | line | alreadyLoggedIn | unknownCommand => rfl

theorem events_event (lib : LibCall → Int) (packet : PacketHeader × Bytes) :
    (display lib (handleAsyncEventPacket packet.1.code packet.2).toList).1.filterMap Shown.event =
      (receivedEvent packet).toList := by
  rw [receivedEvent]
  cases handleAsyncEventPacket packet.1.code packet.2 with
  | none => rfl
  | some s =>
    rw [Option.toList_some, display_singleton, Option.bind_some]
    cases hevent : s.event <;> simp [hevent]

/-- A handler prints the event of a packet, or a reply, which is no event. -/
theorem events_printPacket (lib : LibCall → Int) (reader : Reader) (client : Cli.Client) (expectedListCode : UInt16)
    (packet : PacketHeader × Bytes) :
    (printPacket lib (reader.body client) expectedListCode packet).filterMap Shown.event =
      (receivedEvent packet).toList := by
  have hevent := events_event lib packet
  rw [printPacket, receivedEvent]
  rw [receivedEvent] at hevent
  cases hhandled : handleAsyncEventPacket packet.1.code packet.2 with
  | some event =>
    rw [hhandled] at hevent
    exact hevent
  | none => exact events_display (silent_body client expectedListCode _ _ reader)

/-- The loop that waits for the reply to the request of a task. -/
def body : Task → Option Body
  | .sendPacket _ _ body | .readServerReply body _ _ => some body
  | .handlingInput | .poll | .handleEvent _ | .exited => none

/-- The events printed are those of the packets returned, and a reply is read by one of the readers. -/
structure Reported (v : Printing) : Prop where
  reader : ∀ b, body v.loop.task = some b → ∃ (reader : Reader) (client : Cli.Client), b = reader.body client
  events : v.printed.filterMap Shown.event = v.loop.returned.filterMap receivedEvent

/-- A call that neither returns a packet nor prints an event. -/
theorem Reported.quiet {loop : RunLoop} {shown : List Shown} (h : v.Reported) (hreturned : loop.returned = v.loop.returned)
    (hshown : shown.filterMap Shown.event = [])
    (hreader : ∀ b, body loop.task = some b → ∃ (reader : Reader) (client : Cli.Client), b = reader.body client) :
    Reported ⟨loop, v.printed ++ shown⟩ := by
  refine ⟨hreader, ?_⟩
  rw [List.filterMap_append, hshown, List.append_nil, h.events, hreturned]

/-- A call that returns a packet, and prints its event if it brings one. -/
theorem Reported.returned {loop : RunLoop} {shown : List Shown} {packet : PacketHeader × Bytes} (h : v.Reported)
    (hreturned : loop.returned = v.loop.returned ++ [packet])
    (hshown : shown.filterMap Shown.event = (receivedEvent packet).toList)
    (hreader : ∀ b, body loop.task = some b → ∃ (reader : Reader) (client : Cli.Client), b = reader.body client) :
    Reported ⟨loop, v.printed ++ shown⟩ := by
  refine ⟨hreader, ?_⟩
  rw [List.filterMap_append, hshown, h.events, hreturned, List.filterMap_append]
  rfl

theorem no_body {task : Task} (h : body task = none) :
    ∀ b, body task = some b → ∃ (reader : Reader) (client : Cli.Client), b = reader.body client :=
  fun b hb => by cases h.symm.trans hb

theorem returned_readSocket (x : RunLoop) (read : PacketRead) (arrival : Arrival) :
    (x.readSocket read arrival).1.returned = x.returned := by
  rw [RunLoop.readSocket]
  split <;> rfl

theorem Reported.typed (h : v.Reported) (htask : v.loop.task = .handlingInput) (line : Bytes) :
    Reported ⟨v.loop.typed lib line, v.printed ++ v.loop.prints lib (.stdin (.ok (some line)))⟩ := by
  have hquiet := quiet_handlingInput v.loop.client line
  rw [RunLoop.typed, RunLoop.prints, htask]
  cases hline : Cli.handlingInput v.loop.client line with
  | ended shown ended =>
    rw [hline] at hquiet
    exact h.quiet rfl (events_display hquiet) (no_body rfl)
  | exchange request b =>
    refine h.quiet rfl rfl fun b' hb => ?_
    obtain rfl := Option.some.inj hb
    have hhandled := handled v.loop.client line
    rw [hline] at hhandled
    obtain ⟨-, _, hsent⟩ := hhandled.exchanges
    obtain ⟨reader, rfl⟩ := hsent.exists_reader
    exact ⟨reader, v.loop.client, rfl⟩

theorem Reported.sendPacket (h : v.Reported) {packet : Bytes} {offset : Nat} {b : Body}
    (htask : v.loop.task = .sendPacket packet offset b) (calls : WriteCalls) :
    Reported ⟨v.loop.sendPacket packet offset b calls, v.printed ++ v.loop.prints lib (.write calls)⟩ := by
  have hreader := h.reader b (by rw [htask]; rfl)
  have hsame : ∀ b', some b = some b' → ∃ (reader : Reader) (client : Cli.Client), b' = reader.body client :=
    fun b' hb => Option.some.inj hb ▸ hreader
  rw [RunLoop.sendPacket]
  split
  · exact h.quiet rfl rfl (no_body rfl)
  split
  · exact h.quiet rfl rfl (no_body rfl)
  · refine h.quiet rfl rfl ?_
    simp only
    split <;> exact hsame

theorem Reported.readReply (h : v.Reported) {b : Body} {received : Inbox} {read : PacketRead}
    (htask : v.loop.task = .readServerReply b received read) (arrival : Arrival) :
    Reported ⟨v.loop.readReply lib b received read arrival, v.printed ++ v.loop.prints lib (.read arrival)⟩ := by
  have hreader := h.reader b (by rw [htask]; rfl)
  have hsame : ∀ b', some b = some b' → ∃ (reader : Reader) (client : Cli.Client), b' = reader.body client :=
    fun b' hb => Option.some.inj hb ▸ hreader
  have hreturned := returned_readSocket v.loop read arrival
  rw [RunLoop.readReply, RunLoop.prints, htask]
  simp only
  cases hcall : v.loop.readSocket read arrival with
  | mk x turn =>
    rw [hcall] at hreturned
    cases turn with
    | threw => exact h.quiet hreturned rfl (no_body rfl)
    | reading read' => exact h.quiet hreturned rfl hsame
    | returned frame =>
      obtain ⟨reader, client, rfl⟩ := hreader
      have hshown := events_printPacket lib reader client (received.foldl (nextListCode (reader.body client)) 0)
        (receivedFrame frame)
      simp only [RunLoop.handlePacket]
      split
      · exact h.returned (by rw [hreturned]) hshown hsame
      · exact h.returned (by rw [hreturned]) hshown (no_body rfl)

theorem Reported.readEvent (h : v.Reported) {read : PacketRead} (htask : v.loop.task = .handleEvent read)
    (arrival : Arrival) :
    Reported ⟨v.loop.readEvent lib read arrival, v.printed ++ v.loop.prints lib (.read arrival)⟩ := by
  have hreturned := returned_readSocket v.loop read arrival
  rw [RunLoop.readEvent, RunLoop.prints, htask]
  simp only
  cases hcall : v.loop.readSocket read arrival with
  | mk x turn =>
    rw [hcall] at hreturned
    cases turn with
    | threw => exact h.quiet hreturned rfl (no_body rfl)
    | reading read' => exact h.quiet hreturned rfl (no_body rfl)
    | returned frame =>
      have hmore : x.returned ++ [receivedFrame frame] = v.loop.returned ++ [receivedFrame frame] := by
        rw [hreturned]
      refine h.returned hmore (events_event lib (receivedFrame frame)) ?_
      simp only
      split <;> exact no_body rfl

theorem Reported.step {e : RunLoop.Event} (h : v.Reported) (hs : v.step lib e = some v') : v'.Reported := by
  obtain ⟨loop, hloop, rfl⟩ := Option.map_eq_some_iff.mp hs
  cases htask : v.loop.task with
  | handlingInput =>
    cases e with
    | stdin line =>
      rcases line with errno | _ | line <;> simp only [RunLoop.step, htask, Option.some.injEq] at hloop
      · exact hloop ▸ h.quiet rfl rfl (no_body rfl)
      · exact hloop ▸ h.quiet rfl rfl (no_body rfl)
      · exact hloop ▸ h.typed htask line
    | write | read | poll => simp [RunLoop.step, htask] at hloop
  | sendPacket packet offset b =>
    cases e with
    | write calls =>
      simp only [RunLoop.step, htask, Option.some.injEq] at hloop
      exact hloop ▸ h.sendPacket htask calls
    | stdin | read | poll => simp [RunLoop.step, htask] at hloop
  | readServerReply b received read =>
    cases e with
    | read arrival =>
      simp only [RunLoop.step, htask, Option.some.injEq] at hloop
      exact hloop ▸ h.readReply htask arrival
    | stdin | write | poll => simp [RunLoop.step, htask] at hloop
  | poll =>
    cases e with
    | poll result =>
      simp only [RunLoop.step, htask] at hloop
      split at hloop
      · exact Option.some.inj hloop ▸ h.quiet rfl rfl (no_body rfl)
      · refine Option.some.inj hloop ▸ h.quiet rfl rfl (no_body ?_)
        simp only
        split <;> rfl
    | stdin | write | read => simp [RunLoop.step, htask] at hloop
  | handleEvent read =>
    cases e with
    | read arrival =>
      simp only [RunLoop.step, htask, Option.some.injEq] at hloop
      exact hloop ▸ h.readEvent htask arrival
    | stdin | write | poll => simp [RunLoop.step, htask] at hloop
  | exited => simp [RunLoop.step, htask] at hloop

/-- A run of the client is one of its calls alone. -/
theorem run_loop {events : List RunLoop.Event} (hrun : Runs.run (step lib) v events = some v') :
    Runs.run (RunLoop.step lib) v.loop events = some v'.loop := by
  induction events generalizing v with
  | nil =>
    cases hrun
    rfl
  | cons e events ih =>
    obtain ⟨w, hw, hrun⟩ := Runs.run_cons_eq_some.mp hrun
    obtain ⟨loop, hloop, rfl⟩ := Option.map_eq_some_iff.mp hw
    exact Runs.run_cons_eq_some.mpr ⟨loop, hloop, ih hrun⟩

theorem reported_of_run {sent : List Packet} {events : List RunLoop.Event}
    (hrun : Runs.run (step lib) (start sent) events = some v) : v.Reported :=
  Runs.run_invariant (fun _ _ _ h hs => h.step hs) ⟨no_body rfl, rfl⟩ hrun

/-- As long as no command fails within a packet, the packets read are the first of those sent. -/
theorem consumed_of_run {sent : List Packet} {events : List RunLoop.Event}
    (hrun : Runs.run (step lib) (start sent) events = some v)
    (halways : Runs.Always (RunLoop.step lib) RunLoop.FailsBetweenPackets (.start sent) events)
    (hgoes : v.loop.task ≠ .exited) : ∃ consumed, consumed <+: sent ∧ v.loop.returned = consumed.map Packet.received := by
  have hstart : (RunLoop.start sent).task.Sound ∧
      ((RunLoop.start sent).task ≠ .exited → (RunLoop.start sent).Aligned sent) :=
    ⟨trivial, fun _ => ⟨⟨[], by simp, rfl⟩, [], sent, rfl, rfl, rfl⟩⟩
  have hend := Runs.run_invariant_of
    (P := fun x : RunLoop => x.task.Sound ∧ (x.task ≠ .exited → x.Aligned sent))
    (fun x e y h hbetween hs => ?_) hstart halways (run_loop hrun)
  · obtain ⟨consumed, rest, rfl, hreturned, -⟩ := (hend.2 hgoes).packets
    exact ⟨consumed, List.prefix_append _ _, hreturned⟩
  · obtain ⟨hsound, haligned⟩ := RunLoop.step_aligned h.1 h.2 hs
    exact ⟨hsound, haligned.mpr hbetween⟩

/-- Whatever the server sends and the user types, and whichever calls of the socket and of the library fail:
the events that the client prints are those of the packets that it has read, each once and in their order. As
long as no command fails within a packet, these are the first of the packets that the server sends. -/
theorem prints_events {sent : List Packet} {events : List RunLoop.Event}
    (hrun : Runs.run (step lib) (start sent) events = some v) :
    v.printed.filterMap Shown.event = v.loop.returned.filterMap receivedEvent ∧
    (Runs.Always (RunLoop.step lib) RunLoop.FailsBetweenPackets (.start sent) events → v.loop.task ≠ .exited →
      ∃ consumed, consumed <+: sent ∧ v.loop.returned = consumed.map Packet.received ∧
        v.printed.filterMap Shown.event = (consumed.map Packet.received).filterMap receivedEvent) := by
  have hreported := reported_of_run hrun
  refine ⟨hreported.events, fun halways hgoes => ?_⟩
  obtain ⟨consumed, hconsumed, hreturned⟩ := consumed_of_run hrun halways hgoes
  exact ⟨consumed, hconsumed, hreturned, by rw [hreported.events, hreturned]⟩

/-- A login, the refusal of `/users`, and a logout. -/
def interleaved : List Packet :=
  let user := User.new (generateUuid (default : Environment).draw) [97] true
  [loginEvent user, .ofStatus .unauthorized, logoutEvent user]

/-- The login is read by the handler of `/users`, the logout by `handleEvent`; the library refuses both. -/
def interleavedRun : List RunLoop.Event :=
  RunLoop.asks "/users" ++ [RunLoop.arrived 4, RunLoop.arrived 100] ++ [.poll (.ok .none)] ++
    RunLoop.asks "/users" ++ [RunLoop.arrived 4, .poll (.ok .input), RunLoop.arrived 4, RunLoop.arrived 60,
      RunLoop.arrived 60]

def refusingEvents : LibCall → Int
  | .eventLoggedIn .. => -1
  | .eventLoggedOut .. => -1
  | _ => 0

theorem prints_events_interleaved :
    ∃ v, Runs.run (step refusingEvents) (start interleaved) interleavedRun = some v ∧ v.loop.task = .exited ∧
      v.printed.filterMap Shown.event = v.loop.returned.filterMap receivedEvent ∧
      v.printed.length = 3 ∧ v.loop.returned.length = 3 := by
  have hfacts : (Runs.run (step refusingEvents) (start interleaved) interleavedRun).map (fun v =>
      (v.loop.task.goes, v.printed.length, v.loop.returned.length)) = some (false, 3, 3) := by decide +kernel
  obtain ⟨v, hrun, hfacts⟩ := Option.map_eq_some_iff.mp hfacts
  obtain ⟨htask, hfacts⟩ := Prod.mk.inj hfacts
  obtain ⟨hprinted, hreturned⟩ := Prod.mk.inj hfacts
  have hexited : v.loop.task = .exited := by
    by_contra hgoes
    rw [Task.goes_iff.mpr hgoes] at htask
    cases htask
  exact ⟨v, hrun, hexited, (prints_events hrun).1, hprinted, hreturned⟩

end Printing

end TeamsMirror
