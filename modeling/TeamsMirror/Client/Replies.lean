import TeamsMirror.Client.Commands

/-!
# Reading replies

`readServerReply` skips events, showing each; the loop of a handler reads replies
until its body ends. `Consumes` is what a body makes of replies alone, and the loop
does the same wherever events are mixed in.
-/

namespace TeamsMirror.Cli

/-- The packets that successive calls of `readServerPacket` return. -/
abbrev Inbox := List (PacketHeader × Bytes)

inductive ServerReply where
  | reply (shown : List Shown) (header : PacketHeader) (payload : Bytes) (rest : Inbox)
  | threw (shown : List Shown) (error : ClientError) (rest : Inbox)
  | waiting

def ServerReply.after (shown : List Shown) : ServerReply → ServerReply
  | .reply shown' header payload rest => .reply (shown ++ shown') header payload rest
  | .threw shown' error rest => .threw (shown ++ shown') error rest
  | .waiting => .waiting

def readServerReply (lib : LibCall → Int) : Inbox → ServerReply
  | [] => .waiting
  | (header, payload) :: inbox =>
    match handleAsyncEventPacket header.code payload with
    | none => .reply [] header payload inbox
    | some event =>
      match display lib [event] with
      | (shown, some error) => .threw shown error inbox
      | (shown, none) => (readServerReply lib inbox).after shown

/-- How the reading part of a handler ends; `waiting` when it needs packets that are not there. -/
inductive Reading where
  | finished (shown : List Shown) (ended : Ended) (rest : Inbox)
  | waiting

def Reading.after (shown : List Shown) : Reading → Reading
  | .finished shown' ended rest => .finished (shown ++ shown') ended rest
  | .waiting => .waiting

/-- Show things before `next`, which is not reached when a call of the library fails. -/
def Reading.showing (lib : LibCall → Int) (shown : List Shown) (rest : Inbox) (next : Reading) : Reading :=
  match display lib shown with
  | (shown, some error) => .finished shown (.threw error) rest
  | (shown, none) => next.after shown

/-- Carry out a turn of a loop; `rest` is what follows its reply. -/
def Turn.carryOut (lib : LibCall → Int) (rest : Inbox) (loop : UInt16 → Reading) : Turn → Reading
  | .again shown expectedListCode => (loop expectedListCode).showing lib shown rest
  | .done shown ended => (Reading.finished [] ended rest).showing lib shown rest

/-- The reading loop of a handler, its calls of `readServerReply` unfolded. -/
def readReplies (lib : LibCall → Int) (body : Body) : UInt16 → Inbox → Reading
  | _, [] => .waiting
  | expectedListCode, (header, payload) :: inbox =>
    match handleAsyncEventPacket header.code payload with
    | some event => (readReplies lib body expectedListCode inbox).showing lib [event] inbox
    | none =>
      (body expectedListCode header.code payload).carryOut lib inbox fun expectedListCode =>
        readReplies lib body expectedListCode inbox

theorem Reading.after_after (shown shown' : List Shown) (r : Reading) :
    (r.after shown').after shown = r.after (shown ++ shown') := by
  cases r <;> simp [Reading.after]

/-- The loop as the source has it: one call of `readServerReply` for each turn. -/
theorem readReplies_eq (lib : LibCall → Int) (body : Body) (expectedListCode : UInt16) (inbox : Inbox) :
    readReplies lib body expectedListCode inbox =
      match readServerReply lib inbox with
      | .waiting => .waiting
      | .threw shown error rest => .finished shown (.threw error) rest
      | .reply shown header payload rest =>
        ((body expectedListCode header.code payload).carryOut lib rest fun expectedListCode =>
          readReplies lib body expectedListCode rest).after shown := by
  have hnil : ∀ r : Reading, r.after [] = r := fun r => by cases r <;> rfl
  induction inbox with
  | nil => rfl
  | cons packet inbox ih =>
    obtain ⟨header, payload⟩ := packet
    rw [readReplies, readServerReply]
    cases handleAsyncEventPacket header.code payload with
    | none => exact (hnil _).symm
    | some event =>
      simp only [Reading.showing]
      generalize display lib [event] = displayed
      obtain ⟨shown, error⟩ := displayed
      cases error with
      | some error => rfl
      | none =>
        simp only
        rw [ih]
        cases readServerReply lib inbox with
        | waiting => rfl
        | threw => rfl
        | reply events header payload rest => exact Reading.after_after _ _ _

/-- A body takes exactly these replies, and shows these things. -/
inductive Consumes (body : Body) : UInt16 → List Packet → List Shown → Ended → Prop where
  | last {expectedListCode : UInt16} {p : Packet} {shown : List Shown} {ended : Ended} :
      body expectedListCode p.status.code p.payload.bytes = .done shown ended →
      Consumes body expectedListCode [p] shown ended
  | more {expectedListCode expectedListCode' : UInt16} {p : Packet} {ps : List Packet}
      {shown shown' : List Shown} {ended : Ended} :
      body expectedListCode p.status.code p.payload.bytes = .again shown expectedListCode' →
      Consumes body expectedListCode' ps shown' ended →
      Consumes body expectedListCode (p :: ps) (shown ++ shown') ended

/-- An event, with the payload that its code announces. -/
inductive IsEvent : Packet → Prop where
  | loggedIn (p : PayloadEvtUserConnection) : IsEvent ⟨.evtLoggedIn, .evtUserConnection p⟩
  | loggedOut (p : PayloadEvtUserConnection) : IsEvent ⟨.evtLoggedOut, .evtUserConnection p⟩
  | privateMessage (p : PayloadEvtPrivateMsg) : IsEvent ⟨.evtPrivateMsgRcvd, .evtPrivateMsg p⟩
  | teamCreated (p : PayloadEvtTeamCreated) : IsEvent ⟨.evtTeamCreated, .evtTeamCreated p⟩
  | channelCreated (p : PayloadEvtChannelCreated) : IsEvent ⟨.evtChannelCreated, .evtChannelCreated p⟩
  | threadCreated (p : PayloadEvtThreadCreated) : IsEvent ⟨.evtThreadCreated, .evtThreadCreated p⟩
  | replyCreated (p : PayloadEvtReplyCreated) : IsEvent ⟨.evtReplyCreated, .evtReplyCreated p⟩

/-- An event is shown by a call of the library, whatever the handler is waiting for. -/
theorem IsEvent.handled {p : Packet} (h : IsEvent p) :
    ∃ call, handleAsyncEventPacket p.status.code p.payload.bytes = some (.lib call) := by
  cases h <;>
    exact ⟨_, congrArg some (showPayload_toBytes _ _ _)⟩

theorem handleAsyncEventPacket_eq_none {status : StatusCode} (h : status.isEvent = false) (payload : Bytes) :
    handleAsyncEventPacket status.code payload = none := by
  cases status <;> first | rfl | (exact absurd h (by decide))

/-- The packets that are no events. -/
def repliesOf (ps : List Packet) : List Packet := ps.filter fun p => !p.status.isEvent

theorem repliesOf_append (ps qs : List Packet) : repliesOf (ps ++ qs) = repliesOf ps ++ repliesOf qs :=
  List.filter_append _ _

theorem IsEvent.isEvent {p : Packet} (h : IsEvent p) : p.status.isEvent = true := by
  cases h <;> rfl

theorem Reading.showing_of_succeeds {lib : LibCall → Int} (hlib : Succeeds lib) (shown : List Shown)
    (rest : Inbox) (next : Reading) : next.showing lib shown rest = next.after shown := by
  rw [Reading.showing, display_of_succeeds hlib]

/-- Events alone end no handler. -/
theorem readReplies_of_events {lib : LibCall → Int} (hlib : Succeeds lib) (body : Body)
    (expectedListCode : UInt16) {inbox : List Packet} (hinbox : repliesOf inbox = [])
    (hevents : ∀ p ∈ inbox, p.status.isEvent = true → IsEvent p) :
    readReplies lib body expectedListCode (inbox.map Packet.received) = .waiting := by
  induction inbox with
  | nil => rfl
  | cons p inbox ih =>
    obtain ⟨hp, hrest⟩ := List.filter_eq_nil_iff.mp hinbox |> List.forall_mem_cons.mp
    have hevent : p.status.isEvent = true := by simpa using hp
    obtain ⟨call, hcall⟩ := (hevents p (by simp) hevent).handled
    have hwaiting := ih (List.filter_eq_nil_iff.mpr hrest) fun q hq => hevents q (List.mem_cons_of_mem _ hq)
    rw [List.map_cons, Packet.received, readReplies]
    simp only [Packet.header, hcall, hwaiting, Reading.showing_of_succeeds hlib]
    rfl

/-- The loop stops behind the last reply and leaves what follows it, and shows no more than the
replies and the events make it show. -/
theorem Consumes.readReplies {lib : LibCall → Int} (hlib : Succeeds lib) {body : Body}
    {expectedListCode : UInt16} {inbox : List Packet} {shown : List Shown} {ended : Ended}
    (h : Consumes body expectedListCode (repliesOf inbox) shown ended)
    (hevents : ∀ p ∈ inbox, p.status.isEvent = true → IsEvent p) :
    ∃ consumed rest shown', inbox = consumed ++ rest ∧
      Cli.readReplies lib body expectedListCode (inbox.map Packet.received) =
        .finished shown' ended (rest.map Packet.received) ∧
      repliesOf consumed = repliesOf inbox ∧ repliesOf rest = [] ∧
      ∀ x ∈ shown', x ∈ shown ∨ x.kind = .plain := by
  induction inbox generalizing expectedListCode shown with
  | nil => cases h
  | cons p inbox ih =>
    have hrest : ∀ p ∈ inbox, p.status.isEvent = true → IsEvent p := fun q hq =>
      hevents q (List.mem_cons_of_mem _ hq)
    have hshowing := Reading.showing_of_succeeds hlib
    rw [List.map_cons, Packet.received, Cli.readReplies]
    cases hp : p.status.isEvent with
    | true =>
      obtain ⟨call, hcall⟩ := (hevents p (by simp) hp).handled
      have hreplies : repliesOf (p :: inbox) = repliesOf inbox := by simp [repliesOf, hp]
      rw [hreplies] at h ⊢
      obtain ⟨consumed, rest, shown', rfl, hread, hconsumed, hleft, hshown⟩ := ih h hrest
      refine ⟨p :: consumed, rest, .lib call :: shown', rfl, ?_, ?_, hleft, ?_⟩
      · simp only [Packet.header, hcall, hshowing, hread]
        rfl
      · simpa [repliesOf, hp] using hconsumed
      · intro x hx
        rcases List.mem_cons.mp hx with rfl | hx
        · exact .inr rfl
        · exact hshown x hx
    | false =>
      have hnone := handleAsyncEventPacket_eq_none hp p.payload.bytes
      have hreplies : repliesOf (p :: inbox) = p :: repliesOf inbox := by simp [repliesOf, hp]
      rw [hreplies] at h ⊢
      simp only [Packet.header, hnone]
      generalize hps : repliesOf inbox = ps at h
      cases h with
      | last hbody =>
        refine ⟨[p], inbox, shown, rfl, ?_, by simp [repliesOf, hp], hps, fun x hx => .inl hx⟩
        rw [hbody, Turn.carryOut, hshowing, Reading.after, List.append_nil]
      | @more _ _ _ _ shown₁ _ _ hbody hmore =>
        rw [← hps] at hmore
        obtain ⟨consumed, rest, shown', rfl, hread, hconsumed, hleft, hshown⟩ := ih hmore hrest
        refine ⟨p :: consumed, rest, shown₁ ++ shown', rfl, ?_, ?_, hleft, ?_⟩
        · rw [hbody, Turn.carryOut, hshowing, hread]
          rfl
        · rw [← hps, ← hconsumed]
          simp [repliesOf, hp]
        · intro x hx
          rcases List.mem_append.mp hx with hx | hx
          · exact .inl (List.mem_append_left _ hx)
          · rcases hshown x hx with hx | hx
            · exact .inl (List.mem_append_right _ hx)
            · exact .inr hx

end TeamsMirror.Cli
