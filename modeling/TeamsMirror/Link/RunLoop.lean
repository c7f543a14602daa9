import TeamsMirror.Client.Streams
import TeamsMirror.Link.Synchrony

/-!
# Failed commands

`sendPacket` and `readExact` keep their progress in local variables. A call of the
socket that fails throws them away, `handlingInput` prints an error, and the client
goes on with the same socket. A step here is one call of the client on its socket, on
the standard input or on `poll`, so that a failure can come anywhere in a packet.
-/

namespace TeamsMirror

open Cli

/-- Whether bytes have arrived, and how many a read finds. -/
structure Arrival where
  poll : Except Errno PollEvents
  room : Except Errno Nat

/-- A read of at most `size` bytes from what the server has sent. -/
def Arrival.calls (arrival : Arrival) (unread : Bytes) (size : Nat) : ReadCalls size where
  poll := arrival.poll
  read := arrival.room.map fun room => ⟨unread.take (min room size), by simp⟩

/-- Where the client stands, with the local variables of the functions it is in. -/
inductive Task where
  | handlingInput
  | sendPacket (packet : Bytes) (offset : Nat) (body : Body)
  | readServerReply (body : Body) (received : Inbox) (read : PacketRead)
  | poll
  | handleEvent (read : PacketRead)
  | exited

/-- The client and its end of the connection. -/
structure RunLoop where
  client : Cli.Client
  task : Task
  /-- What the socket has taken since the connection was made. -/
  written : Bytes
  /-- What the server sends and the client has not read, arrived or not. -/
  unread : Bytes
  /-- The packets that `readServerPacket` has returned. -/
  returned : Inbox

namespace RunLoop

inductive Event where
  | stdin (line : Except Errno (Option Bytes))
  | write (calls : WriteCalls)
  | read (arrival : Arrival)
  | poll (poll : Except Errno PollEvents)

def start (sent : List Packet) : RunLoop where
  client := .start
  task := .handlingInput
  written := []
  unread := sent.flatMap Packet.bytes
  returned := []

variable (lib : LibCall → Int) (x : RunLoop)

/-- `handlingInput` catches what a command throws, and `runLoop` goes on with `handleEvent`. -/
def commandError : RunLoop := { x with task := .poll }

def typed (line : Bytes) : RunLoop :=
  match Cli.handlingInput x.client line with
  | .ended shown ended =>
    { x with
      client := if (display lib shown).2 = none then ended.after x.client else x.client
      task := .poll }
  | .exchange request body => { x with task := .sendPacket request.packet 0 body }

/-- The body of the loop of `sendPacket`. -/
def sendPacket (packet : Bytes) (offset : Nat) (body : Body) (calls : WriteCalls) : RunLoop :=
  match Socket.write (packet.drop offset) calls with
  | .error _ => x.commandError
  | .ok bytesWritten =>
    if bytesWritten.val = 0 then x.commandError
    else
      { x with
        written := x.written ++ (packet.drop offset).take bytesWritten
        task :=
          if offset + bytesWritten < packet.length then .sendPacket packet (offset + bytesWritten) body
          else .readServerReply body [] .start }

/-- One read of `readServerPacket`. -/
def readSocket (read : PacketRead) (arrival : Arrival) : RunLoop × PacketTurn :=
  match Socket.read (arrival.calls x.unread read.asked) with
  | .error _ => (x, .threw)
  | .ok chunk => ({ x with unread := x.unread.drop chunk.val.length }, read.turn chunk.val)

/-- A handler goes on with the packets that it has received so far. -/
def handlePacket (body : Body) (received : Inbox) : RunLoop :=
  match readReplies lib body 0 received with
  | .waiting => { x with task := .readServerReply body received .start }
  | .finished _ ended _ => { x with client := ended.after x.client, task := .poll }

def readReply (body : Body) (received : Inbox) (read : PacketRead) (arrival : Arrival) : RunLoop :=
  match x.readSocket read arrival with
  | (x, .threw) => x.commandError
  | (x, .reading read) => { x with task := .readServerReply body received read }
  | (x, .returned frame) =>
    let packet := receivedFrame frame
    { x with returned := x.returned ++ [packet] }.handlePacket lib body (received ++ [packet])

/-- Nobody catches what `handleEvent` throws before the end of the program. -/
def readEvent (read : PacketRead) (arrival : Arrival) : RunLoop :=
  match x.readSocket read arrival with
  | (x, .threw) => { x with task := .exited }
  | (x, .reading read) => { x with task := .handleEvent read }
  | (x, .returned frame) =>
    let (header, out) := receivedFrame frame
    { x with
      returned := x.returned ++ [(header, out)]
      task :=
        if (display lib (handleAsyncEventPacket header.code out).toList).2 = none then .poll else .exited }

def step (x : RunLoop) (e : Event) : Option RunLoop :=
  match x.task, e with
  | .handlingInput, .stdin (.error _) => some { x with task := .exited }
  | .handlingInput, .stdin (.ok none) => some { x with task := .poll }
  | .handlingInput, .stdin (.ok (some line)) => some (x.typed lib line)
  | .sendPacket packet offset body, .write calls => some (x.sendPacket packet offset body calls)
  | .readServerReply body received read, .read arrival => some (x.readReply lib body received read arrival)
  | .poll, .poll poll =>
    match Socket.poll poll with
    | .error _ => some { x with task := .exited }
    | .ok revents => some { x with task := if revents.pollIn then .handleEvent .start else .handlingInput }
  | .handleEvent read, .read arrival => some (x.readEvent lib read arrival)
  | _, _ => none

end RunLoop

/-- The part of a request that has been sent while the rest has not. -/
def Task.begun : Task → Bytes
  | .sendPacket packet offset _ => packet.take offset
  | _ => []

/-- The part of a packet that has been read while the rest has not. -/
def Task.taken : Task → Bytes
  | .readServerReply _ _ read | .handleEvent read => read.taken
  | _ => []

/-- A request that some line makes some client send. -/
def Cli.IsRequest (request : Request) : Prop :=
  ∃ client line body, handlingInput client line = .exchange request body

/-- Whole requests have been sent, and the part of the one that is being sent; and the packets that
have been returned are the first of those that the server sends. -/
structure RunLoop.Aligned (sent : List Packet) (x : RunLoop) : Prop where
  requests : ∃ requests : List Request, (∀ r ∈ requests, IsRequest r) ∧
    x.written = requests.flatMap Request.packet ++ x.task.begun
  packets : ∃ consumed rest, sent = consumed ++ rest ∧ x.returned = consumed.map Packet.received ∧
    x.task.taken ++ x.unread = rest.flatMap Packet.bytes

/-- A call of the socket that makes a command fail comes before the first byte of its request, or of
the packet that the command is about to read. -/
def RunLoop.FailsBetweenPackets (x : RunLoop) : Event → Prop
  | .write calls =>
    match x.task with
    | .sendPacket packet offset _ => 0 < offset →
      ∃ bytesWritten, Socket.write (packet.drop offset) calls = .ok bytesWritten ∧ bytesWritten.val ≠ 0
    | _ => True
  | .read arrival =>
    match x.task with
    | .readServerReply _ _ read => read.taken ≠ [] →
      ∃ chunk, Socket.read (arrival.calls x.unread read.asked) = .ok chunk ∧
        (chunk.val = [] → read.readExact.consecutiveEmptyReads + 1 < maxConsecutiveEmptyReads)
    | _ => True
  | _ => True

/-- Whether a call returns, and returns such a value. -/
instance Except.decidableExistsOk {e : Except ε α} {p : α → Prop} [DecidablePred p] :
    Decidable (∃ a, e = .ok a ∧ p a) :=
  match e with
  | .ok a => decidable_of_iff (p a) ⟨fun h => ⟨a, rfl, h⟩, fun ⟨_, he, h⟩ => Except.ok.inj he ▸ h⟩
  | .error _ => .isFalse fun ⟨_, he, _⟩ => nomatch he

instance (x : RunLoop) (e : RunLoop.Event) : Decidable (x.FailsBetweenPackets e) := by
  cases e <;> unfold RunLoop.FailsBetweenPackets
  case write calls =>
    simp only
    split <;> infer_instance
  case read arrival =>
    simp only
    split <;> infer_instance
  all_goals infer_instance

/-- A request that is being sent is one, and has not been sent whole; a packet that is being read
has not been read whole. -/
def Task.Sound : Task → Prop
  | .sendPacket packet offset _ => ∃ request, IsRequest request ∧ packet = request.packet ∧ offset < packet.length
  | .readServerReply _ _ read | .handleEvent read => read.Wanting
  | .handlingInput | .poll | .exited => True

theorem Cli.IsRequest.wellFormed_frame {request : Request} (h : IsRequest request) :
    packetFraming.WellFormed request.frame := by
  obtain ⟨client, line, body, hline⟩ := h
  obtain ⟨-, clientAfterOk, hexchanges⟩ := (hline ▸ handled client line : Handled client _ _).exchanges
  exact Request.wellFormed_frame hexchanges.payload_length

/-- The begun part of a request is no packet. -/
theorem Task.Sound.next_begun {task : Task} (h : task.Sound) : packetFraming.next task.begun = none := by
  cases task with
  | sendPacket packet offset body =>
    obtain ⟨request, hrequest, rfl, hoffset⟩ := h
    exact Framing.next_take hrequest.wellFormed_frame hoffset
  | handlingInput | readServerReply | poll | handleEvent | exited => exact Framing.next_nil

/-- A read returns what comes next in the stream. -/
theorem Arrival.read_prefix {arrival : Arrival} {unread : Bytes} {size : Nat}
    {chunk : { data : Bytes // data.length ≤ size }}
    (h : Socket.read (arrival.calls unread size) = .ok chunk) :
    chunk.val ++ unread.drop chunk.val.length = unread := by
  have hread : ∀ {data : { data : Bytes // data.length ≤ size }},
      System.read (arrival.calls unread size).read = .ok data → data.val <+: unread := by
    intro data hdata
    cases hroom : arrival.room with
    | error errno => simp [System.read, calls, hroom, Except.map] at hdata
    | ok room =>
      simp only [System.read, calls, hroom, Except.map, Except.ok.injEq] at hdata
      exact hdata ▸ List.take_prefix _ _
  have hprefix : chunk.val <+: unread := by
    simp only [Socket.read] at h
    split at h
    · cases h
    · split at h
      · split at h
        · split at h
          · cases h
          · next hdata =>
            split at h
            · cases h
            · cases h
              exact hread hdata
        · cases h
      · split at h
        · exact hread h
        · cases h
          exact List.nil_prefix
  obtain ⟨more, rfl⟩ := hprefix
  rw [List.drop_left]

namespace RunLoop

variable {lib : LibCall → Int} {sent : List Packet} {x y : RunLoop}

/-- A failed command keeps both streams on the boundaries of packets exactly when it had nothing in
its hands. -/
theorem commandError_aligned (h : x.Aligned sent) (hsound : x.task.Sound) :
    x.commandError.Aligned sent ↔ x.task.begun = [] ∧ x.task.taken = [] := by
  obtain ⟨⟨requests, hrequests, hwritten⟩, consumed, rest, hsent, hreturned, hstream⟩ := h
  constructor
  · rintro ⟨⟨requests', hrequests', hwritten'⟩, consumed', rest', hsent', hreturned', hstream'⟩
    constructor
    · have hframes : ∀ requests : List Request, (∀ r ∈ requests, IsRequest r) →
          ∀ f ∈ requests.map Request.frame, packetFraming.WellFormed f := by
        intro requests hrequests
        rw [List.forall_mem_map]
        exact fun r hr => (hrequests r hr).wellFormed_frame
      refine Framing.eq_nil_of_join (hframes requests hrequests) (hframes requests' hrequests')
        hsound.next_begun ?_
      rw [Request.join_frames, Request.join_frames, ← hwritten]
      exact hwritten'.trans (List.append_nil _)
    · have hlength : consumed.length = consumed'.length := by
        have := congrArg List.length (hreturned.symm.trans hreturned')
        simpa using this
      obtain ⟨-, rfl⟩ := List.append_inj (hsent.symm.trans hsent') hlength
      have hunread : x.unread = rest.flatMap Packet.bytes := hstream'
      rw [← hunread] at hstream
      simpa using hstream
  · rintro ⟨hbegun, htaken⟩
    refine ⟨⟨requests, hrequests, ?_⟩, consumed, rest, hsent, hreturned, ?_⟩
    · rw [hbegun] at hwritten
      exact hwritten
    · rw [htaken] at hstream
      exact hstream

/-- The last byte of a packet has been read. -/
theorem Aligned.returned {frame : Framing.Frame UInt8} {chunk : Bytes} (h : x.Aligned sent)
    (hframe : packetFraming.WellFormed frame) (htaken : frame.1 ++ frame.2 = x.task.taken ++ chunk)
    (hchunk : chunk ++ x.unread.drop chunk.length = x.unread) (hbegun : x.task.begun = [])
    (hwritten : y.written = x.written) (hunread : y.unread = x.unread.drop chunk.length)
    (hreturned : y.returned = x.returned ++ [receivedFrame frame]) (htask : y.task.begun = [] ∧ y.task.taken = []) :
    y.Aligned sent := by
  obtain ⟨⟨requests, hrequests, hall⟩, consumed, rest, hsent, hbefore, hstream⟩ := h
  have hsplit : rest.flatMap Packet.bytes = frame.1 ++ frame.2 ++ y.unread := by
    rw [← hstream, htaken, hunread, List.append_assoc, hchunk]
  have hnext := packetFraming.next_eq_some.mpr ⟨hsplit, hframe⟩
  refine ⟨⟨requests, hrequests, ?_⟩, ?_⟩
  · rw [hwritten, hall, hbegun, htask.1]
  · cases rest with
    | nil =>
      rw [List.flatMap_nil, Framing.next_nil] at hnext
      cases hnext
    | cons p rest =>
      have hhead : (p :: rest).flatMap Packet.bytes = p.frame.1 ++ p.frame.2 ++ rest.flatMap Packet.bytes := by
        rw [List.flatMap_cons, p.bytes_eq]
        rfl
      have hnext' := packetFraming.next_eq_some.mpr ⟨hhead, p.wellFormed_frame⟩
      obtain ⟨rfl, hrest⟩ := Prod.mk.inj (Option.some.inj (hnext.symm.trans hnext'))
      refine ⟨consumed ++ [p], rest, by simpa using hsent, ?_, ?_⟩
      · rw [hreturned, hbefore, List.map_append, List.map_singleton, receivedFrame_frame]
      · rw [htask.2, hrest, List.nil_append]

/-- What a call of `Socket::write` does to both streams. -/
theorem sendPacket_aligned {packet : Bytes} {offset : Nat} {body : Body} (calls : WriteCalls)
    (h : x.Aligned sent) (hsound : x.task.Sound) (htask : x.task = .sendPacket packet offset body) :
    (x.sendPacket packet offset body calls).task.Sound ∧
      ((x.sendPacket packet offset body calls).Aligned sent ↔ x.FailsBetweenPackets (.write calls)) := by
  have hrequest := hsound
  rw [htask] at hrequest
  obtain ⟨request, hmade, rfl, hoffset⟩ := hrequest
  have hbegun : x.task.begun = [] ↔ ¬ 0 < offset := by
    rw [htask, Task.begun, List.take_eq_nil_iff, ← List.length_eq_zero_iff]
    omega
  have htaken : x.task.taken = [] := by rw [htask]; rfl
  simp only [FailsBetweenPackets, htask, sendPacket]
  have hfailed : (¬ ∃ n, Socket.write (request.packet.drop offset) calls = .ok n ∧ n.val ≠ 0) →
      (x.commandError.Aligned sent ↔
        (0 < offset → ∃ n, Socket.write (request.packet.drop offset) calls = .ok n ∧ n.val ≠ 0)) := by
    intro hnone
    rw [commandError_aligned h hsound, hbegun, and_iff_left htaken]
    exact ⟨fun hoffset hpos => absurd hpos hoffset, fun hsome hpos => hnone (hsome hpos)⟩
  split
  · next thrown hwrite => exact ⟨trivial, hfailed (by simp [hwrite])⟩
  · next bytesWritten hwrite =>
    split
    · next hzero =>
      refine ⟨trivial, hfailed ?_⟩
      rintro ⟨n, hn, hsome⟩
      cases hwrite.symm.trans hn
      exact hsome hzero
    · next hsome =>
      obtain ⟨⟨requests, hrequests, hwritten⟩, consumed, rest, hsent, hreturned, hstream⟩ := h
      rw [htaken] at hstream
      have hnow : x.written ++ (request.packet.drop offset).take bytesWritten =
          requests.flatMap Request.packet ++ request.packet.take (offset + bytesWritten) := by
        rw [hwritten, htask, Task.begun, List.take_add, List.append_assoc]
      have hcondition : 0 < offset → ∃ n, Socket.write (request.packet.drop offset) calls = .ok n ∧ n.val ≠ 0 :=
        fun _ => ⟨bytesWritten, hwrite, hsome⟩
      split
      · next hmore =>
        refine ⟨⟨request, hmade, rfl, hmore⟩, iff_of_true ?_ hcondition⟩
        exact ⟨⟨requests, hrequests, hnow⟩, consumed, rest, hsent, hreturned, hstream⟩
      · next hdone =>
        refine ⟨PacketRead.wanting_start, iff_of_true ?_ hcondition⟩
        refine ⟨⟨requests ++ [request], ?_, ?_⟩, consumed, rest, hsent, hreturned, ?_⟩
        · intro r hr
          rcases List.mem_append.mp hr with hr | hr
          · exact hrequests r hr
          · exact List.mem_singleton.mp hr ▸ hmade
        · have hall : request.packet.length ≤ offset + bytesWritten := Nat.le_of_not_lt hdone
          rw [List.take_of_length_le hall] at hnow
          simp [hnow, Task.begun]
        · exact hstream

theorem readSocket_error {read : PacketRead} {arrival : Arrival} {thrown : Thrown}
    (hcall : Socket.read (arrival.calls x.unread read.asked) = .error thrown) :
    x.readSocket read arrival = (x, .threw) := by
  rw [readSocket, hcall]

theorem readSocket_ok {read : PacketRead} {arrival : Arrival} {chunk : { data : Bytes // data.length ≤ read.asked }}
    (hcall : Socket.read (arrival.calls x.unread read.asked) = .ok chunk) :
    x.readSocket read arrival = ({ x with unread := x.unread.drop chunk.val.length }, read.turn chunk.val) := by
  rw [readSocket, hcall]

/-- What one read of a packet comes to: nothing is lost unless the read fails. -/
theorem readSocket_cases {read : PacketRead} (arrival : Arrival) (h : x.Aligned sent) (hread : read.Wanting)
    (htaken : x.task.taken = read.taken) (hbegun : x.task.begun = []) :
    (x.readSocket read arrival = (x, .threw) ∧
      ¬ ∃ chunk, Socket.read (arrival.calls x.unread read.asked) = .ok chunk ∧
        (chunk.val = [] → read.readExact.consecutiveEmptyReads + 1 < maxConsecutiveEmptyReads)) ∨
    ((∃ chunk, Socket.read (arrival.calls x.unread read.asked) = .ok chunk ∧
        (chunk.val = [] → read.readExact.consecutiveEmptyReads + 1 < maxConsecutiveEmptyReads)) ∧
      ((∃ z read', x.readSocket read arrival = (z, .reading read') ∧ read'.Wanting ∧
          ∀ task : Task, task.begun = [] → task.taken = read'.taken → { z with task := task }.Aligned sent) ∨
        ∃ z frame, x.readSocket read arrival = (z, .returned frame) ∧ ∀ y : RunLoop,
          y.written = z.written → y.unread = z.unread → y.returned = z.returned ++ [receivedFrame frame] →
          y.task.begun = [] → y.task.taken = [] → y.Aligned sent)) := by
  cases hcall : Socket.read (arrival.calls x.unread read.asked) with
  | error thrown => exact .inl ⟨readSocket_error hcall, by simp⟩
  | ok chunk =>
    rw [readSocket_ok hcall]
    have hchunk := Arrival.read_prefix hcall
    rcases hread.turn_cases chunk.2 with ⟨hturn, hnil, hpatient⟩ | ⟨read', hturn, hread', hnext, hpatient⟩ |
      ⟨frame, hturn, hframe, hnext, hnil⟩
    · refine .inl ⟨?_, ?_⟩
      · rw [hturn, hnil]
        rfl
      · rintro ⟨chunk', hchunk', himpatient⟩
        cases hchunk'
        have := himpatient hnil
        omega
    · refine .inr ⟨⟨chunk, rfl, hpatient⟩, .inl ⟨_, read', by rw [hturn], hread', ?_⟩⟩
      intro task htask htask'
      obtain ⟨⟨requests, hrequests, hwritten⟩, consumed, rest, hsent, hreturned, hstream⟩ := h
      refine ⟨⟨requests, hrequests, ?_⟩, consumed, rest, hsent, hreturned, ?_⟩
      · rw [hwritten, hbegun, htask]
      · rw [htask', hnext, List.append_assoc, hchunk, ← htaken]
        exact hstream
    · refine .inr ⟨⟨chunk, rfl, fun hempty => absurd hempty hnil⟩, .inr ⟨_, frame, by rw [hturn], ?_⟩⟩
      intro y hwritten hunread hreturned hbegun' htaken'
      exact h.returned hframe (htaken ▸ hnext) hchunk hbegun hwritten hunread hreturned ⟨hbegun', htaken'⟩

theorem readReply_aligned (lib : LibCall → Int) {body : Body} {received : Inbox} {read : PacketRead}
    (arrival : Arrival) (h : x.Aligned sent) (hsound : x.task.Sound)
    (htask : x.task = .readServerReply body received read) :
    (x.readReply lib body received read arrival).task.Sound ∧
      ((x.readReply lib body received read arrival).Aligned sent ↔ x.FailsBetweenPackets (.read arrival)) := by
  have hread : read.Wanting := by rwa [htask] at hsound
  have htaken : x.task.taken = read.taken := by rw [htask]; rfl
  have hbegun : x.task.begun = [] := by rw [htask]; rfl
  simp only [FailsBetweenPackets, htask, readReply]
  rcases readSocket_cases arrival h hread htaken hbegun with ⟨hcall, hnone⟩ |
    ⟨hserved, ⟨z, read', hcall, hread', haligned⟩ | ⟨z, frame, hcall, haligned⟩⟩
  · rw [hcall]
    refine ⟨trivial, ?_⟩
    rw [commandError_aligned h hsound]
    simp [hbegun, htaken, hnone]
  · rw [hcall]
    exact ⟨hread', iff_of_true (haligned _ rfl rfl) fun _ => hserved⟩
  · rw [hcall]
    simp only [handlePacket]
    split
    · exact ⟨PacketRead.wanting_start, iff_of_true (haligned _ rfl rfl rfl rfl rfl) fun _ => hserved⟩
    · exact ⟨trivial, iff_of_true (haligned _ rfl rfl rfl rfl rfl) fun _ => hserved⟩

/-- What fails in `handleEvent` ends the client; what does not loses nothing. -/
theorem readEvent_aligned (lib : LibCall → Int) {read : PacketRead} (arrival : Arrival)
    (h : x.Aligned sent) (hsound : x.task.Sound) (htask : x.task = .handleEvent read) :
    (x.readEvent lib read arrival).task.Sound ∧
      ((x.readEvent lib read arrival).task ≠ .exited → (x.readEvent lib read arrival).Aligned sent) := by
  have hread : read.Wanting := by rwa [htask] at hsound
  have htaken : x.task.taken = read.taken := by rw [htask]; rfl
  have hbegun : x.task.begun = [] := by rw [htask]; rfl
  simp only [readEvent]
  rcases readSocket_cases arrival h hread htaken hbegun with ⟨hcall, -⟩ |
    ⟨-, ⟨z, read', hcall, hread', haligned⟩ | ⟨z, frame, hcall, haligned⟩⟩
  · rw [hcall]
    exact ⟨trivial, fun hexited => (hexited rfl).elim⟩
  · rw [hcall]
    exact ⟨hread', fun _ => haligned _ rfl rfl⟩
  · rw [hcall]
    simp only
    split
    · exact ⟨trivial, fun _ => haligned _ rfl rfl rfl rfl rfl⟩
    · exact ⟨trivial, fun hexited => (hexited rfl).elim⟩

/-- Between packets, the client may turn to something else. -/
theorem Aligned.turns {task : Task} (h : x.Aligned sent) (hbegun : x.task.begun = []) (htaken : x.task.taken = [])
    (htask : task.begun = [] ∧ task.taken = []) (client : Cli.Client) :
    { x with client := client, task := task }.Aligned sent := by
  obtain ⟨⟨requests, hrequests, hwritten⟩, consumed, rest, hsent, hreturned, hstream⟩ := h
  refine ⟨⟨requests, hrequests, ?_⟩, consumed, rest, hsent, hreturned, ?_⟩
  · rw [hwritten, hbegun, htask.1]
  · rw [htask.2, ← htaken]
    exact hstream

theorem typed_aligned (lib : LibCall → Int) (line : Bytes) (h : x.Aligned sent) (htask : x.task = .handlingInput) :
    (x.typed lib line).task.Sound ∧ (x.typed lib line).Aligned sent := by
  have hbegun : x.task.begun = [] := by rw [htask]; rfl
  have htaken : x.task.taken = [] := by rw [htask]; rfl
  simp only [typed]
  split
  · exact ⟨trivial, h.turns hbegun htaken ⟨rfl, rfl⟩ _⟩
  · next request body hline =>
    refine ⟨⟨request, ⟨x.client, line, body, hline⟩, rfl, request.length_packet_pos⟩, ?_⟩
    exact h.turns hbegun htaken ⟨rfl, rfl⟩ _

theorem sendPacket_runs {packet : Bytes} {offset : Nat} {body : Body} {calls : WriteCalls} :
    (x.sendPacket packet offset body calls).task ≠ .exited := by
  simp only [sendPacket]
  split
  · simp [commandError]
  · split
    · simp [commandError]
    · simp only
      split <;> simp

/-- What a command throws is caught. -/
theorem readReply_runs {body : Body} {received : Inbox} {read : PacketRead} {arrival : Arrival} :
    (x.readReply lib body received read arrival).task ≠ .exited := by
  simp only [readReply]
  split
  · simp [commandError]
  · simp
  · simp only [handlePacket]
    split <;> simp

/-- One step keeps both streams on the boundaries of packets exactly when it does not make a
command fail within one. -/
theorem step_aligned {e : Event} (hsound : x.task.Sound) (h : x.task ≠ .exited → x.Aligned sent)
    (hs : x.step lib e = some y) :
    y.task.Sound ∧ ((y.task ≠ .exited → y.Aligned sent) ↔ x.FailsBetweenPackets e) := by
  cases htask : x.task with
  | handlingInput =>
    have haligned : x.Aligned sent := h (by simp [htask])
    cases e with
    | stdin line =>
      have hcondition : x.FailsBetweenPackets (.stdin line) := trivial
      rcases line with errno | _ | line
      · simp only [step, htask] at hs
        cases hs
        exact ⟨trivial, iff_of_true (fun hexited => (hexited rfl).elim) hcondition⟩
      · simp only [step, htask] at hs
        cases hs
        refine ⟨trivial, iff_of_true (fun _ => haligned.turns ?_ ?_ ⟨rfl, rfl⟩ _) hcondition⟩
        · rw [htask]; rfl
        · rw [htask]; rfl
      · simp only [step, htask] at hs
        cases hs
        obtain ⟨hsound', haligned'⟩ := typed_aligned lib line haligned htask
        exact ⟨hsound', iff_of_true (fun _ => haligned') hcondition⟩
    | write | read | poll => simp [step, htask] at hs
  | sendPacket packet offset body =>
    have haligned : x.Aligned sent := h (by simp [htask])
    cases e with
    | write calls =>
      simp only [step, htask] at hs
      cases hs
      obtain ⟨hsound', haligned'⟩ := sendPacket_aligned calls haligned hsound htask
      exact ⟨hsound', (imp_iff_right sendPacket_runs).trans haligned'⟩
    | stdin | read | poll => simp [step, htask] at hs
  | readServerReply body received read =>
    have haligned : x.Aligned sent := h (by simp [htask])
    cases e with
    | read arrival =>
      simp only [step, htask] at hs
      cases hs
      obtain ⟨hsound', haligned'⟩ := readReply_aligned lib arrival haligned hsound htask
      exact ⟨hsound', (imp_iff_right readReply_runs).trans haligned'⟩
    | stdin | write | poll => simp [step, htask] at hs
  | poll =>
    have haligned : x.Aligned sent := h (by simp [htask])
    cases e with
    | poll result =>
      have hcondition : x.FailsBetweenPackets (.poll result) := trivial
      have hbegun : x.task.begun = [] := by rw [htask]; rfl
      have htaken : x.task.taken = [] := by rw [htask]; rfl
      simp only [step, htask] at hs
      split at hs
      · cases hs
        exact ⟨trivial, iff_of_true (fun hexited => (hexited rfl).elim) hcondition⟩
      · next revents _ =>
        cases hs
        cases revents.pollIn with
        | true =>
          refine ⟨PacketRead.wanting_start, iff_of_true (fun _ => ?_) hcondition⟩
          exact haligned.turns hbegun htaken ⟨rfl, rfl⟩ _
        | false => exact ⟨trivial, iff_of_true (fun _ => haligned.turns hbegun htaken ⟨rfl, rfl⟩ _) hcondition⟩
    | stdin | write | read => simp [step, htask] at hs
  | handleEvent read =>
    have haligned : x.Aligned sent := h (by simp [htask])
    cases e with
    | read arrival =>
      simp only [step, htask] at hs
      cases hs
      obtain ⟨hsound', haligned'⟩ := readEvent_aligned lib arrival haligned hsound htask
      have hcondition : x.FailsBetweenPackets (.read arrival) := by simp [FailsBetweenPackets, htask]
      exact ⟨hsound', iff_of_true haligned' hcondition⟩
    | stdin | write | poll => simp [step, htask] at hs
  | exited => simp [step, htask] at hs

/-- In every run of the client, on every schedule of its socket and with every sequence of packets
from the server, both streams are on the boundaries of packets in every state in which the client
goes on, exactly when no command fails within a packet. -/
theorem aligned_iff_failsBetweenPackets {events : List Event}
    (hrun : Runs.run (step lib) (start sent) events = some x) :
    (∀ es₁ es₂ y, events = es₁ ++ es₂ → Runs.run (step lib) (start sent) es₁ = some y →
      y.task ≠ .exited → y.Aligned sent) ↔
    Runs.Always (step lib) FailsBetweenPackets (start sent) events := by
  have hstart : (start sent).Aligned sent := ⟨⟨[], by simp, rfl⟩, [], sent, rfl, rfl, rfl⟩
  refine Runs.forall_prefix_iff_always (Q := fun x => x.task.Sound)
    (P := fun x => x.task ≠ .exited → x.Aligned sent) (W := fun _ _ => True) ?_ trivial (fun _ => hstart)
    (Runs.always_of_forall (fun _ _ => trivial) _ _) hrun
  intro x e y hsound h _ hs
  exact step_aligned hsound h hs

/-- `n` bytes have arrived. -/
def arrived (n : Nat) : Event := .read ⟨.ok .input, .ok n⟩

/-- Nothing has arrived. -/
def nothingYet : Event := .read ⟨.ok .none, .ok 0⟩

/-- A line is typed, and the socket takes all that is sent for it. -/
def asks (line : String) : List Event := [.stdin (.ok (some (bytesOf line))), .write ⟨.ok .inputOutput, .ok 600⟩]

/-- The replies to two requests of a client that is not logged in. -/
def refusals : List Packet := [.ofStatus .unauthorized, .ofStatus .unauthorized]

/-- The socket is not writable at first, and the second reply comes in two parts. -/
def slowRun : List Event :=
  [.stdin (.ok (some (bytesOf "/users"))), .write ⟨.ok .none, .ok 0⟩, .poll (.ok .none)] ++
    asks "/users" ++ [arrived 4, .poll (.ok .none)] ++ asks "/users" ++ [arrived 3, nothingYet, arrived 1]

theorem aligned_iff_failsBetweenPackets_slow : ∃ x, Runs.run (step fun _ => 0) (start refusals) slowRun = some x ∧
    x.returned = refusals.map Packet.received ∧ (x.task ≠ .exited → x.Aligned refusals) := by
  have hreturned : (Runs.run (step fun _ => 0) (start refusals) slowRun).map returned =
      some (refusals.map Packet.received) := by decide +kernel
  obtain ⟨x, hx, hreturned⟩ := Option.map_eq_some_iff.mp hreturned
  have halways : Runs.Always (step fun _ => 0) FailsBetweenPackets (start refusals) slowRun := by decide +kernel
  have haligned := (aligned_iff_failsBetweenPackets hx).mpr halways
  exact ⟨x, hx, hreturned, haligned slowRun [] x (List.append_nil _).symm hx⟩

/-- The last byte of the reply to `/users` is more than five seconds late, and the user asks again. -/
def lateByte : List Event :=
  asks "/users" ++ [arrived 3] ++ List.replicate maxConsecutiveEmptyReads nothingYet ++ [.poll (.ok .none)] ++
    asks "/users" ++ [arrived 4, arrived 1]

/-- What the client takes for a packet starts with that byte. -/
theorem not_aligned : ∃ x, Runs.run (step fun _ => 0) (start refusals) lateByte = some x ∧ x.task ≠ .exited ∧
    ∃ packet ∈ x.returned, packet ∉ refusals.map Packet.received := by
  have hfacts : ((Runs.run (step fun _ => 0) (start refusals) lateByte).map fun x =>
      (x.returned, match x.task with | .exited => false | _ => true)) =
      some ([(⟨0x9100, 1⟩, [0])], true) := by decide +kernel
  obtain ⟨x, hx, hfacts⟩ := Option.map_eq_some_iff.mp hfacts
  obtain ⟨hreturned, hrunning⟩ := Prod.mk.inj hfacts
  refine ⟨x, hx, ?_, _, hreturned ▸ List.mem_singleton_self _, by decide⟩
  intro hexited
  rw [hexited] at hrunning
  cases hrunning

end RunLoop

end TeamsMirror
