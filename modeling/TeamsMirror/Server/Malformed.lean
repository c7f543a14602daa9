import TeamsMirror.Server.Bounds
import TeamsMirror.Server.Inbound

/-!
# Requests with a text that does not end

What the layouts of the protocol call the texts of a request, without the handlers that
read them: a request one of whose texts has no NUL inside its field is refused, whatever
the state, and nothing else happens. Together with the checked reads of the packet, no
packet makes the server read outside of it.
-/

namespace TeamsMirror

/-- The sizes of the texts of a request, for each payload that the command has. Those of
a team and of a channel are the same. -/
def requestLayouts : CommandID → List (List Nat)
  | .login => [[maxNameLength]]
  | .userInfo | .messages | .subscribe | .unsubscribe | .subscribedList => [[uuidLength]]
  | .send => [[uuidLength, maxBodyLength]]
  | .use => [[uuidLength], [uuidLength, uuidLength, uuidLength]]
  | .create => [[maxNameLength, maxDescriptionLength], [maxNameLength, maxBodyLength], [maxBodyLength]]
  | .logout | .users | .list | .info => []

/-- A payload cut into fields. -/
def cutFields : List Nat → Bytes → List Bytes
  | [], _ => []
  | size :: sizes, payload => payload.take size :: cutFields sizes (payload.drop size)

/-- Some text of the request has no NUL in its field. -/
def Unterminated (command : CommandID) (payload : Bytes) : Prop :=
  ∃ layout ∈ requestLayouts command, payload.length = layout.sum ∧ ∃ field ∈ cutFields layout payload, 0 ∉ field

/-- The request is answered with an error, and that is all. -/
def Rejects (context context' : CommandContext) : Prop :=
  ∃ status : StatusCode, status.isError = true ∧ context' = queueStatus context status

variable {context : CommandContext}

theorem rejects_badRequest : Rejects context (queueStatus context .badRequest) := ⟨_, rfl, rfl⟩
theorem rejects_unauthorized : Rejects context (queueStatus context .unauthorized) := ⟨_, rfl, rfl⟩
theorem rejects_alreadyExist : Rejects context (queueStatus context .alreadyExist) := ⟨_, rfl, rfl⟩

theorem extractFixedString_eq_none {field : Bytes} (h : 0 ∉ field) : extractFixedString field = none :=
  if_neg h

theorem unterminated_single {command : CommandID} {size : Nat} (hlayouts : requestLayouts command = [[size]])
    {payload : Bytes} (h : Unterminated command payload) :
    payload.length = size ∧ 0 ∉ payload.take size := by
  obtain ⟨layout, hlayout, hlength, field, hfield, hnul⟩ := h
  rw [hlayouts] at hlayout
  cases List.mem_singleton.mp hlayout
  cases List.mem_singleton.mp hfield
  exact ⟨hlength, hnul⟩

theorem handleLogin_unterminated (h : Unterminated .login context.payloadData) :
    ∃ context', handleLoginCommand context = some context' ∧ Rejects context context' := by
  obtain ⟨hlength, hnul⟩ := unterminated_single rfl h
  have hsize : context.payloadSize = sizeof PayloadReqLogin := hlength
  have hfield : (Packed.ofBytes (α := PayloadReqLogin) context.payloadData).userName.bytes =
      context.payloadData.take maxNameLength := CharArray.bytes_read hlength.ge
  rw [handleLoginCommand, if_neg (not_not.mpr hsize)]
  split
  · exact ⟨_, rfl, rejects_alreadyExist⟩
  · simp only [hfield, extractFixedString_eq_none hnul]
    exact ⟨_, rfl, rejects_badRequest⟩

theorem handleUser_unterminated (h : Unterminated .userInfo context.payloadData) :
    Rejects context (handleUserCommand context) := by
  obtain ⟨hlength, hnul⟩ := unterminated_single rfl h
  have hsize : context.payloadSize = sizeof PayloadReqTargetUser := hlength
  have hfield : (Packed.ofBytes (α := PayloadReqTargetUser) context.payloadData).targetUuid.bytes =
      context.payloadData.take uuidLength := CharArray.bytes_read hlength.ge
  rw [handleUserCommand, if_neg (not_not.mpr hsize)]
  split
  · exact rejects_unauthorized
  · simp only [hfield, extractFixedString_eq_none hnul]
    exact rejects_badRequest

theorem handleMessages_unterminated (h : Unterminated .messages context.payloadData) :
    Rejects context (handleMessagesCommand context) := by
  obtain ⟨hlength, hnul⟩ := unterminated_single rfl h
  have hsize : context.payloadSize = sizeof PayloadReqTargetUser := hlength
  have hfield : (Packed.ofBytes (α := PayloadReqTargetUser) context.payloadData).targetUuid.bytes =
      context.payloadData.take uuidLength := CharArray.bytes_read hlength.ge
  rw [handleMessagesCommand, if_neg (not_not.mpr hsize)]
  split
  · exact rejects_unauthorized
  · simp only [hfield, extractFixedString_eq_none hnul]
    exact rejects_badRequest

theorem parseTeamUuid_unterminated (hlength : context.payloadData.length = uuidLength)
    (hnul : 0 ∉ context.payloadData.take uuidLength) : parseTeamUuidFromPayload context = none := by
  have hsize : context.payloadSize = sizeof PayloadReqTeamTarget := hlength
  have hfield : (Packed.ofBytes (α := PayloadReqTeamTarget) context.payloadData).teamUuid.bytes =
      context.payloadData.take uuidLength := CharArray.bytes_read hlength.ge
  rw [parseTeamUuidFromPayload, if_neg (not_not.mpr hsize)]
  simp only [hfield, extractFixedString_eq_none hnul, Option.filter_none]

theorem handleSubscribe_unterminated (h : Unterminated .subscribe context.payloadData) :
    Rejects context (handleSubscribeCommand context) := by
  obtain ⟨hlength, hnul⟩ := unterminated_single rfl h
  unfold handleSubscribeCommand
  split
  · exact rejects_unauthorized
  · rw [parseTeamUuid_unterminated hlength hnul]
    exact rejects_badRequest

theorem handleUnsubscribe_unterminated (h : Unterminated .unsubscribe context.payloadData) :
    Rejects context (handleUnsubscribeCommand context) := by
  obtain ⟨hlength, hnul⟩ := unterminated_single rfl h
  unfold handleUnsubscribeCommand
  split
  · exact rejects_unauthorized
  · rw [parseTeamUuid_unterminated hlength hnul]
    exact rejects_badRequest

theorem handleSubscribedList_unterminated (h : Unterminated .subscribedList context.payloadData) :
    Rejects context (handleSubscribedListCommand context) := by
  obtain ⟨hlength, hnul⟩ := unterminated_single rfl h
  have hsize : context.payloadSize ≠ 0 := by
    intro hzero
    cases hlength.symm.trans hzero
  unfold handleSubscribedListCommand
  split
  · exact rejects_unauthorized
  · rw [if_neg hsize, parseTeamUuid_unterminated hlength hnul]
    exact rejects_badRequest

/-- The first field of a structure; what follows it starts where it ends. -/
theorem bytes_first {α : Type} [Packed α] {n : Nat} {data : Bytes} (h : n ≤ data.length) :
    (Packed.ofBytes (α := CharArray n × α) data).1.bytes = data.take n := by
  have hlength : n ≤ (data.take n).length := (List.length_take_of_le h).ge
  have hread := CharArray.bytes_read hlength
  rw [List.take_take, Nat.min_self] at hread
  exact hread

/-- The second of two fields. -/
theorem bytes_second {n m : Nat} {data : Bytes} (h : data.length = n + m) :
    (Packed.ofBytes (α := CharArray n × CharArray m) data).2.bytes = (data.drop n).take m := by
  have hlength : m ≤ (data.drop n).length := by
    rw [List.length_drop]
    omega
  exact CharArray.bytes_read hlength

theorem handleSend_unterminated (h : Unterminated .send context.payloadData) :
    Rejects context (handleSendCommand context) := by
  obtain ⟨layout, hlayout, hlength, field, hfield, hnul⟩ := h
  cases List.mem_singleton.mp hlayout
  have hsize : context.payloadSize = sizeof PayloadReqSendMsg := hlength
  have hsplit : context.payloadData.length = uuidLength + maxBodyLength := hlength
  have htarget : (Packed.ofBytes (α := PayloadReqSendMsg) context.payloadData).targetUuid.bytes =
      context.payloadData.take uuidLength := bytes_first (α := CharArray maxBodyLength) (by omega)
  have hbody : (Packed.ofBytes (α := PayloadReqSendMsg) context.payloadData).messageBody.bytes =
      (context.payloadData.drop uuidLength).take maxBodyLength := bytes_second hsplit
  rw [handleSendCommand, if_neg (not_not.mpr hsize)]
  split
  · exact rejects_unauthorized
  · simp only [htarget, hbody]
    rcases List.mem_cons.mp hfield with rfl | hfield
    · rw [extractFixedString_eq_none hnul]
      cases extractFixedString ((context.payloadData.drop uuidLength).take maxBodyLength) <;>
        exact rejects_badRequest
    · cases List.mem_singleton.mp hfield
      rw [extractFixedString_eq_none hnul]
      exact rejects_badRequest

theorem extractOptionalUuid_eq_none {field : Bytes} (h : 0 ∉ field) : extractOptionalUuid field = none := by
  cases field with
  | nil => rfl
  | cons front rest =>
    have hfront : front ≠ 0 := fun he => h (he ▸ List.mem_cons_self)
    rw [extractOptionalUuid, if_neg hfront, extractFixedString_eq_none h, Option.filter_none]

theorem parseUsePayload_unterminated {payload : Bytes} (h : Unterminated .use payload) :
    (payload.length = sizeof PayloadReqTeamTarget ∨ payload.length = sizeof PayloadReqUse) ∧
      parseUsePayload payload = none := by
  obtain ⟨layout, hlayout, hlength, field, hfield, hnul⟩ := h
  rcases List.mem_cons.mp hlayout with rfl | hlayout
  · have hsize : payload.length = sizeof PayloadReqTeamTarget := hlength
    cases List.mem_singleton.mp hfield
    have hteam : (Packed.ofBytes (α := PayloadReqTeamTarget) payload).teamUuid.bytes =
        payload.take uuidLength := CharArray.bytes_read hlength.ge
    refine ⟨.inl hsize, ?_⟩
    rw [parseUsePayload, if_pos hsize]
    simp [hteam, extractOptionalUuid_eq_none hnul]
  · cases List.mem_singleton.mp hlayout
    have hsize : payload.length = sizeof PayloadReqUse := hlength
    have hlong : payload.length ≠ sizeof PayloadReqTeamTarget := hlength ▸ by decide
    have hsplit : payload.length = uuidLength + (uuidLength + uuidLength) := hlength
    have hrest : (payload.drop uuidLength).length = uuidLength + uuidLength := by
      rw [List.length_drop]
      omega
    have hfits : uuidLength ≤ (payload.drop uuidLength).length := by omega
    have hteam : (Packed.ofBytes (α := PayloadReqUse) payload).teamUuid.bytes =
        payload.take uuidLength := bytes_first (α := CharArray uuidLength × CharArray uuidLength) (by omega)
    have hchannel : (Packed.ofBytes (α := PayloadReqUse) payload).channelUuid.bytes =
        (payload.drop uuidLength).take uuidLength := bytes_first (α := CharArray uuidLength) hfits
    have hthread : (Packed.ofBytes (α := PayloadReqUse) payload).threadUuid.bytes =
        ((payload.drop uuidLength).drop uuidLength).take uuidLength := bytes_second hrest
    have hmissing : extractOptionalUuid (payload.take uuidLength) = none ∨
        extractOptionalUuid ((payload.drop uuidLength).take uuidLength) = none ∨
        extractOptionalUuid (((payload.drop uuidLength).drop uuidLength).take uuidLength) = none := by
      rcases List.mem_cons.mp hfield with rfl | hfield
      · exact .inl (extractOptionalUuid_eq_none hnul)
      · rcases List.mem_cons.mp hfield with rfl | hfield
        · exact .inr (.inl (extractOptionalUuid_eq_none hnul))
        · cases List.mem_singleton.mp hfield
          exact .inr (.inr (extractOptionalUuid_eq_none hnul))
    refine ⟨.inr hsize, ?_⟩
    rw [parseUsePayload, if_neg hlong]
    simp only [hteam, hchannel, hthread]
    rcases hmissing with hnone | hnone | hnone
    · rw [hnone]
      rfl
    · cases extractOptionalUuid (payload.take uuidLength) with
      | none => rfl
      | some teamUuid => simp [hnone]
    · cases extractOptionalUuid (payload.take uuidLength) with
      | none => rfl
      | some teamUuid =>
        cases extractOptionalUuid ((payload.drop uuidLength).take uuidLength) with
        | none => rfl
        | some channelUuid =>
          rw [hnone]
          rfl

theorem handleUse_unterminated (h : Unterminated .use context.payloadData) :
    Rejects context (handleUseCommand context) := by
  obtain ⟨hsize, hparse⟩ := parseUsePayload_unterminated h
  have hguard : ¬(context.payloadSize ≠ sizeof PayloadReqTeamTarget ∧
      context.payloadSize ≠ sizeof PayloadReqUse) := fun hboth => hsize.elim hboth.1 hboth.2
  rw [handleUseCommand, if_neg hguard]
  split
  · exact rejects_unauthorized
  · rw [hparse]
    exact rejects_badRequest

/-! The four requests of create: the payload is refused as each of them, since either its
size or one of its texts is wrong. -/

theorem create_layouts_by_size : ∀ layout ∈ requestLayouts .create, ∀ layout' ∈ requestLayouts .create,
    layout.sum = layout'.sum → layout = layout' := by decide

theorem unterminated_create {layout : List Nat} (hlayout : layout ∈ requestLayouts .create) {payload : Bytes}
    (h : Unterminated .create payload) (hlength : payload.length = layout.sum) :
    ∃ field ∈ cutFields layout payload, 0 ∉ field := by
  obtain ⟨layout', hlayout', hlength', field, hfield, hnul⟩ := h
  have hsum : layout.sum = layout'.sum := hlength.symm.trans hlength'
  have hsame := create_layouts_by_size layout hlayout layout' hlayout' hsum
  exact ⟨field, hsame ▸ hfield, hnul⟩

theorem parseTwoAt_unterminated {α : Type} [Packed α] {n m : Nat} {first : α → CharArray n}
    {second : α → CharArray m} {refused : Bytes → Bytes → Prop} [∀ a b, Decidable (refused a b)]
    (hsizeof : sizeof α = [n, m].sum) (hlayout : [n, m] ∈ requestLayouts .create)
    (hfirst : ∀ data, (first (Packed.ofBytes data)).bytes =
      (Packed.ofBytes (α := CharArray n × CharArray m) data).1.bytes)
    (hsecond : ∀ data, (second (Packed.ofBytes data)).bytes =
      (Packed.ofBytes (α := CharArray n × CharArray m) data).2.bytes)
    (h : Unterminated .create context.payloadData) :
    parseTwoAt α first second refused context = some none := by
  rw [parseTwoAt_eq]
  by_cases hsize : context.payloadSize = sizeof α
  · have hlength : context.payloadData.length = [n, m].sum := hsize.trans hsizeof
    obtain ⟨field, hfield, hnul⟩ := unterminated_create hlayout h hlength
    have hsum : [n, m].sum = n + m := rfl
    have hfront : (first (Packed.ofBytes context.payloadData)).bytes = context.payloadData.take n :=
      (hfirst _).trans (bytes_first (α := CharArray m) (by omega))
    have hback : (second (Packed.ofBytes context.payloadData)).bytes =
        (context.payloadData.drop n).take m :=
      (hsecond _).trans (bytes_second (by omega))
    rw [if_neg (not_not.mpr hsize)]
    simp only [hfront, hback]
    rcases List.mem_cons.mp hfield with rfl | hfield
    · rw [extractFixedString_eq_none hnul]
      rfl
    · cases List.mem_singleton.mp hfield
      rw [extractFixedString_eq_none hnul]
      cases extractFixedString (context.payloadData.take n) <;> rfl
  · rw [if_pos hsize]

theorem parseCreateTeam_unterminated (h : Unterminated .create context.payloadData) :
    parseCreateTeamPayload context = none :=
  Option.some.inj ((parseCreateTeamPayloadAt_eq context).symm.trans
    (parseTwoAt_unterminated rfl (by decide) (fun _ => rfl) (fun _ => rfl) h))

theorem parseCreateChannel_unterminated (h : Unterminated .create context.payloadData) :
    parseCreateChannelPayload context = none :=
  Option.some.inj ((parseCreateChannelPayloadAt_eq context).symm.trans
    (parseTwoAt_unterminated rfl (by decide) (fun _ => rfl) (fun _ => rfl) h))

theorem parseCreateThread_unterminated (h : Unterminated .create context.payloadData) :
    parseCreateThreadPayload context = none :=
  Option.some.inj ((parseCreateThreadPayloadAt_eq context).symm.trans
    (parseTwoAt_unterminated rfl (by decide) (fun _ => rfl) (fun _ => rfl) h))

theorem parseCreateReply_unterminated (h : Unterminated .create context.payloadData) :
    parseCreateReplyPayload context = none := by
  rw [parseCreateReplyPayload]
  by_cases hsize : context.payloadSize = sizeof PayloadReqCreateReply
  · have hlength : context.payloadData.length = [maxBodyLength].sum := hsize
    obtain ⟨field, hfield, hnul⟩ := unterminated_create (by decide) h hlength
    cases List.mem_singleton.mp hfield
    have hbody : (Packed.ofBytes (α := PayloadReqCreateReply) context.payloadData).replyBody.bytes =
        context.payloadData.take maxBodyLength := CharArray.bytes_read hlength.ge
    rw [if_neg (not_not.mpr hsize)]
    simp only [hbody, extractFixedString_eq_none hnul]
    rfl
  · rw [if_pos hsize]

theorem handleCreate_unterminated (h : Unterminated .create context.payloadData) :
    ∃ context', handleCreateCommand context = some context' ∧ Rejects context context' := by
  have hbad : ∃ context', some (queueStatus context .badRequest) = some context' ∧ Rejects context context' :=
    ⟨_, rfl, rejects_badRequest⟩
  unfold handleCreateCommand
  split
  · exact ⟨_, rfl, rejects_unauthorized⟩
  next user huser =>
  simp only [handleCreateTeam, parseCreateTeam_unterminated h, handleCreateChannel,
    parseCreateChannel_unterminated h, handleCreateThread, parseCreateThread_unterminated h,
    handleCreateReply, parseCreateReply_unterminated h]
  split
  · exact hbad
  · split
    · exact hbad
    · split
      · exact hbad
      · split
        · exact hbad
        · split <;> exact hbad

theorem dispatch_unterminated {command : CommandID} (h : Unterminated command context.payloadData) :
    ∃ context', dispatchCommand context command.code = some context' ∧ Rejects context context' := by
  cases command with
  | login => exact handleLogin_unterminated h
  | userInfo => exact ⟨_, rfl, handleUser_unterminated h⟩
  | send => exact ⟨_, rfl, handleSend_unterminated h⟩
  | messages => exact ⟨_, rfl, handleMessages_unterminated h⟩
  | subscribe => exact ⟨_, rfl, handleSubscribe_unterminated h⟩
  | unsubscribe => exact ⟨_, rfl, handleUnsubscribe_unterminated h⟩
  | subscribedList => exact ⟨_, rfl, handleSubscribedList_unterminated h⟩
  | use => exact ⟨_, rfl, handleUse_unterminated h⟩
  | create => exact handleCreate_unterminated h
  | logout | users | list | info =>
    obtain ⟨layout, hlayout, -⟩ := h
    cases hlayout

namespace Server

/-- The step that dispatches a packet, with every read of the packet checked. -/
def dispatchAt (s : Server) (fd : Fd) (environment : Environment) :
    Option (Option (Server × List (Fd × Packet))) :=
  if fd ∈ s.clientSockets then do
    match ← peekPacketAt (s.clientManager.getIncomingBuffer fd) with
    | none => some none
    | some (header, payload) =>
      let result ← processPacketAt s fd environment header payload
      some (result.map fun r => (r.1, r.2.queued))
  else some none

theorem dispatchAt_eq (s : Server) (fd : Fd) (environment : Environment) :
    s.dispatchAt fd environment = some (s.handle (.dispatch fd environment)) := by
  simp only [dispatchAt, handle, peekPacketAt_eq, processPacketAt_eq, Option.bind_eq_bind, Option.bind_some]
  split
  · cases peekPacket (s.clientManager.getIncomingBuffer fd) <;> rfl
  · rfl

/-- A packet is dispatched once all of it is there, and its payload is what it announced. -/
theorem buffered_of_peekPacket {buffer payload : Bytes} {header : PacketHeader}
    (h : peekPacket buffer = some (header, payload)) :
    ∃ headerData rest, buffer = headerData ++ payload ++ rest ∧
      headerData.length = sizeof PacketHeader ∧ header = Packed.ofBytes headerData ∧
      payload.length = header.payloadSize.toNat := by
  simp only [peekPacket] at h
  split at h
  · cases h
  next hheader =>
  split at h
  · cases h
  next hpacket =>
  obtain ⟨hdecoded, htaken⟩ := Prod.mk.inj (Option.some.inj h)
  rw [hdecoded] at htaken hpacket
  have hlength : (buffer.take (sizeof PacketHeader)).length = sizeof PacketHeader :=
    List.length_take_of_le (by omega)
  refine ⟨buffer.take (sizeof PacketHeader),
    (buffer.drop (sizeof PacketHeader)).drop header.payloadSize.toNat, ?_, hlength, hdecoded.symm, ?_⟩
  · rw [← htaken, List.append_assoc, List.take_append_drop, List.take_append_drop]
  · rw [← htaken, List.length_take_of_le]
    rw [List.length_drop]
    omega

/-- A status is queued for a connection, and a packet taken off its buffer. -/
def answered (s : Server) (fd : Fd) (status : StatusCode) (packetSize : Nat) : Server :=
  { s with
    clientManager := (s.clientManager.queueDataToSend fd (Packet.ofStatus status).bytes).consumeIncomingBuffer
      fd packetSize }

/-- A request with a text that does not end is consumed, answered with an error, and has no
other effect. -/
theorem handle_unterminated {s : Server} {fd : Fd} (hfd : fd ∈ s.clientSockets) {header : PacketHeader}
    {payload : Bytes} (hpeek : peekPacket (s.clientManager.getIncomingBuffer fd) = some (header, payload))
    {command : CommandID} (hcode : header.code = command.code) (hnul : Unterminated command payload)
    (environment : Environment) :
    ∃ status : StatusCode, status.isError = true ∧
      s.handle (.dispatch fd environment) = some
        (s.answered fd status (sizeof PacketHeader + payload.length), [(fd, Packet.ofStatus status)]) := by
  have hpayload : Unterminated command (s.context fd payload environment).payloadData := hnul
  obtain ⟨context', hdispatch, status, hstatus, rfl⟩ := dispatch_unterminated hpayload
  obtain ⟨-, -, -, -, -, hlength⟩ := buffered_of_peekPacket hpeek
  refine ⟨status, hstatus, ?_⟩
  simp only [handle, if_pos hfd, hpeek, processPacket, hcode, hdispatch, hlength]
  rfl

/-- Whatever the state and the bytes that a connection has sent, taking packets off its buffer
reads inside the buffer, every structure from a payload of exactly its size and every text from
its own field; a packet is taken only when its payload is there as announced; and a request with a
text that does not end is answered with one error and changes nothing else. -/
theorem reads_inside_packets (s : Server) (fd : Fd) :
    (∀ environment, s.dispatchAt fd environment = some (s.handle (.dispatch fd environment))) ∧
    (∀ oracle fuel, processClientIncomingPacketsAt oracle fd fuel s =
      some (processClientIncomingPackets oracle fd fuel s)) ∧
    ∀ header payload, peekPacket (s.clientManager.getIncomingBuffer fd) = some (header, payload) →
      (∃ headerData rest, s.clientManager.getIncomingBuffer fd = headerData ++ payload ++ rest ∧
        headerData.length = sizeof PacketHeader ∧ header = Packed.ofBytes headerData ∧
        payload.length = header.payloadSize.toNat) ∧
      ∀ command environment, fd ∈ s.clientSockets → header.code = command.code →
        Unterminated command payload →
        ∃ status : StatusCode, status.isError = true ∧
          s.handle (.dispatch fd environment) = some
            (s.answered fd status (sizeof PacketHeader + payload.length), [(fd, Packet.ofStatus status)]) := by
  refine ⟨s.dispatchAt_eq fd, fun oracle fuel => processClientIncomingPacketsAt_eq oracle fd fuel s, ?_⟩
  intro header payload hpeek
  exact ⟨buffered_of_peekPacket hpeek, fun command environment hfd hcode hnul =>
    handle_unterminated hfd hpeek hcode hnul environment⟩

/-- A login whose name fills its field. -/
theorem reads_inside_packets_long_name :
    let packet := Packed.toBytes (PacketHeader.mk 10 32) ++ List.replicate 32 97
    ∃ s : Server, s.Reachable ∧ s.dispatchAt 4 default = some (s.handle (.dispatch 4 default)) ∧
      s.clientManager.getIncomingBuffer 4 = packet ∧
      ∃ (status : StatusCode) (s' : Server), status.isError = true ∧
        s.handle (.dispatch 4 default) = some (s', [(4, Packet.ofStatus status)]) ∧ s'.users = s.users := by
  intro packet
  obtain ⟨s, hrun⟩ : ∃ s, Runs.run step (start 3 [] [] []) [.accept 4, .receive 4 packet] = some s :=
    ⟨_, rfl⟩
  have hfd : (4 : Fd) ∈ s.clientSockets := by
    cases hrun
    exact Finset.mem_insert_self _ _
  have hbuffer : s.clientManager.getIncomingBuffer 4 = packet := by
    cases hrun
    rfl
  have hpeek : peekPacket (s.clientManager.getIncomingBuffer 4) = some (⟨10, 32⟩, List.replicate 32 97) := by
    rw [hbuffer]
    decide
  have hnul : Unterminated .login (List.replicate 32 97) :=
    ⟨[maxNameLength], by decide, by decide, List.replicate 32 97, by decide, by decide⟩
  obtain ⟨hreads, -, hpackets⟩ := reads_inside_packets s 4
  obtain ⟨-, hreject⟩ := hpackets _ _ hpeek
  obtain ⟨status, hstatus, hhandle⟩ := hreject .login default hfd rfl hnul
  exact ⟨s, ⟨3, [], [], [], _, hrun⟩, hreads default, hbuffer, status, _, hstatus, hhandle, rfl⟩

end Server

end TeamsMirror
