import TeamsMirror.Server.Naming

/-!
# Letters

A private message as its sender, its receiver, its time and its text. What a
`CMD_SEND` asks for is read from its payload; what a stored message says is read
from its buffers; a conversation is listed from the stored messages.
-/

namespace TeamsMirror

open Lists

structure Letter where
  sender : Bytes
  receiver : Bytes
  sentAt : Int64
  body : Bytes
deriving DecidableEq

namespace Letter

/-- In either direction. -/
def Between (a b : Bytes) (l : Letter) : Bool :=
  (l.sender = b && l.receiver = a) || (l.sender = a && l.receiver = b)

/-- The entry of a conversation that shows the letter. -/
def entry (l : Letter) : Packet :=
  ⟨.messagesList, .rplMessage
    { senderUuid := .copyPadded _ l.sender
      messageTimestamp := l.sentAt.toUInt64
      messageBody := .copyPadded _ l.body }⟩

/-- The texts of the entry are read back to those of the letter. -/
structure Legible (l : Letter) : Prop where
  sender : extractFixedString (CharArray.copyPadded uuidLength l.sender).bytes = some l.sender
  body : extractFixedString (CharArray.copyPadded maxBodyLength l.body).bytes = some l.body

theorem between_comm (a b : Bytes) (l : Letter) : l.Between a b = l.Between b a := by
  rw [Between, Between, Bool.or_comm]

end Letter

def Message.letter (m : Message) : Letter := ⟨m.authorUuid.bytes, m.receiverUuid.bytes, m.createdAt, m.body.bytes⟩

theorem extractFixedString_stored {n : Nat} (h : 0 < n) (text : CString n) :
    extractFixedString (CharArray.copyPadded n text.bytes).bytes = some text.bytes := by
  rw [extractFixedString_copyPadded h, List.take_of_length_le text.fits, beforeNul_eq_self text.noNul]

theorem Message.legible_letter (m : Message) : m.letter.Legible :=
  ⟨extractFixedString_stored (by decide) m.authorUuid, extractFixedString_stored (by decide) m.body⟩

/-- A conversation is filtered from letters as from messages. -/
theorem map_letter_filterMessages (messages : List Message) (a b : Bytes) :
    (filterMessages messages a b).map Message.letter = (messages.map Message.letter).filter (Letter.Between a b) := by
  rw [List.filter_map]
  rfl

/-- What a `CMD_SEND` asks for. -/
def CommandContext.sendRequest (context : CommandContext) : Option Letter :=
  (context.authenticatedUsersByFd.lookup context.clientFd).bind fun sender =>
    let request : PayloadReqSendMsg := Packed.ofBytes context.payloadData
    (extractFixedString request.targetUuid.bytes).bind fun receiver =>
      (extractFixedString request.messageBody.bytes).map fun body =>
        ⟨sender, receiver, context.environment.now, body⟩

/-- The letter of a `CMD_SEND` that an event answers with `RPL_OK`. -/
def Server.acceptedLetter (s : Server) (queued : List (Fd × Packet)) : Event → Option Letter
  | .dispatch fd environment =>
    (peekPacket (s.clientManager.getIncomingBuffer fd)).bind fun (header, payload) =>
      if header.code = CommandID.send.code ∧ (fd, Packet.ofStatus .ok) ∈ queued then
        (s.context fd payload environment).sendRequest
      else none
  | _ => none

variable {context : CommandContext}

/-- A refused request stores nothing and is not answered `RPL_OK`. -/
theorem queueStatus_notOk (hqueued : context.queued = []) {status : StatusCode} (h : status ≠ .ok) :
    (queueStatus context status).messages = context.messages ∧
      (context.clientFd, Packet.ofStatus .ok) ∉ (queueStatus context status).queued := by
  refine ⟨rfl, ?_⟩
  simp only [queueStatus, queuePacket, hqueued, List.nil_append, List.mem_singleton, Prod.mk.injEq, true_and]
  intro he
  exact h (congrArg Packet.status he).symm

/-- The message that is stored for a request has all that was asked for. -/
theorem sendRequest_eq_letter (hknown : context.toServer.Known) {author target body : Bytes} {message : Message}
    (hauthor : context.authenticatedUsersByFd.lookup context.clientFd = some author)
    (htarget : extractFixedString
      (Packed.ofBytes (α := PayloadReqSendMsg) context.payloadData).targetUuid.bytes = some target)
    (hbody : extractFixedString
      (Packed.ofBytes (α := PayloadReqSendMsg) context.payloadData).messageBody.bytes = some body)
    (hvalid : isUuidFormatValid target = true)
    (hmessage : message = Message.new (generateUuid context.environment.draw) author context.environment.now
      body target) : context.sendRequest = some message.letter := by
  have hreceiver : (CString.copyBuffer uuidLength target).bytes = target := bytes_copyBuffer_uuid hvalid
  have hsender : (CString.copyBuffer uuidLength author).bytes = author := by
    obtain ⟨user, -, -, rfl⟩ := hknown.exists_user hauthor
    rw [CString.copyBuffer_bytes]
  rw [CommandContext.sendRequest, hauthor, hmessage]
  simp [htarget, hbody, Message.letter, Message.new, hsender, hreceiver, fits_of_extract hbody]

/-- `handleSendCommand` stores the letter that it is asked to send when it answers `RPL_OK`, and
nothing otherwise. -/
theorem handleSend_recorded (hknown : context.toServer.Known) (hqueued : context.queued = []) :
    ((handleSendCommand context).messages = context.messages ∧
        (context.clientFd, Packet.ofStatus .ok) ∉ (handleSendCommand context).queued) ∨
      ∃ m : Message, (handleSendCommand context).messages = context.messages ++ [m] ∧
        (context.clientFd, Packet.ofStatus .ok) ∈ (handleSendCommand context).queued ∧
        context.sendRequest = some m.letter := by
  generalize hended : handleSendCommand context = ended
  cases handleSend_cases hended with
  | @refused status hstatus =>
    have hrefusals : ∀ status ∈ refusals .send, status ≠ .ok := by decide
    exact .inl (queueStatus_notOk hqueued (hrefusals status hstatus))
  | @sent author target body message _ hauthor htarget hbody hvalid _ _ hmessage =>
    refine .inr ⟨message, ?_, ?_, sendRequest_eq_letter hknown hauthor htarget hbody hvalid hmessage⟩
    · rw [toServer_perform]
      rfl
    · rw [queued_perform]
      exact List.mem_append_right _ (List.mem_append_right _ List.mem_cons_self)

/-- Other commands store no message. -/
theorem Effect.messages_eq {command : CommandID} {s : Server} {packets : List (Fd × Packet)}
    (h : Effect context command s packets) (hcommand : command ≠ .send) : s.messages = context.messages := by
  cases h with
  | sent => exact absurd rfl hcommand
  | refused | unknownUser | answered | registered | loggedIn | loggedOut | loggedOutUnknown | subscribed
  | unsubscribed | used | createdTeam | createdChannel | createdThread | createdReply => rfl

namespace Server

/-- An event stores the letter that it accepts, if any. -/
theorem letters_step {s s' : Server} {e : Event} {queued : List (Fd × Packet)} (hknown : s.Known)
    (hs : s.handle e = some (s', queued)) :
    s'.messages.map Message.letter = s.messages.map Message.letter ++ (s.acceptedLetter queued e).toList := by
  cases e with
  | accept fd =>
    obtain ⟨-, rfl, -⟩ := handle_accept hs
    exact (List.append_nil _).symm
  | receive fd chunk =>
    obtain ⟨-, -, rfl⟩ := handle_receive hs
    exact (List.append_nil _).symm
  | dispatch fd environment =>
    obtain ⟨header, payload, context', hpeek, hd, rfl, rfl⟩ := handle_dispatch_context hs
    simp only [acceptedLetter, hpeek, Option.bind_some]
    by_cases hcode : header.code = CommandID.send.code
    · rw [hcode] at hd
      obtain rfl := Option.some.inj hd
      have hcontext : (s.context fd payload environment).toServer.Known := hknown
      rcases handleSend_recorded hcontext rfl with
        ⟨hsame, hrefused⟩ | ⟨m, hstored, haccepted, hrequest⟩
      · rw [if_neg fun h => hrefused h.2, hsame]
        exact (List.append_nil _).symm
      · rw [if_pos ⟨hcode, haccepted⟩, hrequest, hstored, List.map_append]
        rfl
    · rw [if_neg fun h => hcode h.1, Option.toList_none, List.append_nil]
      by_cases hcommand : ∃ command : CommandID, header.code = command.code
      · obtain ⟨command, he⟩ := hcommand
        rw [he] at hd hcode
        obtain ⟨middle, packets, heffect, rfl⟩ := dispatch_command hd
        rw [toServer_perform]
        have hmessages := heffect.messages_eq fun h => hcode (h ▸ rfl)
        exact congrArg (List.map Message.letter) hmessages
      · rw [dispatch_unknown fun command he => hcommand ⟨command, he⟩] at hd
        cases hd
        rfl
  | flush fd n =>
    obtain ⟨-, -, -, rfl⟩ := handle_flush hs
    exact (List.append_nil _).symm
  | disconnect fd =>
    obtain ⟨-, middle, hd, rfl⟩ := handle_disconnect hs
    cases hd with
    | anonymous | known | unknown => exact (List.append_nil _).symm

/-- The target of the `CMD_MESSAGES` at the head of the connection's buffer, if there is one. -/
def askedConversation (s : Server) (fd : Fd) : Option Bytes :=
  (peekPacket (s.clientManager.getIncomingBuffer fd)).bind fun (header, payload) =>
    if header.code = CommandID.messages.code ∧ payload.length = sizeof PayloadReqTargetUser then
      extractFixedString (Packed.ofBytes (α := PayloadReqTargetUser) payload).targetUuid.bytes
    else none

/-- The next packet of the connection, logged in as the client, asks for the conversation with the target. -/
structure Asks (s : Server) (fd : Fd) (client target : Bytes) : Prop where
  client : s.authenticatedUsersByFd.lookup fd = some client
  target : s.askedConversation fd = some target

/-- The packets list a conversation among the letters: each once, in order, then one status. -/
def Lists (letters : List Letter) (fd : Fd) (client target : Bytes) (queued : List (Fd × Packet)) : Prop :=
  ∃ listed : List Letter, queued = listed.map (fun l => (fd, l.entry)) ++ [(fd, .ofStatus .ok)] ∧
    listed.Perm (letters.filter (Letter.Between client target)) ∧
    (listed.Pairwise fun a b => a.sentAt ≤ b.sentAt) ∧ ∀ l ∈ listed, l.Legible

/-- A request for a conversation is answered, whatever the outside does. -/
theorem Asks.answered {s : Server} {fd : Fd} {client target : Bytes} (h : s.Asks fd client target)
    (hfd : fd ∈ s.clientSockets) (environment : Environment) :
    ∃ s' queued, s.handle (.dispatch fd environment) = some (s', queued) := by
  have htarget := h.target
  rw [askedConversation] at htarget
  obtain ⟨⟨header, payload⟩, hpeek, htarget⟩ := Option.bind_eq_some_iff.mp htarget
  dsimp only at htarget
  split at htarget
  case isFalse => cases htarget
  next hasked =>
  have hdispatch : dispatchCommand (s.context fd payload environment) header.code =
      some (handleMessagesCommand (s.context fd payload environment)) := by
    rw [hasked.1]
    rfl
  simp [handle, hfd, hpeek, processPacket, hdispatch]

/-- The reply to a request for a conversation, in the order that the sort leaves. -/
theorem Asks.queued_eq {s s' : Server} {fd : Fd} {client target : Bytes} {environment : Environment}
    {queued : List (Fd × Packet)} (h : s.Asks fd client target) (hvalid : isUuidFormatValid target = true)
    (huser : (findUserByUuid s.users target).isSome) (hs : s.handle (.dispatch fd environment) = some (s', queued)) :
    queued = ((environment.sorter.sort (filterMessages s.messages client target)).map Message.letter).map
      (fun l => (fd, l.entry)) ++ [(fd, .ofStatus .ok)] := by
  obtain ⟨hclient, htarget⟩ := h
  obtain ⟨header, payload, context', hpeek, hd, rfl, -⟩ := handle_dispatch_context hs
  simp only [askedConversation, hpeek, Option.bind_some] at htarget
  split at htarget
  case isFalse => cases htarget
  next hasked =>
  obtain ⟨hcode, hsize⟩ := hasked
  rw [hcode] at hd
  obtain rfl := Option.some.inj hd
  have hclient' : (s.context fd payload environment).authenticatedUsersByFd.lookup fd = some client := hclient
  have hnone : ¬(findUserByUuid (s.context fd payload environment).users target).isNone = true := by
    simpa [Option.isSome_iff_ne_none] using huser
  have hsize' : ¬(s.context fd payload environment).payloadSize ≠ sizeof PayloadReqTargetUser := not_not.mpr hsize
  have htarget' : extractFixedString (Packed.ofBytes (α := PayloadReqTargetUser)
      (s.context fd payload environment).payloadData).targetUuid.bytes = some target := htarget
  have hfd : (s.context fd payload environment).clientFd = fd := rfl
  rw [handleMessagesCommand, if_neg hsize', hfd, hclient']
  simp only [htarget', if_neg (not_not.mpr hvalid), if_neg hnone]
  rw [queueMessages, queueStatus_queuePackets, queuePackets_eq, List.map_map]
  rfl

theorem Asks.lists {s s' : Server} {fd : Fd} {client target : Bytes} {environment : Environment}
    {queued : List (Fd × Packet)} (h : s.Asks fd client target) (hvalid : isUuidFormatValid target = true)
    (huser : (findUserByUuid s.users target).isSome) (hs : s.handle (.dispatch fd environment) = some (s', queued)) :
    Lists (s.messages.map Message.letter) fd client target queued := by
  refine ⟨(environment.sorter.sort (filterMessages s.messages client target)).map Message.letter,
    h.queued_eq hvalid huser hs, ?_, ?_, ?_⟩
  · rw [← map_letter_filterMessages]
    exact (environment.sorter.perm _).map Message.letter
  · exact List.pairwise_map.mpr (environment.sorter.sorted _)
  · intro l hl
    obtain ⟨m, -, rfl⟩ := List.mem_map.mp hl
    exact m.legible_letter

end Server

end TeamsMirror
