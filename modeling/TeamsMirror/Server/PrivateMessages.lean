import TeamsMirror.Server.CommandUtils

/-!
# Private messages

Sending a message to a user, and listing a conversation.
-/

namespace TeamsMirror

/-- Deliver a message to the sessions that the reverse index holds for its receiver. -/
def sendMessage (context : CommandContext) (msg : Message) : CommandContext :=
  let (receivers, authenticatedUsersByUUID) :=
    UnorderedMap.getOrInsert msg.receiverUuid.bytes [] context.authenticatedUsersByUUID
  let context := { context with authenticatedUsersByUUID := authenticatedUsersByUUID }
  let payload : PayloadEvtPrivateMsg :=
    { senderUuid := .copyPadded _ msg.authorUuid.bytes, messageBody := .copyPadded _ msg.body.bytes }
  queuePackets context
    (receivers.map fun receiver => (receiver, ⟨.evtPrivateMsgRcvd, .evtPrivateMsg payload⟩))

def handleSendCommand (context : CommandContext) : CommandContext :=
  if context.payloadSize ≠ sizeof PayloadReqSendMsg then queueStatus context .badRequest
  else
    match context.authenticatedUsersByFd.lookup context.clientFd with
    | none => queueStatus context .unauthorized
    | some clientUuid =>
      let payload : PayloadReqSendMsg := Packed.ofBytes context.payloadData
      match extractFixedString payload.messageBody.bytes,
          extractFixedString payload.targetUuid.bytes with
      | some body, some targetUUID =>
        if ¬isUuidFormatValid targetUUID || body = [] then queueStatus context .badRequest
        else if context.users.any fun user => user.uuid.bytes = targetUUID then
          let msg := Message.new (generateUuid context.environment.draw) clientUuid
            context.environment.now body targetUUID
          let context := { context with messages := context.messages ++ [msg] }
          queueStatus (sendMessage context msg) .ok
        else queueStatus context .notFound
      | _, _ => queueStatus context .badRequest

/-- The messages of a conversation, in the order of `context.messages`. -/
def filterMessages (messages : List Message) (clientUuid targetUuid : Bytes) : List Message :=
  messages.filter fun msg =>
    (msg.authorUuid.bytes = targetUuid && msg.receiverUuid.bytes = clientUuid) ||
      (msg.authorUuid.bytes = clientUuid && msg.receiverUuid.bytes = targetUuid)

def queueMessages (messages : List Message) (context : CommandContext) : CommandContext :=
  queuePackets context
    (messages.map fun msg => (context.clientFd, ⟨.messagesList, buildMessagePayload msg⟩))

def handleMessagesCommand (context : CommandContext) : CommandContext :=
  if context.payloadSize ≠ sizeof PayloadReqTargetUser then queueStatus context .badRequest
  else
    match context.authenticatedUsersByFd.lookup context.clientFd with
    | none => queueStatus context .unauthorized
    | some clientUuid =>
      let payload : PayloadReqTargetUser := Packed.ofBytes context.payloadData
      match extractFixedString payload.targetUuid.bytes with
      | none => queueStatus context .badRequest
      | some targetUuid =>
        if ¬isUuidFormatValid targetUuid then queueStatus context .badRequest
        else if (findUserByUuid context.users targetUuid).isNone then queueStatus context .notFound
        else
          let filteredMessages := filterMessages context.messages clientUuid targetUuid
          queueStatus (queueMessages (context.environment.sorter.sort filteredMessages) context) .ok

end TeamsMirror
