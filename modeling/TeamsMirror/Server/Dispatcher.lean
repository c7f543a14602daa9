import TeamsMirror.Server.Create
import TeamsMirror.Server.Navigation
import TeamsMirror.Server.PrivateMessages
import TeamsMirror.Server.Session
import TeamsMirror.Server.Subscriptions

/-!
# Command dispatch

The table of handlers, and the loop that takes complete packets off the incoming
buffer of a connection.
-/

namespace TeamsMirror

/-- `COMMAND_HANDLERS`. -/
def commandHandlers : List (UInt16 × (CommandContext → Option CommandContext)) :=
  [(CommandID.login.code, handleLoginCommand),
    (CommandID.users.code, fun context => some (handleUsersCommand context)),
    (CommandID.userInfo.code, fun context => some (handleUserCommand context)),
    (CommandID.info.code, fun context => some (handleInfoCommand context)),
    (CommandID.logout.code, fun context => some (handleLogoutCommand context)),
    (CommandID.use.code, fun context => some (handleUseCommand context)),
    (CommandID.create.code, handleCreateCommand),
    (CommandID.list.code, fun context => some (handleListCommand context)),
    (CommandID.subscribe.code, fun context => some (handleSubscribeCommand context)),
    (CommandID.unsubscribe.code, fun context => some (handleUnsubscribeCommand context)),
    (CommandID.subscribedList.code, fun context => some (handleSubscribedListCommand context)),
    (CommandID.messages.code, fun context => some (handleMessagesCommand context)),
    (CommandID.send.code, fun context => some (handleSendCommand context))]

def dispatchCommand (context : CommandContext) (commandCode : UInt16) : Option CommandContext :=
  match commandHandlers.find? fun entry => entry.1 = commandCode with
  | none => some (queueStatus context .badRequest)
  | some entry => entry.2 context

/-- The packet at the head of a buffer, once its header and its payload are complete. -/
def peekPacket (incomingBuffer : Bytes) : Option (PacketHeader × Bytes) :=
  if incomingBuffer.length < sizeof PacketHeader then none
  else
    let header : PacketHeader := Packed.ofBytes (incomingBuffer.take (sizeof PacketHeader))
    let packetSize := sizeof PacketHeader + header.payloadSize.toNat
    if incomingBuffer.length < packetSize then none
    else some (header, (incomingBuffer.drop (sizeof PacketHeader)).take header.payloadSize.toNat)

/-- The context in which a packet of `clientFd` is dispatched. -/
def Server.context (s : Server) (clientFd : Fd) (payloadData : Bytes) (environment : Environment) :
    CommandContext :=
  { s with clientFd := clientFd, payloadData := payloadData, environment := environment, queued := [] }

@[simp] theorem Server.toServer_context (s : Server) (fd : Fd) (payloadData : Bytes)
    (environment : Environment) : (s.context fd payloadData environment).toServer = s := rfl
@[simp] theorem Server.clientFd_context (s : Server) (fd : Fd) (payloadData : Bytes)
    (environment : Environment) : (s.context fd payloadData environment).clientFd = fd := rfl

/-- A packet that was dispatched, and what was queued for it. -/
structure Dispatched where
  code : UInt16
  payload : Bytes
  queued : List (Fd × Packet)

/-- One turn of the loop: dispatch the packet at the head of the buffer, then consume it.
`none` when the draws of the environment do not bring an unused uuid. -/
def processPacket (s : Server) (clientFd : Fd) (environment : Environment) (header : PacketHeader)
    (payload : Bytes) : Option (Server × Dispatched) := do
  let context ← dispatchCommand (s.context clientFd payload environment) header.code
  let packetSize := sizeof PacketHeader + header.payloadSize.toNat
  some
    ({ context.toServer with
        clientManager := context.clientManager.consumeIncomingBuffer clientFd packetSize },
      ⟨header.code, payload, context.queued⟩)

/-- Why a run of the loop has no result. -/
inductive Stuck where
  | fuel
  | draws
deriving DecidableEq, Repr

/-- The `while(true)` loop. `oracle` is what each command observes of the outside, and may
depend on everything that happened before. -/
def processClientIncomingPackets (oracle : Server → Environment) (clientFd : Fd) :
    Nat → Server → Except Stuck (Server × List Dispatched)
  | 0, _ => .error .fuel
  | fuel + 1, s =>
    match peekPacket (s.clientManager.getIncomingBuffer clientFd) with
    | none => .ok (s, [])
    | some (header, payload) =>
      match processPacket s clientFd (oracle s) header payload with
      | none => .error .draws
      | some (s', dispatched) =>
        match processClientIncomingPackets oracle clientFd fuel s' with
        | .error stuck => .error stuck
        | .ok (s'', later) => .ok (s'', dispatched :: later)

end TeamsMirror
