import TeamsMirror.Lib.Framing
import TeamsMirror.Lib.Packed

/-!
# The wire protocol

Limits, codes and packed payloads that the client and the server share. Both
sides copy whole structures to and from the wire, in the little-endian order of
the hosts the program runs on.
-/

namespace TeamsMirror

def maxNameLength : Nat := 32
def maxDescriptionLength : Nat := 255
def maxBodyLength : Nat := 512
def uuidLength : Nat := 37

inductive CommandID where
  | login | logout | users | userInfo | send | messages | subscribe | unsubscribe
  | subscribedList | use | create | list | info
deriving DecidableEq, Repr

def CommandID.code : CommandID → UInt16
  | .login => 10
  | .logout => 11
  | .users => 20
  | .userInfo => 21
  | .send => 30
  | .messages => 31
  | .subscribe => 40
  | .unsubscribe => 41
  | .subscribedList => 42
  | .use => 50
  | .create => 60
  | .list => 70
  | .info => 80

inductive StatusCode where
  | ok | created | usersList | userInfo | messagesList | teamsList | channelsList | threadsList
  | repliesList | subscribedList
  | badRequest | unauthorized | forbidden | notFound | alreadyExist | serverInternal
  | evtLoggedIn | evtLoggedOut | evtPrivateMsgRcvd | evtTeamCreated | evtChannelCreated
  | evtThreadCreated | evtReplyCreated
deriving DecidableEq, Repr

def StatusCode.code : StatusCode → UInt16
  | .ok => 200
  | .created => 201
  | .usersList => 202
  | .userInfo => 203
  | .messagesList => 204
  | .teamsList => 205
  | .channelsList => 206
  | .threadsList => 207
  | .repliesList => 208
  | .subscribedList => 209
  | .badRequest => 400
  | .unauthorized => 401
  | .forbidden => 403
  | .notFound => 404
  | .alreadyExist => 409
  | .serverInternal => 500
  | .evtLoggedIn => 600
  | .evtLoggedOut => 601
  | .evtPrivateMsgRcvd => 602
  | .evtTeamCreated => 603
  | .evtChannelCreated => 604
  | .evtThreadCreated => 605
  | .evtReplyCreated => 606

theorem StatusCode.code_injective {s t : StatusCode} (h : s.code = t.code) : s = t := by
  cases s <;> cases t <;> first | rfl | (exact absurd h (by decide))

/-- The 4xx and 5xx statuses. -/
def StatusCode.isError (s : StatusCode) : Bool := 400 ≤ s.code && s.code < 600

/-- The codes of unsolicited packets. -/
def StatusCode.isEvent (s : StatusCode) : Bool := 600 ≤ s.code

structure PacketHeader where
  code : UInt16
  payloadSize : UInt16
deriving DecidableEq

instance : Packed PacketHeader :=
  .ofFields (fun h => (h.code, h.payloadSize)) (fun (a, b) => ⟨a, b⟩) fun _ => rfl

structure PayloadReqLogin where
  userName : CharArray maxNameLength
deriving DecidableEq

instance : Packed PayloadReqLogin :=
  .ofFields (fun p => p.userName) (fun a => ⟨a⟩) fun _ => rfl

structure PayloadReqTargetUser where
  targetUuid : CharArray uuidLength
deriving DecidableEq

instance : Packed PayloadReqTargetUser :=
  .ofFields (fun p => p.targetUuid) (fun a => ⟨a⟩) fun _ => rfl

structure PayloadReqSendMsg where
  targetUuid : CharArray uuidLength
  messageBody : CharArray maxBodyLength
deriving DecidableEq

instance : Packed PayloadReqSendMsg :=
  .ofFields (fun p => (p.targetUuid, p.messageBody)) (fun (a, b) => ⟨a, b⟩) fun _ => rfl

structure PayloadReqTeamTarget where
  teamUuid : CharArray uuidLength
deriving DecidableEq

instance : Packed PayloadReqTeamTarget :=
  .ofFields (fun p => p.teamUuid) (fun a => ⟨a⟩) fun _ => rfl

structure PayloadReqUse where
  teamUuid : CharArray uuidLength
  channelUuid : CharArray uuidLength
  threadUuid : CharArray uuidLength
deriving DecidableEq

instance : Packed PayloadReqUse :=
  .ofFields (fun p => (p.teamUuid, p.channelUuid, p.threadUuid)) (fun (a, b, c) => ⟨a, b, c⟩) fun _ => rfl

structure PayloadReqCreateTeam where
  teamName : CharArray maxNameLength
  teamDescription : CharArray maxDescriptionLength
deriving DecidableEq

instance : Packed PayloadReqCreateTeam :=
  .ofFields (fun p => (p.teamName, p.teamDescription)) (fun (a, b) => ⟨a, b⟩) fun _ => rfl

structure PayloadReqCreateChannel where
  channelName : CharArray maxNameLength
  channelDescription : CharArray maxDescriptionLength
deriving DecidableEq

instance : Packed PayloadReqCreateChannel :=
  .ofFields (fun p => (p.channelName, p.channelDescription)) (fun (a, b) => ⟨a, b⟩) fun _ => rfl

structure PayloadReqCreateThread where
  threadTitle : CharArray maxNameLength
  threadBody : CharArray maxBodyLength
deriving DecidableEq

instance : Packed PayloadReqCreateThread :=
  .ofFields (fun p => (p.threadTitle, p.threadBody)) (fun (a, b) => ⟨a, b⟩) fun _ => rfl

structure PayloadReqCreateReply where
  replyBody : CharArray maxBodyLength
deriving DecidableEq

instance : Packed PayloadReqCreateReply :=
  .ofFields (fun p => p.replyBody) (fun a => ⟨a⟩) fun _ => rfl

structure PayloadRplUser where
  userUuid : CharArray uuidLength
  userName : CharArray maxNameLength
  userStatus : UInt32
deriving DecidableEq

instance : Packed PayloadRplUser :=
  .ofFields (fun p => (p.userUuid, p.userName, p.userStatus)) (fun (a, b, c) => ⟨a, b, c⟩) fun _ => rfl

structure PayloadRplMessage where
  senderUuid : CharArray uuidLength
  messageTimestamp : UInt64
  messageBody : CharArray maxBodyLength
deriving DecidableEq

instance : Packed PayloadRplMessage :=
  .ofFields (fun p => (p.senderUuid, p.messageTimestamp, p.messageBody)) (fun (a, b, c) => ⟨a, b, c⟩) fun _ => rfl

structure PayloadRplTeam where
  teamUuid : CharArray uuidLength
  teamName : CharArray maxNameLength
  teamDescription : CharArray maxDescriptionLength
deriving DecidableEq

instance : Packed PayloadRplTeam :=
  .ofFields (fun p => (p.teamUuid, p.teamName, p.teamDescription)) (fun (a, b, c) => ⟨a, b, c⟩) fun _ => rfl

structure PayloadRplChannel where
  channelUuid : CharArray uuidLength
  channelName : CharArray maxNameLength
  channelDescription : CharArray maxDescriptionLength
deriving DecidableEq

instance : Packed PayloadRplChannel :=
  .ofFields (fun p => (p.channelUuid, p.channelName, p.channelDescription))
    (fun (a, b, c) => ⟨a, b, c⟩) fun _ => rfl

structure PayloadRplThread where
  threadUuid : CharArray uuidLength
  userUuid : CharArray uuidLength
  threadTimestamp : UInt64
  threadTitle : CharArray maxNameLength
  threadBody : CharArray maxBodyLength
deriving DecidableEq

instance : Packed PayloadRplThread :=
  .ofFields (fun p => (p.threadUuid, p.userUuid, p.threadTimestamp, p.threadTitle, p.threadBody))
    (fun (a, b, c, d, e) => ⟨a, b, c, d, e⟩) fun _ => rfl

structure PayloadRplReply where
  threadUuid : CharArray uuidLength
  userUuid : CharArray uuidLength
  replyTimestamp : UInt64
  replyBody : CharArray maxBodyLength
deriving DecidableEq

instance : Packed PayloadRplReply :=
  .ofFields (fun p => (p.threadUuid, p.userUuid, p.replyTimestamp, p.replyBody))
    (fun (a, b, c, d) => ⟨a, b, c, d⟩) fun _ => rfl

structure PayloadEvtUserConnection where
  userUuid : CharArray uuidLength
  userName : CharArray maxNameLength
deriving DecidableEq

instance : Packed PayloadEvtUserConnection :=
  .ofFields (fun p => (p.userUuid, p.userName)) (fun (a, b) => ⟨a, b⟩) fun _ => rfl

structure PayloadEvtPrivateMsg where
  senderUuid : CharArray uuidLength
  messageBody : CharArray maxBodyLength
deriving DecidableEq

instance : Packed PayloadEvtPrivateMsg :=
  .ofFields (fun p => (p.senderUuid, p.messageBody)) (fun (a, b) => ⟨a, b⟩) fun _ => rfl

structure PayloadEvtTeamCreated where
  teamUuid : CharArray uuidLength
  teamName : CharArray maxNameLength
  teamDescription : CharArray maxDescriptionLength
deriving DecidableEq

instance : Packed PayloadEvtTeamCreated :=
  .ofFields (fun p => (p.teamUuid, p.teamName, p.teamDescription)) (fun (a, b, c) => ⟨a, b, c⟩) fun _ => rfl

structure PayloadEvtChannelCreated where
  channelUuid : CharArray uuidLength
  channelName : CharArray maxNameLength
  channelDescription : CharArray maxDescriptionLength
deriving DecidableEq

instance : Packed PayloadEvtChannelCreated :=
  .ofFields (fun p => (p.channelUuid, p.channelName, p.channelDescription))
    (fun (a, b, c) => ⟨a, b, c⟩) fun _ => rfl

structure PayloadEvtThreadCreated where
  threadUuid : CharArray uuidLength
  userUuid : CharArray uuidLength
  threadTimestamp : UInt64
  threadTitle : CharArray maxNameLength
  threadBody : CharArray maxBodyLength
deriving DecidableEq

instance : Packed PayloadEvtThreadCreated :=
  .ofFields (fun p => (p.threadUuid, p.userUuid, p.threadTimestamp, p.threadTitle, p.threadBody))
    (fun (a, b, c, d, e) => ⟨a, b, c, d, e⟩) fun _ => rfl

structure PayloadEvtReplyCreated where
  teamUuid : CharArray uuidLength
  threadUuid : CharArray uuidLength
  userUuid : CharArray uuidLength
  replyBody : CharArray maxBodyLength
deriving DecidableEq

instance : Packed PayloadEvtReplyCreated :=
  .ofFields (fun p => (p.teamUuid, p.threadUuid, p.userUuid, p.replyBody))
    (fun (a, b, c, d) => ⟨a, b, c, d⟩) fun _ => rfl

structure PayloadErrUnknown where
  unknownUuid : CharArray uuidLength
deriving DecidableEq

instance : Packed PayloadErrUnknown :=
  .ofFields (fun p => p.unknownUuid) (fun a => ⟨a⟩) fun _ => rfl

/-- What a packet of the server carries. -/
inductive Payload where
  | none
  | rplUser (p : PayloadRplUser)
  | rplMessage (p : PayloadRplMessage)
  | rplTeam (p : PayloadRplTeam)
  | rplChannel (p : PayloadRplChannel)
  | rplThread (p : PayloadRplThread)
  | rplReply (p : PayloadRplReply)
  | evtUserConnection (p : PayloadEvtUserConnection)
  | evtPrivateMsg (p : PayloadEvtPrivateMsg)
  | evtTeamCreated (p : PayloadEvtTeamCreated)
  | evtChannelCreated (p : PayloadEvtChannelCreated)
  | evtThreadCreated (p : PayloadEvtThreadCreated)
  | evtReplyCreated (p : PayloadEvtReplyCreated)
  | errUnknown (p : PayloadErrUnknown)
deriving DecidableEq

def Payload.bytes : Payload → Bytes
  | .none => []
  | .rplUser p => Packed.toBytes p
  | .rplMessage p => Packed.toBytes p
  | .rplTeam p => Packed.toBytes p
  | .rplChannel p => Packed.toBytes p
  | .rplThread p => Packed.toBytes p
  | .rplReply p => Packed.toBytes p
  | .evtUserConnection p => Packed.toBytes p
  | .evtPrivateMsg p => Packed.toBytes p
  | .evtTeamCreated p => Packed.toBytes p
  | .evtChannelCreated p => Packed.toBytes p
  | .evtThreadCreated p => Packed.toBytes p
  | .evtReplyCreated p => Packed.toBytes p
  | .errUnknown p => Packed.toBytes p

/-- Every payload fits the 16-bit size of the header. -/
theorem Payload.length_bytes_lt (p : Payload) : p.bytes.length < 65536 := by
  cases p <;> simp only [Payload.bytes, Packed.length_toBytes, List.length_nil] <;> decide

/-- `buildPacket`: a header and the payload, or a bare 500 when the payload is too long for it. -/
def buildPacket (code : UInt16) (payload : Bytes) : Bytes :=
  if 65535 < payload.length then Packed.toBytes (PacketHeader.mk StatusCode.serverInternal.code 0)
  else Packed.toBytes (PacketHeader.mk code (UInt16.ofNat payload.length)) ++ payload

/-- A packet of the server before it is flattened to bytes. -/
structure Packet where
  status : StatusCode
  payload : Payload
deriving DecidableEq

def Packet.bytes (p : Packet) : Bytes := buildPacket p.status.code p.payload.bytes

/-- A packet that carries a status alone. -/
def Packet.ofStatus (status : StatusCode) : Packet := ⟨status, .none⟩

theorem Packet.bytes_eq (p : Packet) :
    p.bytes = Packed.toBytes (PacketHeader.mk p.status.code (UInt16.ofNat p.payload.bytes.length)) ++
      p.payload.bytes := by
  have h := p.payload.length_bytes_lt
  rw [Packet.bytes, buildPacket, if_neg (by omega)]

/-- A packet header announces the size of its payload. -/
def packetFraming : Framing UInt8 where
  headerSize := sizeof PacketHeader
  payloadSize header := (Packed.ofBytes (α := PacketHeader) header).payloadSize.toNat
  headerSize_pos := by decide

theorem packetFraming_next (buffer : Bytes) :
    packetFraming.next buffer =
      let header : PacketHeader := Packed.ofBytes (buffer.take (sizeof PacketHeader))
      let size := sizeof PacketHeader + header.payloadSize.toNat
      if buffer.length < sizeof PacketHeader then none
      else if buffer.length < size then none
      else some ((buffer.take (sizeof PacketHeader),
        (buffer.drop (sizeof PacketHeader)).take header.payloadSize.toNat), buffer.drop size) := rfl

/-- The header that `buildPacket` puts before a payload. -/
def Packet.header (p : Packet) : PacketHeader := ⟨p.status.code, UInt16.ofNat p.payload.bytes.length⟩

def Packet.frame (p : Packet) : Framing.Frame UInt8 := (Packed.toBytes p.header, p.payload.bytes)

theorem Packet.payloadSize_header (p : Packet) : p.header.payloadSize.toNat = p.payload.bytes.length := by
  have h := p.payload.length_bytes_lt
  simp only [header, UInt16.toNat_ofNat']
  omega

theorem Packet.wellFormed_frame (p : Packet) : packetFraming.WellFormed p.frame := by
  refine ⟨Packed.length_toBytes _, ?_⟩
  simp only [frame, packetFraming, Packed.ofBytes_toBytes, p.payloadSize_header]

theorem Packet.join_frames (packets : List Packet) :
    Framing.join (packets.map Packet.frame) = packets.flatMap Packet.bytes := by
  induction packets with
  | nil => rfl
  | cons p packets ih =>
    rw [List.map_cons, Framing.join_cons, ih, List.flatMap_cons, p.bytes_eq]
    rfl

end TeamsMirror
