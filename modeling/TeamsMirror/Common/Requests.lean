import TeamsMirror.Common.Protocol

/-!
# Requests

The packets that the command handlers of the client build.
-/

namespace TeamsMirror

/-- A request as the client's `buildPacket` lays it out; all payloads are far below its limit. -/
structure Request where
  command : CommandID
  payload : Bytes
deriving DecidableEq

namespace Request

def packet (r : Request) : Bytes :=
  Packed.toBytes (PacketHeader.mk r.command.code (UInt16.ofNat r.payload.length)) ++ r.payload

def login (username : Bytes) : Request :=
  ⟨.login, Packed.toBytes (PayloadReqLogin.mk (.copyPadded _ username))⟩

def logout : Request := ⟨.logout, []⟩

def users : Request := ⟨.users, []⟩

def user (targetUuid : Bytes) : Request :=
  ⟨.userInfo, Packed.toBytes (PayloadReqTargetUser.mk (.copyPadded _ targetUuid))⟩

def send (targetUuid messageBody : Bytes) : Request :=
  ⟨.send, Packed.toBytes (PayloadReqSendMsg.mk (.copyPadded _ targetUuid) (.copyPadded _ messageBody))⟩

def messages (targetUuid : Bytes) : Request :=
  ⟨.messages, Packed.toBytes (PayloadReqTargetUser.mk (.copyPadded _ targetUuid))⟩

def subscribe (teamUuid : Bytes) : Request :=
  ⟨.subscribe, Packed.toBytes (PayloadReqTeamTarget.mk (.copyPadded _ teamUuid))⟩

def unsubscribe (teamUuid : Bytes) : Request :=
  ⟨.unsubscribe, Packed.toBytes (PayloadReqTeamTarget.mk (.copyPadded _ teamUuid))⟩

def subscribedTeams : Request := ⟨.subscribedList, []⟩

def subscribedUsers (teamUuid : Bytes) : Request :=
  ⟨.subscribedList, Packed.toBytes (PayloadReqTeamTarget.mk (.copyPadded _ teamUuid))⟩

def use (teamUuid channelUuid threadUuid : Bytes) : Request :=
  ⟨.use, Packed.toBytes (PayloadReqUse.mk (.copyPadded _ teamUuid) (.copyPadded _ channelUuid)
    (.copyPadded _ threadUuid))⟩

def createTeam (name description : Bytes) : Request :=
  ⟨.create, Packed.toBytes (PayloadReqCreateTeam.mk (.copyPadded _ name) (.copyPadded _ description))⟩

def createChannel (name description : Bytes) : Request :=
  ⟨.create, Packed.toBytes (PayloadReqCreateChannel.mk (.copyPadded _ name) (.copyPadded _ description))⟩

def createThread (title body : Bytes) : Request :=
  ⟨.create, Packed.toBytes (PayloadReqCreateThread.mk (.copyPadded _ title) (.copyPadded _ body))⟩

def createReply (body : Bytes) : Request :=
  ⟨.create, Packed.toBytes (PayloadReqCreateReply.mk (.copyPadded _ body))⟩

def list : Request := ⟨.list, []⟩

def info : Request := ⟨.info, []⟩

def frame (r : Request) : Framing.Frame UInt8 :=
  (Packed.toBytes (PacketHeader.mk r.command.code (UInt16.ofNat r.payload.length)), r.payload)

theorem wellFormed_frame {r : Request} (h : r.payload.length < 65536) : packetFraming.WellFormed r.frame := by
  refine ⟨Packed.length_toBytes _, ?_⟩
  simp only [frame, packetFraming, Packed.ofBytes_toBytes, UInt16.toNat_ofNat']
  omega

theorem join_frames (requests : List Request) :
    Framing.join (requests.map frame) = requests.flatMap packet := by
  induction requests with
  | nil => rfl
  | cons r requests ih =>
    rw [List.map_cons, Framing.join_cons, ih, List.flatMap_cons]
    rfl

theorem length_packet_pos (r : Request) : 0 < r.packet.length := by
  rw [packet, List.length_append, Packed.length_toBytes]
  exact Nat.add_pos_left (by decide) _

end Request

end TeamsMirror
