import TeamsMirror.Client.Wire

/-!
# What the client shows

The functions of libmyteams that the `Printer` calls, the lines printed on the
console, and the exceptions that end a handler early. A handler is described by
what it shows; `display` is where a call of the library may fail.
-/

namespace TeamsMirror.Cli

/-- The calls of libmyteams, with the texts that are handed over. -/
inductive LibCall where
  | eventLoggedIn (userUuid userName : Bytes)
  | eventLoggedOut (userUuid userName : Bytes)
  | eventPrivateMessageReceived (userUuid messageBody : Bytes)
  | eventThreadReplyReceived (teamUuid threadUuid userUuid replyBody : Bytes)
  | eventTeamCreated (teamUuid teamName teamDescription : Bytes)
  | eventChannelCreated (channelUuid channelName channelDescription : Bytes)
  | eventThreadCreated (threadUuid userUuid : Bytes) (threadTimestamp : Int64) (threadTitle threadBody : Bytes)
  | printUsers (userUuid userName : Bytes) (userStatus : UInt32)
  | printTeams (teamUuid teamName teamDescription : Bytes)
  | printTeamChannels (channelUuid channelName channelDescription : Bytes)
  | printChannelThreads (threadUuid userUuid : Bytes) (threadTimestamp : Int64) (threadTitle threadBody : Bytes)
  | printThreadReplies (threadUuid userUuid : Bytes) (replyTimestamp : Int64) (replyBody : Bytes)
  | printPrivateMessages (senderUuid : Bytes) (messageTimestamp : Int64) (messageBody : Bytes)
  | printUser (userUuid userName : Bytes) (userStatus : UInt32)
  | printTeam (teamUuid teamName teamDescription : Bytes)
  | printChannel (channelUuid channelName channelDescription : Bytes)
  | printThread (threadUuid userUuid : Bytes) (threadTimestamp : Int64) (threadTitle threadBody : Bytes)
  | printTeamCreated (teamUuid teamName teamDescription : Bytes)
  | printChannelCreated (channelUuid channelName channelDescription : Bytes)
  | printThreadCreated (threadUuid userUuid : Bytes) (threadTimestamp : Int64) (threadTitle threadBody : Bytes)
  | printReplyCreated (threadUuid userUuid : Bytes) (replyTimestamp : Int64) (replyBody : Bytes)
  | printSubscribed (userUuid teamUuid : Bytes)
  | printUnsubscribed (userUuid teamUuid : Bytes)
  | errorUnknownTeam (teamUuid : Bytes)
  | errorUnknownChannel (channelUuid : Bytes)
  | errorUnknownThread (threadUuid : Bytes)
  | errorUnknownUser (userUuid : Bytes)
  | errorUnauthorized
  | errorAlreadyExist
deriving DecidableEq

/-- What a message is about; the source tells the kinds apart by their texts only. -/
inductive Kind where
  | plain
  | malformed
  | unexpectedSequence
  | unexpectedStatus (code : UInt16)
deriving DecidableEq

inductive Shown where
  | lib (call : LibCall)
  | line (kind : Kind) (text : String)
  | alreadyLoggedIn (username : Bytes)
  | unknownCommand (command : Bytes)
deriving DecidableEq

/-- The exceptions that `handlingInput` catches. -/
inductive ClientError where
  | invalidArgument (text : String)
  | runtimeError (kind : Kind) (text : String)
  | libFailure (rawResult : Int)
deriving DecidableEq

def Shown.kind : Shown → Kind
  | .line kind _ => kind
  | _ => .plain

def ClientError.kind : ClientError → Kind
  | .runtimeError kind _ => kind
  | _ => .plain

def unexpectedStatus (code : UInt16) : Shown :=
  .line (.unexpectedStatus code) "Server returned unexpected status: "

/-- Show things in order; `ensureLibCallSucceeded` throws after a call with a negative result. -/
def display (lib : LibCall → Int) : List Shown → List Shown × Option ClientError
  | [] => ([], none)
  | .lib call :: rest =>
    if lib call < 0 then ([.lib call], some (.libFailure (lib call)))
    else ((.lib call :: (display lib rest).1), (display lib rest).2)
  | shown :: rest => (shown :: (display lib rest).1, (display lib rest).2)

/-- The library is assumed to succeed. -/
def Succeeds (lib : LibCall → Int) : Prop := ∀ call, 0 ≤ lib call

theorem display_of_succeeds {lib : LibCall → Int} (hlib : Succeeds lib) (shown : List Shown) :
    display lib shown = (shown, none) := by
  induction shown with
  | nil => rfl
  | cons s rest ih =>
    cases s with
    | lib call =>
      have hcall := hlib call
      rw [display, if_neg (by omega), ih]
    | line => rw [display, ih]; intro _ h; cases h
    | alreadyLoggedIn => rw [display, ih]; intro _ h; cases h
    | unknownCommand => rw [display, ih]; intro _ h; cases h

/-- Show a payload of the expected size, and report any other. -/
def showPayload (α : Type) [Packed α] (call : α → LibCall) (malformed : Shown) (payload : Bytes) : Shown :=
  if payload.length ≠ sizeof α then malformed else .lib (call (Packed.ofBytes payload))

theorem showPayload_toBytes {α : Type} [Packed α] (call : α → LibCall) (malformed : Shown) (a : α) :
    showPayload α call malformed (Packed.toBytes a) = .lib (call a) := by
  rw [showPayload, Packed.length_toBytes, Packed.ofBytes_toBytes]
  exact if_neg (not_not.mpr rfl)

def malformedLine (text : String) : Shown := .line .malformed text

/-- The two user events differ in the library function and in the complaint. -/
def showUserConnection (call : Bytes → Bytes → LibCall) (malformed : String) : Bytes → Shown :=
  showPayload PayloadEvtUserConnection (fun p => call p.userUuid.cstr p.userName.cstr)
    (malformedLine malformed)

/-- What is shown for an event, `none` for any other packet. -/
def handleAsyncEventPacket (code : UInt16) (payload : Bytes) : Option Shown :=
  if code = StatusCode.evtLoggedIn.code then
    some (showUserConnection .eventLoggedIn "Malformed login event payload received from server." payload)
  else if code = StatusCode.evtLoggedOut.code then
    some (showUserConnection .eventLoggedOut "Malformed logout event payload received from server." payload)
  else if code = StatusCode.evtPrivateMsgRcvd.code then
    some (showPayload PayloadEvtPrivateMsg
      (fun p => .eventPrivateMessageReceived p.senderUuid.cstr p.messageBody.cstr)
      (malformedLine "Malformed private message event payload received from server.") payload)
  else if code = StatusCode.evtTeamCreated.code then
    some (showPayload PayloadEvtTeamCreated
      (fun p => .eventTeamCreated p.teamUuid.cstr p.teamName.cstr p.teamDescription.cstr)
      (malformedLine "Malformed team event payload received from server.") payload)
  else if code = StatusCode.evtChannelCreated.code then
    some (showPayload PayloadEvtChannelCreated
      (fun p => .eventChannelCreated p.channelUuid.cstr p.channelName.cstr p.channelDescription.cstr)
      (malformedLine "Malformed channel event payload received from server.") payload)
  else if code = StatusCode.evtThreadCreated.code then
    some (showPayload PayloadEvtThreadCreated
      (fun p => .eventThreadCreated p.threadUuid.cstr p.userUuid.cstr p.threadTimestamp.toInt64
        p.threadTitle.cstr p.threadBody.cstr)
      (malformedLine "Malformed thread event payload received from server.") payload)
  else if code = StatusCode.evtReplyCreated.code then
    some (showPayload PayloadEvtReplyCreated
      (fun p => .eventThreadReplyReceived p.teamUuid.cstr p.threadUuid.cstr p.userUuid.cstr p.replyBody.cstr)
      (malformedLine "Malformed reply event payload received from server.") payload)
  else none

end TeamsMirror.Cli
