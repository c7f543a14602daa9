import TeamsMirror.Client.Replies
import TeamsMirror.Lib.Reads

/-!
# Reads of received replies

The parts of the client that look into the payload of a packet, once more with every read
checked: a structure is copied out of a payload of its size, and the array that is passed
to the display ends where `strlen` finds a NUL. What else a handler does with a packet
depends on its code alone, and gets no payload here.
-/

namespace TeamsMirror.Cli

open Reads

def showPayloadAt (α : Type) [Packed α] (call : α → Option LibCall) (malformed : Shown) (payload : Bytes) :
    Option Shown :=
  if payload.length ≠ sizeof α then some malformed
  else do
    let decoded ← copy α payload
    let call ← call decoded
    some (.lib call)

def showOrThrowAt (α : Type) [Packed α] (call : α → Option LibCall) (malformed : String) (payload : Bytes)
    (next : List Shown → Turn) : Option Turn :=
  if payload.length ≠ sizeof α then some (.throws [] .malformed malformed)
  else do
    let decoded ← copy α payload
    let call ← call decoded
    some (next [.lib call])

/-- A payload that is decoded has a NUL in every array that is shown. -/
def TextsEnd {α : Type} [Packed α] (texts : α → List Bytes) (payload : Bytes) : Prop :=
  payload.length = sizeof α → ∀ text ∈ texts (Packed.ofBytes payload), 0 ∈ text

section

variable {α : Type} [Packed α] {callAt : α → Option LibCall} {call : α → LibCall} {texts : α → List Bytes}

theorem copyAt_inside (hcall : ∀ p, InsideWhen (∀ text ∈ texts p, 0 ∈ text) (callAt p) (call p))
    {payload : Bytes} (hsize : payload.length = sizeof α) {β : Type} (f : LibCall → β) :
    InsideWhen (TextsEnd texts payload)
      (do
        let decoded ← copy α payload
        let call ← callAt decoded
        some (f call))
      (f (call (Packed.ofBytes payload))) := by
  refine InsideWhen.mono (InsideWhen.copy ((hcall _).bind (InsideWhen.value _))) ?_
  rw [and_true]
  exact ⟨fun h _ => h.2, fun h => ⟨hsize, h hsize⟩⟩

theorem showPayloadAt_inside (hcall : ∀ p, InsideWhen (∀ text ∈ texts p, 0 ∈ text) (callAt p) (call p))
    (malformed : Shown) (payload : Bytes) :
    InsideWhen (TextsEnd texts payload) (showPayloadAt α callAt malformed payload)
      (showPayload α call malformed payload) := by
  unfold showPayloadAt showPayload
  by_cases hsize : payload.length = sizeof α
  · rw [if_neg (not_not.mpr hsize), if_neg (not_not.mpr hsize)]
    exact copyAt_inside hcall hsize Shown.lib
  · rw [if_pos hsize, if_pos hsize]
    exact (InsideWhen.value malformed).mono ⟨fun _ h => absurd h hsize, fun _ => trivial⟩

theorem showOrThrowAt_inside (hcall : ∀ p, InsideWhen (∀ text ∈ texts p, 0 ∈ text) (callAt p) (call p))
    (malformed : String) (payload : Bytes) (next : List Shown → Turn) :
    InsideWhen (TextsEnd texts payload) (showOrThrowAt α callAt malformed payload next)
      (showOrThrow α call malformed payload next) := by
  unfold showOrThrowAt showOrThrow
  by_cases hsize : payload.length = sizeof α
  · rw [if_neg (not_not.mpr hsize), if_neg (not_not.mpr hsize)]
    exact copyAt_inside hcall hsize fun call => next [.lib call]
  · rw [if_pos hsize, if_pos hsize]
    exact (InsideWhen.value _).mono ⟨fun _ h => absurd h hsize, fun _ => trivial⟩

end

theorem twoTexts_inside {n m : Nat} (a : CharArray n) (b : CharArray m) (call : Bytes → Bytes → LibCall) :
    InsideWhen (∀ text ∈ [a.bytes, b.bytes], 0 ∈ text)
      (do some (call (← text a.bytes) (← text b.bytes))) (call a.cstr b.cstr) :=
  InsideWhen.mono (.text (.text (.value _))) (by simp)

theorem threeTexts_inside {n m k : Nat} (a : CharArray n) (b : CharArray m) (c : CharArray k)
    (call : Bytes → Bytes → Bytes → LibCall) :
    InsideWhen (∀ text ∈ [a.bytes, b.bytes, c.bytes], 0 ∈ text)
      (do some (call (← text a.bytes) (← text b.bytes) (← text c.bytes))) (call a.cstr b.cstr c.cstr) :=
  InsideWhen.mono (.text (.text (.text (.value _)))) (by simp)

theorem fourTexts_inside {n m k l : Nat} (a : CharArray n) (b : CharArray m) (c : CharArray k)
    (d : CharArray l) (call : Bytes → Bytes → Bytes → Bytes → LibCall) :
    InsideWhen (∀ text ∈ [a.bytes, b.bytes, c.bytes, d.bytes], 0 ∈ text)
      (do some (call (← text a.bytes) (← text b.bytes) (← text c.bytes) (← text d.bytes)))
      (call a.cstr b.cstr c.cstr d.cstr) :=
  InsideWhen.mono (.text (.text (.text (.text (.value _))))) (by simp)

def userTexts (p : PayloadRplUser) : List Bytes := [p.userUuid.bytes, p.userName.bytes]

def userCallAt (call : Bytes → Bytes → UInt32 → LibCall) (p : PayloadRplUser) : Option LibCall := do
  some (call (← text p.userUuid.bytes) (← text p.userName.bytes) p.userStatus)

theorem userCallAt_inside (call : Bytes → Bytes → UInt32 → LibCall) (p : PayloadRplUser) :
    InsideWhen (∀ text ∈ userTexts p, 0 ∈ text) (userCallAt call p)
      (call p.userUuid.cstr p.userName.cstr p.userStatus) :=
  twoTexts_inside p.userUuid p.userName fun uuid name => call uuid name p.userStatus

def messageTexts (p : PayloadRplMessage) : List Bytes := [p.senderUuid.bytes, p.messageBody.bytes]

def messageCallAt (call : Bytes → Int64 → Bytes → LibCall) (p : PayloadRplMessage) : Option LibCall := do
  some (call (← text p.senderUuid.bytes) p.messageTimestamp.toInt64 (← text p.messageBody.bytes))

theorem messageCallAt_inside (call : Bytes → Int64 → Bytes → LibCall) (p : PayloadRplMessage) :
    InsideWhen (∀ text ∈ messageTexts p, 0 ∈ text) (messageCallAt call p)
      (call p.senderUuid.cstr p.messageTimestamp.toInt64 p.messageBody.cstr) :=
  twoTexts_inside p.senderUuid p.messageBody fun uuid body => call uuid p.messageTimestamp.toInt64 body

def teamTexts (p : PayloadRplTeam) : List Bytes :=
  [p.teamUuid.bytes, p.teamName.bytes, p.teamDescription.bytes]

def teamCallAt (call : Bytes → Bytes → Bytes → LibCall) (p : PayloadRplTeam) : Option LibCall := do
  some (call (← text p.teamUuid.bytes) (← text p.teamName.bytes) (← text p.teamDescription.bytes))

theorem teamCallAt_inside (call : Bytes → Bytes → Bytes → LibCall) (p : PayloadRplTeam) :
    InsideWhen (∀ text ∈ teamTexts p, 0 ∈ text) (teamCallAt call p)
      (call p.teamUuid.cstr p.teamName.cstr p.teamDescription.cstr) :=
  threeTexts_inside p.teamUuid p.teamName p.teamDescription call

def channelTexts (p : PayloadRplChannel) : List Bytes :=
  [p.channelUuid.bytes, p.channelName.bytes, p.channelDescription.bytes]

def channelCallAt (call : Bytes → Bytes → Bytes → LibCall) (p : PayloadRplChannel) : Option LibCall := do
  some (call (← text p.channelUuid.bytes) (← text p.channelName.bytes) (← text p.channelDescription.bytes))

theorem channelCallAt_inside (call : Bytes → Bytes → Bytes → LibCall) (p : PayloadRplChannel) :
    InsideWhen (∀ text ∈ channelTexts p, 0 ∈ text) (channelCallAt call p)
      (call p.channelUuid.cstr p.channelName.cstr p.channelDescription.cstr) :=
  threeTexts_inside p.channelUuid p.channelName p.channelDescription call

def threadTexts (p : PayloadRplThread) : List Bytes :=
  [p.threadUuid.bytes, p.userUuid.bytes, p.threadTitle.bytes, p.threadBody.bytes]

def threadCallAt (call : Bytes → Bytes → Int64 → Bytes → Bytes → LibCall) (p : PayloadRplThread) :
    Option LibCall := do
  some (call (← text p.threadUuid.bytes) (← text p.userUuid.bytes) p.threadTimestamp.toInt64
    (← text p.threadTitle.bytes) (← text p.threadBody.bytes))

theorem threadCallAt_inside (call : Bytes → Bytes → Int64 → Bytes → Bytes → LibCall) (p : PayloadRplThread) :
    InsideWhen (∀ text ∈ threadTexts p, 0 ∈ text) (threadCallAt call p)
      (call p.threadUuid.cstr p.userUuid.cstr p.threadTimestamp.toInt64 p.threadTitle.cstr p.threadBody.cstr) :=
  fourTexts_inside p.threadUuid p.userUuid p.threadTitle p.threadBody
    fun uuid author title body => call uuid author p.threadTimestamp.toInt64 title body

def replyTexts (p : PayloadRplReply) : List Bytes :=
  [p.threadUuid.bytes, p.userUuid.bytes, p.replyBody.bytes]

def replyCallAt (call : Bytes → Bytes → Int64 → Bytes → LibCall) (p : PayloadRplReply) : Option LibCall := do
  some (call (← text p.threadUuid.bytes) (← text p.userUuid.bytes) p.replyTimestamp.toInt64
    (← text p.replyBody.bytes))

theorem replyCallAt_inside (call : Bytes → Bytes → Int64 → Bytes → LibCall) (p : PayloadRplReply) :
    InsideWhen (∀ text ∈ replyTexts p, 0 ∈ text) (replyCallAt call p)
      (call p.threadUuid.cstr p.userUuid.cstr p.replyTimestamp.toInt64 p.replyBody.cstr) :=
  threeTexts_inside p.threadUuid p.userUuid p.replyBody
    fun uuid author body => call uuid author p.replyTimestamp.toInt64 body

def showUserConnectionAt (call : Bytes → Bytes → LibCall) (malformed : String) : Bytes → Option Shown :=
  showPayloadAt PayloadEvtUserConnection
    (fun p => do some (call (← text p.userUuid.bytes) (← text p.userName.bytes)))
    (malformedLine malformed)

/-- The inner `none` is a packet that is no event. -/
def handleAsyncEventPacketAt (code : UInt16) (payload : Bytes) : Option (Option Shown) :=
  if code = StatusCode.evtLoggedIn.code then
    (showUserConnectionAt .eventLoggedIn "Malformed login event payload received from server." payload).map some
  else if code = StatusCode.evtLoggedOut.code then
    (showUserConnectionAt .eventLoggedOut "Malformed logout event payload received from server." payload).map some
  else if code = StatusCode.evtPrivateMsgRcvd.code then
    (showPayloadAt PayloadEvtPrivateMsg
      (fun p => do some (.eventPrivateMessageReceived (← text p.senderUuid.bytes) (← text p.messageBody.bytes)))
      (malformedLine "Malformed private message event payload received from server.") payload).map some
  else if code = StatusCode.evtTeamCreated.code then
    (showPayloadAt PayloadEvtTeamCreated
      (fun p => do
        some (.eventTeamCreated (← text p.teamUuid.bytes) (← text p.teamName.bytes)
          (← text p.teamDescription.bytes)))
      (malformedLine "Malformed team event payload received from server.") payload).map some
  else if code = StatusCode.evtChannelCreated.code then
    (showPayloadAt PayloadEvtChannelCreated
      (fun p => do
        some (.eventChannelCreated (← text p.channelUuid.bytes) (← text p.channelName.bytes)
          (← text p.channelDescription.bytes)))
      (malformedLine "Malformed channel event payload received from server.") payload).map some
  else if code = StatusCode.evtThreadCreated.code then
    (showPayloadAt PayloadEvtThreadCreated
      (fun p => do
        some (.eventThreadCreated (← text p.threadUuid.bytes) (← text p.userUuid.bytes)
          p.threadTimestamp.toInt64 (← text p.threadTitle.bytes) (← text p.threadBody.bytes)))
      (malformedLine "Malformed thread event payload received from server.") payload).map some
  else if code = StatusCode.evtReplyCreated.code then
    (showPayloadAt PayloadEvtReplyCreated
      (fun p => do
        some (.eventThreadReplyReceived (← text p.teamUuid.bytes) (← text p.threadUuid.bytes)
          (← text p.userUuid.bytes) (← text p.replyBody.bytes)))
      (malformedLine "Malformed reply event payload received from server.") payload).map some
  else some none

/-- An event of the expected size has a NUL in every text. -/
def EventInside (code : UInt16) (payload : Bytes) : Prop :=
  if code = StatusCode.evtLoggedIn.code then
    TextsEnd (fun p : PayloadEvtUserConnection => [p.userUuid.bytes, p.userName.bytes]) payload
  else if code = StatusCode.evtLoggedOut.code then
    TextsEnd (fun p : PayloadEvtUserConnection => [p.userUuid.bytes, p.userName.bytes]) payload
  else if code = StatusCode.evtPrivateMsgRcvd.code then
    TextsEnd (fun p : PayloadEvtPrivateMsg => [p.senderUuid.bytes, p.messageBody.bytes]) payload
  else if code = StatusCode.evtTeamCreated.code then
    TextsEnd (fun p : PayloadEvtTeamCreated => [p.teamUuid.bytes, p.teamName.bytes, p.teamDescription.bytes])
      payload
  else if code = StatusCode.evtChannelCreated.code then
    TextsEnd (fun p : PayloadEvtChannelCreated =>
      [p.channelUuid.bytes, p.channelName.bytes, p.channelDescription.bytes]) payload
  else if code = StatusCode.evtThreadCreated.code then
    TextsEnd (fun p : PayloadEvtThreadCreated =>
      [p.threadUuid.bytes, p.userUuid.bytes, p.threadTitle.bytes, p.threadBody.bytes]) payload
  else if code = StatusCode.evtReplyCreated.code then
    TextsEnd (fun p : PayloadEvtReplyCreated =>
      [p.teamUuid.bytes, p.threadUuid.bytes, p.userUuid.bytes, p.replyBody.bytes]) payload
  else True

theorem showUserConnectionAt_inside (call : Bytes → Bytes → LibCall) (malformed : String) (payload : Bytes) :
    InsideWhen (TextsEnd (fun p : PayloadEvtUserConnection => [p.userUuid.bytes, p.userName.bytes]) payload)
      (showUserConnectionAt call malformed payload) (showUserConnection call malformed payload) :=
  showPayloadAt_inside (fun p : PayloadEvtUserConnection => twoTexts_inside p.userUuid p.userName call) _ payload

theorem handleAsyncEventPacketAt_inside (code : UInt16) (payload : Bytes) :
    InsideWhen (EventInside code payload) (handleAsyncEventPacketAt code payload)
      (handleAsyncEventPacket code payload) := by
  unfold EventInside handleAsyncEventPacketAt handleAsyncEventPacket
  refine .ite (fun h => ?_) fun h => ?_
  · rw [if_pos h]
    exact (showUserConnectionAt_inside _ _ payload).map some
  rw [if_neg h]
  refine .ite (fun h => ?_) fun h => ?_
  · rw [if_pos h]
    exact (showUserConnectionAt_inside _ _ payload).map some
  rw [if_neg h]
  refine .ite (fun h => ?_) fun h => ?_
  · rw [if_pos h]
    have hcall := fun p : PayloadEvtPrivateMsg =>
      twoTexts_inside p.senderUuid p.messageBody .eventPrivateMessageReceived
    exact (showPayloadAt_inside hcall _ payload).map some
  rw [if_neg h]
  refine .ite (fun h => ?_) fun h => ?_
  · rw [if_pos h]
    have hcall := fun p : PayloadEvtTeamCreated =>
      threeTexts_inside p.teamUuid p.teamName p.teamDescription .eventTeamCreated
    exact (showPayloadAt_inside hcall _ payload).map some
  rw [if_neg h]
  refine .ite (fun h => ?_) fun h => ?_
  · rw [if_pos h]
    have hcall := fun p : PayloadEvtChannelCreated =>
      threeTexts_inside p.channelUuid p.channelName p.channelDescription .eventChannelCreated
    exact (showPayloadAt_inside hcall _ payload).map some
  rw [if_neg h]
  refine .ite (fun h => ?_) fun h => ?_
  · rw [if_pos h]
    have hcall := fun p : PayloadEvtThreadCreated =>
      fourTexts_inside p.threadUuid p.userUuid p.threadTitle p.threadBody
        fun uuid author title body => .eventThreadCreated uuid author p.threadTimestamp.toInt64 title body
    exact (showPayloadAt_inside hcall _ payload).map some
  rw [if_neg h]
  refine .ite (fun h => ?_) fun h => ?_
  · rw [if_pos h]
    have hcall := fun p : PayloadEvtReplyCreated =>
      fourTexts_inside p.teamUuid p.threadUuid p.userUuid p.replyBody .eventThreadReplyReceived
    exact (showPayloadAt_inside hcall _ payload).map some
  rw [if_neg h]
  exact .value none

abbrev CheckedBody := (expectedListCode code : UInt16) → (payload : Bytes) → Option Turn

variable (client : Client)

def usersBodyAt : CheckedBody := fun expectedListCode code payload =>
  if code = StatusCode.usersList.code then
    showOrThrowAt PayloadRplUser (userCallAt .printUsers) "invalid RPL_USERS_LIST payload size" payload
      fun shown => .again shown expectedListCode
  else some (usersBody client expectedListCode code [])

def userBodyAt : CheckedBody := fun expectedListCode code payload =>
  if code = StatusCode.userInfo.code then
    showOrThrowAt PayloadRplUser (userCallAt .printUser) "invalid RPL_USER_INFO payload size" payload
      fun shown => .done shown (.returned client)
  else if code = StatusCode.notFound.code then
    showOrThrowAt PayloadErrUnknown (fun p => do some (.errorUnknownUser (← text p.unknownUuid.bytes)))
      "invalid ERR_NOT_FOUND payload size for /user" payload fun shown =>
        .throws shown .plain "Unknown user UUID"
  else some (userBody client expectedListCode code [])

def messagesBodyAt (targetUuid : Bytes) : CheckedBody := fun expectedListCode code payload =>
  if code = StatusCode.messagesList.code then do
    let shown ← showPayloadAt PayloadRplMessage (messageCallAt .printPrivateMessages)
      (malformedLine "Malformed messages payload received from server.") payload
    some (.again [shown] expectedListCode)
  else some (messagesBody client targetUuid expectedListCode code [])

/-- There is no check of the size before the copy. -/
def subscribeBodyAt (teamUuid : Bytes) : CheckedBody := fun expectedListCode code payload =>
  if code = StatusCode.usersList.code then do
    let userPayload ← copy PayloadRplUser payload
    let userUuid ← text userPayload.userUuid.bytes
    some (.call client (.printSubscribed userUuid teamUuid))
  else some (subscribeBody client teamUuid expectedListCode code [])

def unsubscribeBodyAt (teamUuid : Bytes) : CheckedBody := fun expectedListCode code payload =>
  if code = StatusCode.usersList.code then do
    let userPayload ← copy PayloadRplUser payload
    let userUuid ← text userPayload.userUuid.bytes
    some (.call client (.printUnsubscribed userUuid teamUuid))
  else some (unsubscribeBody client teamUuid expectedListCode code [])

def subscribedListBodyAt (hasTeamFilter : Bool) (teamUuid : Bytes) : CheckedBody :=
  fun expectedListCode code payload =>
    if !hasTeamFilter && code = StatusCode.subscribedList.code then do
      let shown ← showPayloadAt PayloadRplTeam (teamCallAt .printTeams)
        (malformedLine "Malformed team list payload received from server.") payload
      some (.again [shown] expectedListCode)
    else if hasTeamFilter && code = StatusCode.usersList.code then do
      let shown ← showPayloadAt PayloadRplUser (userCallAt .printUsers)
        (malformedLine "Malformed user list payload received from server.") payload
      some (.again [shown] expectedListCode)
    else some (subscribedListBody client hasTeamFilter teamUuid expectedListCode code [])

def listBodyAt : CheckedBody := fun expectedListCode code payload =>
  if expectedListCode ≠ 0 ∧ code ≠ expectedListCode then some (listBody client expectedListCode code [])
  else if code = StatusCode.teamsList.code then do
    let shown ← showPayloadAt PayloadRplTeam (teamCallAt .printTeams)
      (malformedLine "Malformed teams list payload received from server.") payload
    some (.again [shown] code)
  else if code = StatusCode.channelsList.code then do
    let shown ← showPayloadAt PayloadRplChannel (channelCallAt .printTeamChannels)
      (malformedLine "Malformed channels list payload received from server.") payload
    some (.again [shown] code)
  else if code = StatusCode.threadsList.code then do
    let shown ← showPayloadAt PayloadRplThread (threadCallAt .printChannelThreads)
      (malformedLine "Malformed threads list payload received from server.") payload
    some (.again [shown] code)
  else if code = StatusCode.repliesList.code then do
    let shown ← showPayloadAt PayloadRplReply (replyCallAt .printThreadReplies)
      (malformedLine "Malformed replies list payload received from server.") payload
    some (.again [shown] code)
  else some (listBody client expectedListCode code [])

def infoBodyAt : CheckedBody := fun expectedListCode code payload =>
  if code = StatusCode.userInfo.code then do
    let shown ← showPayloadAt PayloadRplUser (userCallAt .printUser)
      (malformedLine "Malformed user info payload received from server.") payload
    some (.done [shown] (.returned client))
  else if code = StatusCode.teamsList.code then do
    let shown ← showPayloadAt PayloadRplTeam (teamCallAt .printTeam)
      (malformedLine "Malformed team info payload received from server.") payload
    some (.done [shown] (.returned client))
  else if code = StatusCode.channelsList.code then do
    let shown ← showPayloadAt PayloadRplChannel (channelCallAt .printChannel)
      (malformedLine "Malformed channel info payload received from server.") payload
    some (.done [shown] (.returned client))
  else if code = StatusCode.threadsList.code then do
    let shown ← showPayloadAt PayloadRplThread (threadCallAt .printThread)
      (malformedLine "Malformed thread info payload received from server.") payload
    some (.done [shown] (.returned client))
  else some (infoBody client expectedListCode code [])

def handleCreatedReplyAt (target : CreateTarget) : Bytes → Option Shown :=
  match target with
  | .team =>
    showPayloadAt PayloadRplTeam (teamCallAt .printTeamCreated)
      (malformedLine "Malformed created team payload received from server.")
  | .channel =>
    showPayloadAt PayloadRplChannel (channelCallAt .printChannelCreated)
      (malformedLine "Malformed created channel payload received from server.")
  | .thread =>
    showPayloadAt PayloadRplThread (threadCallAt .printThreadCreated)
      (malformedLine "Malformed created thread payload received from server.")
  | .reply =>
    showPayloadAt PayloadRplReply (replyCallAt .printReplyCreated)
      (malformedLine "Malformed created reply payload received from server.")

def createBodyAt (target : CreateTarget) : CheckedBody := fun expectedListCode code payload =>
  if code = StatusCode.created.code then do
    let shown ← handleCreatedReplyAt target payload
    some (.done [shown] (.returned client))
  else some (createBody client target expectedListCode code [])

/-- The loop that a handler has entered, and what it knows of its request. -/
inductive Reader where
  | login (username : Bytes)
  | logout
  | users
  | user
  | send (targetUuid : Bytes)
  | messages (targetUuid : Bytes)
  | subscribe (teamUuid : Bytes)
  | unsubscribe (teamUuid : Bytes)
  | subscribedList (hasTeamFilter : Bool) (teamUuid : Bytes)
  | use (teamUuid channelUuid threadUuid : Bytes)
  | list
  | info
  | create (target : CreateTarget)

namespace Reader

def body : Reader → Body
  | .login username => loginBody client username
  | .logout => logoutBody client
  | .users => usersBody client
  | .user => userBody client
  | .send targetUuid => sendBody client targetUuid
  | .messages targetUuid => messagesBody client targetUuid
  | .subscribe teamUuid => subscribeBody client teamUuid
  | .unsubscribe teamUuid => unsubscribeBody client teamUuid
  | .subscribedList hasTeamFilter teamUuid => subscribedListBody client hasTeamFilter teamUuid
  | .use teamUuid channelUuid threadUuid => useBody client teamUuid channelUuid threadUuid
  | .list => listBody client
  | .info => infoBody client
  | .create target => createBody client target

/-- The handlers of login, logout, send and use look at codes only. -/
def bodyAt : Reader → CheckedBody
  | .users => usersBodyAt client
  | .user => userBodyAt client
  | .messages targetUuid => messagesBodyAt client targetUuid
  | .subscribe teamUuid => subscribeBodyAt client teamUuid
  | .unsubscribe teamUuid => unsubscribeBodyAt client teamUuid
  | .subscribedList hasTeamFilter teamUuid => subscribedListBodyAt client hasTeamFilter teamUuid
  | .list => listBodyAt client
  | .info => infoBodyAt client
  | .create target => createBodyAt client target
  | reader => fun expectedListCode code _ => some (reader.body client expectedListCode code [])

/-- What keeps the reading of a reply inside: the texts of a payload of the expected size end in
their fields, and where the size is not checked, it is the expected one. -/
def Inside : Reader → (expectedListCode code : UInt16) → (payload : Bytes) → Prop
  | .users, _, code, payload => if code = StatusCode.usersList.code then TextsEnd userTexts payload else True
  | .user, _, code, payload =>
    if code = StatusCode.userInfo.code then TextsEnd userTexts payload
    else if code = StatusCode.notFound.code then
      TextsEnd (fun p : PayloadErrUnknown => [p.unknownUuid.bytes]) payload
    else True
  | .messages _, _, code, payload =>
    if code = StatusCode.messagesList.code then TextsEnd messageTexts payload else True
  | .subscribe _, _, code, payload | .unsubscribe _, _, code, payload =>
    if code = StatusCode.usersList.code then
      payload.length = sizeof PayloadRplUser ∧
        0 ∈ (Packed.ofBytes (α := PayloadRplUser) payload).userUuid.bytes
    else True
  | .subscribedList hasTeamFilter _, _, code, payload =>
    if !hasTeamFilter && code = StatusCode.subscribedList.code then TextsEnd teamTexts payload
    else if hasTeamFilter && code = StatusCode.usersList.code then TextsEnd userTexts payload
    else True
  | .list, expectedListCode, code, payload =>
    if expectedListCode ≠ 0 ∧ code ≠ expectedListCode then True
    else if code = StatusCode.teamsList.code then TextsEnd teamTexts payload
    else if code = StatusCode.channelsList.code then TextsEnd channelTexts payload
    else if code = StatusCode.threadsList.code then TextsEnd threadTexts payload
    else if code = StatusCode.repliesList.code then TextsEnd replyTexts payload
    else True
  | .info, _, code, payload =>
    if code = StatusCode.userInfo.code then TextsEnd userTexts payload
    else if code = StatusCode.teamsList.code then TextsEnd teamTexts payload
    else if code = StatusCode.channelsList.code then TextsEnd channelTexts payload
    else if code = StatusCode.threadsList.code then TextsEnd threadTexts payload
    else True
  | .create target, _, code, payload =>
    if code = StatusCode.created.code then
      match target with
      | .team => TextsEnd teamTexts payload
      | .channel => TextsEnd channelTexts payload
      | .thread => TextsEnd threadTexts payload
      | .reply => TextsEnd replyTexts payload
    else True
  | _, _, _, _ => True

end Reader

/-- A reply that is handled without its payload is handled alike whatever it carries. -/
theorem without_payload {turn turn' : Turn} (h : turn = turn') : InsideWhen True (some turn') turn := by
  rw [h]
  exact .value turn'

theorem usersBodyAt_inside (expectedListCode code : UInt16) (payload : Bytes) :
    InsideWhen (Reader.users.Inside expectedListCode code payload)
      (usersBodyAt client expectedListCode code payload) (usersBody client expectedListCode code payload) := by
  refine .ite (fun h => ?_) fun h => without_payload ?_
  · subst h
    exact showOrThrowAt_inside (userCallAt_inside _) _ payload _
  · simp only [usersBody, if_neg h]

theorem userBodyAt_inside (expectedListCode code : UInt16) (payload : Bytes) :
    InsideWhen (Reader.user.Inside expectedListCode code payload)
      (userBodyAt client expectedListCode code payload) (userBody client expectedListCode code payload) := by
  refine .ite (fun h => ?_) fun h => .ite (fun h' => ?_) fun h' => without_payload ?_
  · subst h
    exact showOrThrowAt_inside (userCallAt_inside _) _ payload _
  · subst h'
    have hcall : ∀ p : PayloadErrUnknown, InsideWhen (∀ text ∈ [p.unknownUuid.bytes], 0 ∈ text)
        (do some (LibCall.errorUnknownUser (← text p.unknownUuid.bytes)))
        (LibCall.errorUnknownUser p.unknownUuid.cstr) :=
      fun p => InsideWhen.mono (.text (.value _)) (by simp)
    exact showOrThrowAt_inside hcall _ payload _
  · simp only [userBody, if_neg h, if_neg h']

theorem messagesBodyAt_inside (targetUuid : Bytes) (expectedListCode code : UInt16) (payload : Bytes) :
    InsideWhen ((Reader.messages targetUuid).Inside expectedListCode code payload)
      (messagesBodyAt client targetUuid expectedListCode code payload)
      (messagesBody client targetUuid expectedListCode code payload) := by
  refine .ite (fun h => ?_) fun h => without_payload ?_
  · subst h
    exact (showPayloadAt_inside (messageCallAt_inside _) _ payload).bind_some fun shown => Turn.again [shown] expectedListCode
  · simp only [messagesBody, if_neg h]

theorem subscribeBodyAt_inside (teamUuid : Bytes) (expectedListCode code : UInt16) (payload : Bytes) :
    InsideWhen ((Reader.subscribe teamUuid).Inside expectedListCode code payload)
      (subscribeBodyAt client teamUuid expectedListCode code payload)
      (subscribeBody client teamUuid expectedListCode code payload) := by
  refine .ite (fun h => ?_) fun h => without_payload ?_
  · subst h
    exact InsideWhen.mono (.copy (.text (.value _))) (by rw [and_true])
  · simp only [subscribeBody, if_neg h]

theorem unsubscribeBodyAt_inside (teamUuid : Bytes) (expectedListCode code : UInt16) (payload : Bytes) :
    InsideWhen ((Reader.unsubscribe teamUuid).Inside expectedListCode code payload)
      (unsubscribeBodyAt client teamUuid expectedListCode code payload)
      (unsubscribeBody client teamUuid expectedListCode code payload) := by
  refine .ite (fun h => ?_) fun h => without_payload ?_
  · subst h
    exact InsideWhen.mono (.copy (.text (.value _))) (by rw [and_true])
  · simp only [unsubscribeBody, if_neg h]

theorem subscribedListBodyAt_inside (hasTeamFilter : Bool) (teamUuid : Bytes) (expectedListCode code : UInt16)
    (payload : Bytes) :
    InsideWhen ((Reader.subscribedList hasTeamFilter teamUuid).Inside expectedListCode code payload)
      (subscribedListBodyAt client hasTeamFilter teamUuid expectedListCode code payload)
      (subscribedListBody client hasTeamFilter teamUuid expectedListCode code payload) := by
  refine .ite (fun h => ?_) fun h => .ite (fun h' => ?_) fun h' => without_payload ?_
  · obtain ⟨hfilter, hcode⟩ := Bool.and_eq_true_iff.mp h
    cases of_decide_eq_true hcode
    cases hasTeamFilter with
    | true => cases hfilter
    | false =>
      exact (showPayloadAt_inside (teamCallAt_inside _) _ payload).bind_some fun shown => Turn.again [shown] expectedListCode
  · obtain ⟨hfilter, hcode⟩ := Bool.and_eq_true_iff.mp h'
    cases of_decide_eq_true hcode
    cases hfilter
    exact (showPayloadAt_inside (userCallAt_inside _) _ payload).bind_some fun shown => Turn.again [shown] expectedListCode
  · simp only [subscribedListBody, if_neg h, if_neg h']

theorem listBodyAt_inside (expectedListCode code : UInt16) (payload : Bytes) :
    InsideWhen (Reader.list.Inside expectedListCode code payload)
      (listBodyAt client expectedListCode code payload) (listBody client expectedListCode code payload) := by
  refine .ite (fun h => without_payload ?_) fun h => ?_
  · simp only [listBody, if_neg h.1, ne_eq, h.2, not_false_eq_true, if_true]
  have hexpected : (if expectedListCode = 0 then code else expectedListCode) = code := by
    by_cases hzero : expectedListCode = 0
    · exact if_pos hzero
    · rw [if_neg hzero]
      by_contra hne
      exact h ⟨hzero, Ne.symm hne⟩
  refine .ite (fun h => ?_) fun h₁ => .ite (fun h => ?_) fun h₂ => .ite (fun h => ?_) fun h₃ =>
    .ite (fun h => ?_) fun h₄ => without_payload ?_
  · subst h
    have hbody : listBody client expectedListCode StatusCode.teamsList.code payload =
        .again [printTeamsList payload] StatusCode.teamsList.code := by
      simp only [listBody, hexpected]
      rfl
    rw [hbody]
    exact (showPayloadAt_inside (teamCallAt_inside _) _ payload).bind_some fun shown => Turn.again [shown] _
  · subst h
    have hbody : listBody client expectedListCode StatusCode.channelsList.code payload =
        .again [printChannelsList payload] StatusCode.channelsList.code := by
      simp only [listBody, hexpected]
      rfl
    rw [hbody]
    exact (showPayloadAt_inside (channelCallAt_inside _) _ payload).bind_some fun shown => Turn.again [shown] _
  · subst h
    have hbody : listBody client expectedListCode StatusCode.threadsList.code payload =
        .again [printThreadsList payload] StatusCode.threadsList.code := by
      simp only [listBody, hexpected]
      rfl
    rw [hbody]
    exact (showPayloadAt_inside (threadCallAt_inside _) _ payload).bind_some fun shown => Turn.again [shown] _
  · subst h
    have hbody : listBody client expectedListCode StatusCode.repliesList.code payload =
        .again [printRepliesList payload] StatusCode.repliesList.code := by
      simp only [listBody, hexpected]
      rfl
    rw [hbody]
    exact (showPayloadAt_inside (replyCallAt_inside _) _ payload).bind_some fun shown => Turn.again [shown] _
  · simp only [listBody, if_neg h₁, if_neg h₂, if_neg h₃, if_neg h₄]

theorem infoBodyAt_inside (expectedListCode code : UInt16) (payload : Bytes) :
    InsideWhen (Reader.info.Inside expectedListCode code payload)
      (infoBodyAt client expectedListCode code payload) (infoBody client expectedListCode code payload) := by
  refine .ite (fun h => ?_) fun h₁ => .ite (fun h => ?_) fun h₂ => .ite (fun h => ?_) fun h₃ =>
    .ite (fun h => ?_) fun h₄ => without_payload ?_
  · subst h
    exact (showPayloadAt_inside (userCallAt_inside _) _ payload).bind_some fun shown => Turn.done [shown] (.returned client)
  · subst h
    exact (showPayloadAt_inside (teamCallAt_inside _) _ payload).bind_some fun shown => Turn.done [shown] (.returned client)
  · subst h
    exact (showPayloadAt_inside (channelCallAt_inside _) _ payload).bind_some fun shown => Turn.done [shown] (.returned client)
  · subst h
    exact (showPayloadAt_inside (threadCallAt_inside _) _ payload).bind_some fun shown => Turn.done [shown] (.returned client)
  · simp only [infoBody, if_neg h₁, if_neg h₂, if_neg h₃, if_neg h₄]

theorem createBodyAt_inside (target : CreateTarget) (expectedListCode code : UInt16) (payload : Bytes) :
    InsideWhen ((Reader.create target).Inside expectedListCode code payload)
      (createBodyAt client target expectedListCode code payload)
      (createBody client target expectedListCode code payload) := by
  refine .ite (fun h => ?_) fun h => without_payload ?_
  · subst h
    cases target with
    | team => exact (showPayloadAt_inside (teamCallAt_inside _) _ payload).bind_some fun shown => Turn.done [shown] (.returned client)
    | channel =>
      exact (showPayloadAt_inside (channelCallAt_inside _) _ payload).bind_some fun shown => Turn.done [shown] (.returned client)
    | thread =>
      exact (showPayloadAt_inside (threadCallAt_inside _) _ payload).bind_some fun shown => Turn.done [shown] (.returned client)
    | reply =>
      exact (showPayloadAt_inside (replyCallAt_inside _) _ payload).bind_some fun shown => Turn.done [shown] (.returned client)
  · simp only [createBody, if_neg h]

theorem Reader.bodyAt_inside (reader : Reader) (expectedListCode code : UInt16) (payload : Bytes) :
    InsideWhen (reader.Inside expectedListCode code payload)
      (reader.bodyAt client expectedListCode code payload) (reader.body client expectedListCode code payload) := by
  cases reader with
  | login | logout | send | use => exact .value _
  | users => exact usersBodyAt_inside client expectedListCode code payload
  | user => exact userBodyAt_inside client expectedListCode code payload
  | messages targetUuid => exact messagesBodyAt_inside client targetUuid expectedListCode code payload
  | subscribe teamUuid => exact subscribeBodyAt_inside client teamUuid expectedListCode code payload
  | unsubscribe teamUuid => exact unsubscribeBodyAt_inside client teamUuid expectedListCode code payload
  | subscribedList hasTeamFilter teamUuid =>
    exact subscribedListBodyAt_inside client hasTeamFilter teamUuid expectedListCode code payload
  | list => exact listBodyAt_inside client expectedListCode code payload
  | info => exact infoBodyAt_inside client expectedListCode code payload
  | create target => exact createBodyAt_inside client target expectedListCode code payload

/-- Show things before `next`, as `Reading.showing` does. -/
def showingAt (lib : LibCall → Int) (shown : List Shown) (rest : Inbox) (next : Option Reading) :
    Option Reading :=
  match display lib shown with
  | (shown, some error) => some (.finished shown (.threw error) rest)
  | (shown, none) => next.map (Reading.after shown)

theorem showingAt_some (lib : LibCall → Int) (shown : List Shown) (rest : Inbox) (next : Reading) :
    showingAt lib shown rest (some next) = some (next.showing lib shown rest) := by
  rw [showingAt, Reading.showing]
  obtain ⟨displayed, error⟩ := display lib shown
  cases error <;> rfl

def readRepliesAt (lib : LibCall → Int) (body : CheckedBody) : UInt16 → Inbox → Option Reading
  | _, [] => some .waiting
  | expectedListCode, (header, payload) :: inbox => do
    match ← handleAsyncEventPacketAt header.code payload with
    | some event => showingAt lib [event] inbox (readRepliesAt lib body expectedListCode inbox)
    | none =>
      match ← body expectedListCode header.code payload with
      | .again shown expectedListCode => showingAt lib shown inbox (readRepliesAt lib body expectedListCode inbox)
      | .done shown ended => showingAt lib shown inbox (some (.finished [] ended inbox))

/-- A packet that keeps the loop of a handler inside whenever it comes. -/
def Reader.Accepts (reader : Reader) (packet : PacketHeader × Bytes) : Prop :=
  EventInside packet.1.code packet.2 ∧ ∀ expectedListCode, reader.Inside expectedListCode packet.1.code packet.2

theorem readRepliesAt_eq (lib : LibCall → Int) (reader : Reader) (expectedListCode : UInt16) {inbox : Inbox}
    (h : ∀ packet ∈ inbox, reader.Accepts packet) :
    readRepliesAt lib (reader.bodyAt client) expectedListCode inbox =
      some (readReplies lib (reader.body client) expectedListCode inbox) := by
  induction inbox generalizing expectedListCode with
  | nil => rfl
  | cons packet inbox ih =>
    obtain ⟨header, payload⟩ := packet
    obtain ⟨hevent, hreply⟩ := h _ List.mem_cons_self
    have hrest := fun code => ih code fun packet hpacket => h packet (List.mem_cons_of_mem _ hpacket)
    rw [readRepliesAt, readReplies, (handleAsyncEventPacketAt_inside header.code payload).1 hevent]
    cases handleAsyncEventPacket header.code payload with
    | some event =>
      simp only [Option.bind_eq_bind, Option.bind_some, hrest]
      exact showingAt_some lib [event] inbox _
    | none =>
      simp only [Option.bind_eq_bind, Option.bind_some,
        (reader.bodyAt_inside client expectedListCode header.code payload).1 (hreply expectedListCode)]
      cases reader.body client expectedListCode header.code payload with
      | again shown expectedListCode' =>
        simp only [hrest]
        exact showingAt_some lib shown inbox _
      | done shown ended => exact showingAt_some lib shown inbox _

end TeamsMirror.Cli
