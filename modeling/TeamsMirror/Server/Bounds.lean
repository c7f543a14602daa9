import TeamsMirror.Lib.Reads
import TeamsMirror.Server.Dispatcher

/-!
# Reads of received packets

The part of the server that reads what a client sent, once more with every read of the
packet checked: the header and the payload in the incoming buffer, the structure that a
handler copies out of the payload, and the search for the end of each of its texts.
A handler whose guard does not match what it copies would end in `none` here.
-/

namespace TeamsMirror

open Reads

/-- `extractFixedString` on a view of the field that has the given size. -/
def extractFixedStringAt (field : Bytes) (size : Nat) : Option (Option Bytes) :=
  if size = 0 then some none
  else do
    match ← findNul field size 0 with
    | none => some none
    | some nullPos => do
      let text ← view field 0 nullPos
      some (some text)

def extractOptionalUuidAt (field : Bytes) (size : Nat) : Option (Option Bytes) :=
  if size = 0 then some none
  else do
    let front ← field[0]?
    if front = 0 then some (some [])
    else do
      let outValue ← extractFixedStringAt field size
      some (outValue.filter isUuidFormatValid)

theorem extractFixedStringAt_eq {n : Nat} (field : CharArray n) :
    extractFixedStringAt field.bytes n = some (extractFixedString field.bytes) := by
  obtain ⟨bytes, hlength⟩ := field
  subst hlength
  rw [extractFixedStringAt, extractFixedString]
  by_cases hempty : bytes.length = 0
  · rw [if_pos hempty, List.length_eq_zero_iff.mp hempty]
    rfl
  · rw [if_neg hempty, findNul_eq]
    by_cases hnul : 0 ∈ bytes
    · have hview : view bytes 0 (beforeNul bytes).length = some (beforeNul bytes) := by
        rw [view_eq_some (by simpa using length_beforeNul_le bytes), List.drop_zero]
        exact congrArg some (List.prefix_iff_eq_take.mp (List.takeWhile_prefix _)).symm
      simp [hnul, hview]
    · simp [hnul]

theorem extractOptionalUuidAt_eq {n : Nat} (field : CharArray n) :
    extractOptionalUuidAt field.bytes n = some (extractOptionalUuid field.bytes) := by
  rw [extractOptionalUuidAt, extractFixedStringAt_eq]
  obtain ⟨bytes, rfl⟩ := field
  cases bytes with
  | nil => rfl
  | cons front rest =>
    simp only [List.length_cons, Nat.add_one_ne_zero, if_false, extractOptionalUuid]
    by_cases hfront : front = 0 <;> simp [hfront]

def handleLoginCommandAt (context : CommandContext) : Option (Option CommandContext) :=
  if context.payloadSize ≠ sizeof PayloadReqLogin then some (some (queueStatus context .badRequest))
  else if context.clientFd ∈ context.authenticatedUsersByFd then
    some (some (queueStatus context .alreadyExist))
  else do
    let payload ← copy PayloadReqLogin context.payloadData
    match ← extractFixedStringAt payload.userName.bytes maxNameLength with
    | none => some (some (queueStatus context .badRequest))
    | some requestedUserName =>
      if requestedUserName = [] then some (some (queueStatus context .badRequest))
      else
        match findUserByName context.users requestedUserName with
        | none => some do
          let userUuid ← generateUnused context.environment fun uuid =>
            (findUserByUuid context.users uuid).isSome
          let user := User.new userUuid requestedUserName true
          some (completeLogin { context with users := context.users ++ [user] } user)
        | some user =>
          let users := Lists.modifyFirst (fun user => user.name.bytes = requestedUserName) User.addLoggedIn
            context.users
          some (some (completeLogin { context with users := users } user.addLoggedIn))

def handleUserCommandAt (context : CommandContext) : Option CommandContext :=
  if context.payloadSize ≠ sizeof PayloadReqTargetUser then some (queueStatus context .badRequest)
  else if context.clientFd ∉ context.authenticatedUsersByFd then some (queueStatus context .unauthorized)
  else do
    let requestPayload ← copy PayloadReqTargetUser context.payloadData
    match ← extractFixedStringAt requestPayload.targetUuid.bytes uuidLength with
    | none => some (queueStatus context .badRequest)
    | some requestedUserUuid =>
      if requestedUserUuid = [] then some (queueStatus context .badRequest)
      else
        match findUserByUuid context.users requestedUserUuid with
        | none =>
          some (queuePacket context context.clientFd
            ⟨.notFound, .errUnknown { unknownUuid := .copyPadded _ requestedUserUuid }⟩)
        | some user => some (queuePacket context context.clientFd ⟨.userInfo, buildUserPayload user⟩)

def handleSendCommandAt (context : CommandContext) : Option CommandContext :=
  if context.payloadSize ≠ sizeof PayloadReqSendMsg then some (queueStatus context .badRequest)
  else
    match context.authenticatedUsersByFd.lookup context.clientFd with
    | none => some (queueStatus context .unauthorized)
    | some clientUuid => do
      let payload ← copy PayloadReqSendMsg context.payloadData
      match ← extractFixedStringAt payload.messageBody.bytes maxBodyLength,
          ← extractFixedStringAt payload.targetUuid.bytes uuidLength with
      | some body, some targetUUID =>
        if ¬isUuidFormatValid targetUUID || body = [] then some (queueStatus context .badRequest)
        else if context.users.any fun user => user.uuid.bytes = targetUUID then
          let msg := Message.new (generateUuid context.environment.draw) clientUuid
            context.environment.now body targetUUID
          let context := { context with messages := context.messages ++ [msg] }
          some (queueStatus (sendMessage context msg) .ok)
        else some (queueStatus context .notFound)
      | _, _ => some (queueStatus context .badRequest)

def handleMessagesCommandAt (context : CommandContext) : Option CommandContext :=
  if context.payloadSize ≠ sizeof PayloadReqTargetUser then some (queueStatus context .badRequest)
  else
    match context.authenticatedUsersByFd.lookup context.clientFd with
    | none => some (queueStatus context .unauthorized)
    | some clientUuid => do
      let payload ← copy PayloadReqTargetUser context.payloadData
      match ← extractFixedStringAt payload.targetUuid.bytes uuidLength with
      | none => some (queueStatus context .badRequest)
      | some targetUuid =>
        if ¬isUuidFormatValid targetUuid then some (queueStatus context .badRequest)
        else if (findUserByUuid context.users targetUuid).isNone then some (queueStatus context .notFound)
        else
          let filteredMessages := filterMessages context.messages clientUuid targetUuid
          some (queueStatus (queueMessages (context.environment.sorter.sort filteredMessages) context) .ok)

def parseTeamUuidFromPayloadAt (context : CommandContext) : Option (Option Bytes) :=
  if context.payloadSize ≠ sizeof PayloadReqTeamTarget then some none
  else do
    let payload ← copy PayloadReqTeamTarget context.payloadData
    let teamUuid ← extractFixedStringAt payload.teamUuid.bytes uuidLength
    some (teamUuid.filter isUuidFormatValid)

def handleSubscribeCommandAt (context : CommandContext) : Option CommandContext :=
  match getAuthenticatedUser context with
  | none => some (queueStatus context .unauthorized)
  | some resolvedUser => do
    match ← parseTeamUuidFromPayloadAt context with
    | none => some (queueStatus context .badRequest)
    | some teamUuid =>
      match findTeamByUuid context.teams teamUuid with
      | none => some (queueStatus context .notFound)
      | some resolvedTeam =>
        if resolvedTeam.isUserSubscribed resolvedUser.uuid.bytes then some (queueStatus context .ok)
        else
          let context :=
            { context with
              teams := updateTeam context.teams teamUuid fun team =>
                team.addSubscribedUser resolvedUser.uuid.bytes }
          some (queuePacket context context.clientFd ⟨.usersList, buildUserPayload resolvedUser⟩)

def handleUnsubscribeCommandAt (context : CommandContext) : Option CommandContext :=
  match getAuthenticatedUser context with
  | none => some (queueStatus context .unauthorized)
  | some resolvedUser => do
    match ← parseTeamUuidFromPayloadAt context with
    | none => some (queueStatus context .badRequest)
    | some teamUuid =>
      match findTeamByUuid context.teams teamUuid with
      | none => some (queueStatus context .notFound)
      | some resolvedTeam =>
        let removed := (resolvedTeam.removeSubscribedUser resolvedUser.uuid.bytes).1
        let context :=
          { context with
            teams := updateTeam context.teams teamUuid fun team =>
              (team.removeSubscribedUser resolvedUser.uuid.bytes).2 }
        if ¬removed then some (queueStatus context .ok)
        else some (queuePacket context context.clientFd ⟨.usersList, buildUserPayload resolvedUser⟩)

def handleSubscribedListCommandAt (context : CommandContext) : Option CommandContext :=
  match getAuthenticatedUser context with
  | none => some (queueStatus context .unauthorized)
  | some resolvedUser =>
    if context.payloadSize = 0 then some (queueSubscribedTeamsList context resolvedUser)
    else do
      match ← parseTeamUuidFromPayloadAt context with
      | none => some (queueStatus context .badRequest)
      | some teamUuid =>
        match findTeamByUuid context.teams teamUuid with
        | none => some (queueStatus context .notFound)
        | some team => some (queueUsersList context team)

/-- The inner `none` is a bad request. -/
def parseUsePayloadAt (payloadData : Bytes) : Option (Option (Bytes × Bytes × Bytes)) :=
  if payloadData.length = sizeof PayloadReqTeamTarget then do
    let payload ← copy PayloadReqTeamTarget payloadData
    match ← extractOptionalUuidAt payload.teamUuid.bytes uuidLength with
    | none => some none
    | some teamUuid => some (some (teamUuid, [], []))
  else do
    let payload ← copy PayloadReqUse payloadData
    match ← extractOptionalUuidAt payload.teamUuid.bytes uuidLength with
    | none => some none
    | some teamUuid =>
      match ← extractOptionalUuidAt payload.channelUuid.bytes uuidLength with
      | none => some none
      | some channelUuid =>
        match ← extractOptionalUuidAt payload.threadUuid.bytes uuidLength with
        | none => some none
        | some threadUuid =>
          if isContextCombinationValid teamUuid channelUuid threadUuid then
            some (some (teamUuid, channelUuid, threadUuid))
          else some none

def handleUseCommandAt (context : CommandContext) : Option CommandContext :=
  if context.payloadSize ≠ sizeof PayloadReqTeamTarget ∧ context.payloadSize ≠ sizeof PayloadReqUse then
    some (queueStatus context .badRequest)
  else if context.clientFd ∉ context.authenticatedUsersByFd then some (queueStatus context .unauthorized)
  else do
    match ← parseUsePayloadAt context.payloadData with
    | none => some (queueStatus context .badRequest)
    | some (teamUuid, channelUuid, threadUuid) =>
      let context :=
        { context with
          clientManager :=
            context.clientManager.setContext context.clientFd teamUuid channelUuid threadUuid }
      some (queueStatus context .ok)

/-! The four requests of create are read by the first call of their handlers, and by nothing
that follows it. -/

/-- The parser of a request that holds two texts. -/
def parseTwoAt (α : Type) [Packed α] {n m : Nat} (first : α → CharArray n) (second : α → CharArray m)
    (refused : Bytes → Bytes → Prop) [∀ a b, Decidable (refused a b)] (context : CommandContext) :
    Option (Option (Bytes × Bytes)) :=
  if context.payloadSize ≠ sizeof α then some none
  else do
    let payload ← copy α context.payloadData
    match ← extractFixedStringAt (first payload).bytes n, ← extractFixedStringAt (second payload).bytes m with
    | some a, some b => if refused a b then some none else some (some (a, b))
    | _, _ => some none

def parseCreateTeamPayloadAt : CommandContext → Option (Option (Bytes × Bytes)) :=
  parseTwoAt PayloadReqCreateTeam (·.teamName) (·.teamDescription) fun name _ => name = []

def parseCreateChannelPayloadAt : CommandContext → Option (Option (Bytes × Bytes)) :=
  parseTwoAt PayloadReqCreateChannel (·.channelName) (·.channelDescription) fun name _ => name = []

def parseCreateThreadPayloadAt : CommandContext → Option (Option (Bytes × Bytes)) :=
  parseTwoAt PayloadReqCreateThread (·.threadTitle) (·.threadBody) fun title body => title = [] || body = []

def parseCreateReplyPayloadAt (context : CommandContext) : Option (Option Bytes) :=
  if context.payloadSize ≠ sizeof PayloadReqCreateReply then some none
  else do
    let payload ← copy PayloadReqCreateReply context.payloadData
    match ← extractFixedStringAt payload.replyBody.bytes maxBodyLength with
    | some body => if body = [] then some none else some (some body)
    | none => some none

/-- A handler that reads the payload by one parser, which comes first, and answers a bad
request when it fails. -/
def handleParsedAt {α : Type} (parse : CommandContext → Option (Option α))
    (handler : CommandContext → User → Option CommandContext) (context : CommandContext) (user : User) :
    Option (Option CommandContext) := do
  match ← parse context with
  | none => some (some (queueStatus context .badRequest))
  | some _ => some (handler context user)

def handleCreateCommandAt (context : CommandContext) : Option (Option CommandContext) :=
  match getAuthenticatedUser context with
  | none => some (some (queueStatus context .unauthorized))
  | some resolvedUser =>
    let hasTeam := context.contextTeamUuid ≠ []
    let hasChannel := context.contextChannelUuid ≠ []
    let hasThread := context.contextThreadUuid ≠ []
    if ¬hasTeam ∧ (hasChannel ∨ hasThread) then some (some (queueStatus context .badRequest))
    else if ¬hasChannel ∧ hasThread then some (some (queueStatus context .badRequest))
    else if ¬hasTeam then handleParsedAt parseCreateTeamPayloadAt handleCreateTeam context resolvedUser
    else if ¬hasChannel then
      handleParsedAt parseCreateChannelPayloadAt handleCreateChannel context resolvedUser
    else if ¬hasThread then
      handleParsedAt parseCreateThreadPayloadAt handleCreateThread context resolvedUser
    else
      handleParsedAt parseCreateReplyPayloadAt (fun context user => some (handleCreateReply context user))
        context resolvedUser

def commandHandlersAt : List (UInt16 × (CommandContext → Option (Option CommandContext))) :=
  [(CommandID.login.code, handleLoginCommandAt),
    (CommandID.users.code, fun context => some (some (handleUsersCommand context))),
    (CommandID.userInfo.code, fun context => (handleUserCommandAt context).map some),
    (CommandID.info.code, fun context => some (some (handleInfoCommand context))),
    (CommandID.logout.code, fun context => some (some (handleLogoutCommand context))),
    (CommandID.use.code, fun context => (handleUseCommandAt context).map some),
    (CommandID.create.code, handleCreateCommandAt),
    (CommandID.list.code, fun context => some (some (handleListCommand context))),
    (CommandID.subscribe.code, fun context => (handleSubscribeCommandAt context).map some),
    (CommandID.unsubscribe.code, fun context => (handleUnsubscribeCommandAt context).map some),
    (CommandID.subscribedList.code, fun context => (handleSubscribedListCommandAt context).map some),
    (CommandID.messages.code, fun context => (handleMessagesCommandAt context).map some),
    (CommandID.send.code, fun context => (handleSendCommandAt context).map some)]

def dispatchCommandAt (context : CommandContext) (commandCode : UInt16) : Option (Option CommandContext) :=
  match commandHandlersAt.find? fun entry => entry.1 = commandCode with
  | none => some (some (queueStatus context .badRequest))
  | some entry => entry.2 context

/-- The inner `none` is a packet that is not complete. -/
def peekPacketAt (incomingBuffer : Bytes) : Option (Option (PacketHeader × Bytes)) :=
  if incomingBuffer.length < sizeof PacketHeader then some none
  else do
    let headerData ← view incomingBuffer 0 (sizeof PacketHeader)
    let header ← copy PacketHeader headerData
    let packetSize := sizeof PacketHeader + header.payloadSize.toNat
    if incomingBuffer.length < packetSize then some none
    else do
      let payload ← view incomingBuffer (sizeof PacketHeader) header.payloadSize.toNat
      some (some (header, payload))

def processPacketAt (s : Server) (clientFd : Fd) (environment : Environment) (header : PacketHeader)
    (payload : Bytes) : Option (Option (Server × Dispatched)) := do
  match ← dispatchCommandAt (s.context clientFd payload environment) header.code with
  | none => some none
  | some context =>
    let packetSize := sizeof PacketHeader + header.payloadSize.toNat
    some (some
      ({ context.toServer with
          clientManager := context.clientManager.consumeIncomingBuffer clientFd packetSize },
        ⟨header.code, payload, context.queued⟩))

def processClientIncomingPacketsAt (oracle : Server → Environment) (clientFd : Fd) :
    Nat → Server → Option (Except Stuck (Server × List Dispatched))
  | 0, _ => some (.error .fuel)
  | fuel + 1, s => do
    match ← peekPacketAt (s.clientManager.getIncomingBuffer clientFd) with
    | none => some (.ok (s, []))
    | some (header, payload) =>
      match ← processPacketAt s clientFd (oracle s) header payload with
      | none => some (.error .draws)
      | some (s', dispatched) =>
        match ← processClientIncomingPacketsAt oracle clientFd fuel s' with
        | .error stuck => some (.error stuck)
        | .ok (s'', later) => some (.ok (s'', dispatched :: later))

variable (context : CommandContext)

theorem handleLoginCommandAt_eq : handleLoginCommandAt context = some (handleLoginCommand context) := by
  unfold handleLoginCommandAt handleLoginCommand
  by_cases hsize : context.payloadSize = sizeof PayloadReqLogin
  · have hcopy := copy_eq_some (α := PayloadReqLogin) hsize
    simp only [hsize, hcopy, extractFixedStringAt_eq, Option.bind_eq_bind, Option.bind_some]
    by_cases hfd : context.clientFd ∈ context.authenticatedUsersByFd
    · simp [hfd]
    · simp only [hfd, ne_eq, not_true, if_false]
      cases extractFixedString (Packed.ofBytes (α := PayloadReqLogin) context.payloadData).userName.bytes with
      | none => rfl
      | some name =>
        by_cases hname : name = []
        · simp [hname]
        · simp only [hname, if_false]
          cases findUserByName context.users name <;> rfl
  · rw [if_pos hsize, if_pos hsize]

theorem handleUserCommandAt_eq : handleUserCommandAt context = some (handleUserCommand context) := by
  unfold handleUserCommandAt handleUserCommand
  by_cases hsize : context.payloadSize = sizeof PayloadReqTargetUser
  · have hcopy := copy_eq_some (α := PayloadReqTargetUser) hsize
    simp only [hsize, hcopy, extractFixedStringAt_eq, Option.bind_eq_bind, Option.bind_some]
    by_cases hfd : context.clientFd ∈ context.authenticatedUsersByFd
    · simp only [hfd, ne_eq, not_true, if_false]
      cases extractFixedString
          (Packed.ofBytes (α := PayloadReqTargetUser) context.payloadData).targetUuid.bytes with
      | none => rfl
      | some uuid =>
        by_cases huuid : uuid = []
        · simp [huuid]
        · simp only [huuid, if_false]
          cases findUserByUuid context.users uuid <;> rfl
    · simp [hfd]
  · rw [if_pos hsize, if_pos hsize]

theorem handleSendCommandAt_eq : handleSendCommandAt context = some (handleSendCommand context) := by
  unfold handleSendCommandAt handleSendCommand
  by_cases hsize : context.payloadSize = sizeof PayloadReqSendMsg
  · have hcopy := copy_eq_some (α := PayloadReqSendMsg) hsize
    simp only [hsize, hcopy, extractFixedStringAt_eq, Option.bind_eq_bind, Option.bind_some, ne_eq, not_true,
      if_false]
    cases context.authenticatedUsersByFd.lookup context.clientFd with
    | none => rfl
    | some clientUuid =>
      simp only
      cases extractFixedString (Packed.ofBytes (α := PayloadReqSendMsg) context.payloadData).messageBody.bytes <;>
        cases extractFixedString (Packed.ofBytes (α := PayloadReqSendMsg) context.payloadData).targetUuid.bytes
      · rfl
      · rfl
      · rfl
      · simp only
        rw [apply_ite some, apply_ite some]
  · rw [if_pos hsize, if_pos hsize]

theorem handleMessagesCommandAt_eq :
    handleMessagesCommandAt context = some (handleMessagesCommand context) := by
  unfold handleMessagesCommandAt handleMessagesCommand
  by_cases hsize : context.payloadSize = sizeof PayloadReqTargetUser
  · have hcopy := copy_eq_some (α := PayloadReqTargetUser) hsize
    simp only [hsize, hcopy, extractFixedStringAt_eq, Option.bind_eq_bind, Option.bind_some, ne_eq, not_true,
      if_false]
    cases context.authenticatedUsersByFd.lookup context.clientFd with
    | none => rfl
    | some clientUuid =>
      simp only
      cases extractFixedString
          (Packed.ofBytes (α := PayloadReqTargetUser) context.payloadData).targetUuid.bytes with
      | none => rfl
      | some targetUuid =>
        simp only
        rw [apply_ite some, apply_ite some]
  · rw [if_pos hsize, if_pos hsize]

theorem parseTeamUuidFromPayloadAt_eq :
    parseTeamUuidFromPayloadAt context = some (parseTeamUuidFromPayload context) := by
  unfold parseTeamUuidFromPayloadAt parseTeamUuidFromPayload
  by_cases hsize : context.payloadSize = sizeof PayloadReqTeamTarget
  · have hcopy := copy_eq_some (α := PayloadReqTeamTarget) hsize
    simp [hsize, hcopy, extractFixedStringAt_eq]
  · rw [if_pos hsize, if_pos hsize]

theorem handleSubscribeCommandAt_eq :
    handleSubscribeCommandAt context = some (handleSubscribeCommand context) := by
  unfold handleSubscribeCommandAt handleSubscribeCommand
  rw [parseTeamUuidFromPayloadAt_eq]
  cases getAuthenticatedUser context with
  | none => rfl
  | some user =>
    cases parseTeamUuidFromPayload context with
    | none => rfl
    | some teamUuid =>
      simp only [Option.bind_eq_bind, Option.bind_some]
      cases findTeamByUuid context.teams teamUuid with
      | none => rfl
      | some team => exact (apply_ite some _ _ _).symm

theorem handleUnsubscribeCommandAt_eq :
    handleUnsubscribeCommandAt context = some (handleUnsubscribeCommand context) := by
  unfold handleUnsubscribeCommandAt handleUnsubscribeCommand
  rw [parseTeamUuidFromPayloadAt_eq]
  cases getAuthenticatedUser context with
  | none => rfl
  | some user =>
    cases parseTeamUuidFromPayload context with
    | none => rfl
    | some teamUuid =>
      simp only [Option.bind_eq_bind, Option.bind_some]
      cases findTeamByUuid context.teams teamUuid with
      | none => rfl
      | some team => exact (apply_ite some _ _ _).symm

theorem handleSubscribedListCommandAt_eq :
    handleSubscribedListCommandAt context = some (handleSubscribedListCommand context) := by
  unfold handleSubscribedListCommandAt handleSubscribedListCommand
  rw [parseTeamUuidFromPayloadAt_eq]
  cases getAuthenticatedUser context with
  | none => rfl
  | some user =>
    by_cases hempty : context.payloadSize = 0
    · simp [hempty]
    · simp only [hempty, if_false]
      cases parseTeamUuidFromPayload context with
      | none => rfl
      | some teamUuid =>
        simp only [Option.bind_eq_bind, Option.bind_some]
        cases findTeamByUuid context.teams teamUuid <;> rfl

/-- The parser does not look at the size again: one of the two is what its caller has left. -/
theorem parseUsePayloadAt_eq {payloadData : Bytes}
    (h : payloadData.length = sizeof PayloadReqTeamTarget ∨ payloadData.length = sizeof PayloadReqUse) :
    parseUsePayloadAt payloadData = some (parseUsePayload payloadData) := by
  unfold parseUsePayloadAt parseUsePayload
  by_cases hsize : payloadData.length = sizeof PayloadReqTeamTarget
  · have hcopy := copy_eq_some (α := PayloadReqTeamTarget) hsize
    simp only [if_pos hsize, hcopy, extractOptionalUuidAt_eq, Option.bind_eq_bind, Option.bind_some]
    cases extractOptionalUuid
      (Packed.ofBytes (α := PayloadReqTeamTarget) payloadData).teamUuid.bytes <;> rfl
  · have hcopy := copy_eq_some (α := PayloadReqUse) (h.resolve_left hsize)
    simp only [if_neg hsize, hcopy, extractOptionalUuidAt_eq, Option.bind_eq_bind, Option.bind_some]
    cases extractOptionalUuid (Packed.ofBytes (α := PayloadReqUse) payloadData).teamUuid.bytes with
    | none => rfl
    | some teamUuid =>
      simp only [Option.bind_some]
      cases extractOptionalUuid (Packed.ofBytes (α := PayloadReqUse) payloadData).channelUuid.bytes with
      | none => rfl
      | some channelUuid =>
        simp only [Option.bind_some]
        cases extractOptionalUuid (Packed.ofBytes (α := PayloadReqUse) payloadData).threadUuid.bytes with
        | none => rfl
        | some threadUuid => exact (apply_ite some _ _ _).symm

theorem handleUseCommandAt_eq : handleUseCommandAt context = some (handleUseCommand context) := by
  unfold handleUseCommandAt handleUseCommand
  by_cases hsize : context.payloadSize ≠ sizeof PayloadReqTeamTarget ∧ context.payloadSize ≠ sizeof PayloadReqUse
  · rw [if_pos hsize, if_pos hsize]
  · have hparse : parseUsePayloadAt context.payloadData = some (parseUsePayload context.payloadData) :=
      parseUsePayloadAt_eq ((not_and_or.mp hsize).imp not_not.mp not_not.mp)
    rw [if_neg hsize, if_neg hsize, hparse]
    by_cases hfd : context.clientFd ∈ context.authenticatedUsersByFd
    · simp only [hfd, not_true, if_false, Option.bind_eq_bind, Option.bind_some]
      cases parseUsePayload context.payloadData <;> rfl
    · simp [hfd]

theorem parseTwoAt_eq (α : Type) [Packed α] {n m : Nat} (first : α → CharArray n)
    (second : α → CharArray m) (refused : Bytes → Bytes → Prop) [∀ a b, Decidable (refused a b)] :
    parseTwoAt α first second refused context = some
      (if context.payloadSize ≠ sizeof α then none
      else do
        let payload : α := Packed.ofBytes context.payloadData
        let a ← extractFixedString (first payload).bytes
        let b ← extractFixedString (second payload).bytes
        if refused a b then none else some (a, b)) := by
  unfold parseTwoAt
  by_cases hsize : context.payloadSize = sizeof α
  · have hcopy := copy_eq_some (α := α) hsize
    simp only [hsize, hcopy, extractFixedStringAt_eq, Option.bind_eq_bind, Option.bind_some, ne_eq, not_true,
      if_false]
    cases extractFixedString (first (Packed.ofBytes context.payloadData)).bytes <;>
      cases extractFixedString (second (Packed.ofBytes context.payloadData)).bytes
    · rfl
    · rfl
    · rfl
    · exact (apply_ite some _ _ _).symm
  · rw [if_pos hsize, if_pos hsize]

theorem parseCreateTeamPayloadAt_eq :
    parseCreateTeamPayloadAt context = some (parseCreateTeamPayload context) :=
  parseTwoAt_eq context _ _ _ _

theorem parseCreateChannelPayloadAt_eq :
    parseCreateChannelPayloadAt context = some (parseCreateChannelPayload context) :=
  parseTwoAt_eq context _ _ _ _

theorem parseCreateThreadPayloadAt_eq :
    parseCreateThreadPayloadAt context = some (parseCreateThreadPayload context) :=
  parseTwoAt_eq context _ _ _ _

theorem parseCreateReplyPayloadAt_eq :
    parseCreateReplyPayloadAt context = some (parseCreateReplyPayload context) := by
  unfold parseCreateReplyPayloadAt parseCreateReplyPayload
  by_cases hsize : context.payloadSize = sizeof PayloadReqCreateReply
  · have hcopy := copy_eq_some (α := PayloadReqCreateReply) hsize
    simp only [hsize, hcopy, extractFixedStringAt_eq, Option.bind_eq_bind, Option.bind_some, ne_eq, not_true,
      if_false]
    cases extractFixedString (Packed.ofBytes (α := PayloadReqCreateReply) context.payloadData).replyBody.bytes with
    | none => rfl
    | some body => exact (apply_ite some _ _ _).symm
  · rw [if_pos hsize, if_pos hsize]

/-- A handler that answers a bad request where its parser fails. -/
theorem handleParsedAt_eq {α : Type} {parse : CommandContext → Option α}
    {parseAt : CommandContext → Option (Option α)} {handler : CommandContext → User → Option CommandContext}
    (hparse : parseAt context = some (parse context))
    (hfail : parse context = none → ∀ user, handler context user = some (queueStatus context .badRequest))
    (user : User) : handleParsedAt parseAt handler context user = some (handler context user) := by
  rw [handleParsedAt, hparse]
  cases h : parse context with
  | none => exact congrArg some (hfail h user).symm
  | some parsed => rfl

theorem handleCreateCommandAt_eq : handleCreateCommandAt context = some (handleCreateCommand context) := by
  unfold handleCreateCommandAt handleCreateCommand
  cases getAuthenticatedUser context with
  | none => rfl
  | some user =>
    have hteam : handleParsedAt parseCreateTeamPayloadAt handleCreateTeam context user =
        some (handleCreateTeam context user) :=
      handleParsedAt_eq context (parseCreateTeamPayloadAt_eq context)
        (fun h user => by rw [handleCreateTeam, h]) user
    have hchannel : handleParsedAt parseCreateChannelPayloadAt handleCreateChannel context user =
        some (handleCreateChannel context user) :=
      handleParsedAt_eq context (parseCreateChannelPayloadAt_eq context)
        (fun h user => by rw [handleCreateChannel, h]) user
    have hthread : handleParsedAt parseCreateThreadPayloadAt handleCreateThread context user =
        some (handleCreateThread context user) :=
      handleParsedAt_eq context (parseCreateThreadPayloadAt_eq context)
        (fun h user => by rw [handleCreateThread, h]) user
    have hreply : handleParsedAt parseCreateReplyPayloadAt
        (fun context user => some (handleCreateReply context user)) context user =
          some (some (handleCreateReply context user)) :=
      handleParsedAt_eq context (parseCreateReplyPayloadAt_eq context)
        (fun h user => by rw [handleCreateReply, h]) user
    simp only [hteam, hchannel, hthread, hreply]
    split
    · rfl
    · split
      · rfl
      · split
        · rfl
        · split
          · rfl
          · split <;> rfl

theorem dispatchCommandAt_eq (commandCode : UInt16) :
    dispatchCommandAt context commandCode = some (dispatchCommand context commandCode) := by
  have htable : commandHandlersAt.map (fun entry => (entry.1, entry.2 context)) =
      commandHandlers.map fun entry => (entry.1, some (entry.2 context)) := by
    simp only [commandHandlersAt, commandHandlers, List.map_cons, List.map_nil, handleLoginCommandAt_eq,
      handleUserCommandAt_eq, handleUseCommandAt_eq, handleCreateCommandAt_eq, handleSubscribeCommandAt_eq,
      handleUnsubscribeCommandAt_eq, handleSubscribedListCommandAt_eq, handleMessagesCommandAt_eq,
      handleSendCommandAt_eq, Option.map_some]
  have hfind := congrArg (List.find? fun entry => entry.1 = commandCode) htable
  simp only [List.find?_map, Function.comp_def] at hfind
  unfold dispatchCommandAt dispatchCommand
  cases h : commandHandlersAt.find? fun entry => entry.1 = commandCode with
  | none =>
    cases h' : commandHandlers.find? fun entry => entry.1 = commandCode with
    | none => rfl
    | some entry => simp [h, h'] at hfind
  | some entryAt =>
    cases h' : commandHandlers.find? fun entry => entry.1 = commandCode with
    | none => simp [h, h'] at hfind
    | some entry =>
      simp only [h, h', Option.map_some, Option.some.injEq, Prod.mk.injEq] at hfind
      exact hfind.2

theorem peekPacketAt_eq (incomingBuffer : Bytes) :
    peekPacketAt incomingBuffer = some (peekPacket incomingBuffer) := by
  unfold peekPacketAt peekPacket
  by_cases hheader : incomingBuffer.length < sizeof PacketHeader
  · rw [if_pos hheader, if_pos hheader]
  · have hview : view incomingBuffer 0 (sizeof PacketHeader) =
        some (incomingBuffer.take (sizeof PacketHeader)) := view_eq_some (by omega)
    have hcopy : copy PacketHeader (incomingBuffer.take (sizeof PacketHeader)) =
        some (Packed.ofBytes (incomingBuffer.take (sizeof PacketHeader))) :=
      copy_eq_some (List.length_take_of_le (by omega))
    simp only [if_neg hheader, hview, hcopy, Option.bind_eq_bind, Option.bind_some]
    split
    · rfl
    · next hpacket =>
      rw [view_eq_some (by omega)]
      rfl

theorem processPacketAt_eq (s : Server) (clientFd : Fd) (environment : Environment) (header : PacketHeader)
    (payload : Bytes) :
    processPacketAt s clientFd environment header payload =
      some (processPacket s clientFd environment header payload) := by
  unfold processPacketAt processPacket
  rw [dispatchCommandAt_eq]
  cases dispatchCommand (s.context clientFd payload environment) header.code <;> rfl

theorem processClientIncomingPacketsAt_eq (oracle : Server → Environment) (clientFd : Fd) (fuel : Nat)
    (s : Server) :
    processClientIncomingPacketsAt oracle clientFd fuel s =
      some (processClientIncomingPackets oracle clientFd fuel s) := by
  induction fuel generalizing s with
  | zero => rfl
  | succ fuel ih =>
    rw [processClientIncomingPacketsAt, processClientIncomingPackets, peekPacketAt_eq]
    cases peekPacket (s.clientManager.getIncomingBuffer clientFd) with
    | none => rfl
    | some packet =>
      obtain ⟨header, payload⟩ := packet
      simp only [processPacketAt_eq, Option.bind_eq_bind, Option.bind_some]
      cases processPacket s clientFd (oracle s) header payload with
      | none => rfl
      | some next =>
        obtain ⟨s', dispatched⟩ := next
        simp only [ih, Option.bind_some]
        cases processClientIncomingPackets oracle clientFd fuel s' <;> rfl

end TeamsMirror
