import TeamsMirror.Client.Display
import TeamsMirror.Client.Input
import TeamsMirror.Common.Requests
import TeamsMirror.Common.Uuid

/-!
# The commands of the client

A handler checks its arguments, sends one request, and then reads packets until
its own grammar of replies says that the answer is complete. The part before the
request decides between an early end and an exchange; the part after it is the
body of the reading loop, a function of one reply at a time.
-/

namespace TeamsMirror.Cli

structure Client where
  connected : Bool
  username : Bytes
  contextTeamUuid : Bytes
  contextChannelUuid : Bytes
  contextThreadUuid : Bytes
deriving DecidableEq

def Client.start : Client := ⟨false, [], [], [], []⟩

/-- A handler returns, having changed the client, or throws. -/
inductive Ended where
  | returned (client : Client)
  | threw (error : ClientError)
deriving DecidableEq

/-- What the body of a loop does with a reply: read another one, or end the handler.
`expectedListCode` is the loop variable of `/list`, which alone has one. -/
inductive Turn where
  | again (shown : List Shown) (expectedListCode : UInt16)
  | done (shown : List Shown) (ended : Ended)

abbrev Body := (expectedListCode code : UInt16) → (payload : Bytes) → Turn

inductive Handling where
  | ended (shown : List Shown) (ended : Ended)
  | exchange (request : Request) (body : Body)

variable (client : Client)

/-- Print a line and return. -/
def Handling.say (text : String) : Handling := .ended [.line .plain text] (.returned client)

def Turn.say (text : String) : Turn := .done [.line .plain text] (.returned client)

def Turn.call (call : LibCall) : Turn := .done [.lib call] (.returned client)

def Turn.unexpectedStatus (code : UInt16) : Turn := .done [Cli.unexpectedStatus code] (.returned client)

def Turn.throws (shown : List Shown) (kind : Kind) (text : String) : Turn :=
  .done shown (.threw (.runtimeError kind text))

def helpText : String :=
  "/help: display this help\n" ++
  "/info: display details in current context\n" ++
  "/login \"user_name\": log in with a username\n" ++
  "/logout: log out from the current session\n" ++
  "/use [\"team_uuid\"] [\"channel_uuid\"] [\"thread_uuid\"]: set context\n" ++
  "/create \"name\" \"description\" or /create \"body\": create by current context\n" ++
  "/list: list entities in current context\n" ++
  "/user \"user_uuid\": display a user's details\n" ++
  "/users: list users\n" ++
  "/subscribe \"team_uuid\": subscribe to a team\n" ++
  "/unsubscribe \"team_uuid\": unsubscribe from a team\n" ++
  "/subscribed [\"team_uuid\"]: list subscribed teams or users"

def handleHelp (input : ParsedInput) : Handling :=
  if input.hasRemainingArgs then .say client "Usage: /help"
  else .say client helpText

def loginBody (username : Bytes) : Body := fun _ code _ =>
  if code = StatusCode.ok.code then
    .done [] (.returned { client with connected := true, username := username })
  else if code = StatusCode.badRequest.code then .say client "Invalid login request."
  else .unexpectedStatus client code

def handleLogin (input : ParsedInput) : Handling :=
  if client.connected then .ended [.alreadyLoggedIn client.username] (.returned client)
  else
    let (username, input) := input.getArg
    if input.fail || input.hasRemainingArgs then .say client "Usage: /login \"user_name\""
    else if username = [] then .say client "Username cannot be empty."
    else .exchange (.login username) (loginBody client username)

def logoutBody : Body := fun _ code _ =>
  if code = StatusCode.ok.code then
    .done []
      (.returned
        { connected := false
          username := []
          contextTeamUuid := []
          contextChannelUuid := []
          contextThreadUuid := [] })
  else if code = StatusCode.unauthorized.code then .call client .errorUnauthorized
  else if code = StatusCode.badRequest.code then .say client "Invalid logout request."
  else .unexpectedStatus client code

def handleLogout (input : ParsedInput) : Handling :=
  if input.hasRemainingArgs then .say client "Usage: /logout"
  else if !client.connected then .ended [.lib .errorUnauthorized] (.returned client)
  else .exchange .logout (logoutBody client)

/-- Show the payload of a reply and go on as told, or throw when it has another size. -/
def showOrThrow (α : Type) [Packed α] (call : α → LibCall) (malformed : String) (payload : Bytes)
    (next : List Shown → Turn) : Turn :=
  if payload.length ≠ sizeof α then .throws [] .malformed malformed
  else next [.lib (call (Packed.ofBytes payload))]

def usersBody : Body := fun expectedListCode code payload =>
  if code = StatusCode.ok.code then .done [] (.returned client)
  else if code = StatusCode.usersList.code then
    showOrThrow PayloadRplUser (fun p => .printUsers p.userUuid.cstr p.userName.cstr p.userStatus)
      "invalid RPL_USERS_LIST payload size" payload fun shown => .again shown expectedListCode
  else if code = StatusCode.unauthorized.code then
    .throws [.lib .errorUnauthorized] .plain "Unauthorized: you must be logged in to use /users"
  else if code = StatusCode.badRequest.code then
    .throws [] .plain "Server rejected /users request (bad request)"
  else .throws [] .unexpectedSequence "unexpected reply code for /users"

def handleUsers (input : ParsedInput) : Handling :=
  if input.hasRemainingArgs then .ended [] (.threw (.invalidArgument "Usage: /users"))
  else .exchange .users (usersBody client)

def userBody : Body := fun expectedListCode code payload =>
  if code = StatusCode.ok.code then .again [] expectedListCode
  else if code = StatusCode.userInfo.code then
    showOrThrow PayloadRplUser (fun p => .printUser p.userUuid.cstr p.userName.cstr p.userStatus)
      "invalid RPL_USER_INFO payload size" payload fun shown => .done shown (.returned client)
  else if code = StatusCode.notFound.code then
    showOrThrow PayloadErrUnknown (fun p => .errorUnknownUser p.unknownUuid.cstr)
      "invalid ERR_NOT_FOUND payload size for /user" payload fun shown =>
        .throws shown .plain "Unknown user UUID"
  else if code = StatusCode.unauthorized.code then
    .throws [.lib .errorUnauthorized] .plain "Unauthorized: you must be logged in to use /user"
  else if code = StatusCode.badRequest.code then
    .throws [] .plain "Server rejected /user request (bad request)"
  else .throws [] .unexpectedSequence "unexpected reply code for /user"

/-- The copy of `isUuidFormatValid` that `/user` has (`user_command_detail::isValidUuid`). -/
def isValidUuid (uuid : Bytes) : Bool := isUuidFormatValid uuid

def handleUser (input : ParsedInput) : Handling :=
  let (targetUuid, input) := input.getArg
  if input.fail || input.hasRemainingArgs then
    .ended [] (.threw (.invalidArgument "Usage: /user \"user_uuid\""))
  else if !isValidUuid targetUuid then .ended [] (.threw (.invalidArgument "Invalid UUID format."))
  else .exchange (.user targetUuid) (userBody client)

def sendBody (targetUuid : Bytes) : Body := fun _ code _ =>
  if code = StatusCode.ok.code then .done [] (.returned client)
  else if code = StatusCode.unauthorized.code then .call client .errorUnauthorized
  else if code = StatusCode.notFound.code then .call client (.errorUnknownUser targetUuid)
  else if code = StatusCode.badRequest.code then .say client "Invalid /send request."
  else .unexpectedStatus client code

def handleSend (input : ParsedInput) : Handling :=
  let (targetUuid, input) := input.getArg
  let (messageBody, input) := input.getArg
  if input.fail || input.hasRemainingArgs then
    .say client "Usage: /send \"user_uuid\" \"message_body\""
  else if !isUuidFormatValid targetUuid then .say client "Invalid user UUID format."
  else if messageBody = [] then .say client "Message body cannot be empty."
  else .exchange (.send targetUuid messageBody) (sendBody client targetUuid)

def printMessageEntry : Bytes → Shown :=
  showPayload PayloadRplMessage
    (fun p => .printPrivateMessages p.senderUuid.cstr p.messageTimestamp.toInt64 p.messageBody.cstr)
    (malformedLine "Malformed messages payload received from server.")

def messagesBody (targetUuid : Bytes) : Body := fun expectedListCode code payload =>
  if code = StatusCode.ok.code then .done [] (.returned client)
  else if code = StatusCode.messagesList.code then .again [printMessageEntry payload] expectedListCode
  else if code = StatusCode.unauthorized.code then .call client .errorUnauthorized
  else if code = StatusCode.notFound.code then .call client (.errorUnknownUser targetUuid)
  else if code = StatusCode.badRequest.code then .say client "Invalid /messages request."
  else .unexpectedStatus client code

def handleMessages (input : ParsedInput) : Handling :=
  let (targetUuid, input) := input.getArg
  if input.fail || input.hasRemainingArgs then .say client "Usage: /messages \"user_uuid\""
  else if !isUuidFormatValid targetUuid then .say client "Invalid user UUID format."
  else .exchange (.messages targetUuid) (messagesBody client targetUuid)

def handleCommonError (statusCode : UInt16) (teamUuid : Bytes) : Turn :=
  if statusCode = StatusCode.unauthorized.code then .call client .errorUnauthorized
  else if statusCode = StatusCode.notFound.code then .call client (.errorUnknownTeam teamUuid)
  else if statusCode = StatusCode.alreadyExist.code then .call client .errorAlreadyExist
  else if statusCode = StatusCode.forbidden.code then
    .say client "Operation forbidden in current context."
  else .unexpectedStatus client statusCode

/-- The payload of a subscription is copied without a check of its size. -/
def subscribeBody (teamUuid : Bytes) : Body := fun _ code payload =>
  if code = StatusCode.ok.code then .done [] (.returned client)
  else if code = StatusCode.usersList.code then
    let userPayload : PayloadRplUser := Packed.ofBytes payload
    .call client (.printSubscribed userPayload.userUuid.cstr teamUuid)
  else handleCommonError client code teamUuid

def handleSubscribe (input : ParsedInput) : Handling :=
  let (teamUuid, input) := input.getArg
  if input.fail || input.hasRemainingArgs then .say client "Usage: /subscribe \"team_uuid\""
  else if !isUuidFormatValid teamUuid then .say client "Invalid team UUID format."
  else .exchange (.subscribe teamUuid) (subscribeBody client teamUuid)

def unsubscribeBody (teamUuid : Bytes) : Body := fun _ code payload =>
  if code = StatusCode.ok.code then .done [] (.returned client)
  else if code = StatusCode.usersList.code then
    let userPayload : PayloadRplUser := Packed.ofBytes payload
    .call client (.printUnsubscribed userPayload.userUuid.cstr teamUuid)
  else if code = StatusCode.forbidden.code then .say client "You are not subscribed to this team."
  else handleCommonError client code teamUuid

def handleUnsubscribe (input : ParsedInput) : Handling :=
  let (teamUuid, input) := input.getArg
  if input.fail || input.hasRemainingArgs then .say client "Usage: /unsubscribe \"team_uuid\""
  else if !isUuidFormatValid teamUuid then .say client "Invalid team UUID format."
  else .exchange (.unsubscribe teamUuid) (unsubscribeBody client teamUuid)

def printTeamEntry : Bytes → Shown :=
  showPayload PayloadRplTeam
    (fun p => .printTeams p.teamUuid.cstr p.teamName.cstr p.teamDescription.cstr)
    (malformedLine "Malformed team list payload received from server.")

def printUserEntry : Bytes → Shown :=
  showPayload PayloadRplUser (fun p => .printUsers p.userUuid.cstr p.userName.cstr p.userStatus)
    (malformedLine "Malformed user list payload received from server.")

def subscribedListBody (hasTeamFilter : Bool) (teamUuid : Bytes) : Body :=
  fun expectedListCode code payload =>
    if code = StatusCode.ok.code then .done [] (.returned client)
    else if code = StatusCode.unauthorized.code then .call client .errorUnauthorized
    else if code = StatusCode.notFound.code then .call client (.errorUnknownTeam teamUuid)
    else if code = StatusCode.forbidden.code then
      .say client "You are not allowed to access this team."
    else if !hasTeamFilter && code = StatusCode.subscribedList.code then
      .again [printTeamEntry payload] expectedListCode
    else if hasTeamFilter && code = StatusCode.usersList.code then
      .again [printUserEntry payload] expectedListCode
    else if !hasTeamFilter then
      .done [.line .unexpectedSequence "Unexpected response for /subscribed."] (.returned client)
    else
      .done [.line .unexpectedSequence "Unexpected response for /subscribed \"team_uuid\"."]
        (.returned client)

def handleSubscribedList (input : ParsedInput) : Handling :=
  if input.hasRemainingArgs then
    let (teamUuid, input) := input.getArg
    if input.fail || input.hasRemainingArgs then .say client "Usage: /subscribed [\"team_uuid\"]"
    else if !isUuidFormatValid teamUuid then .say client "Invalid team UUID format."
    else .exchange (.subscribedUsers teamUuid) (subscribedListBody client true teamUuid)
  else .exchange .subscribedTeams (subscribedListBody client false [])

def useUsage : String := "Usage: /use [\"team_uuid\"] [\"channel_uuid\"] [\"thread_uuid\"]"

/-- One optional argument of `/use`, `none` when there is one that is no uuid. -/
def optionalUuid (input : ParsedInput) : Option (Bytes × ParsedInput) :=
  if input.hasRemainingArgs then
    let (uuid, input) := input.getArg
    if input.fail || !isUuidFormatValid uuid then none else some (uuid, input)
  else some ([], input)

def useBody (teamUuid channelUuid threadUuid : Bytes) : Body := fun _ code _ =>
  if code = StatusCode.unauthorized.code then
    .say client "You must be logged in to use this command."
  else if code = StatusCode.badRequest.code then
    .say client "Invalid context payload sent to server."
  else if code ≠ StatusCode.ok.code then .unexpectedStatus client code
  else
    .done []
      (.returned
        { client with
          contextTeamUuid := teamUuid
          contextChannelUuid := channelUuid
          contextThreadUuid := threadUuid })

def handleUse (input : ParsedInput) : Handling :=
  match optionalUuid input with
  | none => .say client useUsage
  | some (teamUuid, input) =>
    match optionalUuid input with
    | none => .say client useUsage
    | some (channelUuid, input) =>
      match optionalUuid input with
      | none => .say client useUsage
      | some (threadUuid, input) =>
        if input.hasRemainingArgs then .say client useUsage
        else
          .exchange (.use teamUuid channelUuid threadUuid)
            (useBody client teamUuid channelUuid threadUuid)

/-- `errors_utils`: name the innermost level of the context; nothing is shown without a context. -/
def handleNotFound : List Shown :=
  if client.contextThreadUuid ≠ [] then [.lib (.errorUnknownThread client.contextThreadUuid)]
  else if client.contextChannelUuid ≠ [] then [.lib (.errorUnknownChannel client.contextChannelUuid)]
  else if client.contextTeamUuid ≠ [] then [.lib (.errorUnknownTeam client.contextTeamUuid)]
  else []

def printTeamsList : Bytes → Shown :=
  showPayload PayloadRplTeam
    (fun p => .printTeams p.teamUuid.cstr p.teamName.cstr p.teamDescription.cstr)
    (malformedLine "Malformed teams list payload received from server.")

def printChannelsList : Bytes → Shown :=
  showPayload PayloadRplChannel
    (fun p => .printTeamChannels p.channelUuid.cstr p.channelName.cstr p.channelDescription.cstr)
    (malformedLine "Malformed channels list payload received from server.")

def printThreadsList : Bytes → Shown :=
  showPayload PayloadRplThread
    (fun p => .printChannelThreads p.threadUuid.cstr p.userUuid.cstr p.threadTimestamp.toInt64
      p.threadTitle.cstr p.threadBody.cstr)
    (malformedLine "Malformed threads list payload received from server.")

def printRepliesList : Bytes → Shown :=
  showPayload PayloadRplReply
    (fun p => .printThreadReplies p.threadUuid.cstr p.userUuid.cstr p.replyTimestamp.toInt64
      p.replyBody.cstr)
    (malformedLine "Malformed replies list payload received from server.")

def handleListError (code : UInt16) : Turn :=
  if code = StatusCode.unauthorized.code then .call client .errorUnauthorized
  else if code = StatusCode.forbidden.code then .say client "You are not allowed to list this context."
  else if code = StatusCode.notFound.code then .done (handleNotFound client) (.returned client)
  else if code = StatusCode.badRequest.code then .say client "Invalid context for /list."
  else .unexpectedStatus client code

def listBody : Body := fun expectedListCode code payload =>
  if code = StatusCode.ok.code then .done [] (.returned client)
  else if code = StatusCode.unauthorized.code || code = StatusCode.forbidden.code ||
      code = StatusCode.notFound.code || code = StatusCode.badRequest.code then
    handleListError client code
  else
    let expectedListCode := if expectedListCode = 0 then code else expectedListCode
    if code ≠ expectedListCode then
      .done [.line .unexpectedSequence "Unexpected response sequence for /list."] (.returned client)
    else if code = StatusCode.teamsList.code then .again [printTeamsList payload] expectedListCode
    else if code = StatusCode.channelsList.code then .again [printChannelsList payload] expectedListCode
    else if code = StatusCode.threadsList.code then .again [printThreadsList payload] expectedListCode
    else if code = StatusCode.repliesList.code then .again [printRepliesList payload] expectedListCode
    else handleListError client code

def handleList (input : ParsedInput) : Handling :=
  if input.hasRemainingArgs then .say client "Usage: /list"
  else .exchange .list (listBody client)

def handleInfoError (code : UInt16) : Turn :=
  if code = StatusCode.unauthorized.code then .call client .errorUnauthorized
  else if code = StatusCode.notFound.code then .done (handleNotFound client) (.returned client)
  else if code = StatusCode.badRequest.code then .say client "Invalid context for /info."
  else .unexpectedStatus client code

def parseUserInfoPayload : Bytes → Shown :=
  showPayload PayloadRplUser (fun p => .printUser p.userUuid.cstr p.userName.cstr p.userStatus)
    (malformedLine "Malformed user info payload received from server.")

def parseTeamInfoPayload : Bytes → Shown :=
  showPayload PayloadRplTeam
    (fun p => .printTeam p.teamUuid.cstr p.teamName.cstr p.teamDescription.cstr)
    (malformedLine "Malformed team info payload received from server.")

def parseChannelInfoPayload : Bytes → Shown :=
  showPayload PayloadRplChannel
    (fun p => .printChannel p.channelUuid.cstr p.channelName.cstr p.channelDescription.cstr)
    (malformedLine "Malformed channel info payload received from server.")

def parseThreadInfoPayload : Bytes → Shown :=
  showPayload PayloadRplThread
    (fun p => .printThread p.threadUuid.cstr p.userUuid.cstr p.threadTimestamp.toInt64
      p.threadTitle.cstr p.threadBody.cstr)
    (malformedLine "Malformed thread info payload received from server.")

def infoBody : Body := fun _ code payload =>
  if code = StatusCode.userInfo.code then .done [parseUserInfoPayload payload] (.returned client)
  else if code = StatusCode.teamsList.code then .done [parseTeamInfoPayload payload] (.returned client)
  else if code = StatusCode.channelsList.code then
    .done [parseChannelInfoPayload payload] (.returned client)
  else if code = StatusCode.threadsList.code then
    .done [parseThreadInfoPayload payload] (.returned client)
  else handleInfoError client code

def handleInfo (input : ParsedInput) : Handling :=
  if input.hasRemainingArgs then .say client "Usage: /info"
  else .exchange .info (infoBody client)

inductive CreateTarget where
  | team
  | channel
  | thread
  | reply
deriving DecidableEq

def inferCreateTargetFromContext : CreateTarget :=
  if client.contextTeamUuid = [] then .team
  else if client.contextChannelUuid = [] then .channel
  else if client.contextThreadUuid = [] then .thread
  else .reply

def handleCreatedReply (target : CreateTarget) : Bytes → Shown :=
  match target with
  | .team =>
    showPayload PayloadRplTeam
      (fun p => .printTeamCreated p.teamUuid.cstr p.teamName.cstr p.teamDescription.cstr)
      (malformedLine "Malformed created team payload received from server.")
  | .channel =>
    showPayload PayloadRplChannel
      (fun p => .printChannelCreated p.channelUuid.cstr p.channelName.cstr p.channelDescription.cstr)
      (malformedLine "Malformed created channel payload received from server.")
  | .thread =>
    showPayload PayloadRplThread
      (fun p => .printThreadCreated p.threadUuid.cstr p.userUuid.cstr p.threadTimestamp.toInt64
        p.threadTitle.cstr p.threadBody.cstr)
      (malformedLine "Malformed created thread payload received from server.")
  | .reply =>
    showPayload PayloadRplReply
      (fun p => .printReplyCreated p.threadUuid.cstr p.userUuid.cstr p.replyTimestamp.toInt64
        p.replyBody.cstr)
      (malformedLine "Malformed created reply payload received from server.")

def handleCreateError (code : UInt16) : Turn :=
  if code = StatusCode.unauthorized.code then .call client .errorUnauthorized
  else if code = StatusCode.alreadyExist.code then .call client .errorAlreadyExist
  else if code = StatusCode.notFound.code then .done (handleNotFound client) (.returned client)
  else if code = StatusCode.badRequest.code then
    .say client "Invalid create request for current context."
  else .unexpectedStatus client code

def createBody (target : CreateTarget) : Body := fun _ code payload =>
  if code = StatusCode.created.code then .done [handleCreatedReply target payload] (.returned client)
  else handleCreateError client code

def createUsage : String := "Usage: /create \"name\" \"description\" or /create \"reply_body\""

/-- The branch of `handleCreate` for the targets that take two arguments. -/
def createNamed (target : CreateTarget) (input : ParsedInput) (request : Bytes → Bytes → Request) :
    Handling :=
  let (firstArg, input) := input.getArg
  let (secondArg, input) := input.getArg
  if input.fail || input.hasRemainingArgs || firstArg = [] || secondArg = [] then
    .say client createUsage
  else .exchange (request firstArg secondArg) (createBody client target)

def handleCreate (input : ParsedInput) : Handling :=
  if !client.connected then .say client "Unauthorized"
  else
    match inferCreateTargetFromContext client with
    | .reply =>
      let (replyBody, input) := input.getArg
      if input.fail || input.hasRemainingArgs || replyBody = [] then
        .say client "Usage: /create \"reply_body\""
      else .exchange (.createReply replyBody) (createBody client .reply)
    | .team => createNamed client .team input .createTeam
    | .channel => createNamed client .channel input .createChannel
    | .thread => createNamed client .thread input .createThread

/-- `COMMAND_TABLE`. -/
def commandTable : List (Bytes × (Client → ParsedInput → Handling)) :=
  [(bytesOf "/help", handleHelp),
    (bytesOf "/info", handleInfo),
    (bytesOf "/login", handleLogin),
    (bytesOf "/logout", handleLogout),
    (bytesOf "/use", handleUse),
    (bytesOf "/create", handleCreate),
    (bytesOf "/list", handleList),
    (bytesOf "/subscribe", handleSubscribe),
    (bytesOf "/unsubscribe", handleUnsubscribe),
    (bytesOf "/subscribed", handleSubscribedList),
    (bytesOf "/user", handleUser),
    (bytesOf "/users", handleUsers),
    (bytesOf "/send", handleSend),
    (bytesOf "/messages", handleMessages)]

def dispatchCommand (command : Bytes) (input : ParsedInput) : Handling :=
  if command = [] then .ended [] (.returned client)
  else
    match commandTable.find? fun entry => entry.1 = command with
    | some entry => entry.2 client input
    | none => .ended [.unknownCommand command] (.returned client)

/-- `handlingInput` on a line of the standard input. -/
def handlingInput (line : Bytes) : Handling :=
  let (command, input) := parseLine line
  dispatchCommand client command input

end TeamsMirror.Cli
