import TeamsMirror.Server.CommandUtils

/-!
# Navigation

Setting the context of a connection, and the two commands that show what the
context designates.
-/

namespace TeamsMirror

def extractOptionalUuid (rawData : Bytes) : Option Bytes :=
  match rawData with
  | [] => none
  | front :: _ =>
    if front = 0 then some []
    else (extractFixedString rawData).filter isUuidFormatValid

/-- The context a `/use` payload asks for, `none` where the source answers a bad request. -/
def parseUsePayload (payloadData : Bytes) : Option (Bytes × Bytes × Bytes) :=
  if payloadData.length = sizeof PayloadReqTeamTarget then do
    let payload : PayloadReqTeamTarget := Packed.ofBytes payloadData
    let teamUuid ← extractOptionalUuid payload.teamUuid.bytes
    some (teamUuid, [], [])
  else do
    let payload : PayloadReqUse := Packed.ofBytes payloadData
    let teamUuid ← extractOptionalUuid payload.teamUuid.bytes
    let channelUuid ← extractOptionalUuid payload.channelUuid.bytes
    let threadUuid ← extractOptionalUuid payload.threadUuid.bytes
    if isContextCombinationValid teamUuid channelUuid threadUuid then
      some (teamUuid, channelUuid, threadUuid)
    else none

def handleUseCommand (context : CommandContext) : CommandContext :=
  if context.payloadSize ≠ sizeof PayloadReqTeamTarget ∧ context.payloadSize ≠ sizeof PayloadReqUse then
    queueStatus context .badRequest
  else if context.clientFd ∉ context.authenticatedUsersByFd then queueStatus context .unauthorized
  else
    match parseUsePayload context.payloadData with
    | none => queueStatus context .badRequest
    | some (teamUuid, channelUuid, threadUuid) =>
      let context :=
        { context with
          clientManager :=
            context.clientManager.setContext context.clientFd teamUuid channelUuid threadUuid }
      queueStatus context .ok

def queuePayloadArray (context : CommandContext) (status : StatusCode) (payloads : List Payload) :
    CommandContext :=
  let context := queuePackets context
    (payloads.map fun payload => (context.clientFd, ⟨status, payload⟩))
  queueStatus context .ok

def queueTeamsList (context : CommandContext) : CommandContext :=
  queuePayloadArray context .teamsList (context.teams.map buildTeamPayload)

def queueChannelsList (context : CommandContext) (team : Team) : CommandContext :=
  queuePayloadArray context .channelsList (team.channels.map buildChannelPayload)

def queueThreadsList (context : CommandContext) (channel : Channel) : CommandContext :=
  queuePayloadArray context .threadsList (channel.threads.map buildThreadPayload)

def queueRepliesList (context : CommandContext) (thread : Thread) : CommandContext :=
  queuePayloadArray context .repliesList (thread.replies.map (buildReplyPayload thread))

def handleListCommand (context : CommandContext) : CommandContext :=
  if context.payloadSize ≠ 0 then queueStatus context .badRequest
  else
    match getAuthenticatedUser context with
    | none => queueStatus context .unauthorized
    | some resolvedUser =>
      let teamUuid := context.contextTeamUuid
      let channelUuid := context.contextChannelUuid
      let threadUuid := context.contextThreadUuid
      if ¬isContextCombinationValid teamUuid channelUuid threadUuid then
        queueStatus context .badRequest
      else if teamUuid = [] then queueTeamsList context
      else
        match findTeamByUuid context.teams teamUuid with
        | none => queueStatus context .notFound
        | some resolvedTeam =>
          if ¬resolvedTeam.isUserSubscribed resolvedUser.uuid.bytes then
            queueStatus context .unauthorized
          else if channelUuid = [] then queueChannelsList context resolvedTeam
          else
            match findChannelByUuid resolvedTeam channelUuid with
            | none => queueStatus context .notFound
            | some resolvedChannel =>
              if threadUuid = [] then queueThreadsList context resolvedChannel
              else
                match findThreadByUuid resolvedChannel threadUuid with
                | none => queueStatus context .notFound
                | some thread => queueRepliesList context thread

def queueUserInfo (context : CommandContext) (user : User) : CommandContext :=
  queuePacket context context.clientFd ⟨.userInfo, buildUserPayload user⟩

def queueTeamInfo (context : CommandContext) (team : Team) : CommandContext :=
  queuePacket context context.clientFd ⟨.teamsList, buildTeamPayload team⟩

def queueChannelInfo (context : CommandContext) (channel : Channel) : CommandContext :=
  queuePacket context context.clientFd ⟨.channelsList, buildChannelPayload channel⟩

def queueThreadInfo (context : CommandContext) (thread : Thread) : CommandContext :=
  queuePacket context context.clientFd ⟨.threadsList, buildThreadPayload thread⟩

def handleInfoCommand (context : CommandContext) : CommandContext :=
  if context.payloadSize ≠ 0 then queueStatus context .badRequest
  else
    match getAuthenticatedUser context with
    | none => queueStatus context .unauthorized
    | some resolvedUser =>
      let teamUuid := context.contextTeamUuid
      let channelUuid := context.contextChannelUuid
      let threadUuid := context.contextThreadUuid
      if ¬isContextCombinationValid teamUuid channelUuid threadUuid then
        queueStatus context .badRequest
      else if teamUuid = [] then queueUserInfo context resolvedUser
      else
        match findTeamByUuid context.teams teamUuid with
        | none => queueStatus context .notFound
        | some resolvedTeam =>
          if ¬resolvedTeam.isUserSubscribed resolvedUser.uuid.bytes then
            queueStatus context .unauthorized
          else if channelUuid = [] then queueTeamInfo context resolvedTeam
          else
            match findChannelByUuid resolvedTeam channelUuid with
            | none => queueStatus context .notFound
            | some resolvedChannel =>
              if threadUuid = [] then queueChannelInfo context resolvedChannel
              else
                match findThreadByUuid resolvedChannel threadUuid with
                | none => queueStatus context .notFound
                | some thread => queueThreadInfo context thread

end TeamsMirror
