import TeamsMirror.Server.CommandUtils

/-!
# Subscriptions

Subscribing to a team, leaving it, and the two lists of subscriptions.
-/

namespace TeamsMirror

/-- The requested team uuid, `none` where the source answers a bad request. -/
def parseTeamUuidFromPayload (context : CommandContext) : Option Bytes :=
  if context.payloadSize ≠ sizeof PayloadReqTeamTarget then none
  else
    let payload : PayloadReqTeamTarget := Packed.ofBytes context.payloadData
    (extractFixedString payload.teamUuid.bytes).filter isUuidFormatValid

/-- The teams a user is subscribed to (`queueTeamsList`). -/
def queueSubscribedTeamsList (context : CommandContext) (authenticatedUser : User) : CommandContext :=
  let teams := context.teams.filter fun team => team.isUserSubscribed authenticatedUser.uuid.bytes
  let context := queuePackets context
    (teams.map fun team => (context.clientFd, ⟨.subscribedList, buildTeamPayload team⟩))
  queueStatus context .ok

/-- The subscribers of a team that still are users. -/
def queueUsersList (context : CommandContext) (team : Team) : CommandContext :=
  let users := team.subscribedUserUuids.filterMap fun userUuid =>
    findUserByUuid context.users userUuid.bytes
  let context := queuePackets context
    (users.map fun user => (context.clientFd, ⟨.usersList, buildUserPayload user⟩))
  queueStatus context .ok

def handleSubscribeCommand (context : CommandContext) : CommandContext :=
  match getAuthenticatedUser context with
  | none => queueStatus context .unauthorized
  | some resolvedUser =>
    match parseTeamUuidFromPayload context with
    | none => queueStatus context .badRequest
    | some teamUuid =>
      match findTeamByUuid context.teams teamUuid with
      | none => queueStatus context .notFound
      | some resolvedTeam =>
        if resolvedTeam.isUserSubscribed resolvedUser.uuid.bytes then queueStatus context .ok
        else
          let context :=
            { context with
              teams := updateTeam context.teams teamUuid fun team =>
                team.addSubscribedUser resolvedUser.uuid.bytes }
          queuePacket context context.clientFd ⟨.usersList, buildUserPayload resolvedUser⟩

def handleUnsubscribeCommand (context : CommandContext) : CommandContext :=
  match getAuthenticatedUser context with
  | none => queueStatus context .unauthorized
  | some resolvedUser =>
    match parseTeamUuidFromPayload context with
    | none => queueStatus context .badRequest
    | some teamUuid =>
      match findTeamByUuid context.teams teamUuid with
      | none => queueStatus context .notFound
      | some resolvedTeam =>
        let removed := (resolvedTeam.removeSubscribedUser resolvedUser.uuid.bytes).1
        let context :=
          { context with
            teams := updateTeam context.teams teamUuid fun team =>
              (team.removeSubscribedUser resolvedUser.uuid.bytes).2 }
        if ¬removed then queueStatus context .ok
        else queuePacket context context.clientFd ⟨.usersList, buildUserPayload resolvedUser⟩

def handleSubscribedListCommand (context : CommandContext) : CommandContext :=
  match getAuthenticatedUser context with
  | none => queueStatus context .unauthorized
  | some resolvedUser =>
    if context.payloadSize = 0 then queueSubscribedTeamsList context resolvedUser
    else
      match parseTeamUuidFromPayload context with
      | none => queueStatus context .badRequest
      | some teamUuid =>
        match findTeamByUuid context.teams teamUuid with
        | none => queueStatus context .notFound
        | some team => queueUsersList context team

end TeamsMirror
