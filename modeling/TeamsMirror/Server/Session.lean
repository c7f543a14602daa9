import TeamsMirror.Server.CommandUtils

/-!
# Session commands

Login, logout, disconnection, and the two commands that show users.
-/

namespace TeamsMirror

open Lists

/-- The lambda of `handleLoginCommand`: register the session, answer, and tell everyone. -/
def completeLogin (context : CommandContext) (user : User) : CommandContext :=
  let uuid := user.uuid.bytes
  let sessions := (context.authenticatedUsersByUUID.lookup uuid).getD []
  let context :=
    { context with
      authenticatedUsersByFd := context.authenticatedUsersByFd.insert context.clientFd uuid
      authenticatedUsersByUUID :=
        context.authenticatedUsersByUUID.insert uuid (sessions ++ [context.clientFd]) }
  let context := queueStatus context .ok
  let eventPacket := buildUserConnectionEventPacket .evtLoggedIn user.uuid.bytes user.name.bytes
  queuePackets context (context.authenticatedUsersByFd.keys.map fun socketFd => (socketFd, eventPacket))

def handleLoginCommand (context : CommandContext) : Option CommandContext :=
  if context.payloadSize ≠ sizeof PayloadReqLogin then some (queueStatus context .badRequest)
  else if context.clientFd ∈ context.authenticatedUsersByFd then
    some (queueStatus context .alreadyExist)
  else
    let payload : PayloadReqLogin := Packed.ofBytes context.payloadData
    match extractFixedString payload.userName.bytes with
    | none => some (queueStatus context .badRequest)
    | some requestedUserName =>
      if requestedUserName = [] then some (queueStatus context .badRequest)
      else
        match findUserByName context.users requestedUserName with
        | none => do
          let userUuid ← generateUnused context.environment fun uuid =>
            (findUserByUuid context.users uuid).isSome
          let user := User.new userUuid requestedUserName true
          some (completeLogin { context with users := context.users ++ [user] } user)
        | some user =>
          let users := modifyFirst (fun user => user.name.bytes = requestedUserName) User.addLoggedIn
            context.users
          some (completeLogin { context with users := users } user.addLoggedIn)

/-- Tell every connection that is logged in, except one. -/
def broadcastLoggedOutEvent (context : CommandContext) (user : User) (excludedClientFd : Fd := -1) :
    CommandContext :=
  let eventPacket := buildUserConnectionEventPacket .evtLoggedOut user.uuid.bytes user.name.bytes
  queuePackets context
    ((context.authenticatedUsersByFd.keys.filter fun socketFd => socketFd ≠ excludedClientFd).map
      fun socketFd => (socketFd, eventPacket))

def handleLogoutCommand (context : CommandContext) : CommandContext :=
  if context.payloadSize ≠ 0 then queueStatus context .badRequest
  else
    match context.authenticatedUsersByFd.lookup context.clientFd with
    | none => queueStatus context .unauthorized
    | some userUuid =>
      let user := findUserByUuid context.users userUuid
      let listSocket := (context.authenticatedUsersByUUID.lookup userUuid).getD []
      let context :=
        { context with
          authenticatedUsersByUUID := context.authenticatedUsersByUUID.insert userUuid
            (listSocket.filter fun socketFd => socketFd ≠ context.clientFd)
          authenticatedUsersByFd := context.authenticatedUsersByFd.erase context.clientFd }
      match user with
      | none => queueStatus context .unauthorized
      | some resolvedUser =>
        let context :=
          { context with users := updateUser context.users userUuid User.removeLoggedIn }
        let context := queueStatus context .ok
        let selfEventPacket := buildUserConnectionEventPacket .evtLoggedOut
          resolvedUser.uuid.bytes resolvedUser.name.bytes
        let context := queuePacket context context.clientFd selfEventPacket
        broadcastLoggedOutEvent context resolvedUser

/-- Called for the connection `clientFd` before its socket is closed. -/
def handleClientDisconnection (context : CommandContext) : CommandContext :=
  match context.authenticatedUsersByFd.lookup context.clientFd with
  | none => context
  | some userUuid =>
    let user := findUserByUuid context.users userUuid
    -- the entry is there, since `operator[]` has just created it, and it goes as a whole
    let context :=
      { context with
        authenticatedUsersByFd := context.authenticatedUsersByFd.erase context.clientFd
        authenticatedUsersByUUID := context.authenticatedUsersByUUID.erase userUuid }
    match user with
    | none => context
    | some resolvedUser =>
      let context :=
        { context with users := updateUser context.users userUuid User.removeLoggedIn }
      broadcastLoggedOutEvent context resolvedUser context.clientFd

def handleUsersCommand (context : CommandContext) : CommandContext :=
  if context.payloadSize ≠ 0 then queueStatus context .badRequest
  else if context.clientFd ∉ context.authenticatedUsersByFd then queueStatus context .unauthorized
  else
    let context := queuePackets context
      (context.users.map fun user => (context.clientFd, ⟨.usersList, buildUserPayload user⟩))
    queueStatus context .ok

def handleUserCommand (context : CommandContext) : CommandContext :=
  if context.payloadSize ≠ sizeof PayloadReqTargetUser then queueStatus context .badRequest
  else if context.clientFd ∉ context.authenticatedUsersByFd then queueStatus context .unauthorized
  else
    let requestPayload : PayloadReqTargetUser := Packed.ofBytes context.payloadData
    match extractFixedString requestPayload.targetUuid.bytes with
    | none => queueStatus context .badRequest
    | some requestedUserUuid =>
      if requestedUserUuid = [] then queueStatus context .badRequest
      else
        match findUserByUuid context.users requestedUserUuid with
        | none =>
          queuePacket context context.clientFd
            ⟨.notFound, .errUnknown { unknownUuid := .copyPadded _ requestedUserUuid }⟩
        | some user => queuePacket context context.clientFd ⟨.userInfo, buildUserPayload user⟩

end TeamsMirror
