import TeamsMirror.Link.Answers

/-!
# Synchrony of requests and replies

The exchanges that the client's handlers start, one by one, against the grammar of
the replies to their commands.
-/

namespace TeamsMirror

open Cli

namespace Cli

variable {client : Client} {context : CommandContext} {ps : List Packet}

/-- An exchange that a handler starts, with the client that an `RPL_OK` alone would leave. -/
inductive Exchanges (client : Client) : Request → Body → Client → Prop where
  | login {username : Bytes} : client.connected = false →
      Exchanges client (.login username) (loginBody client username)
        { client with connected := true, username := username }
  | logout : client.connected = true →
      Exchanges client .logout (logoutBody client) .start
  | users : Exchanges client .users (usersBody client) client
  | user {targetUuid : Bytes} : Exchanges client (.user targetUuid) (userBody client) client
  | send {targetUuid messageBody : Bytes} :
      Exchanges client (.send targetUuid messageBody) (sendBody client targetUuid) client
  | messages {targetUuid : Bytes} :
      Exchanges client (.messages targetUuid) (messagesBody client targetUuid) client
  | subscribe {teamUuid : Bytes} : isUuidFormatValid teamUuid = true →
      Exchanges client (.subscribe teamUuid) (subscribeBody client teamUuid) client
  | unsubscribe {teamUuid : Bytes} : isUuidFormatValid teamUuid = true →
      Exchanges client (.unsubscribe teamUuid) (unsubscribeBody client teamUuid) client
  | subscribedTeams : Exchanges client .subscribedTeams (subscribedListBody client false []) client
  | subscribedUsers {teamUuid : Bytes} : isUuidFormatValid teamUuid = true →
      Exchanges client (.subscribedUsers teamUuid) (subscribedListBody client true teamUuid) client
  | use {teamUuid channelUuid threadUuid : Bytes} :
      (∀ uuid ∈ [teamUuid, channelUuid, threadUuid], uuid = [] ∨ isUuidFormatValid uuid = true) →
      Exchanges client (.use teamUuid channelUuid threadUuid)
        (useBody client teamUuid channelUuid threadUuid)
        { client with
          contextTeamUuid := teamUuid
          contextChannelUuid := channelUuid
          contextThreadUuid := threadUuid }
  | createTeam {name description : Bytes} :
      Exchanges client (.createTeam name description) (createBody client .team) client
  | createChannel {name description : Bytes} :
      Exchanges client (.createChannel name description) (createBody client .channel) client
  | createThread {title body : Bytes} :
      Exchanges client (.createThread title body) (createBody client .thread) client
  | createReply {body : Bytes} : Exchanges client (.createReply body) (createBody client .reply) client
  | list : Exchanges client .list (listBody client) client
  | info : Exchanges client .info (infoBody client) client

theorem length_buildUserPayload (user : User) :
    (buildUserPayload user).bytes.length = sizeof PayloadRplUser :=
  Packed.length_toBytes _

theorem length_buildTeamPayload (team : Team) :
    (buildTeamPayload team).bytes.length = sizeof PayloadRplTeam :=
  Packed.length_toBytes _

theorem length_buildChannelPayload (channel : Channel) :
    (buildChannelPayload channel).bytes.length = sizeof PayloadRplChannel :=
  Packed.length_toBytes _

theorem length_buildThreadPayload (thread : Thread) :
    (buildThreadPayload thread).bytes.length = sizeof PayloadRplThread :=
  Packed.length_toBytes _

theorem length_buildReplyPayload (thread : Thread) (reply : Message) :
    (buildReplyPayload thread reply).bytes.length = sizeof PayloadRplReply :=
  Packed.length_toBytes _

theorem handleNotFound_plain (client : Client) : ∀ x ∈ handleNotFound client, x.kind = .plain := by
  have hlib : ∀ (call : LibCall), ∀ x ∈ [Shown.lib call], x.kind = .plain := by
    intro call x hx
    rw [List.mem_singleton.mp hx]
    rfl
  unfold handleNotFound
  split
  · exact hlib _
  · split
    · exact hlib _
    · split
      · exact hlib _
      · simp

theorem showPayload_plain {α : Type} [Packed α] {call : α → LibCall} {malformed : Shown} {payload : Bytes}
    (h : payload.length = sizeof α) : (showPayload α call malformed payload).kind = .plain := by
  rw [showPayload, if_neg (not_not.mpr h)]
  rfl

theorem showOrThrow_of_length {α : Type} [Packed α] {call : α → LibCall} {malformed : String}
    {payload : Bytes} {next : List Shown → Turn} (h : payload.length = sizeof α) :
    showOrThrow α call malformed payload next = next [.lib (call (Packed.ofBytes payload))] :=
  if_neg (not_not.mpr h)

theorem settles_login {username : Bytes} (h : Replies context .login ps)
    (hfd : context.clientFd ∉ context.authenticatedUsersByFd) :
    Settles client (loginBody client username) ps
      (if ps = [.ofStatus .ok] then { client with connected := true, username := username } else client) := by
  cases h with
  | refused hrefuses =>
    have hstatus := hrefuses.1
    simp only [refusals, List.mem_cons, List.not_mem_nil, or_false] at hstatus
    rcases hstatus with rfl | rfl
    · rw [if_neg (by decide)]
      exact settles_one rfl (by simp [Shown.kind]) rfl rfl
    · exact absurd hrefuses.2 hfd
  | answered hanswer => cases hanswer
  | loggedIn =>
    rw [if_pos rfl]
    exact settles_one rfl (by simp) rfl rfl

/-- On a connection that is logged in, the conflict is the one status no handler expects. -/
theorem consumes_login {username : Bytes} (h : Replies context .login ps)
    (hfd : context.clientFd ∈ context.authenticatedUsersByFd) :
    ∃ shown, Consumes (loginBody client username) 0 ps shown (.returned client) ∧
      ∀ x ∈ shown, x.kind = .plain ∨ x.kind = .unexpectedStatus StatusCode.alreadyExist.code := by
  cases h with
  | refused hrefuses =>
    have hstatus := hrefuses.1
    simp only [refusals, List.mem_cons, List.not_mem_nil, or_false] at hstatus
    rcases hstatus with rfl | rfl
    · exact ⟨_, .last rfl, by simp [Shown.kind]⟩
    · refine ⟨_, .last rfl, fun x hx => .inr ?_⟩
      rw [List.mem_singleton.mp hx]
      rfl
  | answered hanswer => cases hanswer
  | loggedIn hnot => exact absurd hfd hnot

theorem settles_logout (h : Replies context .logout ps) :
    Settles client (logoutBody client) ps (if ps = [.ofStatus .ok] then .start else client) := by
  cases h with
  | refused hrefuses =>
    have hstatus := hrefuses.1
    simp only [refusals, List.mem_cons, List.not_mem_nil, or_false] at hstatus
    rcases hstatus with rfl | rfl
    all_goals
      rw [if_neg (by decide)]
      exact settles_one rfl (by simp [Shown.kind]) rfl rfl
  | answered hanswer => cases hanswer
  | loggedOut =>
    rw [if_pos rfl]
    exact settles_one rfl (by simp) rfl rfl

theorem settles_send {targetUuid : Bytes} (h : Replies context .send ps) :
    Settles client (sendBody client targetUuid) ps client := by
  cases h with
  | refused hrefuses =>
    have hstatus := hrefuses.1
    simp only [refusals, List.mem_cons, List.not_mem_nil, or_false] at hstatus
    rcases hstatus with rfl | rfl | rfl
    all_goals exact settles_one rfl (by simp [Shown.kind]) rfl rfl
  | answered hanswer => cases hanswer
  | sent => exact settles_one rfl (by simp) rfl rfl

theorem settles_use {teamUuid channelUuid threadUuid : Bytes} (h : Replies context .use ps) :
    Settles client (useBody client teamUuid channelUuid threadUuid) ps
      (if ps = [.ofStatus .ok] then
        { client with
          contextTeamUuid := teamUuid
          contextChannelUuid := channelUuid
          contextThreadUuid := threadUuid }
      else client) := by
  cases h with
  | refused hrefuses =>
    have hstatus := hrefuses.1
    simp only [refusals, List.mem_cons, List.not_mem_nil, or_false] at hstatus
    rcases hstatus with rfl | rfl
    all_goals
      rw [if_neg (by decide)]
      exact settles_one rfl (by simp [Shown.kind]) rfl rfl
  | answered hanswer => cases hanswer
  | used =>
    rw [if_pos rfl]
    exact settles_one rfl (by simp) rfl rfl

/-- The request carries a uuid that the server accepts. -/
theorem parseTeamUuid_request {teamUuid : Bytes} (hvalid : isUuidFormatValid teamUuid = true)
    (hpayload : context.payloadData = (Request.subscribe teamUuid).payload) :
    parseTeamUuidFromPayload context = some teamUuid := by
  have hsize : context.payloadSize = sizeof PayloadReqTeamTarget := by
    rw [CommandContext.payloadSize, hpayload]
    exact Packed.length_toBytes _
  rw [parseTeamUuidFromPayload, if_neg (not_not.mpr hsize), hpayload]
  simp only [Request.subscribe, Packed.ofBytes_toBytes, extractFixedString_uuid hvalid,
    Option.filter, hvalid, if_true]

theorem settles_subscribe {teamUuid : Bytes} (hvalid : isUuidFormatValid teamUuid = true)
    (hpayload : context.payloadData = (Request.subscribe teamUuid).payload)
    (h : Replies context .subscribe ps) : Settles client (subscribeBody client teamUuid) ps client := by
  cases h with
  | refused hrefuses =>
    have hstatus := hrefuses.1
    simp only [refusals, List.mem_cons, List.not_mem_nil, or_false] at hstatus
    rcases hstatus with rfl | rfl | rfl
    · exact absurd (hrefuses.2.symm.trans (parseTeamUuid_request hvalid hpayload)) (by simp)
    all_goals exact settles_one rfl (by simp [Shown.kind]) rfl rfl
  | answered hanswer =>
    cases hanswer
    exact settles_one rfl (by simp) rfl rfl
  | subscribed => exact settles_one rfl (by simp [Shown.kind]) rfl rfl

theorem settles_unsubscribe {teamUuid : Bytes} (hvalid : isUuidFormatValid teamUuid = true)
    (hpayload : context.payloadData = (Request.unsubscribe teamUuid).payload)
    (h : Replies context .unsubscribe ps) :
    Settles client (unsubscribeBody client teamUuid) ps client := by
  cases h with
  | refused hrefuses =>
    have hstatus := hrefuses.1
    simp only [refusals, List.mem_cons, List.not_mem_nil, or_false] at hstatus
    rcases hstatus with rfl | rfl | rfl
    · exact absurd (hrefuses.2.symm.trans (parseTeamUuid_request hvalid hpayload)) (by simp)
    all_goals exact settles_one rfl (by simp [Shown.kind]) rfl rfl
  | answered hanswer => cases hanswer
  | unsubscribed => exact settles_one rfl (by simp [Shown.kind]) rfl rfl
  | notSubscribed => exact settles_one rfl (by simp) rfl rfl

/-- The two replies of `/info` that the grammar leaves are told apart by their codes. -/
theorem settles_info (h : Replies context .info ps) : Settles client (infoBody client) ps client := by
  cases h with
  | refused hrefuses =>
    have hstatus := hrefuses.1
    simp only [refusals, List.mem_cons, List.not_mem_nil, or_false] at hstatus
    rcases hstatus with rfl | rfl | rfl
    · exact settles_one rfl (by simp [Shown.kind]) rfl rfl
    · exact settles_one rfl (by simp [Shown.kind]) rfl rfl
    · exact settles_one rfl (handleNotFound_plain client) rfl rfl
  | answered hanswer =>
    have hone : ∀ {x : Shown}, x.kind = .plain → ∀ y ∈ [x], y.kind = .plain := by
      intro x hx y hy
      rwa [List.mem_singleton.mp hy]
    cases hanswer with
    | userInfo => exact settles_one rfl (hone (showPayload_plain (length_buildUserPayload _))) rfl rfl
    | teamInfo => exact settles_one rfl (hone (showPayload_plain (length_buildTeamPayload _))) rfl rfl
    | channelInfo => exact settles_one rfl (hone (showPayload_plain (length_buildChannelPayload _))) rfl rfl
    | threadInfo => exact settles_one rfl (hone (showPayload_plain (length_buildThreadPayload _))) rfl rfl

theorem usersBody_usersList (client : Client) (expectedListCode : UInt16) {payload : Bytes}
    (h : payload.length = sizeof PayloadRplUser) :
    ∃ call, usersBody client expectedListCode StatusCode.usersList.code payload =
      .again [.lib call] expectedListCode := by
  refine ⟨?_, ?_⟩
  rotate_left
  · rw [usersBody, if_neg (by decide), if_pos rfl]
    exact showOrThrow_of_length h

theorem userBody_userInfo (client : Client) (expectedListCode : UInt16) {payload : Bytes}
    (h : payload.length = sizeof PayloadRplUser) :
    ∃ call, userBody client expectedListCode StatusCode.userInfo.code payload =
      .done [.lib call] (.returned client) := by
  refine ⟨?_, ?_⟩
  rotate_left
  · rw [userBody, if_neg (by decide), if_pos rfl]
    exact showOrThrow_of_length h

theorem userBody_notFound (client : Client) (expectedListCode : UInt16) {payload : Bytes}
    (h : payload.length = sizeof PayloadErrUnknown) :
    ∃ call, userBody client expectedListCode StatusCode.notFound.code payload =
      .throws [.lib call] .plain "Unknown user UUID" := by
  refine ⟨?_, ?_⟩
  rotate_left
  · rw [userBody, if_neg (by decide), if_neg (by decide), if_pos rfl]
    exact showOrThrow_of_length h

theorem settles_users (h : Replies context .users ps) : Settles client (usersBody client) ps client := by
  cases h with
  | refused hrefuses =>
    have hstatus := hrefuses.1
    simp only [refusals, List.mem_cons, List.not_mem_nil, or_false] at hstatus
    rcases hstatus with rfl | rfl
    all_goals exact settles_one rfl (by simp [Shown.kind]) rfl rfl
  | answered hanswer =>
    cases hanswer
    refine settles_list (fun user code hcode => ?_) fun _ => rfl
    obtain ⟨call, hcall⟩ := usersBody_usersList client code
      (length_buildUserPayload user)
    exact ⟨.lib call, code, hcall, hcode, rfl⟩

theorem settles_user (h : Replies context .userInfo ps) : Settles client (userBody client) ps client := by
  cases h with
  | refused hrefuses =>
    have hstatus := hrefuses.1
    simp only [refusals, List.mem_cons, List.not_mem_nil, or_false] at hstatus
    rcases hstatus with rfl | rfl
    all_goals exact settles_one rfl (by simp [Shown.kind]) rfl rfl
  | unknownUser p =>
    obtain ⟨call, hcall⟩ := userBody_notFound client 0 (Packed.length_toBytes p)
    exact settles_one hcall (by simp [Shown.kind]) rfl rfl
  | answered hanswer =>
    cases hanswer with
    | @user u =>
      obtain ⟨call, hcall⟩ := userBody_userInfo client 0 (length_buildUserPayload u)
      exact settles_one hcall (by simp [Shown.kind]) rfl rfl

theorem settles_messages {targetUuid : Bytes} (h : Replies context .messages ps) :
    Settles client (messagesBody client targetUuid) ps client := by
  cases h with
  | refused hrefuses =>
    have hstatus := hrefuses.1
    simp only [refusals, List.mem_cons, List.not_mem_nil, or_false] at hstatus
    rcases hstatus with rfl | rfl | rfl
    all_goals exact settles_one rfl (by simp [Shown.kind]) rfl rfl
  | answered hanswer =>
    cases hanswer
    refine settles_list (fun message code hcode => ?_) fun _ => rfl
    exact ⟨_, code, rfl, hcode, showPayload_plain (Packed.length_toBytes _)⟩

theorem settles_subscribedTeams (hpayload : context.payloadData = Request.subscribedTeams.payload)
    (h : Replies context .subscribedList ps) :
    Settles client (subscribedListBody client false []) ps client := by
  have hzero : context.payloadSize = 0 := by
    rw [CommandContext.payloadSize, hpayload]
    rfl
  cases h with
  | refused hrefuses =>
    have hstatus := hrefuses.1
    simp only [refusals, List.mem_cons, List.not_mem_nil, or_false] at hstatus
    rcases hstatus with rfl | rfl | rfl
    · exact absurd hzero hrefuses.2.1
    all_goals exact settles_one rfl (by simp [Shown.kind]) rfl rfl
  | answered hanswer =>
    cases hanswer with
    | subscribedTeams =>
      refine settles_list (fun team code hcode => ?_) fun _ => rfl
      exact ⟨_, code, rfl, hcode, showPayload_plain (length_buildTeamPayload team)⟩
    | subscribedUsers _ hsize => exact absurd hzero hsize

theorem settles_subscribedUsers {teamUuid : Bytes} (hvalid : isUuidFormatValid teamUuid = true)
    (hpayload : context.payloadData = (Request.subscribedUsers teamUuid).payload)
    (h : Replies context .subscribedList ps) :
    Settles client (subscribedListBody client true teamUuid) ps client := by
  have hsize : context.payloadSize = sizeof PayloadReqTeamTarget := by
    rw [CommandContext.payloadSize, hpayload]
    exact Packed.length_toBytes _
  cases h with
  | refused hrefuses =>
    have hstatus := hrefuses.1
    simp only [refusals, List.mem_cons, List.not_mem_nil, or_false] at hstatus
    rcases hstatus with rfl | rfl | rfl
    · exact absurd (hrefuses.2.2.symm.trans (parseTeamUuid_request hvalid hpayload)) (by simp)
    all_goals exact settles_one rfl (by simp [Shown.kind]) rfl rfl
  | answered hanswer =>
    cases hanswer with
    | subscribedTeams _ hzero => exact absurd (hsize.symm.trans hzero) (by decide)
    | subscribedUsers =>
      refine settles_list (fun user code hcode => ?_) fun _ => rfl
      exact ⟨_, code, rfl, hcode, showPayload_plain (length_buildUserPayload user)⟩

/-- The first entry fixes the code of the others. -/
theorem listBody_entry {status : StatusCode} {print : Bytes → Shown} {expectedListCode : UInt16}
    (hcode : expectedListCode = 0 ∨ expectedListCode = status.code)
    (hfirst : ∀ payload, listBody client 0 status.code payload = .again [print payload] status.code)
    (hnext : ∀ payload, listBody client status.code status.code payload =
      .again [print payload] status.code) (payload : Bytes) :
    listBody client expectedListCode status.code payload = .again [print payload] status.code := by
  rcases hcode with rfl | rfl
  · exact hfirst payload
  · exact hnext payload

theorem settles_listing (h : Replies context .list ps) : Settles client (listBody client) ps client := by
  cases h with
  | refused hrefuses =>
    have hstatus := hrefuses.1
    simp only [refusals, List.mem_cons, List.not_mem_nil, or_false] at hstatus
    rcases hstatus with rfl | rfl | rfl
    · exact settles_one rfl (by simp [Shown.kind]) rfl rfl
    · exact settles_one rfl (by simp [Shown.kind]) rfl rfl
    · exact settles_one rfl (handleNotFound_plain client) rfl rfl
  | answered hanswer =>
    cases hanswer with
    | teams =>
      refine settles_list (fun team code hcode => ?_) fun _ => rfl
      exact ⟨_, _, listBody_entry hcode (fun _ => rfl) (fun _ => rfl) _, .inr rfl,
        showPayload_plain (length_buildTeamPayload team)⟩
    | channels =>
      refine settles_list (fun channel code hcode => ?_) fun _ => rfl
      exact ⟨_, _, listBody_entry hcode (fun _ => rfl) (fun _ => rfl) _, .inr rfl,
        showPayload_plain (length_buildChannelPayload channel)⟩
    | threads =>
      refine settles_list (fun thread code hcode => ?_) fun _ => rfl
      exact ⟨_, _, listBody_entry hcode (fun _ => rfl) (fun _ => rfl) _, .inr rfl,
        showPayload_plain (length_buildThreadPayload thread)⟩
    | replies =>
      refine settles_list (fun reply code hcode => ?_) fun _ => rfl
      exact ⟨_, _, listBody_entry hcode (fun _ => rfl) (fun _ => rfl) _, .inr rfl,
        showPayload_plain (length_buildReplyPayload _ reply)⟩

/-- The size of the payload with which a target is requested. -/
def CreateTarget.requestSize : CreateTarget → Nat
  | .team => sizeof PayloadReqCreateTeam
  | .channel => sizeof PayloadReqCreateChannel
  | .thread => sizeof PayloadReqCreateThread
  | .reply => sizeof PayloadReqCreateReply

def CreateTarget.replySize : CreateTarget → Nat
  | .team => sizeof PayloadRplTeam
  | .channel => sizeof PayloadRplChannel
  | .thread => sizeof PayloadRplThread
  | .reply => sizeof PayloadRplReply

/-- Requests of one size are answered in one size: teams and channels cannot be told apart. -/
theorem CreateTarget.replySize_eq {asked made : CreateTarget} (h : asked.requestSize = made.requestSize) :
    made.replySize = asked.replySize := by
  cases asked <;> cases made <;> first | rfl | (exact absurd h (by decide))

theorem handleCreatedReply_plain {target : CreateTarget} {payload : Bytes}
    (h : payload.length = target.replySize) : (handleCreatedReply target payload).kind = .plain := by
  cases target with
  | team | channel | thread | reply =>
    rw [handleCreatedReply]
    exact showPayload_plain h

/-- The server may make something else than what the client asked for, but what it makes has the
size that the client expects. -/
theorem settles_create {target : CreateTarget} (hsize : context.payloadSize = target.requestSize)
    (h : Replies context .create ps) : Settles client (createBody client target) ps client := by
  have hcreated : ∀ (made : CreateTarget) {payload : Payload},
      context.payloadSize = made.requestSize → payload.bytes.length = made.replySize →
      Settles client (createBody client target) [⟨.created, payload⟩] client := by
    intro made payload hmade hlen
    have hplain : (handleCreatedReply target payload.bytes).kind = .plain :=
      handleCreatedReply_plain (hlen.trans (CreateTarget.replySize_eq (hsize.symm.trans hmade)))
    refine settles_one rfl (fun x hx => ?_) rfl rfl
    rwa [List.mem_singleton.mp hx]
  cases h with
  | refused hrefuses =>
    have hstatus := hrefuses.1
    simp only [refusals, List.mem_cons, List.not_mem_nil, or_false] at hstatus
    rcases hstatus with rfl | rfl | rfl | rfl
    · exact settles_one rfl (by simp [Shown.kind]) rfl rfl
    · exact settles_one rfl (by simp [Shown.kind]) rfl rfl
    · exact settles_one rfl (handleNotFound_plain client) rfl rfl
    · exact settles_one rfl (by simp [Shown.kind]) rfl rfl
  | answered hanswer => cases hanswer
  | createdTeam _ hmade => exact hcreated .team hmade (length_buildTeamPayload _)
  | createdChannel _ hmade => exact hcreated .channel hmade (length_buildChannelPayload _)
  | createdThread _ hmade => exact hcreated .thread hmade (length_buildThreadPayload _)
  | createdReply _ _ hmade => exact hcreated .reply hmade (length_buildReplyPayload _ _)

theorem Exchanges.settles {request : Request} {body : Body} {clientAfterOk : Client}
    (h : Exchanges client request body clientAfterOk) (hpayload : context.payloadData = request.payload)
    (hreplies : Replies context request.command ps)
    (hlogin : request.command = .login → context.clientFd ∉ context.authenticatedUsersByFd) :
    Settles client body ps (if ps = [.ofStatus .ok] then clientAfterOk else client) := by
  have hsize : context.payloadSize = request.payload.length := by
    rw [CommandContext.payloadSize, hpayload]
  cases h with
  | login => exact settles_login hreplies (hlogin rfl)
  | logout => exact settles_logout hreplies
  | use => exact settles_use hreplies
  | users =>
    rw [ite_self]
    exact settles_users hreplies
  | user =>
    rw [ite_self]
    exact settles_user hreplies
  | send =>
    rw [ite_self]
    exact settles_send hreplies
  | messages =>
    rw [ite_self]
    exact settles_messages hreplies
  | subscribe hvalid =>
    rw [ite_self]
    exact settles_subscribe hvalid hpayload hreplies
  | unsubscribe hvalid =>
    rw [ite_self]
    exact settles_unsubscribe hvalid hpayload hreplies
  | subscribedTeams =>
    rw [ite_self]
    exact settles_subscribedTeams hpayload hreplies
  | subscribedUsers hvalid =>
    rw [ite_self]
    exact settles_subscribedUsers hvalid hpayload hreplies
  | createTeam | createChannel | createThread | createReply =>
    rw [ite_self]
    exact settles_create (hsize.trans (Packed.length_toBytes _)) hreplies
  | list =>
    rw [ite_self]
    exact settles_listing hreplies
  | info =>
    rw [ite_self]
    exact settles_info hreplies

/-- The word with which a request is asked for. -/
def commandText : CommandID → Bytes
  | .login => bytesOf "/login"
  | .logout => bytesOf "/logout"
  | .users => bytesOf "/users"
  | .userInfo => bytesOf "/user"
  | .send => bytesOf "/send"
  | .messages => bytesOf "/messages"
  | .subscribe => bytesOf "/subscribe"
  | .subscribedList => bytesOf "/subscribed"
  | .unsubscribe => bytesOf "/unsubscribe"
  | .use => bytesOf "/use"
  | .create => bytesOf "/create"
  | .list => bytesOf "/list"
  | .info => bytesOf "/info"

/-- A handler ends at once and leaves the client as it was, or it starts an exchange of its own. -/
inductive Handled (client : Client) (command : Bytes) : Handling → Prop where
  | ended {shown : List Shown} {ended : Ended} : ended.after client = client →
      Handled client command (.ended shown ended)
  | exchange {request : Request} {body : Body} {clientAfterOk : Client} :
      commandText request.command = command → Exchanges client request body clientAfterOk →
      Handled client command (.exchange request body)

section

variable (client : Client) (input : ParsedInput)

theorem handled_login : Handled client (commandText .login) (handleLogin client input) := by
  unfold handleLogin
  split
  · exact .ended rfl
  · next hconnected =>
    simp only
    split
    · exact .ended rfl
    · split
      · exact .ended rfl
      · exact .exchange rfl (.login (by simpa using hconnected))

theorem handled_logout : Handled client (commandText .logout) (handleLogout client input) := by
  unfold handleLogout
  split
  · exact .ended rfl
  · split
    · exact .ended rfl
    · next hconnected => exact .exchange rfl (.logout (by simpa using hconnected))

/-- The handlers that take no argument. -/
theorem handled_plain {usage : List Shown} {ended : Ended} {request : Request} {body : Body}
    {clientAfterOk : Client} (husage : ended.after client = client)
    (hsent : Exchanges client request body clientAfterOk) :
    Handled client (commandText request.command)
      (if input.hasRemainingArgs then .ended usage ended else .exchange request body) := by
  split
  · exact .ended husage
  · exact .exchange rfl hsent

/-- The handlers that read one uuid, check it, and send it. -/
theorem handled_targeted {command : CommandID} {usage invalid : List Shown} {ended endedInvalid : Ended}
    {valid : Bytes → Bool} {make : Bytes → Request} {makeBody : Bytes → Body}
    (hcommand : ∀ uuid, (make uuid).command = command) (husage : ended.after client = client)
    (hinvalid : endedInvalid.after client = client)
    (hmake : ∀ uuid, valid uuid = true → ∃ clientAfterOk,
      Exchanges client (make uuid) (makeBody uuid) clientAfterOk) :
    Handled client (commandText command)
      (if input.getArg.2.fail || input.getArg.2.hasRemainingArgs then .ended usage ended
      else if !valid input.getArg.1 then .ended invalid endedInvalid
      else .exchange (make input.getArg.1) (makeBody input.getArg.1)) := by
  split
  · exact .ended husage
  · split
    · exact .ended hinvalid
    · next hvalid =>
      obtain ⟨clientAfterOk, hsent⟩ := hmake _ (by simpa using hvalid)
      exact .exchange (congrArg commandText (hcommand _)) hsent

theorem handled_send : Handled client (commandText .send) (handleSend client input) := by
  unfold handleSend
  simp only
  split
  · exact .ended rfl
  · split
    · exact .ended rfl
    · split
      · exact .ended rfl
      · exact .exchange rfl .send

theorem handled_subscribedList :
    Handled client (commandText .subscribedList) (handleSubscribedList client input) := by
  unfold handleSubscribedList
  split
  · exact handled_targeted client input (fun _ => rfl) rfl rfl fun _ hvalid => ⟨_, .subscribedUsers hvalid⟩
  · exact .exchange rfl .subscribedTeams

theorem optionalUuid_valid {input input' : ParsedInput} {uuid : Bytes}
    (h : optionalUuid input = some (uuid, input')) : uuid = [] ∨ isUuidFormatValid uuid = true := by
  unfold optionalUuid at h
  split at h
  · simp only at h
    split at h
    · cases h
    · next hvalid =>
      cases h
      rw [Bool.or_eq_true, Bool.not_eq_true', not_or, Bool.not_eq_false] at hvalid
      exact .inr hvalid.2
  · cases h
    exact .inl rfl

theorem handled_use : Handled client (commandText .use) (handleUse client input) := by
  unfold handleUse
  split
  · exact .ended rfl
  · next hteam =>
    split
    · exact .ended rfl
    · next hchannel =>
      split
      · exact .ended rfl
      · next hthread =>
        split
        · exact .ended rfl
        · refine .exchange rfl (.use fun uuid huuid => ?_)
          simp only [List.mem_cons, List.not_mem_nil, or_false] at huuid
          rcases huuid with rfl | rfl | rfl
          · exact optionalUuid_valid hteam
          · exact optionalUuid_valid hchannel
          · exact optionalUuid_valid hthread

theorem handled_createNamed {target : CreateTarget} {make : Bytes → Bytes → Request}
    (hcommand : ∀ first second, (make first second).command = .create)
    (hmake : ∀ first second, Exchanges client (make first second) (createBody client target) client) :
    Handled client (commandText .create) (createNamed client target input make) := by
  unfold createNamed
  simp only
  split
  · exact .ended rfl
  · exact .exchange (congrArg commandText (hcommand _ _)) (hmake _ _)

theorem handled_create : Handled client (commandText .create) (handleCreate client input) := by
  unfold handleCreate
  split
  · exact .ended rfl
  · split
    · simp only
      split
      · exact .ended rfl
      · exact .exchange rfl .createReply
    · exact handled_createNamed client input (fun _ _ => rfl) fun _ _ => .createTeam
    · exact handled_createNamed client input (fun _ _ => rfl) fun _ _ => .createChannel
    · exact handled_createNamed client input (fun _ _ => rfl) fun _ _ => .createThread

theorem handled_dispatch (command : Bytes) : Handled client command (dispatchCommand client command input) := by
  unfold dispatchCommand
  split
  · exact .ended rfl
  · split
    · next entry hentry =>
      have hmem := List.mem_of_find?_eq_some hentry
      have hcommand : entry.1 = command := by simpa using List.find?_some hentry
      subst hcommand
      simp only [commandTable, List.mem_cons, List.not_mem_nil, or_false] at hmem
      rcases hmem with rfl | rfl | rfl | rfl | rfl | rfl | rfl | rfl | rfl | rfl | rfl | rfl | rfl | rfl
      · simp only [handleHelp]
        split <;> exact .ended rfl
      · exact handled_plain client input rfl .info
      · exact handled_login client input
      · exact handled_logout client input
      · exact handled_use client input
      · exact handled_create client input
      · exact handled_plain client input rfl .list
      · exact handled_targeted client input (fun _ => rfl) rfl rfl fun _ hvalid => ⟨_, .subscribe hvalid⟩
      · exact handled_targeted client input (fun _ => rfl) rfl rfl fun _ hvalid => ⟨_, .unsubscribe hvalid⟩
      · exact handled_subscribedList client input
      · exact handled_targeted client input (fun _ => rfl) rfl rfl fun _ _ => ⟨_, .user⟩
      · exact handled_plain client input rfl .users
      · exact handled_send client input
      · exact handled_targeted client input (fun _ => rfl) rfl rfl fun _ _ => ⟨_, .messages⟩
    · exact .ended rfl

/-- So does every line. -/
theorem handled (line : Bytes) : Handled client (parseLine line).1 (handlingInput client line) :=
  handled_dispatch client _ _

end

theorem Handled.exchanges {command : Bytes} {request : Request} {body : Body}
    (h : Handled client command (.exchange request body)) :
    commandText request.command = command ∧
      ∃ clientAfterOk, Exchanges client request body clientAfterOk := by
  cases h with
  | exchange hcommand hsent => exact ⟨hcommand, _, hsent⟩

theorem Exchanges.payload_length {request : Request} {body : Body} {clientAfterOk : Client}
    (h : Exchanges client request body clientAfterOk) : request.payload.length < 65536 := by
  cases h with
  | logout | users | subscribedTeams | list | info => decide
  | _ =>
    refine lt_of_eq_of_lt (Packed.length_toBytes _) ?_
    decide

end Cli

theorem peekPacket_request {request : Request} (h : request.payload.length < 65536) (more : Bytes) :
    peekPacket (request.packet ++ more) =
      some (⟨request.command.code, UInt16.ofNat request.payload.length⟩, request.payload) := by
  have hsize : (UInt16.ofNat request.payload.length).toNat = request.payload.length := by
    simp only [UInt16.toNat_ofNat']
    omega
  have hhead : (Packed.toBytes (PacketHeader.mk request.command.code
      (UInt16.ofNat request.payload.length))).length = sizeof PacketHeader := Packed.length_toBytes _
  have htake : (request.packet ++ more).take (sizeof PacketHeader) = Packed.toBytes
      (PacketHeader.mk request.command.code (UInt16.ofNat request.payload.length)) := by
    rw [Request.packet, List.append_assoc, ← hhead, List.take_left]
  have hdrop : (request.packet ++ more).drop (sizeof PacketHeader) = request.payload ++ more := by
    rw [Request.packet, List.append_assoc, ← hhead, List.drop_left]
  have hlen : (request.packet ++ more).length =
      sizeof PacketHeader + request.payload.length + more.length := by
    rw [Request.packet, List.length_append, List.length_append, hhead]
  simp only [peekPacket, htake, hdrop, hlen, Packed.ofBytes_toBytes, hsize]
  rw [if_neg (by omega), if_neg (by omega), List.take_left]

/-- The dispatch of a request is an effect of its command, on the payload that was sent. -/
theorem Server.handle_request {s s' : Server} {fd : Fd} {environment : Environment} {request : Request}
    {queued : List (Fd × Packet)} (hlen : request.payload.length < 65536)
    (hbuffer : request.packet <+: s.clientManager.getIncomingBuffer fd)
    (h : s.handle (.dispatch fd environment) = some (s', queued)) :
    ∃ middle, Effect (s.context fd request.payload environment) request.command middle queued ∧
      s' = { middle.deliver queued with
        clientManager := (middle.deliver queued).clientManager.consumeIncomingBuffer fd
          request.packet.length } := by
  obtain ⟨more, hmore⟩ := hbuffer
  have hpacket : request.packet.length =
      sizeof PacketHeader + (UInt16.ofNat request.payload.length).toNat := by
    rw [Request.packet, List.length_append, Packed.length_toBytes, UInt16.toNat_ofNat',
      Nat.mod_eq_of_lt hlen]
    rfl
  simp only [handle] at h
  split at h
  · rw [← hmore, peekPacket_request hlen] at h
    simp only at h
    obtain ⟨⟨s₁, dispatched⟩, hprocess, hs⟩ := Option.map_eq_some_iff.mp h
    obtain ⟨context', hcontext, hdone⟩ := Option.bind_eq_some_iff.mp hprocess
    obtain ⟨middle, packets, heffect, rfl⟩ := dispatch_command hcontext
    cases hdone
    cases hs
    refine ⟨middle, ?_, ?_⟩
    · rw [queued_perform]
      exact heffect
    · rw [queued_perform, toServer_perform, hpacket]
      rfl
  · cases h

/-- A packet that some event of some server queues. -/
def Server.CanQueue (p : Packet) : Prop :=
  ∃ (s : Server) (e : Event) (s' : Server) (queued : List (Fd × Packet)) (fd : Fd),
    s.handle e = some (s', queued) ∧ (fd, p) ∈ queued

theorem Server.CanQueue.isEvent {p : Packet} (h : Server.CanQueue p) (hevent : p.status.isEvent = true) :
    Cli.IsEvent p := by
  obtain ⟨s, e, s', queued, fd, hhandle, hmem⟩ := h
  exact handle_isEvent hhandle (fd, p) hmem hevent

/-- The bytes of packets, however they arrive, are read back as these packets. -/
theorem readServerPackets_of_patient {packets : List Packet} {arrivals : Arrivals}
    (hpatient : Patient arrivals) (harrivals : arrivals.flatten = packets.flatMap Packet.bytes) :
    ∃ left, readServerPackets packets.length arrivals = .done (packets.map Packet.received) left ∧
      left.flatten = [] := by
  have hsplits : packetFraming.Splits (packets.flatMap Packet.bytes) (packets.map Packet.frame) [] := by
    rw [← Packet.join_frames]
    refine Framing.splits_iff.mpr ⟨(List.append_nil _).symm, fun f hf => ?_, packetFraming.next_nil⟩
    obtain ⟨p, -, rfl⟩ := List.mem_map.mp hf
    exact p.wellFormed_frame
  obtain ⟨left, hread, hleft, -⟩ := readServerPackets_spec hsplits harrivals hpatient
  rw [List.length_map, List.map_map, Function.comp_def] at hread
  simp only [receivedFrame_frame] at hread
  exact ⟨left, hread, hleft⟩

/-- Whatever a line makes the client send, and whatever state the server is in when it answers, the
loop of the handler reads the replies to that request, all of them and nothing else: the events
before and among them are shown, and those behind the last reply are left. The one complaint is
about a login on a connection that the server has logged in already. -/
theorem synchronised {lib : LibCall → Int} (hlib : Succeeds lib) {client : Cli.Client} {line : Bytes}
    {request : Request} {body : Body} (hline : handlingInput client line = .exchange request body)
    {s s' : Server} {fd : Fd} {environment : Environment} {queued : List (Fd × Packet)}
    (hbuffer : request.packet <+: s.clientManager.getIncomingBuffer fd)
    (hdispatch : s.handle (.dispatch fd environment) = some (s', queued))
    {inbox : List Packet} (hinbox : repliesOf inbox = answersTo fd queued)
    (hqueued : ∀ p ∈ inbox, Server.CanQueue p) {arrivals : Arrivals} (hpatient : Patient arrivals)
    (harrivals : arrivals.flatten = inbox.flatMap Packet.bytes) :
    ∃ packets left consumed rest shown ended,
      readServerPackets inbox.length arrivals = .done packets left ∧ left.flatten = [] ∧
      inbox = consumed ++ rest ∧
      readReplies lib body 0 packets = .finished shown ended (rest.map Packet.received) ∧
      repliesOf consumed = answersTo fd queued ∧ repliesOf rest = [] ∧
      (∀ x ∈ shown, x.kind = .plain ∨
        x.kind = .unexpectedStatus StatusCode.alreadyExist.code ∧ request.command = .login ∧
          fd ∈ s.authenticatedUsersByFd) ∧
      ended.kind = .plain := by
  obtain ⟨-, clientAfterOk, hexchange⟩ := (hline ▸ handled client line).exchanges
  obtain ⟨middle, heffect, -⟩ := Server.handle_request hexchange.payload_length hbuffer hdispatch
  have hreplies : Replies (s.context fd request.payload environment) request.command
      (answersTo fd queued) := heffect.replies
  have hevents : ∀ p ∈ inbox, p.status.isEvent = true → IsEvent p := fun p hp => (hqueued p hp).isEvent
  obtain ⟨left, hread, hleft⟩ := readServerPackets_of_patient hpatient harrivals
  have hconsumes : ∃ shown ended, Consumes body 0 (answersTo fd queued) shown ended ∧
      (∀ x ∈ shown, x.kind = .plain ∨
        x.kind = .unexpectedStatus StatusCode.alreadyExist.code ∧ request.command = .login ∧
          fd ∈ s.authenticatedUsersByFd) ∧
      ended.kind = .plain := by
    by_cases hlogin : request.command = .login ∧ fd ∈ s.authenticatedUsersByFd
    · obtain ⟨hcommand, hfd⟩ := hlogin
      cases hexchange with
      | login =>
        obtain ⟨shown, hconsumes, hshown⟩ := consumes_login hreplies hfd
        refine ⟨shown, _, hconsumes, fun x hx => ?_, rfl⟩
        exact (hshown x hx).imp id fun hx => ⟨hx, rfl, hfd⟩
      | _ => cases hcommand
    · obtain ⟨shown, ended, hconsumes, hshown, hended, -⟩ := hexchange.settles rfl hreplies
        fun hcommand hfd => hlogin ⟨hcommand, hfd⟩
      exact ⟨shown, ended, hconsumes, fun x hx => .inl (hshown x hx), hended⟩
  obtain ⟨shown, ended, hconsumes, hshown, hended⟩ := hconsumes
  rw [← hinbox] at hconsumes
  obtain ⟨consumed, rest, shown', hsplit, hfinished, hconsumed, hrest, hshown'⟩ :=
    hconsumes.readReplies hlib hevents
  refine ⟨_, left, consumed, rest, shown', ended, hread, hleft, hsplit, hfinished,
    hconsumed.trans hinbox, hrest, fun x hx => ?_, hended⟩
  rcases hshown' x hx with hx | hx
  · exact hshown x hx
  · exact .inl hx

/-- A first login: the client reads the event of somebody's login, the reply, and its own event. -/
theorem synchronised_first_login :
    ∃ s s' event packets left rest shown ended,
      Runs.run Server.step (Server.start 3 [] [] []) [.accept 4, .receive 4 (Request.login [97]).packet] =
        some s ∧
      s.handle (.dispatch 4 default) = some (s', [(4, .ofStatus .ok), (4, event)]) ∧
      readServerPackets 3 [[event, .ofStatus .ok, event].flatMap Packet.bytes] = .done packets left ∧
      readReplies (fun _ => 0) (loginBody .start [97]) 0 packets =
        .finished shown ended (rest.map Packet.received) ∧
      repliesOf rest = [] := by
  have hfacts : ((Runs.run Server.step (Server.start 3 [] [] [])
      [.accept 4, .receive 4 (Request.login [97]).packet]).bind fun s =>
        (s.handle (.dispatch 4 default)).map fun r => (s.clientManager.getIncomingBuffer 4, r.2)) =
      some ((Request.login [97]).packet,
        [(4, .ofStatus .ok), (4, loginEvent (User.new (generateUuid fun _ => 0) [97] true))]) := by
    decide +kernel
  obtain ⟨s, hrun, hfacts⟩ := Option.bind_eq_some_iff.mp hfacts
  obtain ⟨⟨s', queued⟩, hdispatch, hfacts⟩ := Option.map_eq_some_iff.mp hfacts
  obtain ⟨hbuffer, rfl⟩ := Prod.mk.inj hfacts
  generalize hevent : loginEvent (User.new (generateUuid fun _ => 0) [97] true) = event at hdispatch
  have hlib : Succeeds fun _ => 0 := fun _ => le_refl 0
  have hline : handlingInput .start (bytesOf "/login \"a\"") =
      .exchange (.login [97]) (loginBody .start [97]) := rfl
  have hpatient : Patient [[event, .ofStatus .ok, event].flatMap Packet.bytes] := by
    intro hmem
    have hlen := hmem.length_le
    rw [List.length_replicate, maxConsecutiveEmptyReads] at hlen
    simp at hlen
  have hqueued : ∀ p ∈ [event, .ofStatus .ok, event], Server.CanQueue p := by
    intro p hp
    refine ⟨s, _, s', _, 4, hdispatch, ?_⟩
    simp only [List.mem_cons, List.not_mem_nil, or_false] at hp
    rcases hp with rfl | rfl | rfl <;> simp
  have hinbox : repliesOf [event, .ofStatus .ok, event] = answersTo 4 [(4, .ofStatus .ok), (4, event)] := by
    have hevent' : event.status.isEvent = true := hevent ▸ rfl
    simp [answersTo, packetsFor, repliesOf, hevent']
  obtain ⟨packets, left, consumed, rest, shown, ended, hread, -, -, hfinished, -, hrest, -⟩ :=
    synchronised hlib hline (hbuffer ▸ List.prefix_refl _) hdispatch hinbox hqueued hpatient
      (List.append_nil _)
  exact ⟨s, s', event, packets, left, rest, shown, ended, hrun, hdispatch, hread, hfinished, hrest⟩

end TeamsMirror
