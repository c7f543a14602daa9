import TeamsMirror.Database.Histories
import TeamsMirror.Link.Agreement
import TeamsMirror.Server.Membership
import TeamsMirror.Server.Mentions

/-!
# Sending a uuid back

What the server does with a request that names a user or a team, and with a context
that names a place of the forest: when the uuids are well formed and unique, it acts
on that user, on that team or at that place, and on no other.
-/

namespace TeamsMirror

open Lists

def Channel.Formatted (c : Channel) : Prop :=
  isUuidFormatValid c.uuid.bytes = true ∧ ∀ d ∈ c.threads, isUuidFormatValid d.uuid.bytes = true

def Team.Formatted (t : Team) : Prop :=
  isUuidFormatValid t.uuid.bytes = true ∧ ∀ c ∈ t.channels, c.Formatted

def FormattedTeams (teams : List Team) : Prop := ∀ t ∈ teams, t.Formatted

theorem formatted_generated (draw : Nat → Fin 16) :
    isUuidFormatValid (CString.copyBuffer uuidLength (generateUuid draw)).bytes = true := by
  rw [bytes_copyBuffer_generateUuid]
  exact isUuidFormatValid_generateUuid draw

theorem Channel.Formatted.updateThread {c : Channel} (h : c.Formatted) {uuid : Bytes} {f : Thread → Thread}
    (hf : ∀ d, (f d).uuid = d.uuid) : (updateThread c uuid f).Formatted := by
  refine ⟨h.1, forall_modifyFirst h.2 fun d hd => ?_⟩
  rw [hf]
  exact hd

theorem Team.Formatted.updateChannel {t : Team} (h : t.Formatted) {uuid : Bytes} {f : Channel → Channel}
    (hf : ∀ c : Channel, c.Formatted → (f c).Formatted) : (updateChannel t uuid f).Formatted :=
  ⟨h.1, forall_modifyFirst h.2 hf⟩

theorem FormattedTeams.updateTeam {teams : List Team} (h : FormattedTeams teams) {uuid : Bytes}
    {f : Team → Team} (hf : ∀ t : Team, t.Formatted → (f t).Formatted) :
    FormattedTeams (updateTeam teams uuid f) :=
  forall_modifyFirst h hf

theorem Effect.formattedTeams {context : CommandContext} {command : CommandID} {s : Server}
    {packets : List (Fd × Packet)} (he : Effect context command s packets)
    (h : FormattedTeams context.teams) : FormattedTeams s.teams := by
  cases he with
  | refused | unknownUser | answered | registered | loggedIn | loggedOut | loggedOutUnknown | sent
  | used => exact h
  | subscribed | unsubscribed => exact h.updateTeam fun t ht => ht
  | @createdTeam draw _ _ _ _ _ _ _ _ hteam =>
    refine List.forall_mem_append.mpr ⟨h, List.forall_mem_singleton.mpr ?_⟩
    rw [hteam]
    exact ⟨formatted_generated draw, by simp [Team.addSubscribedUser, Team.new]⟩
  | @createdChannel draw _ _ _ _ _ _ _ _ _ hchannel =>
    refine h.updateTeam fun t ht => ⟨ht.1, ?_⟩
    refine List.forall_mem_append.mpr ⟨ht.2, List.forall_mem_singleton.mpr ?_⟩
    rw [hchannel]
    exact ⟨formatted_generated draw, by simp [Channel.new]⟩
  | @createdThread draw _ _ _ _ _ _ _ _ _ _ _ hthread =>
    refine h.updateTeam fun t ht => ht.updateChannel fun c hc => ⟨hc.1, ?_⟩
    refine List.forall_mem_append.mpr ⟨hc.2, List.forall_mem_singleton.mpr ?_⟩
    rw [hthread]
    exact formatted_generated draw
  | createdReply =>
    exact h.updateTeam fun t ht => ht.updateChannel fun c hc => hc.updateThread fun d => rfl

theorem kept_formattedTeams : Kept fun _ teams _ => FormattedTeams teams where
  empty := by simp [FormattedTeams]
  identity _ h := h
  step {s s' e queued} _ hs h := by
    cases e with
    | accept fd =>
      obtain ⟨-, rfl, -⟩ := Server.handle_accept hs
      exact h
    | receive fd chunk =>
      obtain ⟨-, -, rfl⟩ := Server.handle_receive hs
      exact h
    | dispatch fd environment =>
      obtain ⟨-, command, payload, middle, size, heffect, rfl⟩ := Server.handle_dispatch hs
      have hmiddle := heffect.formattedTeams h
      exact hmiddle
    | flush fd n =>
      obtain ⟨-, -, -, rfl⟩ := Server.handle_flush hs
      exact h
    | disconnect fd =>
      obtain ⟨-, middle, hd, rfl⟩ := Server.handle_disconnect hs
      cases hd with
      | anonymous | known | unknown => exact h

namespace Server

/-- The request is the next packet of the connection. -/
def Receives (s : Server) (fd : Fd) (request : Request) : Prop :=
  ∃ more, s.clientManager.getIncomingBuffer fd = request.packet ++ more

/-- Whatever the outside does, the request is dispatched when it is next, with such a result. -/
def Answers (s : Server) (fd : Fd) (request : Request)
    (result : Environment → Server → List (Fd × Packet) → Prop) : Prop :=
  s.Receives fd request → ∀ environment, ∃ s' queued,
    s.handle (.dispatch fd environment) = some (s', queued) ∧ result environment s' queued

/-- The connection is logged in as the user. -/
structure LoggedIn (s : Server) (fd : Fd) (u : User) : Prop where
  mem : u ∈ s.users
  session : s.authenticatedUsersByFd.lookup fd = some u.uuid.bytes

/-- The server when packets have been queued and a request has been consumed. -/
def dispatched (s : Server) (fd : Fd) (packets : List (Fd × Packet)) (n : Nat) : Server :=
  { s.deliver packets with
    clientManager := (s.deliver packets).clientManager.consumeIncomingBuffer fd n }

variable {s : Server} {fd : Fd} {u : User}

theorem getContext_dispatched_deliver (packets : List (Fd × Packet)) (n : Nat) :
    (s.dispatched fd packets n).clientManager.getContext fd = s.clientManager.getContext fd := by
  rw [dispatched, getContext_dispatched, deliver, ClientManager.getContext_sendAll]

/-- A request is answered as its handler answers it. -/
theorem Answers.of_perform {request : Request} {result : Environment → Server → List (Fd × Packet) → Prop}
    (hfd : fd ∈ s.clientSockets) (hlen : request.payload.length < 65536)
    (h : ∀ environment, ∃ middle packets,
      dispatchCommand (s.context fd request.payload environment) request.command.code =
        some (perform (s.context fd request.payload environment) middle packets) ∧
      ∀ n, result environment (middle.dispatched fd packets n) packets) : s.Answers fd request result := by
  rintro ⟨more, hbuffer⟩ environment
  obtain ⟨middle, packets, hdispatch, hresult⟩ := h environment
  refine ⟨middle.dispatched fd packets (sizeof PacketHeader + (UInt16.ofNat request.payload.length).toNat),
    packets, ?_, hresult _⟩
  have hqueued : (perform (s.context fd request.payload environment) middle packets).queued = packets :=
    queued_perform _ _ _
  have hserver : (perform (s.context fd request.payload environment) middle packets).toServer =
      middle.deliver packets := toServer_perform _ _ _
  rw [handle, if_pos hfd, hbuffer, peekPacket_request hlen]
  simp only [processPacket, hdispatch, Option.bind_eq_bind, Option.bind_some, Option.map_some, hqueued,
    hserver]
  rfl

/-- What the answers below rest on. -/
structure Orderly (s : Server) : Prop where
  linked : s.Linked
  unique : Unique s.users s.teams
  users : TeamsMirror.Formatted s.users
  teams : FormattedTeams s.teams
  hierarchical : s.Hierarchical

section

variable (h : s.Orderly) (hlogin : s.LoggedIn fd u)
include h hlogin

theorem LoggedIn.live : fd ∈ s.clientSockets :=
  h.linked.live fd (UnorderedMap.mem_of_lookup hlogin.session)

theorem LoggedIn.authenticated (payload : Bytes) (environment : Environment) :
    getAuthenticatedUser (s.context fd payload environment) = some u :=
  getAuthenticatedUser_context h.unique.userUuids hlogin.mem hlogin.session payload environment

end

end Server

section

variable {context : CommandContext}

theorem handleUser_found {x : User} {uuid : Bytes}
    (hsize : context.payloadSize = sizeof PayloadReqTargetUser)
    (hfd : context.clientFd ∈ context.authenticatedUsersByFd)
    (htarget : extractFixedString (Packed.ofBytes (α := PayloadReqTargetUser)
      context.payloadData).targetUuid.bytes = some uuid)
    (hvalid : isUuidFormatValid uuid = true) (hfind : findUserByUuid context.users uuid = some x) :
    handleUserCommand context =
      perform context context.toServer (toClient context [⟨.userInfo, buildUserPayload x⟩]) := by
  have hnonempty : uuid ≠ [] := by
    rintro rfl
    exact absurd hvalid (by decide)
  simp only [handleUserCommand, hsize, hfd, htarget, hnonempty, hfind]
  rfl

theorem handleMessages_found {uuid clientUuid : Bytes}
    (hsize : context.payloadSize = sizeof PayloadReqTargetUser)
    (hclient : context.authenticatedUsersByFd.lookup context.clientFd = some clientUuid)
    (htarget : extractFixedString (Packed.ofBytes (α := PayloadReqTargetUser)
      context.payloadData).targetUuid.bytes = some uuid)
    (hvalid : isUuidFormatValid uuid = true) {x : User} (hfind : findUserByUuid context.users uuid = some x) :
    handleMessagesCommand context =
      perform context context.toServer (toClient context (listReply .messagesList
        ((context.environment.sorter.sort
          (filterMessages context.messages clientUuid uuid)).map buildMessagePayload))) := by
  simp only [handleMessagesCommand, hsize, hclient, htarget, hvalid, hfind]
  simp [queueMessages, queueStatus_queuePackets, perform, toClient, listReply, Function.comp_def]

theorem handleSend_found {uuid clientUuid body : Bytes}
    (hsize : context.payloadSize = sizeof PayloadReqSendMsg)
    (hclient : context.authenticatedUsersByFd.lookup context.clientFd = some clientUuid)
    (htarget : extractFixedString (Packed.ofBytes (α := PayloadReqSendMsg)
      context.payloadData).targetUuid.bytes = some uuid)
    (hbody : extractFixedString (Packed.ofBytes (α := PayloadReqSendMsg)
      context.payloadData).messageBody.bytes = some body)
    (hnonempty : body ≠ []) (hvalid : isUuidFormatValid uuid = true) {x : User} (hx : x ∈ context.users)
    (hxuuid : x.uuid.bytes = uuid) {message : Message}
    (hmessage : message = .new (generateUuid context.environment.draw) clientUuid context.environment.now
      body uuid) :
    handleSendCommand context =
      perform context
        { context.toServer with
          messages := context.messages ++ [message]
          authenticatedUsersByUUID :=
            (UnorderedMap.getOrInsert uuid [] context.authenticatedUsersByUUID).2 }
        ((context.toServer.sessions uuid).map (fun fd => (fd, privateMessageEvent message)) ++
          toClient context [.ofStatus .ok]) := by
  have hany : (context.users.any fun user => user.uuid.bytes = uuid) = true :=
    List.any_eq_true.mpr ⟨x, hx, by simpa using hxuuid⟩
  have hreceiver : message.receiverUuid.bytes = uuid := by
    rw [hmessage]
    exact bytes_copyBuffer_uuid hvalid
  simp only [handleSendCommand, hsize, hclient, htarget, hbody, hvalid, hnonempty, hany, ← hmessage]
  rw [if_neg (by simp), if_neg (by simp), if_pos trivial, sendMessage_eq hreceiver, queueStatus_queuePackets]
  rfl

theorem handleSubscribe_found {u : User} {t : Team} {uuid : Bytes}
    (huser : getAuthenticatedUser context = some u) (hparse : parseTeamUuidFromPayload context = some uuid)
    (hfind : findTeamByUuid context.teams uuid = some t) :
    handleSubscribeCommand context =
      if t.isUserSubscribed u.uuid.bytes then
        perform context context.toServer (toClient context [.ofStatus .ok])
      else
        perform context
          (context.toServer.setTeams
            (updateTeam context.teams uuid fun team => team.addSubscribedUser u.uuid.bytes))
          (toClient context [⟨.usersList, buildUserPayload u⟩]) := by
  simp only [handleSubscribeCommand, huser, hparse, hfind]
  rfl

/-- A context without gaps is read as the client asks for it. -/
theorem parseUsePayload_of_valid {teamUuid channelUuid threadUuid : Bytes}
    (hvalid : ∀ uuid ∈ [teamUuid, channelUuid, threadUuid], uuid = [] ∨ isUuidFormatValid uuid = true)
    (hcontext : isContextCombinationValid teamUuid channelUuid threadUuid = true) :
    parseUsePayload (Request.use teamUuid channelUuid threadUuid).payload =
      some (teamUuid, channelUuid, threadUuid) := by
  have hlen : (Request.use teamUuid channelUuid threadUuid).payload.length ≠
      sizeof PayloadReqTeamTarget := by
    rw [Request.use, Packed.length_toBytes]
    decide
  rw [parseUsePayload, if_neg hlen]
  have hteam := extractOptionalUuid_copyPadded (hvalid teamUuid (by simp))
  have hchannel := extractOptionalUuid_copyPadded (hvalid channelUuid (by simp))
  have hthread := extractOptionalUuid_copyPadded (hvalid threadUuid (by simp))
  simp only [Request.use, Packed.ofBytes_toBytes, hteam, hchannel, hthread, Option.bind_eq_bind,
    Option.bind_some, if_pos hcontext]

theorem handleUse_parsed {teamUuid channelUuid threadUuid : Bytes}
    (hsize : context.payloadSize = sizeof PayloadReqUse)
    (hfd : context.clientFd ∈ context.authenticatedUsersByFd)
    (hparse : parseUsePayload context.payloadData = some (teamUuid, channelUuid, threadUuid)) :
    handleUseCommand context =
      perform context
        { context.toServer with
          clientManager :=
            context.clientManager.setContext context.clientFd teamUuid channelUuid threadUuid }
        (toClient context [.ofStatus .ok]) := by
  rw [handleUseCommand, if_neg (fun hne => hne.2 hsize), if_neg (not_not.mpr hfd), hparse]
  rfl

end

namespace Server

variable {s : Server} {fd : Fd} {u : User}

/-- A request that carries the uuid of the user is about that user. -/
structure AddressesUser (s : Server) (x : User) : Prop where
  info : ∀ fd u, s.LoggedIn fd u → s.Answers fd (.user x.uuid.bytes) fun _ _ queued =>
    queued = [(fd, ⟨.userInfo, buildUserPayload x⟩)]
  messages : ∀ fd u, s.LoggedIn fd u → s.Answers fd (.messages x.uuid.bytes) fun environment _ queued =>
    queued = ((environment.sorter.sort (filterMessages s.messages u.uuid.bytes x.uuid.bytes)).map
      fun m => (fd, ⟨.messagesList, buildMessagePayload m⟩)) ++ [(fd, .ofStatus .ok)]
  send : ∀ fd u body, s.LoggedIn fd u → beforeNul (body.take (maxBodyLength - 1)) ≠ [] →
    s.Answers fd (.send x.uuid.bytes body) fun _ s' queued => ∃ m : Message,
      m.authorUuid = u.uuid ∧ m.receiverUuid = x.uuid ∧
        m.body.bytes = beforeNul (body.take (maxBodyLength - 1)) ∧ s'.messages = s.messages ++ [m] ∧
        queued = ((s.sessions x.uuid.bytes).map fun fd' => (fd', privateMessageEvent m)) ++ [(fd, .ofStatus .ok)]
  sessions : ∀ fd ∈ s.sessions x.uuid.bytes, s.LoggedIn fd x

/-- A request that carries the uuid of the team is about that team. -/
structure AddressesTeam (s : Server) (t : Team) : Prop where
  subscribe : ∀ fd u, s.LoggedIn fd u → s.Answers fd (.subscribe t.uuid.bytes) fun _ s' queued =>
    queued = [(fd, if t.isUserSubscribed u.uuid.bytes then .ofStatus .ok
      else ⟨.usersList, buildUserPayload u⟩)] ∧
    s'.teams = s.teams.map fun t' =>
      if t' = t ∧ t'.isUserSubscribed u.uuid.bytes = false then t'.addSubscribedUser u.uuid.bytes else t'

/-- The uuids of the place and of its parents lead to it. -/
structure Leads (s : Server) (place : Place) : Prop where
  use : ∀ fd u, s.LoggedIn fd u →
    s.Answers fd (.use place.path.1 place.path.2.1 place.path.2.2) fun _ s' queued =>
      queued = [(fd, .ofStatus .ok)] ∧ s'.clientManager.getContext fd = place.path ∧
        s'.users = s.users ∧ s'.teams = s.teams ∧ s'.authenticatedUsersByFd = s.authenticatedUsersByFd
  info : ∀ fd u, s.LoggedIn fd u → place.OpenTo u → s.clientManager.getContext fd = place.path →
    s.Answers fd .info fun _ _ queued => queued = [(fd, place.info u)]

theorem Orderly.findUser (h : s.Orderly) {x : User} (hx : x ∈ s.users) :
    findUserByUuid s.users x.uuid.bytes = some x :=
  find?_key_of_mem (CString.nodup_bytes h.unique.userUuids) hx

theorem Orderly.findTeam (h : s.Orderly) {t : Team} (ht : t ∈ s.teams) :
    findTeamByUuid s.teams t.uuid.bytes = some t :=
  find?_key_of_mem (CString.nodup_bytes h.unique.teamUuids) ht

theorem Orderly.findChannel (h : s.Orderly) {t : Team} {c : Channel} (ht : t ∈ s.teams)
    (hc : c ∈ t.channels) : findChannelByUuid t c.uuid.bytes = some c :=
  find?_key_of_mem (CString.nodup_bytes ((List.nodup_flatMap.mp h.unique.channelUuids).1 t ht)) hc

theorem Orderly.findThread (h : s.Orderly) {t : Team} {c : Channel} {d : Thread} (ht : t ∈ s.teams)
    (hc : c ∈ t.channels) (hd : d ∈ c.threads) : findThreadByUuid c d.uuid.bytes = some d := by
  have hteam : t.threadUuids.Nodup := (List.nodup_flatMap.mp h.unique.threadUuids).1 t ht
  exact find?_key_of_mem (CString.nodup_bytes ((List.nodup_flatMap.mp hteam).1 c hc)) hd

theorem ne_nil_of_formatted {uuid : Bytes} (h : isUuidFormatValid uuid = true) : uuid ≠ [] := by
  rintro rfl
  exact absurd h (by decide)

theorem Orderly.addressesUser (h : s.Orderly) {x : User} (hx : x ∈ s.users) : s.AddressesUser x where
  info fd u hlogin := by
    have hsize : (Request.user x.uuid.bytes).payload.length = sizeof PayloadReqTargetUser :=
      Packed.length_toBytes _
    refine .of_perform (hlogin.live h) (by rw [hsize]; decide) fun environment => ?_
    have hhandler : handleUserCommand (s.context fd (Request.user x.uuid.bytes).payload environment) = _ :=
      handleUser_found hsize (UnorderedMap.mem_of_lookup hlogin.session)
      (by simpa [context, Request.user] using extractFixedString_uuid (h.users x hx)) (h.users x hx)
      (h.findUser hx)
    exact ⟨s, _, congrArg some hhandler, fun n => rfl⟩
  messages fd u hlogin := by
    have hsize : (Request.messages x.uuid.bytes).payload.length = sizeof PayloadReqTargetUser :=
      Packed.length_toBytes _
    refine .of_perform (hlogin.live h) (by rw [hsize]; decide) fun environment => ?_
    have hhandler :
        handleMessagesCommand (s.context fd (Request.messages x.uuid.bytes).payload environment) = _ :=
      handleMessages_found hsize hlogin.session
      (by simpa [context, Request.messages] using extractFixedString_uuid (h.users x hx)) (h.users x hx)
      (h.findUser hx)
    refine ⟨s, _, congrArg some hhandler, fun n => ?_⟩
    simp [toClient, listReply, context, Function.comp_def]
  send fd u body hlogin hbody := by
    have hsize : (Request.send x.uuid.bytes body).payload.length = sizeof PayloadReqSendMsg :=
      Packed.length_toBytes _
    refine .of_perform (hlogin.live h) (by rw [hsize]; decide) fun environment => ?_
    have htext : extractFixedString (Packed.ofBytes (α := PayloadReqSendMsg)
        (s.context fd (Request.send x.uuid.bytes body).payload environment).payloadData).messageBody.bytes =
        some (beforeNul (body.take (maxBodyLength - 1))) := by
      simpa [context, Request.send] using extractFixedString_copyPadded (by decide) body
    have hsize' : (s.context fd (Request.send x.uuid.bytes body).payload environment).payloadSize =
      sizeof PayloadReqSendMsg := hsize
    have hhandler := handleSend_found hsize' hlogin.session
      (by simpa [context, Request.send] using extractFixedString_uuid (h.users x hx)) htext hbody
      (h.users x hx) hx rfl rfl
    refine ⟨_, _, congrArg some hhandler, fun n => ⟨_, ?_, ?_, ?_, rfl, rfl⟩⟩
    · exact CString.copyBuffer_bytes u.uuid
    · exact CString.copyBuffer_bytes x.uuid
    · exact fits_of_extract htext
  sessions fd hfd := ⟨hx, h.linked.owned _ fd hfd⟩

theorem Orderly.addressesTeam (h : s.Orderly) {t : Team} (ht : t ∈ s.teams) : s.AddressesTeam t where
  subscribe fd u hlogin := by
    have hsize : (Request.subscribe t.uuid.bytes).payload.length = sizeof PayloadReqTeamTarget :=
      Packed.length_toBytes _
    refine .of_perform (hlogin.live h) (by rw [hsize]; decide) fun environment => ?_
    have hparse : parseTeamUuidFromPayload
        (s.context fd (Request.subscribe t.uuid.bytes).payload environment) = some t.uuid.bytes := by
      have htarget := extractFixedString_uuid (h.teams t ht).1
      have hsize' : ¬(s.context fd (Request.subscribe t.uuid.bytes).payload environment).payloadSize ≠
        sizeof PayloadReqTeamTarget := not_not.mpr hsize
      rw [parseTeamUuidFromPayload, if_neg hsize']
      simp [context, Request.subscribe, htarget, (h.teams t ht).1]
    have hhandler := handleSubscribe_found (hlogin.authenticated h _ environment) hparse (h.findTeam ht)
    have hself : ∀ t' ∈ s.teams, t'.uuid.bytes = t.uuid.bytes ↔ t' = t := fun t' ht' =>
      ⟨fun he => List.inj_on_of_nodup_map h.unique.teamUuids ht' ht (CString.ext he), fun he => he ▸ rfl⟩
    by_cases hsub : t.isUserSubscribed u.uuid.bytes = true
    · rw [if_pos hsub] at hhandler
      refine ⟨s, _, congrArg some hhandler, fun n => ⟨?_, ?_⟩⟩
      · rw [if_pos hsub]
        rfl
      · refine (List.map_id _).symm.trans (List.map_congr_left fun t' _ => (if_neg ?_).symm)
        rintro ⟨rfl, hnot⟩
        exact absurd hsub (by simp [hnot])
    · rw [if_neg hsub] at hhandler
      refine ⟨_, _, congrArg some hhandler, fun n => ⟨?_, ?_⟩⟩
      · rw [if_neg hsub]
        rfl
      · refine (modifyFirst_key (CString.nodup_bytes h.unique.teamUuids) t.uuid.bytes).trans ?_
        refine List.map_congr_left fun t' ht' => ?_
        simp only [hself t' ht']
        by_cases he : t' = t
        · simp [he, Bool.eq_false_iff.mpr hsub]
        · simp [he]

/-- Where a context with the uuids of a place leads. -/
theorem Orderly.resolve_path (h : s.Orderly) {place : Place} (hplace : place.StoredIn s.teams)
    (hopen : place.OpenTo u) (hcontext : s.clientManager.getContext fd = place.path) (payload : Bytes)
    (environment : Environment) :
    resolve (s.context fd payload environment) u = .ok place := by
  have hteam : (s.context fd payload environment).contextTeamUuid = place.path.1 :=
    congrArg Prod.fst hcontext
  have hchannel : (s.context fd payload environment).contextChannelUuid = place.path.2.1 :=
    congrArg (fun path => path.2.1) hcontext
  have hthread : (s.context fd payload environment).contextThreadUuid = place.path.2.2 :=
    congrArg (fun path => path.2.2) hcontext
  cases place with
  | root => simp [resolve, hteam, Place.path]
  | team t =>
    have hnonempty := ne_nil_of_formatted (h.teams t hplace).1
    have hsub : t.isUserSubscribed u.uuid.bytes = true := hopen
    simp [resolve, hteam, hchannel, Place.path, hnonempty, h.findTeam hplace, hsub]
  | channel t c =>
    obtain ⟨ht, hc⟩ := hplace
    have hnonempty := ne_nil_of_formatted (h.teams t ht).1
    have hnonempty' := ne_nil_of_formatted ((h.teams t ht).2 c hc).1
    have hsub : t.isUserSubscribed u.uuid.bytes = true := hopen
    simp [resolve, hteam, hchannel, hthread, Place.path, hnonempty, hnonempty', h.findTeam ht, hsub,
      h.findChannel ht hc]
  | thread t c d =>
    obtain ⟨ht, hc, hd⟩ := hplace
    have hnonempty := ne_nil_of_formatted (h.teams t ht).1
    have hnonempty' := ne_nil_of_formatted ((h.teams t ht).2 c hc).1
    have hnonempty'' := ne_nil_of_formatted (((h.teams t ht).2 c hc).2 d hd)
    have hsub : t.isUserSubscribed u.uuid.bytes = true := hopen
    simp [resolve, hteam, hchannel, hthread, Place.path, hnonempty, hnonempty', hnonempty'',
      h.findTeam ht, hsub, h.findChannel ht hc, h.findThread ht hc hd]

/-- The uuids of a place are empty behind its level and well formed before. -/
theorem Orderly.path_valid (h : s.Orderly) {place : Place} (hplace : place.StoredIn s.teams) :
    ∀ uuid ∈ [place.path.1, place.path.2.1, place.path.2.2], uuid = [] ∨ isUuidFormatValid uuid = true := by
  cases place with
  | root => simp [Place.path]
  | team t => simp [Place.path, (h.teams t hplace).1]
  | channel t c => simp [Place.path, (h.teams t hplace.1).1, ((h.teams t hplace.1).2 c hplace.2).1]
  | thread t c d =>
    obtain ⟨ht, hc, hd⟩ := hplace
    simp [Place.path, (h.teams t ht).1, ((h.teams t ht).2 c hc).1, ((h.teams t ht).2 c hc).2 d hd]

/-- A place has a team before it has a channel, and a channel before a thread. -/
theorem Orderly.path_hierarchical (h : s.Orderly) {place : Place} (hplace : place.StoredIn s.teams) :
    isContextCombinationValid place.path.1 place.path.2.1 place.path.2.2 = true := by
  rw [isContextCombinationValid_iff]
  cases place with
  | root | team => simp [Place.path]
  | channel t c => exact ⟨fun _ => ne_nil_of_formatted (h.teams t hplace.1).1, fun hne => absurd rfl hne⟩
  | thread t c d =>
    exact ⟨fun _ => ne_nil_of_formatted (h.teams t hplace.1).1,
      fun _ => ne_nil_of_formatted ((h.teams t hplace.1).2 c hplace.2.1).1⟩

theorem Orderly.leads (h : s.Orderly) (place : Place) (hplace : place.StoredIn s.teams) : s.Leads place where
  use fd u hlogin := by
    have hsize : (Request.use place.path.1 place.path.2.1 place.path.2.2).payload.length =
        sizeof PayloadReqUse := Packed.length_toBytes _
    have hvalid := h.path_valid hplace
    refine .of_perform (hlogin.live h) (by rw [hsize]; decide) fun environment => ?_
    have hhandler : handleUseCommand
        (s.context fd (Request.use place.path.1 place.path.2.1 place.path.2.2).payload environment) = _ :=
      handleUse_parsed hsize (UnorderedMap.mem_of_lookup hlogin.session)
      (parseUsePayload_of_valid hvalid (h.path_hierarchical hplace))
    refine ⟨_, _, congrArg some hhandler, fun n => ⟨rfl, ?_, rfl, rfl, rfl⟩⟩
    rw [getContext_dispatched_deliver]
    exact ClientManager.getContext_setContext ((h.linked.clients fd).mpr (hlogin.live h)) hvalid
  info fd u hlogin hopen hcontext := by
    refine .of_perform (hlogin.live h) (by decide) fun environment => ?_
    have hhandler : handleInfoCommand (s.context fd Request.info.payload environment) = _ :=
      handleInfo_resolve rfl (hlogin.authenticated h _ environment) (h.hierarchical fd)
    rw [h.resolve_path hplace hopen hcontext] at hhandler
    exact ⟨s, toClient (s.context fd Request.info.payload environment) [place.info u],
      congrArg some hhandler, fun n => rfl⟩

end Server

end TeamsMirror
