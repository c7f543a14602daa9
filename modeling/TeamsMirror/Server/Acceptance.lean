import TeamsMirror.Server.Contents
import TeamsMirror.Server.Letters

/-!
# Accepted texts

What is typed at a client, what the fields of its request keep of that, and how the
commands that store a text end: they refuse it, or store exactly what the fields kept
and show it to everyone they tell.
-/

namespace TeamsMirror

open Lists

/-- What a field of `n` bytes keeps of a text. -/
def fieldText (n : Nat) (text : Bytes) : Bytes := beforeNul (text.take (n - 1))

/-- What is typed to be stored and shown. -/
inductive Content where
  | user (name : Bytes)
  | team (name description : Bytes)
  | channel (name description : Bytes)
  | thread (title body : Bytes)
  | reply (body : Bytes)
  | message (targetUuid body : Bytes)
deriving DecidableEq

namespace Content

def request : Content → Request
  | .user name => .login name
  | .team name description => .createTeam name description
  | .channel name description => .createChannel name description
  | .thread title body => .createThread title body
  | .reply body => .createReply body
  | .message targetUuid body => .send targetUuid body

def texts : Content → List Bytes
  | .user name => [fieldText maxNameLength name]
  | .team name description => [fieldText maxNameLength name, fieldText maxDescriptionLength description]
  | .channel name description => [fieldText maxNameLength name, fieldText maxDescriptionLength description]
  | .thread title body => [fieldText maxNameLength title, fieldText maxBodyLength body]
  | .reply body => [fieldText maxBodyLength body]
  | .message _ body => [fieldText maxBodyLength body]

/-- The size of the request's payload; no two kinds but teams and channels have the same. -/
def size : Content → Nat
  | .user _ => sizeof PayloadReqLogin
  | .team _ _ => sizeof PayloadReqCreateTeam
  | .channel _ _ => sizeof PayloadReqCreateChannel
  | .thread _ _ => sizeof PayloadReqCreateThread
  | .reply _ => sizeof PayloadReqCreateReply
  | .message _ _ => sizeof PayloadReqSendMsg

theorem length_request (content : Content) : content.request.payload.length = content.size := by
  cases content <;> exact Packed.length_toBytes _

end Content

theorem extractFixedString_fieldText {n : Nat} (h : 0 < n) (text : Bytes) :
    extractFixedString (CharArray.copyPadded n text).bytes = some (fieldText n text) :=
  extractFixedString_copyPadded h text

/-- The two texts that a payload is parsed into are those of its fields. -/
theorem texts_of_parse {first second : Bytes} {text text' : Bytes} {wrongSize : Prop} [Decidable wrongSize]
    {missing : Bytes → Bytes → Prop} [∀ text text', Decidable (missing text text')]
    (h : (if wrongSize then none
      else do
        let text ← extractFixedString first
        let text' ← extractFixedString second
        if missing text text' then none else some (text, text')) = some (text, text')) :
    extractFixedString first = some text ∧ extractFixedString second = some text' := by
  split at h
  · cases h
  obtain ⟨text, hfirst, h⟩ := Option.bind_eq_some_iff.mp h
  obtain ⟨text', hsecond, h⟩ := Option.bind_eq_some_iff.mp h
  split at h
  · cases h
  · cases h
    exact ⟨hfirst, hsecond⟩

/-- The payload is the one that a client sends for the content. -/
def CommandContext.Asks (context : CommandContext) (content : Content) : Prop :=
  context.payloadData = content.request.payload

variable {context context' : CommandContext} {content : Content}

namespace CommandContext.Asks

theorem payloadSize_eq (h : context.Asks content) : context.payloadSize = content.size := by
  rw [payloadSize, h, content.length_request]

theorem team (h : context.Asks content) {name description : Bytes}
    (hparse : parseCreateTeamPayload context = some (name, description)) :
    content.texts = [(CString.copyBuffer maxNameLength name).bytes,
      (CString.copyBuffer maxDescriptionLength description).bytes] := by
  obtain ⟨hsize, -⟩ := parseCreateTeamPayload_eq_some hparse
  rw [h.payloadSize_eq] at hsize
  unfold parseCreateTeamPayload at hparse
  obtain ⟨hname, hdescription⟩ := texts_of_parse hparse
  rw [fits_of_extract hname, fits_of_extract hdescription]
  cases content with
  | team name' description' | channel name' description' =>
    have hpayload : context.payloadData = Packed.toBytes (PayloadReqCreateTeam.mk (.copyPadded _ name')
      (.copyPadded _ description')) := h
    rw [hpayload, Packed.ofBytes_toBytes, extractFixedString_fieldText (by decide)] at hname hdescription
    rw [Content.texts, Option.some.inj hname, Option.some.inj hdescription]
  | user | thread | reply | message => exact absurd hsize (by simp only [Content.size]; decide)

theorem channel (h : context.Asks content) {name description : Bytes}
    (hparse : parseCreateChannelPayload context = some (name, description)) :
    content.texts = [(CString.copyBuffer maxNameLength name).bytes,
      (CString.copyBuffer maxDescriptionLength description).bytes] :=
  h.team hparse

theorem thread (h : context.Asks content) {title body : Bytes}
    (hparse : parseCreateThreadPayload context = some (title, body)) :
    content.texts = [(CString.copyBuffer maxNameLength title).bytes,
      (CString.copyBuffer maxBodyLength body).bytes] := by
  obtain ⟨hsize, -⟩ := parseCreateThreadPayload_eq_some hparse
  rw [h.payloadSize_eq] at hsize
  unfold parseCreateThreadPayload at hparse
  obtain ⟨htitle, hbody⟩ := texts_of_parse hparse
  rw [fits_of_extract htitle, fits_of_extract hbody]
  cases content with
  | thread title' body' =>
    have hpayload : context.payloadData = Packed.toBytes (PayloadReqCreateThread.mk (.copyPadded _ title')
      (.copyPadded _ body')) := h
    rw [hpayload, Packed.ofBytes_toBytes, extractFixedString_fieldText (by decide)] at htitle hbody
    rw [Content.texts, Option.some.inj htitle, Option.some.inj hbody]
  | user | team | channel | reply | message => exact absurd hsize (by simp only [Content.size]; decide)

theorem reply (h : context.Asks content) {body : Bytes}
    (hparse : parseCreateReplyPayload context = some body) :
    content.texts = [(CString.copyBuffer maxBodyLength body).bytes] := by
  obtain ⟨hsize, -⟩ := parseCreateReplyPayload_eq_some hparse
  rw [h.payloadSize_eq] at hsize
  unfold parseCreateReplyPayload at hparse
  split at hparse
  · cases hparse
  obtain ⟨stored, hbody, hparse⟩ := Option.bind_eq_some_iff.mp hparse
  split at hparse
  · cases hparse
  obtain rfl := Option.some.inj hparse
  rw [fits_of_extract hbody]
  cases content with
  | reply body' =>
    have hpayload : context.payloadData = Packed.toBytes (PayloadReqCreateReply.mk (.copyPadded _ body')) := h
    rw [hpayload, Packed.ofBytes_toBytes, extractFixedString_fieldText (by decide)] at hbody
    rw [Content.texts, Option.some.inj hbody]
  | user | team | channel | thread | message => exact absurd hsize (by simp only [Content.size]; decide)

theorem user (h : context.Asks content) (hsize : context.payloadSize = sizeof PayloadReqLogin) {name : Bytes}
    (hname : extractFixedString (Packed.ofBytes (α := PayloadReqLogin) context.payloadData).userName.bytes =
      some name) : content.texts = [name] := by
  rw [h.payloadSize_eq] at hsize
  cases content with
  | user name' =>
    have hpayload : context.payloadData = Packed.toBytes (PayloadReqLogin.mk (.copyPadded _ name')) := h
    rw [hpayload, Packed.ofBytes_toBytes, extractFixedString_fieldText (by decide)] at hname
    rw [Content.texts, Option.some.inj hname]
  | team | channel | thread | reply | message => exact absurd hsize (by simp only [Content.size]; decide)

theorem message (h : context.Asks content) (hsize : context.payloadSize = sizeof PayloadReqSendMsg) {body : Bytes}
    (hbody : extractFixedString (Packed.ofBytes (α := PayloadReqSendMsg) context.payloadData).messageBody.bytes =
      some body) : content.texts = [body] := by
  rw [h.payloadSize_eq] at hsize
  cases content with
  | message targetUuid body' =>
    have hpayload : context.payloadData = Packed.toBytes (PayloadReqSendMsg.mk (.copyPadded _ targetUuid)
      (.copyPadded _ body')) := h
    rw [hpayload, Packed.ofBytes_toBytes, extractFixedString_fieldText (by decide)] at hbody
    rw [Content.texts, Option.some.inj hbody]
  | user | team | channel | thread | reply => exact absurd hsize (by simp only [Content.size]; decide)

/-- A letter is from the user of the connection to whom the request names. -/
theorem letter {targetUuid body : Bytes} (h : context.Asks (.message targetUuid body)) {letter : Letter}
    (hrequest : context.sendRequest = some letter) :
    context.authenticatedUsersByFd.lookup context.clientFd = some letter.sender ∧
      letter.receiver = fieldText uuidLength targetUuid := by
  have hpayload : context.payloadData = Packed.toBytes (PayloadReqSendMsg.mk (.copyPadded _ targetUuid)
    (.copyPadded _ body)) := h
  obtain ⟨sender, hsender, hrequest⟩ := Option.bind_eq_some_iff.mp hrequest
  obtain ⟨receiver, hreceiver, hrequest⟩ := Option.bind_eq_some_iff.mp hrequest
  obtain ⟨text, -, rfl⟩ := Option.map_eq_some_iff.mp hrequest
  rw [hpayload, Packed.ofBytes_toBytes, extractFixedString_fieldText (by decide)] at hreceiver
  exact ⟨hsender, (Option.some.inj hreceiver).symm⟩

end CommandContext.Asks

def CommandContext.path (context : CommandContext) : Bytes × Bytes × Bytes :=
  (context.contextTeamUuid, context.contextChannelUuid, context.contextThreadUuid)

/-- The content is refused, or it is that of a user, an entity of the forest or a message from now
on, and everyone who is told is told its texts. -/
inductive Stores (context : CommandContext) (content : Content) : CommandContext → Prop where
  | refused {status : StatusCode} : status ∉ [StatusCode.ok, .created] →
      Stores context content (queueStatus context status)
  | user {s : Server} {user : User} : content.request.command = .login → content.texts = [user.name.bytes] →
      Stores context content (perform context (s.addSession context.clientFd user.uuid.bytes)
        (toClient context [.ofStatus .ok] ++
          toEveryone (s.addSession context.clientFd user.uuid.bytes) (loginEvent user)))
  | entity {place : Place} {teams : List Team} {payload : Payload} {events : List (Fd × Packet)} :
      content.request.command = .create → place.FoundIn context.teams → place.path = context.path →
      place.Adds context.teams teams payload → payload.texts = some content.texts →
      (∀ q ∈ events, Shows content.texts q.2) →
      Stores context content (perform context (context.toServer.setTeams teams)
        (toClient context [⟨.created, payload⟩] ++ events))
  | message {s : Server} {m : Message} {fds : List Fd} : content.request.command = .send →
      content.texts = [m.body.bytes] → context.sendRequest = some m.letter →
      s.messages = context.messages ++ [m] →
      Stores context content (perform context s
        (fds.map (fun fd => (fd, privateMessageEvent m)) ++ toClient context [.ofStatus .ok]))

/-- The packet shows these texts, or none. -/
def ShowsOnly (texts : List Bytes) (p : Packet) : Prop := ∀ shown, Shows shown p → shown = texts

theorem Shows.only {texts : List Bytes} {p : Packet} (h : Shows texts p) : ShowsOnly texts p := by
  intro shown hshown
  exact Option.some.inj (hshown.symm.trans h)

theorem showsOnly_status (texts : List Bytes) (status : StatusCode) : ShowsOnly texts (.ofStatus status) := by
  intro shown hshown
  cases hshown

theorem Stores.showsOnly (h : Stores context content context') (hqueued : context.queued = []) :
    ∀ q ∈ context'.queued, ShowsOnly content.texts q.2 := by
  cases h with
  | @refused status _ =>
    have he : (queueStatus context status).queued = toClient context [.ofStatus status] := by
      rw [queueStatus, queuePacket, hqueued]
      rfl
    rw [he]
    exact forall_toClient_one (showsOnly_status _ _)
  | @user s user _ htexts =>
    have hevent : ShowsOnly content.texts (loginEvent user) := by
      rw [htexts]
      exact (texts_loginEvent user).only
    rw [queued_perform, hqueued, List.nil_append]
    exact List.forall_mem_append.mpr ⟨forall_toClient_one (showsOnly_status _ _), forall_each hevent⟩
  | @entity place teams payload events _ _ _ _ hpayload hevents =>
    have hcreated : ShowsOnly content.texts ⟨.created, payload⟩ := Shows.only hpayload
    rw [queued_perform, hqueued, List.nil_append]
    exact List.forall_mem_append.mpr ⟨forall_toClient_one hcreated, fun q hq => (hevents q hq).only⟩
  | @message s m fds _ htexts =>
    have hevent : ShowsOnly content.texts (privateMessageEvent m) := by
      rw [htexts]
      exact (texts_privateMessageEvent m).only
    rw [queued_perform, hqueued, List.nil_append]
    exact List.forall_mem_append.mpr ⟨forall_each hevent, forall_toClient_one (showsOnly_status _ _)⟩

theorem handleCreate_ends (hcommand : content.request.command = .create) (hasks : context.Asks content)
    (h : handleCreateCommand context = some context') : Stores context content context' := by
  cases handleCreate_cases h with
  | @refused status hstatus =>
    have hrefusals : ∀ status ∈ refusals .create, status ∉ [StatusCode.ok, .created] := by decide
    exact .refused (hrefusals status hstatus)
  | @team user name description draw t _ hteam hchannel hthread hparse _ _ ht =>
    have htexts : content.texts = [t.name.bytes, t.description.bytes] := by
      rw [ht]
      exact hasks.team hparse
    have hpayload : (buildTeamPayload t).texts = some content.texts := by
      rw [htexts]
      exact texts_buildTeamPayload t
    have hevent : Shows content.texts (teamCreatedEvent t) := by
      rw [htexts]
      exact texts_teamCreatedEvent t
    have hfound : Place.root.FoundIn context.teams := trivial
    have hpath : Place.root.path = context.path := by
      rw [Place.path, CommandContext.path, hteam, hchannel, hthread]
    exact .entity hcommand hfound hpath (.team t) hpayload (forall_each hevent)
  | @channel user t name description draw c hin hchannel hthread hparse _ _ hc =>
    have hteam : t.uuid.bytes = context.contextTeamUuid := uuid_of_findTeam hin.found
    have htexts : content.texts = [c.name.bytes, c.description.bytes] := by
      rw [hc]
      exact hasks.channel hparse
    have hpayload : (buildChannelPayload c).texts = some content.texts := by
      rw [htexts]
      exact texts_buildChannelPayload c
    have hevent : Shows content.texts (channelCreatedEvent c) := by
      rw [htexts]
      exact texts_channelCreatedEvent c
    have hfound : (Place.team t).FoundIn context.teams := hin.found_uuid
    have hpath : (Place.team t).path = context.path := by
      rw [Place.path, CommandContext.path, hteam, hchannel, hthread]
    rw [← hteam]
    exact .entity hcommand hfound hpath (.channel t c) hpayload (forall_each hevent)
  | @thread user t c title body draw d hin hthread hparse _ _ hd =>
    have htexts : content.texts = [d.title.bytes, d.body.bytes] := by
      rw [hd]
      exact hasks.thread hparse
    have hpayload : (buildThreadPayload d).texts = some content.texts := by
      rw [htexts]
      exact texts_buildThreadPayload d
    have hevent : Shows content.texts (threadCreatedEvent d) := by
      rw [htexts]
      exact texts_threadCreatedEvent d
    have hfound : (Place.channel t c).FoundIn context.teams := ⟨hin.toInTeam.found_uuid, hin.found_uuid⟩
    have hpath : (Place.channel t c).path = context.path := by
      rw [Place.path, CommandContext.path, uuid_of_findTeam hin.found, uuid_of_findChannel hin.foundChannel,
        hthread]
    exact .entity hcommand hfound hpath (.thread t c d) hpayload (forall_each hevent)
  | @reply user t c d body m hin hparse hm =>
    have htexts : content.texts = [m.body.bytes] := by
      rw [hm]
      exact hasks.reply hparse
    have hpayload : (buildReplyPayload d m).texts = some content.texts := by
      rw [htexts]
      exact texts_buildReplyPayload d m
    have hevent : Shows content.texts (replyCreatedEvent t d m) := by
      rw [htexts]
      exact texts_replyCreatedEvent t d m
    have hfound : (Place.thread t c d).FoundIn context.teams :=
      ⟨hin.toInTeam.found_uuid, hin.toInChannel.found_uuid, hin.found_uuid⟩
    have hpath : (Place.thread t c d).path = context.path := by
      rw [Place.path, CommandContext.path, uuid_of_findTeam hin.found, uuid_of_findChannel hin.foundChannel,
        uuid_of_findThread hin.foundThread]
    exact .entity hcommand hfound hpath (.reply t c d m) hpayload (forall_each hevent)

theorem handleLogin_ends (hcommand : content.request.command = .login) (hasks : context.Asks content)
    (h : handleLoginCommand context = some context') : Stores context content context' := by
  cases handleLogin_cases h with
  | @refused status hstatus =>
    have hrefusals : ∀ status ∈ refusals .login, status ∉ [StatusCode.ok, .created] := by decide
    exact .refused (hrefusals status hstatus.1)
  | @registered draw name user hsize _ hname _ _ _ huser =>
    have htexts : content.texts = [user.name.bytes] := by
      rw [hasks.user hsize hname, huser]
      exact congrArg (fun text => [text]) (fits_of_extract hname).symm
    exact .user hcommand htexts
  | @loggedIn name user hsize _ hname huser =>
    have htexts : content.texts = [user.name.bytes] := by
      have hsame : user.name.bytes = name := by simpa using List.find?_some huser
      rw [hasks.user hsize hname, hsame]
    exact .user hcommand htexts

theorem handleSend_ends (hcommand : content.request.command = .send) (hasks : context.Asks content)
    (hknown : context.toServer.Known) : Stores context content (handleSendCommand context) := by
  generalize hended : handleSendCommand context = ended
  cases handleSend_cases hended with
  | @refused status hstatus =>
    have hrefusals : ∀ status ∈ refusals .send, status ∉ [StatusCode.ok, .created] := by decide
    exact .refused (hrefusals status hstatus)
  | @sent author target body message hsize hauthor htarget hbody hvalid _ _ hmessage =>
    have htexts : content.texts = [message.body.bytes] := by
      rw [hasks.message hsize hbody, hmessage]
      exact congrArg (fun text => [text]) (fits_of_extract hbody).symm
    have hrequest := sendRequest_eq_letter hknown hauthor htarget hbody hvalid hmessage
    exact .message hcommand htexts hrequest rfl

/-- Whatever is typed, the command that carries it stores it as its fields kept it, or refuses it. -/
theorem dispatch_stores (hasks : context.Asks content) (hknown : context.toServer.Known)
    (h : dispatchCommand context content.request.command.code = some context') :
    Stores context content context' := by
  cases content with
  | user => exact handleLogin_ends rfl hasks h
  | team | channel | thread | reply => exact handleCreate_ends rfl hasks h
  | message => exact Option.some.inj h ▸ handleSend_ends rfl hasks hknown

end TeamsMirror
