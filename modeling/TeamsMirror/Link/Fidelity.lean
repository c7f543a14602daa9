import TeamsMirror.Client.Grammar
import TeamsMirror.Link.Addresses
import TeamsMirror.Link.Shown
import TeamsMirror.Server.Acceptance

/-!
# What is typed is what is shown

A text that the server accepts is shown by everyone as the field of the request kept
it: in the answer and the events of the command, and in every list, every user, team,
channel or thread info and every conversation that follows, in this life of the
server and in later ones.
-/

namespace TeamsMirror

open Lists

namespace Cli

/-- What the arguments of a command are, for the commands that store a text; those of `/create` are what the
context of the client makes of them. -/
def contentOf (client : Client) : CommandID → List Bytes → Option Content
  | .login, [username] => some (.user username)
  | .send, [targetUuid, messageBody] => some (.message targetUuid messageBody)
  | .create, [firstArg, secondArg] =>
    match inferCreateTargetFromContext client with
    | .team => some (.team firstArg secondArg)
    | .channel => some (.channel firstArg secondArg)
    | .thread => some (.thread firstArg secondArg)
    | .reply => none
  | .create, [replyBody] => if inferCreateTargetFromContext client = .reply then some (.reply replyBody) else none
  | _, _ => none

variable {client : Client} {input : StreamInput} {parsed : ParsedInput} {request : Request} {body : Body}

theorem handleLogin_exchange (hinput : Represents input parsed)
    (h : handleLogin client parsed = .exchange request body) :
    ∃ username, input.takeArgs 1 = some [username] ∧ request = .login username := by
  unfold handleLogin at h
  split at h
  · cases h
  simp only at h
  split at h
  · cases h
  next hdone =>
  split at h
  · cases h
  cases h
  have hdone := StreamInput.takeArgs_done hinput.getArg.2 (Bool.eq_false_of_not_eq_true hdone)
  exact ⟨_, StreamInput.takeArgs_getArg hinput hdone, rfl⟩

theorem handleSend_exchange (hinput : Represents input parsed)
    (h : handleSend client parsed = .exchange request body) :
    ∃ targetUuid messageBody, input.takeArgs 2 = some [targetUuid, messageBody] ∧
      request = .send targetUuid messageBody := by
  unfold handleSend at h
  simp only at h
  split at h
  · cases h
  next hdone =>
  split at h
  · cases h
  split at h
  · cases h
  cases h
  have hnext := hinput.getArg.2
  have hdone := StreamInput.takeArgs_done hnext.getArg.2 (Bool.eq_false_of_not_eq_true hdone)
  exact ⟨_, _, StreamInput.takeArgs_getArg hinput (StreamInput.takeArgs_getArg hnext hdone), rfl⟩

theorem createNamed_exchange {target : CreateTarget} {make : Bytes → Bytes → Request}
    (hinput : Represents input parsed) (h : createNamed client target parsed make = .exchange request body) :
    ∃ firstArg secondArg, input.takeArgs 2 = some [firstArg, secondArg] ∧ request = make firstArg secondArg := by
  unfold createNamed at h
  simp only at h
  split at h
  · cases h
  next hdone =>
  cases h
  have hnext := hinput.getArg.2
  simp only [Bool.or_eq_true, not_or] at hdone
  have hdone := StreamInput.takeArgs_done hnext.getArg.2 (by simp [hdone.1.1])
  exact ⟨_, _, StreamInput.takeArgs_getArg hinput (StreamInput.takeArgs_getArg hnext hdone), rfl⟩

theorem handleCreate_exchange (hinput : Represents input parsed)
    (h : handleCreate client parsed = .exchange request body) :
    ∃ arguments content, input.takeArgs arguments.length = some arguments ∧
      contentOf client .create arguments = some content ∧ request = content.request := by
  unfold handleCreate at h
  split at h
  · cases h
  split at h
  · next htarget =>
    simp only at h
    split at h
    · cases h
    next hdone =>
    cases h
    simp only [Bool.or_eq_true, not_or] at hdone
    have hdone := StreamInput.takeArgs_done hinput.getArg.2 (by simp [hdone.1])
    exact ⟨[_], _, StreamInput.takeArgs_getArg hinput hdone, if_pos htarget, rfl⟩
  · next htarget =>
    obtain ⟨name, description, htake, rfl⟩ := createNamed_exchange hinput h
    exact ⟨[name, description], .team name description, htake, by simp only [contentOf, htarget], rfl⟩
  · next htarget =>
    obtain ⟨name, description, htake, rfl⟩ := createNamed_exchange hinput h
    exact ⟨[name, description], .channel name description, htake, by simp only [contentOf, htarget], rfl⟩
  · next htarget =>
    obtain ⟨title, threadBody, htake, rfl⟩ := createNamed_exchange hinput h
    exact ⟨[title, threadBody], .thread title threadBody, htake, by simp only [contentOf, htarget], rfl⟩

end Cli

namespace World

variable {w w' : World}

/-- What holds of a world that began with an empty database and lost none of it in part. -/
structure Settled (w : World) : Prop where
  integral : w.Integral
  formattedTeams : Kept.Holds (fun _ teams _ => FormattedTeams teams) w

theorem Settled.boot {disk : Disk} (hempty : ∀ file, readTextFile (disk file) = []) (listenFd : Fd) :
    Settled (World.boot listenFd disk) where
  integral := .boot hempty listenFd
  formattedTeams := kept_formattedTeams.boot_empty hempty listenFd

theorem Settled.step {e : Event} (h : w.Settled) (hwhole : w.Whole e) (hs : w.step e = some w') : w'.Settled where
  integral := h.integral.step hwhole hs
  formattedTeams := kept_formattedTeams.holds_step h.integral.sound h.formattedTeams hwhole hs

theorem Settled.orderly (h : w.Settled) : w.server.Orderly :=
  History.orderly h.integral h.formattedTeams.server

theorem step_server {e : TeamsMirror.Event} {s : Server} {queued : List (Fd × Packet)}
    (hs : w.server.handle e = some (s, queued)) : w.step (.server e) = some { w with server := s } := by
  rw [step, Server.step, hs]
  rfl

/-- A process that is saved and started again has all that was there. -/
theorem extends_step {e : Event} (h : w.Integral) (hsaved : w.Saved e) (hs : w.step e = some w') :
    w.server.Extends w'.server := by
  cases e with
  | server e =>
    obtain ⟨s, hstep, rfl⟩ := Option.map_eq_some_iff.mp hs
    obtain ⟨queued, hhandle⟩ := Server.step_eq_some.mp hstep
    exact Server.extends_step hhandle
  | restart outcome listenFd =>
    obtain rfl := Option.some.inj hs
    obtain ⟨husers, hteams, hmessages⟩ := h.sound.boot_saved hsaved listenFd
    refine .of_users hteams hmessages ?_
    rw [identities_of_identity husers]

theorem Settled.run {events : List Event} (h : w.Settled) (hsaved : Runs.Always World.step World.Saved w events)
    (hrun : Runs.run World.step w events = some w') : w'.Settled ∧ w.server.Extends w'.server := by
  refine Runs.run_invariant_of (P := fun w' => w'.Settled ∧ w.server.Extends w'.server) ?_
    ⟨h, .refl w.server⟩ hsaved hrun
  rintro w' e w'' ⟨h', hextends⟩ hsaved hs
  exact ⟨h'.step hsaved.whole hs, hextends.trans (extends_step h'.integral hsaved hs)⟩

end World

/-- The client is told that its request was carried out. -/
def Accepted (fd : Fd) (queued : List (Fd × Packet)) : Prop :=
  ∃ p, (fd, p) ∈ queued ∧ p.status ∈ [StatusCode.ok, .created]

/-- The entity that the payload shows has its entry, behind those that were there, in the list at the
place of the context; and everyone who asks for the list from there gets it. -/
structure Listed (context : Bytes × Bytes × Bytes) (s : Server) (payload : Payload) (s' : Server) (place place' : Place) :
    Prop where
  stored : place.StoredIn s.teams
  stored' : place'.StoredIn s'.teams
  path : place.path = context
  path' : place'.path = context
  entries : place.entries s.teams ++ [payload] <+: place'.entries s'.teams
  answers : ∀ fd u, s'.LoggedIn fd u → place'.OpenTo u → s'.clientManager.getContext fd = context →
    s'.Answers fd .list fun _ _ queued =>
      queued = (listReply place'.entryStatus (place'.entries s'.teams)).map fun p => (fd, p)

/-- The message is behind those that were there, and each of the two gets it with their conversation. -/
structure Conversed (s : Server) (m : Message) (s' : Server) : Prop where
  messages : s.messages ++ [m] <+: s'.messages
  answers : ∀ fd u x, s'.LoggedIn fd u → x ∈ s'.users →
    (m.authorUuid = u.uuid ∧ m.receiverUuid = x.uuid ∨ m.authorUuid = x.uuid ∧ m.receiverUuid = u.uuid) →
    s'.Answers fd (.messages x.uuid.bytes) fun _ _ queued =>
      (fd, ⟨.messagesList, buildMessagePayload m⟩) ∈ queued

/-- The content that a client has sent from `s` is shown as its fields kept it: in the packets of the
command, and in those of any event of the world. -/
structure ShownAsTyped (content : Content) (fd : Fd) (s : Server) (queued : List (Fd × Packet)) (w : World) :
    Prop where
  atOnce : ∀ q ∈ queued, ShowsOnly content.texts q.2
  told : content.request.command ≠ .send → ∃ p, (fd, p) ∈ queued ∧ Shows content.texts p
  later : ∀ e s' queued', w.server.handle e = some (s', queued') → ∀ q ∈ queued, ∀ n ∈ q.2.payload.mentions,
    n.texts ≠ none → ∀ q' ∈ queued', ∀ n' ∈ q'.2.payload.mentions, n'.kind = n.kind → n'.uuid = n.uuid →
      n'.texts ≠ none → Shows content.texts q'.2
  listed : content.request.command = .create → ∃ payload place place',
    queued.head? = some (fd, ⟨.created, payload⟩) ∧ payload.texts = some content.texts ∧
      Listed (s.clientManager.getContext fd) s payload w.server place place'
  conversed : ∀ targetUuid body, content = .message targetUuid body → ∃ m : Message,
    s.authenticatedUsersByFd.lookup fd = some m.authorUuid.bytes ∧
      m.receiverUuid.bytes = fieldText uuidLength targetUuid ∧ content.texts = [m.body.bytes] ∧
      Conversed s m w.server

namespace Server

variable {s s' : Server} {fd : Fd} {environment : Environment} {queued : List (Fd × Packet)} {content : Content}

theorem handle_stores (hknown : s.Known) (hreceives : s.Receives fd content.request)
    (hs : s.handle (.dispatch fd environment) = some (s', queued)) :
    ∃ context', Stores (s.context fd content.request.payload environment) content context' ∧
      queued = context'.queued ∧ s'.teams = context'.teams ∧ s'.messages = context'.messages := by
  obtain ⟨header, payload, context', hpeek, hdispatch, rfl, rfl⟩ := handle_dispatch_context hs
  obtain ⟨more, hbuffer⟩ := hreceives
  have hlen : content.request.payload.length < 65536 := by
    rw [content.length_request]
    cases content <;> simp only [Content.size] <;> decide
  rw [hbuffer, peekPacket_request hlen] at hpeek
  obtain ⟨rfl, rfl⟩ := Prod.mk.inj (Option.some.inj hpeek)
  have hasks : (s.context fd content.request.payload environment).Asks content := rfl
  exact ⟨context', dispatch_stores hasks hknown hdispatch, rfl, rfl, rfl⟩

/-- The list at a place, for those who may see it. -/
theorem Orderly.list (h : s.Orderly) {place : Place} (hplace : place.StoredIn s.teams) {u : User}
    (hlogin : s.LoggedIn fd u) (hopen : place.OpenTo u) (hcontext : s.clientManager.getContext fd = place.path) :
    s.Answers fd .list fun _ _ queued =>
      queued = (listReply place.entryStatus (place.entries s.teams)).map fun p => (fd, p) := by
  refine .of_perform (hlogin.live h) (by decide) fun environment => ?_
  have hhandler : handleListCommand (s.context fd Request.list.payload environment) = _ :=
    handleList_resolve rfl (hlogin.authenticated h _ environment) (h.hierarchical fd)
  rw [h.resolve_path hplace hopen hcontext, CommandContext.endsAt, Place.listing_eq] at hhandler
  exact ⟨s, _, congrArg some hhandler, fun n => rfl⟩

/-- A message that is stored is in the conversation, for either side. -/
theorem Orderly.conversation (h : s.Orderly) {m : Message} (hm : m ∈ s.messages) {u x : User}
    (hlogin : s.LoggedIn fd u) (hx : x ∈ s.users)
    (hbetween : m.authorUuid = u.uuid ∧ m.receiverUuid = x.uuid ∨ m.authorUuid = x.uuid ∧ m.receiverUuid = u.uuid) :
    s.Answers fd (.messages x.uuid.bytes) fun _ _ queued =>
      (fd, ⟨.messagesList, buildMessagePayload m⟩) ∈ queued := by
  intro hreceives environment
  obtain ⟨s', queued, hs, rfl⟩ := (h.addressesUser hx).messages fd u hlogin hreceives environment
  have hfilter : m ∈ filterMessages s.messages u.uuid.bytes x.uuid.bytes := by
    refine List.mem_filter.mpr ⟨hm, ?_⟩
    rcases hbetween with ⟨ha, hr⟩ | ⟨ha, hr⟩
    · simp [ha, hr]
    · simp [ha, hr]
  refine ⟨s', _, hs, List.mem_append_left _ (List.mem_map.mpr ⟨m, ?_, rfl⟩)⟩
  exact (environment.sorter.perm _).mem_iff.mpr hfilter

end Server

namespace Stores

variable {context context' : CommandContext} {content : Content}

theorem not_accepted (hqueued : context.queued = []) {status : StatusCode}
    (hstatus : status ∉ [StatusCode.ok, .created]) :
    ¬Accepted context.clientFd (queueStatus context status).queued := by
  rintro ⟨p, hp, hok⟩
  simp only [queueStatus, queuePacket, hqueued, List.nil_append, List.mem_singleton, Prod.mk.injEq,
    true_and] at hp
  rw [hp] at hok
  exact hstatus hok

variable (h : Stores context content context') (hqueued : context.queued = [])
  (haccepted : Accepted context.clientFd context'.queued)
include h hqueued haccepted

theorem told (hcommand : content.request.command ≠ .send) :
    ∃ p, (context.clientFd, p) ∈ context'.queued ∧ Shows content.texts p := by
  cases h with
  | refused hstatus => exact absurd haccepted (not_accepted hqueued hstatus)
  | @user s user _ htexts =>
    refine ⟨loginEvent user, ?_, by rw [htexts]; exact texts_loginEvent user⟩
    rw [queued_perform]
    refine List.mem_append_right _ (List.mem_append_right _ (List.mem_map.mpr ⟨context.clientFd, ?_, rfl⟩))
    simp [Server.addSession]
  | @entity place teams payload events _ _ _ _ hpayload =>
    refine ⟨⟨.created, payload⟩, ?_, hpayload⟩
    rw [queued_perform]
    exact List.mem_append_right _ (List.mem_append_left _ List.mem_cons_self)
  | message hsend => exact absurd hsend hcommand

/-- A new entity is added where the context leads, and its payload is the first answer. -/
theorem created (hcommand : content.request.command = .create) :
    ∃ (payload : Payload) (place : Place), context'.queued.head? = some (context.clientFd, ⟨.created, payload⟩) ∧
      payload.texts = some content.texts ∧ place.FoundIn context.teams ∧ place.path = context.path ∧
      place.Adds context.teams context'.teams payload := by
  cases h with
  | refused hstatus => exact absurd haccepted (not_accepted hqueued hstatus)
  | user hlogin => exact absurd (hlogin.symm.trans hcommand) (by decide)
  | message hsend => exact absurd (hsend.symm.trans hcommand) (by decide)
  | @entity place teams payload events _ hfound hpath hadds hpayload =>
    refine ⟨payload, place, ?_, hpayload, hfound, hpath, ?_⟩
    · rw [queued_perform, hqueued]
      rfl
    · rw [toServer_perform]
      exact hadds

theorem sent (hcommand : content.request.command = .send) :
    ∃ m : Message, content.texts = [m.body.bytes] ∧ context.sendRequest = some m.letter ∧
      context'.messages = context.messages ++ [m] := by
  cases h with
  | refused hstatus => exact absurd haccepted (not_accepted hqueued hstatus)
  | user hlogin => exact absurd (hlogin.symm.trans hcommand) (by decide)
  | entity hcreate => exact absurd (hcreate.symm.trans hcommand) (by decide)
  | @message s m fds _ htexts hrequest hmessages =>
    refine ⟨m, htexts, hrequest, ?_⟩
    rw [toServer_perform]
    exact hmessages

end Stores

/-- Two mentions of one entity, now and later, show the same. -/
theorem Mention.Known.agree {s : Server} (horderly : s.Orderly) {n n' : Mention} (hn : n.Known s.users s.teams)
    (hn' : n'.Known s.users s.teams) (hkind : n'.kind = n.kind) (huuid : n'.uuid = n.uuid) {texts texts' : List Bytes}
    (htexts : texts ∈ n.texts) (htexts' : texts' ∈ n'.texts) : texts' = texts := by
  obtain ⟨x, hx, hof⟩ := hn
  obtain ⟨y, hy, hof'⟩ := hn'
  have hsame : y = x := by
    refine horderly.entity_unique hx hy (hof'.1.symm.trans (hkind.trans hof.1)) (CString.ext ?_)
    rw [← hof'.2.1, huuid, hof.2.1]
  rw [hof.2.2 texts htexts, hof'.2.2 texts' htexts', hsame]

namespace World

variable {w w' : World} {s : Server} {fd : Fd} {environment : Environment} {queued : List (Fd × Packet)}
  {content : Content}

/-- What a command has shown of an entity is what any later event shows of it. -/
theorem Settled.shows_later (hw' : w'.Settled) (hextends : s.Extends w'.server) {texts : List Bytes}
    (honce : ∀ q ∈ queued, ShowsOnly texts q.2)
    (hknown : ∀ q ∈ queued, ∀ n ∈ q.2.payload.mentions, n.Known s.users s.teams)
    {e : TeamsMirror.Event} {s' : Server} {queued' : List (Fd × Packet)}
    (hs : w'.server.handle e = some (s', queued')) {q : Fd × Packet} (hq : q ∈ queued) {n : Mention}
    (hn : n ∈ q.2.payload.mentions) (hne : n.texts ≠ none) {q' : Fd × Packet} (hq' : q' ∈ queued') {n' : Mention}
    (hn' : n' ∈ q'.2.payload.mentions) (hkind : n'.kind = n.kind) (huuid : n'.uuid = n.uuid)
    (hne' : n'.texts ≠ none) : Shows texts q'.2 := by
  have hwhole : w'.Whole (.server e) := trivial
  have hsettled : (World.mk s' w'.disk).Settled := hw'.step hwhole (step_server hs)
  obtain ⟨shown, hshown⟩ := Option.ne_none_iff_exists'.mp hne
  obtain ⟨shown', hshown'⟩ := Option.ne_none_iff_exists'.mp hne'
  have hthen := (hknown q hq n hn).grows hextends.users.subset hextends.teams
  have hnext := Server.extends_step hs
  have hnow := hthen.grows hnext.users.subset hnext.teams
  have hreport : n'.Known s'.users s'.teams :=
    (Server.handle_reports hs q' hq').known hsettled.integral.referential.server n' hn'
  have hagree : shown' = shown := hnow.agree hsettled.orderly hreport hkind huuid hshown hshown'
  have htexts : shown = texts := honce q hq shown (Payload.texts_of_mention hn hshown)
  rw [← htexts, ← hagree]
  exact Payload.texts_of_mention hn' hshown'

/-- What a client sends to be stored is what has been typed after the command, argument by argument. -/
theorem exists_content {client : Cli.Client} {line : Bytes} {request : Request} {body : Cli.Body}
    (h : Cli.handlingInput client line = .exchange request body)
    (hcommand : request.command ∈ [CommandID.login, .create, .send]) :
    ∃ arguments content, (Cli.StreamInput.ofLine line).command = Cli.commandText request.command ∧
      (Cli.StreamInput.ofLine line).takeArgs arguments.length = some arguments ∧
      Cli.contentOf client request.command arguments = some content ∧ request = content.request := by
  obtain ⟨hfirst, hinput⟩ := Cli.Represents.ofLine line
  have htext := (h ▸ Cli.handled client line).exchanges.1
  have hdispatch : Cli.dispatchCommand client (Cli.commandText request.command) (Cli.parseLine line).2 =
      .exchange request body := htext ▸ h
  rw [hfirst, htext]
  simp only [List.mem_cons, List.not_mem_nil, or_false] at hcommand
  rcases hcommand with hcommand | hcommand | hcommand
  · rw [hcommand] at hdispatch ⊢
    obtain ⟨username, htake, rfl⟩ := Cli.handleLogin_exchange hinput hdispatch
    exact ⟨[username], .user username, rfl, htake, rfl, rfl⟩
  · rw [hcommand] at hdispatch ⊢
    obtain ⟨arguments, content, htake, hcontent, rfl⟩ := Cli.handleCreate_exchange hinput hdispatch
    exact ⟨arguments, content, rfl, htake, hcontent, rfl⟩
  · rw [hcommand] at hdispatch ⊢
    obtain ⟨targetUuid, messageBody, htake, rfl⟩ := Cli.handleSend_exchange hinput hdispatch
    exact ⟨[targetUuid, messageBody], .message targetUuid messageBody, rfl, htake, rfl, rfl⟩

/-- A team with a name of forty bytes and a description with a NUL in it. -/
def longTeam : Content := .team (List.replicate 40 98) [99, 0, 100]

/-- The line that a user of a team of that name types. -/
def longTeamLine : Bytes := Cli.writeLine (Cli.bytesOf "/create") [List.replicate 40 98, [99, 0, 100]]

def longTeamClient : Cli.Client := { Cli.Client.start with connected := true, username := [97] }

/-- A user logs in and asks for the team. -/
def longTeamRun : List Event :=
  [.server (.accept 4), .server (.receive 4 (Request.login [97]).packet), .server (.dispatch 4 default),
    .server (.receive 4 longTeam.request.packet)]

end World

end TeamsMirror
