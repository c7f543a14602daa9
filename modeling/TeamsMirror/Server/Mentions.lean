import TeamsMirror.Server.References
import TeamsMirror.Server.Reports

/-!
# What packets mention

A packet names users, teams, channels and threads by their uuids, and may show their
texts with them, as a client decodes both from the fields. Whatever is mentioned is
stored, with these texts, when the packet is queued and ever after.
-/

namespace TeamsMirror

open Lists Server

inductive EntityKind where
  | user
  | team
  | channel
  | thread
deriving DecidableEq

/-- What a uuid can stand for, with its parents. -/
inductive Entity where
  | user (u : User)
  | team (t : Team)
  | channel (t : Team) (c : Channel)
  | thread (t : Team) (c : Channel) (d : Thread)

namespace Entity

def kind : Entity → EntityKind
  | .user _ => .user
  | .team _ => .team
  | .channel _ _ => .channel
  | .thread _ _ _ => .thread

def uuid : Entity → Uuid
  | .user u => u.uuid
  | .team t => t.uuid
  | .channel _ c => c.uuid
  | .thread _ _ d => d.uuid

/-- Name and description, or title and body. -/
def texts : Entity → List Bytes
  | .user u => [u.name.bytes]
  | .team t => [t.name.bytes, t.description.bytes]
  | .channel _ c => [c.name.bytes, c.description.bytes]
  | .thread _ _ d => [d.title.bytes, d.body.bytes]

def StoredIn (users : List User) (teams : List Team) : Entity → Prop
  | .user u => u ∈ users
  | .team t => t ∈ teams
  | .channel t c => t ∈ teams ∧ c ∈ t.channels
  | .thread t c d => t ∈ teams ∧ c ∈ t.channels ∧ d ∈ c.threads

end Entity

/-- A uuid in a packet, with the texts of the entity if the packet shows them. -/
structure Mention where
  kind : EntityKind
  uuid : Bytes
  texts : Option (List Bytes)
deriving DecidableEq

def Mention.Of (n : Mention) (x : Entity) : Prop :=
  n.kind = x.kind ∧ n.uuid = x.uuid.bytes ∧ ∀ texts ∈ n.texts, texts = x.texts

/-- The mention is of something stored. -/
def Mention.Known (users : List User) (teams : List Team) (n : Mention) : Prop :=
  ∃ x : Entity, x.StoredIn users teams ∧ n.Of x

/-- The mentions that a client decodes from a payload. -/
def Payload.mentions : Payload → List Mention
  | .none => []
  | .rplUser p => [⟨.user, p.userUuid.cstr, some [p.userName.cstr]⟩]
  | .rplMessage p => [⟨.user, p.senderUuid.cstr, .none⟩]
  | .rplTeam p => [⟨.team, p.teamUuid.cstr, some [p.teamName.cstr, p.teamDescription.cstr]⟩]
  | .rplChannel p => [⟨.channel, p.channelUuid.cstr, some [p.channelName.cstr, p.channelDescription.cstr]⟩]
  | .rplThread p =>
    [⟨.thread, p.threadUuid.cstr, some [p.threadTitle.cstr, p.threadBody.cstr]⟩,
      ⟨.user, p.userUuid.cstr, .none⟩]
  | .rplReply p => [⟨.thread, p.threadUuid.cstr, .none⟩, ⟨.user, p.userUuid.cstr, .none⟩]
  | .evtUserConnection p => [⟨.user, p.userUuid.cstr, some [p.userName.cstr]⟩]
  | .evtPrivateMsg p => [⟨.user, p.senderUuid.cstr, .none⟩]
  | .evtTeamCreated p => [⟨.team, p.teamUuid.cstr, some [p.teamName.cstr, p.teamDescription.cstr]⟩]
  | .evtChannelCreated p =>
    [⟨.channel, p.channelUuid.cstr, some [p.channelName.cstr, p.channelDescription.cstr]⟩]
  | .evtThreadCreated p =>
    [⟨.thread, p.threadUuid.cstr, some [p.threadTitle.cstr, p.threadBody.cstr]⟩,
      ⟨.user, p.userUuid.cstr, .none⟩]
  | .evtReplyCreated p =>
    [⟨.team, p.teamUuid.cstr, .none⟩, ⟨.thread, p.threadUuid.cstr, .none⟩, ⟨.user, p.userUuid.cstr, .none⟩]
  -- The uuid that was asked for comes back because it stands for nothing.
  | .errUnknown _ => []

section

variable {users : List User} {teams : List Team} {messages : List Message}

@[simp] theorem cstr_uuid (uuid : Uuid) : (CharArray.copyPadded uuidLength uuid.bytes).cstr = uuid.bytes :=
  CString.cstr_copyPadded (by decide) uuid

@[simp] theorem cstr_name (name : CString maxNameLength) :
    (CharArray.copyPadded maxNameLength name.bytes).cstr = name.bytes :=
  CString.cstr_copyPadded (by decide) name

@[simp] theorem cstr_description (description : CString maxDescriptionLength) :
    (CharArray.copyPadded maxDescriptionLength description.bytes).cstr = description.bytes :=
  CString.cstr_copyPadded (by decide) description

@[simp] theorem cstr_body (body : CString maxBodyLength) :
    (CharArray.copyPadded maxBodyLength body.bytes).cstr = body.bytes :=
  CString.cstr_copyPadded (by decide) body

/-- An entity is mentioned with its texts or without. -/
theorem Mention.known_of_stored {x : Entity} (hx : x.StoredIn users teams) {texts : Option (List Bytes)}
    (htexts : texts = none ∨ texts = some x.texts) : Mention.Known users teams ⟨x.kind, x.uuid.bytes, texts⟩ := by
  refine ⟨x, hx, rfl, rfl, ?_⟩
  rcases htexts with rfl | rfl
  · simp
  · simp

theorem Mention.known_of_author {uuid : Uuid} (h : uuid ∈ users.map User.uuid) :
    Mention.Known users teams ⟨.user, uuid.bytes, none⟩ := by
  obtain ⟨u, hu, rfl⟩ := List.mem_map.mp h
  exact known_of_stored (x := .user u) hu (.inl rfl)

/-- What a report mentions is stored. -/
theorem Reports.known {p : Packet} (h : Reports users teams messages p)
    (hreferential : Referential users teams messages) : ∀ n ∈ p.payload.mentions, n.Known users teams := by
  cases h with
  | status | unknownUser =>
    intro n hn
    cases hn
  | user _ hu | login hu | logout hu =>
    simp only [buildUserPayload, loginEvent, logoutEvent, buildUserConnectionEventPacket, Payload.mentions,
      cstr_uuid, cstr_name, List.forall_mem_singleton]
    exact Mention.known_of_stored (x := .user _) hu (.inr rfl)
  | message _ hm | privateMessage hm =>
    simp only [buildMessagePayload, privateMessageEvent, Payload.mentions, cstr_uuid,
      List.forall_mem_singleton]
    exact Mention.known_of_author (hreferential.messages _ hm).author
  | team _ ht | teamEvent ht =>
    simp only [buildTeamPayload, teamCreatedEvent, Payload.mentions, cstr_uuid, cstr_name,
      cstr_description, List.forall_mem_singleton]
    exact Mention.known_of_stored (x := .team _) ht (.inr rfl)
  | channel _ ht hc | channelEvent ht hc =>
    simp only [buildChannelPayload, channelCreatedEvent, Payload.mentions, cstr_uuid, cstr_name,
      cstr_description, List.forall_mem_singleton]
    exact Mention.known_of_stored (x := .channel _ _) ⟨ht, hc⟩ (.inr rfl)
  | thread _ ht hc hd | threadEvent ht hc hd =>
    simp only [buildThreadPayload, threadCreatedEvent, Payload.mentions, cstr_uuid, cstr_name, cstr_body,
      List.forall_mem_cons]
    refine ⟨Mention.known_of_stored (x := .thread _ _ _) ⟨ht, hc, hd⟩ (.inr rfl), ?_, by simp⟩
    exact Mention.known_of_author (((hreferential.teams _ ht).channels _ hc).threads _ hd).author
  | reply _ ht hc hd hm =>
    simp only [buildReplyPayload, Payload.mentions, cstr_uuid, List.forall_mem_cons]
    refine ⟨Mention.known_of_stored (x := .thread _ _ _) ⟨ht, hc, hd⟩ (.inl rfl), ?_, by simp⟩
    exact Mention.known_of_author ((((hreferential.teams _ ht).channels _ hc).threads _ hd).replies _ hm)
  | replyEvent ht hc hd hm =>
    simp only [replyCreatedEvent, Payload.mentions, cstr_uuid, List.forall_mem_cons]
    refine ⟨Mention.known_of_stored (x := .team _) ht (.inl rfl),
      Mention.known_of_stored (x := .thread _ _ _) ⟨ht, hc, hd⟩ (.inl rfl), ?_, by simp⟩
    exact Mention.known_of_author ((((hreferential.teams _ ht).channels _ hc).threads _ hd).replies _ hm)

end

theorem Thread.Grows.identity {d d' : Thread} (h : d.Grows d') :
    d'.uuid = d.uuid ∧ d'.title = d.title ∧ d'.body = d.body := by
  rw [← h.same]
  exact ⟨rfl, rfl, rfl⟩

theorem Channel.Grows.identity {c c' : Channel} (h : c.Grows c') :
    c'.uuid = c.uuid ∧ c'.name = c.name ∧ c'.description = c.description := by
  rw [← h.same]
  exact ⟨rfl, rfl, rfl⟩

theorem Team.Grows.identity {t t' : Team} (h : t.Grows t') :
    t'.uuid = t.uuid ∧ t'.name = t.name ∧ t'.description = t.description := by
  rw [← h.same]
  exact ⟨rfl, rfl, rfl⟩

/-- An entity grows in its place, and keeps its uuid and its texts. -/
theorem Mention.Known.grows {users users' : List User} {teams teams' : List Team} {n : Mention}
    (husers : (users.map fun u => (u.uuid, u.name)) ⊆ users'.map fun u => (u.uuid, u.name))
    (hteams : Lists.Grows Team.Grows teams teams') (h : n.Known users teams) : n.Known users' teams' := by
  obtain ⟨x, hx, hkind, huuid, htexts⟩ := h
  cases x with
  | user u =>
    obtain ⟨u', hu', he⟩ := List.mem_map.mp (husers (List.mem_map_of_mem hx))
    obtain ⟨he, hname⟩ := Prod.mk.inj he
    refine ⟨.user u', hu', hkind, ?_, ?_⟩
    · rw [huuid, Entity.uuid, Entity.uuid, he]
    · rw [Entity.texts, hname]
      exact htexts
  | team t =>
    obtain ⟨t', ht', hgrows⟩ := hteams.exists_mem hx
    obtain ⟨he, hname, hdescription⟩ := hgrows.identity
    refine ⟨.team t', ht', hkind, ?_, ?_⟩
    · rw [huuid, Entity.uuid, Entity.uuid, he]
    · rw [Entity.texts, hname, hdescription]
      exact htexts
  | channel t c =>
    obtain ⟨t', ht', hgrows⟩ := hteams.exists_mem hx.1
    obtain ⟨c', hc', hchannel⟩ := hgrows.channels.exists_mem hx.2
    obtain ⟨he, hname, hdescription⟩ := hchannel.identity
    refine ⟨.channel t' c', ⟨ht', hc'⟩, hkind, ?_, ?_⟩
    · rw [huuid, Entity.uuid, Entity.uuid, he]
    · rw [Entity.texts, hname, hdescription]
      exact htexts
  | thread t c d =>
    obtain ⟨t', ht', hgrows⟩ := hteams.exists_mem hx.1
    obtain ⟨c', hc', hchannel⟩ := hgrows.channels.exists_mem hx.2.1
    obtain ⟨d', hd', hthread⟩ := hchannel.threads.exists_mem hx.2.2
    obtain ⟨he, htitle, hbody⟩ := hthread.identity
    refine ⟨.thread t' c' d', ⟨ht', hc', hd'⟩, hkind, ?_, ?_⟩
    · rw [huuid, Entity.uuid, Entity.uuid, he]
    · rw [Entity.texts, htitle, hbody]
      exact htexts

end TeamsMirror
