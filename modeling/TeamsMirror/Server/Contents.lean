import TeamsMirror.Server.Mentions
import TeamsMirror.Server.Resolution

/-!
# What packets show

The texts that a client decodes from a payload, the character fields they stand in,
and the entries of the lists. A list only gains entries, and an entry stays the same
to the last byte.
-/

namespace TeamsMirror

open Lists

/-- The name and description, the title and body, or the body that a client decodes. -/
def Payload.texts : Payload → Option (List Bytes)
  | .none | .errUnknown _ => .none
  | .rplUser p => some [p.userName.cstr]
  | .rplMessage p => some [p.messageBody.cstr]
  | .rplTeam p => some [p.teamName.cstr, p.teamDescription.cstr]
  | .rplChannel p => some [p.channelName.cstr, p.channelDescription.cstr]
  | .rplThread p => some [p.threadTitle.cstr, p.threadBody.cstr]
  | .rplReply p => some [p.replyBody.cstr]
  | .evtUserConnection p => some [p.userName.cstr]
  | .evtPrivateMsg p => some [p.messageBody.cstr]
  | .evtTeamCreated p => some [p.teamName.cstr, p.teamDescription.cstr]
  | .evtChannelCreated p => some [p.channelName.cstr, p.channelDescription.cstr]
  | .evtThreadCreated p => some [p.threadTitle.cstr, p.threadBody.cstr]
  | .evtReplyCreated p => some [p.replyBody.cstr]

/-- A client decodes these texts from the packet. -/
def Shows (texts : List Bytes) (p : Packet) : Prop := p.payload.texts = some texts

/-- The character arrays of a payload. -/
def Payload.fields : Payload → List Bytes
  | .none => []
  | .rplUser p => [p.userUuid.bytes, p.userName.bytes]
  | .rplMessage p => [p.senderUuid.bytes, p.messageBody.bytes]
  | .rplTeam p => [p.teamUuid.bytes, p.teamName.bytes, p.teamDescription.bytes]
  | .rplChannel p => [p.channelUuid.bytes, p.channelName.bytes, p.channelDescription.bytes]
  | .rplThread p => [p.threadUuid.bytes, p.userUuid.bytes, p.threadTitle.bytes, p.threadBody.bytes]
  | .rplReply p => [p.threadUuid.bytes, p.userUuid.bytes, p.replyBody.bytes]
  | .evtUserConnection p => [p.userUuid.bytes, p.userName.bytes]
  | .evtPrivateMsg p => [p.senderUuid.bytes, p.messageBody.bytes]
  | .evtTeamCreated p => [p.teamUuid.bytes, p.teamName.bytes, p.teamDescription.bytes]
  | .evtChannelCreated p => [p.channelUuid.bytes, p.channelName.bytes, p.channelDescription.bytes]
  | .evtThreadCreated p => [p.threadUuid.bytes, p.userUuid.bytes, p.threadTitle.bytes, p.threadBody.bytes]
  | .evtReplyCreated p => [p.teamUuid.bytes, p.threadUuid.bytes, p.userUuid.bytes, p.replyBody.bytes]
  | .errUnknown p => [p.unknownUuid.bytes]

/-- A NUL ends each text within its field. -/
def Payload.Terminated (p : Payload) : Prop := ∀ field ∈ p.fields, 0 ∈ field

@[simp] theorem texts_buildUserPayload (u : User) : (buildUserPayload u).texts = some [u.name.bytes] := by
  simp [buildUserPayload, Payload.texts]

@[simp] theorem texts_loginEvent (u : User) : Shows [u.name.bytes] (loginEvent u) := by
  simp [Shows, loginEvent, buildUserConnectionEventPacket, Payload.texts]

@[simp] theorem texts_buildMessagePayload (m : Message) : (buildMessagePayload m).texts = some [m.body.bytes] := by
  simp [buildMessagePayload, Payload.texts]

@[simp] theorem texts_privateMessageEvent (m : Message) :
    Shows [m.body.bytes] (privateMessageEvent m) := by
  simp [Shows, privateMessageEvent, Payload.texts]

@[simp] theorem texts_buildTeamPayload (t : Team) :
    (buildTeamPayload t).texts = some [t.name.bytes, t.description.bytes] := by
  simp [buildTeamPayload, Payload.texts]

@[simp] theorem texts_buildChannelPayload (c : Channel) :
    (buildChannelPayload c).texts = some [c.name.bytes, c.description.bytes] := by
  simp [buildChannelPayload, Payload.texts]

@[simp] theorem texts_buildThreadPayload (d : Thread) :
    (buildThreadPayload d).texts = some [d.title.bytes, d.body.bytes] := by
  simp [buildThreadPayload, Payload.texts]

@[simp] theorem texts_buildReplyPayload (d : Thread) (m : Message) :
    (buildReplyPayload d m).texts = some [m.body.bytes] := by
  simp [buildReplyPayload, Payload.texts]

@[simp] theorem texts_teamCreatedEvent (t : Team) : Shows [t.name.bytes, t.description.bytes] (teamCreatedEvent t) := by
  simp [Shows, teamCreatedEvent, Payload.texts]

@[simp] theorem texts_channelCreatedEvent (c : Channel) :
    Shows [c.name.bytes, c.description.bytes] (channelCreatedEvent c) := by
  simp [Shows, channelCreatedEvent, Payload.texts]

@[simp] theorem texts_threadCreatedEvent (d : Thread) :
    Shows [d.title.bytes, d.body.bytes] (threadCreatedEvent d) := by
  simp [Shows, threadCreatedEvent, Payload.texts]

@[simp] theorem texts_replyCreatedEvent (t : Team) (d : Thread) (m : Message) :
    Shows [m.body.bytes] (replyCreatedEvent t d m) := by
  simp [Shows, replyCreatedEvent, Payload.texts]

/-- The texts of a mention are those of the whole payload. -/
theorem Payload.texts_of_mention {p : Payload} {n : Mention} (hn : n ∈ p.mentions) {shown : List Bytes}
    (hshown : shown ∈ n.texts) : p.texts = some shown := by
  cases p with
  | none | errUnknown => cases hn
  | rplUser | evtUserConnection | rplTeam | evtTeamCreated | rplChannel | evtChannelCreated =>
    obtain rfl := List.mem_singleton.mp hn
    exact hshown
  | rplThread | evtThreadCreated =>
    rcases List.mem_cons.mp hn with rfl | hn
    · exact hshown
    · obtain rfl := List.mem_singleton.mp hn
      cases hshown
  | rplMessage | evtPrivateMsg | rplReply | evtReplyCreated =>
    have hnone : n.texts = .none := by
      simp only [Payload.mentions, List.mem_cons, List.not_mem_nil, or_false] at hn
      rcases hn with rfl | rfl | rfl <;> rfl
    rw [hnone] at hshown
    cases hshown

theorem Reports.terminated {users : List User} {teams : List Team} {messages : List Message} {p : Packet}
    (h : Reports users teams messages p) : p.payload.Terminated := by
  have hpad : ∀ {n : Nat}, 0 < n → ∀ source, 0 ∈ (CharArray.copyPadded n source).bytes := fun hn source =>
    CharArray.nul_mem_copyPadded hn source
  have huuid := @hpad uuidLength (by decide)
  have hname := @hpad maxNameLength (by decide)
  have hdescription := @hpad maxDescriptionLength (by decide)
  have hbody := @hpad maxBodyLength (by decide)
  cases h <;> intro field hfield <;>
    simp only [Packet.ofStatus, buildUserPayload, loginEvent, logoutEvent, buildUserConnectionEventPacket,
      buildMessagePayload, privateMessageEvent, buildTeamPayload, teamCreatedEvent, buildChannelPayload,
      channelCreatedEvent, buildThreadPayload, threadCreatedEvent, buildReplyPayload, replyCreatedEvent,
      Payload.fields, List.mem_cons, List.not_mem_nil, or_false] at hfield
  all_goals
    rcases hfield with rfl | rfl | rfl | rfl
  all_goals
    first | exact huuid _ | exact hname _ | exact hdescription _ | exact hbody _

namespace Place

/-- What `/list` shows at a place, one payload for each entry. -/
def entries (teams : List Team) : Place → List Payload
  | .root => teams.map buildTeamPayload
  | .team t => t.channels.map buildChannelPayload
  | .channel _ c => c.threads.map buildThreadPayload
  | .thread _ _ d => d.replies.map (buildReplyPayload d)

def entryStatus : Place → StatusCode
  | .root => .teamsList
  | .team _ => .channelsList
  | .channel _ _ => .threadsList
  | .thread _ _ _ => .repliesList

theorem listing_eq (teams : List Team) (place : Place) :
    place.listing teams = listReply place.entryStatus (place.entries teams) := by
  cases place <;> rfl

/-- The place is what its own uuids find. -/
def FoundIn (teams : List Team) : Place → Prop
  | .root => True
  | .team t => findTeamByUuid teams t.uuid.bytes = some t
  | .channel t c => findTeamByUuid teams t.uuid.bytes = some t ∧ findChannelByUuid t c.uuid.bytes = some c
  | .thread t c d => findTeamByUuid teams t.uuid.bytes = some t ∧
      findChannelByUuid t c.uuid.bytes = some c ∧ findThreadByUuid c d.uuid.bytes = some d

variable {teams teams' : List Team} {place : Place}

theorem FoundIn.storedIn (h : place.FoundIn teams) : place.StoredIn teams := by
  cases place with
  | root => trivial
  | team t => exact List.mem_of_find?_eq_some h
  | channel t c => exact ⟨List.mem_of_find?_eq_some h.1, List.mem_of_find?_eq_some h.2⟩
  | thread t c d =>
    exact ⟨List.mem_of_find?_eq_some h.1, List.mem_of_find?_eq_some h.2.1, List.mem_of_find?_eq_some h.2.2⟩

/-- The place is still there, and its list begins as before. -/
structure Continues (teams : List Team) (place : Place) (teams' : List Team) (place' : Place) : Prop where
  stored : place'.StoredIn teams'
  path : place'.path = place.path
  entries : place.entries teams <+: place'.entries teams'

/-- What is stored grows, and with it every list; entries stay as they are. -/
theorem exists_continues (h : Lists.Grows Team.Grows teams teams') (hplace : place.StoredIn teams) :
    ∃ place', Continues teams place teams' place' := by
  cases place with
  | root =>
    refine ⟨.root, trivial, rfl, h.map_prefix fun t t' hteam => ?_⟩
    obtain ⟨huuid, hname, hdescription⟩ := hteam.identity
    rw [buildTeamPayload, buildTeamPayload, huuid, hname, hdescription]
  | team t =>
    obtain ⟨t', ht', hteam⟩ := h.exists_mem hplace
    refine ⟨.team t', ht', by rw [path, path, hteam.identity.1], hteam.channels.map_prefix fun c c' hc => ?_⟩
    obtain ⟨huuid, hname, hdescription⟩ := hc.identity
    rw [buildChannelPayload, buildChannelPayload, huuid, hname, hdescription]
  | channel t c =>
    obtain ⟨t', ht', hteam⟩ := h.exists_mem hplace.1
    obtain ⟨c', hc', hchannel⟩ := hteam.channels.exists_mem hplace.2
    refine ⟨.channel t' c', ⟨ht', hc'⟩, by rw [path, path, hteam.identity.1, hchannel.identity.1],
      hchannel.threads.map_prefix fun d d' hd => ?_⟩
    have hsame : ({ d' with replies := d.replies } : Thread) = d := hd.same
    rw [← hsame]
    rfl
  | thread t c d =>
    obtain ⟨t', ht', hteam⟩ := h.exists_mem hplace.1
    obtain ⟨c', hc', hchannel⟩ := hteam.channels.exists_mem hplace.2.1
    obtain ⟨d', hd', hthread⟩ := hchannel.threads.exists_mem hplace.2.2
    refine ⟨.thread t' c' d', ⟨ht', hc', hd'⟩,
      by rw [path, path, hteam.identity.1, hchannel.identity.1, hthread.identity.1], ?_⟩
    have hsame : buildReplyPayload d' = buildReplyPayload d := by
      funext m
      rw [buildReplyPayload, buildReplyPayload, hthread.identity.1]
    rw [entries, entries, hsame]
    exact hthread.replies.map _

/-- A new entity is the last entry of the list at its place, as its payload shows it. -/
theorem Adds.exists_entry {payload : Payload} (h : place.Adds teams teams' payload) (hfound : place.FoundIn teams) :
    ∃ place' : Place, place'.StoredIn teams' ∧ place'.path = place.path ∧
      place'.entries teams' = place.entries teams ++ [payload] := by
  cases h with
  | team t => exact ⟨.root, trivial, rfl, List.map_append⟩
  | channel t c =>
    exact ⟨.team (t.addChannel c), mem_updateTeam hfound _, rfl, List.map_append⟩
  | thread t c d =>
    have ht := mem_updateTeam hfound.1 fun team =>
      updateChannel team c.uuid.bytes fun channel => channel.addThread d
    have hc := mem_updateChannel hfound.2 fun channel => channel.addThread d
    exact ⟨.channel _ (c.addThread d), ⟨ht, hc⟩, rfl, List.map_append⟩
  | reply t c d m =>
    have ht := mem_updateTeam hfound.1 fun team => updateChannel team c.uuid.bytes fun channel =>
      updateThread channel d.uuid.bytes fun thread => thread.addReply m
    have hc := mem_updateChannel hfound.2.1 fun channel =>
      updateThread channel d.uuid.bytes fun thread => thread.addReply m
    have hd := mem_updateThread hfound.2.2 fun thread => thread.addReply m
    exact ⟨.thread _ _ (d.addReply m), ⟨ht, hc, hd⟩, rfl, List.map_append⟩

end Place

end TeamsMirror
