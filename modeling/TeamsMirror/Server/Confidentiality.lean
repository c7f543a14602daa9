import TeamsMirror.Database.Lifetimes

/-!
# Who is told the content of a team

Channels, threads and replies travel in payloads that name the channel or the
thread. Since uuids are distinct over the whole forest, such a payload is about
one team, and the connections it is queued for are logged in as its subscribers,
whatever context they had been left with.
-/

namespace TeamsMirror

open Lists

/-- The channel that a packet is about. -/
def Packet.channelUuid (p : Packet) : Option Bytes :=
  match p.payload with
  | .rplChannel p => some p.channelUuid.cstr
  | .evtChannelCreated p => some p.channelUuid.cstr
  | _ => none

/-- The thread that a packet is about, or in which it is a reply. -/
def Packet.threadUuid (p : Packet) : Option Bytes :=
  match p.payload with
  | .rplThread p => some p.threadUuid.cstr
  | .rplReply p => some p.threadUuid.cstr
  | .evtThreadCreated p => some p.threadUuid.cstr
  | .evtReplyCreated p => some p.threadUuid.cstr
  | _ => none

/-- The packet carries a channel, a thread or a reply. -/
def Packet.IsContent (p : Packet) : Prop := p.channelUuid ≠ none ∨ p.threadUuid ≠ none

/-- The packet carries a channel, a thread or a reply of the team. -/
def Team.Contains (t : Team) (p : Packet) : Prop :=
  (∃ u ∈ t.channelUuids, p.channelUuid = some u.bytes) ∨
    ∃ u ∈ t.threadUuids, p.threadUuid = some u.bytes

theorem Team.contains_channel {t : Team} {c : Channel} {p : Packet} (hc : c ∈ t.channels)
    (hp : p.channelUuid = some c.uuid.bytes) : t.Contains p :=
  .inl ⟨c.uuid, List.mem_map_of_mem hc, hp⟩

theorem Team.contains_thread {t : Team} {c : Channel} {d : Thread} {p : Packet} (hc : c ∈ t.channels)
    (hd : d ∈ c.threads) (hp : p.threadUuid = some d.uuid.bytes) : t.Contains p :=
  .inr ⟨d.uuid, List.mem_flatMap.mpr ⟨c, hc, List.mem_map_of_mem hd⟩, hp⟩

/-- No packet is about both a channel and a thread. -/
theorem Packet.channelUuid_or_threadUuid (p : Packet) : p.channelUuid = none ∨ p.threadUuid = none := by
  obtain ⟨status, payload⟩ := p
  cases payload <;> simp [Packet.channelUuid, Packet.threadUuid]

/-- A packet carries the content of one team. -/
theorem Storable.contains_unique {users : List User} {teams : List Team} {messages : List Message}
    (h : Storable users teams messages) {t t' : Team} (ht : t ∈ teams) (ht' : t' ∈ teams) {p : Packet}
    (hp : t.Contains p) (hp' : t'.Contains p) : t = t' := by
  rcases hp with ⟨u, hu, he⟩ | ⟨u, hu, he⟩ <;> rcases hp' with ⟨v, hv, he'⟩ | ⟨v, hv, he'⟩
  · have hsame : u = v := CString.ext (Option.some.inj (he.symm.trans he'))
    exact owner_unique h.channelUuids ht ht' hu (hsame ▸ hv)
  · rcases p.channelUuid_or_threadUuid with hnone | hnone
    · rw [hnone] at he
      cases he
    · rw [hnone] at he'
      cases he'
  · rcases p.channelUuid_or_threadUuid with hnone | hnone
    · rw [hnone] at he'
      cases he'
    · rw [hnone] at he
      cases he
  · have hsame : u = v := CString.ext (Option.some.inj (he.symm.trans he'))
    exact owner_unique h.threadUuids ht ht' hu (hsame ▸ hv)

/-- Content is issued to subscribers of a team that contains it. -/
theorem Issued.content {context : CommandContext} {s : Server} {q : Fd × Packet} (h : Issued context s q)
    (hq : q.2.IsContent) : ∃ t ∈ s.teams, t.Contains q.2 ∧ s.Subscriber q.1 t := by
  have hcstr := fun u : Uuid => CString.cstr_copyPadded (show 0 < uuidLength by decide) u
  cases h with
  | channel _ ht hc hsub | channelEvent ht hc hsub =>
    exact ⟨_, ht, Team.contains_channel hc (congrArg some (hcstr _)), hsub⟩
  | thread _ ht hc hd hsub | threadEvent ht hc hd hsub | reply _ ht hc hd _ hsub
  | replyEvent ht hc hd _ hsub =>
    exact ⟨_, ht, Team.contains_thread hc hd (congrArg some (hcstr _)), hsub⟩
  | _ => exact absurd hq (by simp [Packet.IsContent, Packet.channelUuid, Packet.threadUuid,
      Packet.ofStatus, buildUserPayload, buildTeamPayload, buildMessagePayload, loginEvent, logoutEvent,
      buildUserConnectionEventPacket, privateMessageEvent, teamCreatedEvent])

/-- In every world, however its saves went: each packet that carries a channel, a thread or a reply carries that
of a team, and it is queued for a connection logged in as a subscriber of that team. In every run, across
restarts, this is the only team that it carries anything of, unless a save has left a stretch of a file twice. -/
theorem team_content_confidential {w : World} {e : Event} {s : Server}
    {queued : List (Fd × Packet)} (hs : w.server.handle e = some (s, queued)) :
    ∀ q ∈ queued, q.2.IsContent →
      (∃ t ∈ s.teams, t.Contains q.2 ∧ s.Subscriber q.1 t) ∧
        (w.Reachable → ∀ t ∈ s.teams, t.Contains q.2 → s.Subscriber q.1 t) := by
  intro q hq hcontent
  obtain ⟨context, middle, hissued, -, hteams, hmap⟩ := Server.handle_issued hs q hq
  obtain ⟨t, ht, hcontains, uuid, hlookup, hsub⟩ := hissued.content hcontent
  rw [hteams] at ht
  rw [hmap] at hlookup
  refine ⟨⟨t, ht, hcontains, uuid, hlookup, hsub⟩, fun hreachable t' ht' hcontains' => ?_⟩
  have hstorable : Storable s.users s.teams s.messages :=
    hreachable.sound.storable.step hreachable.sound.known hs
  obtain rfl := hstorable.contains_unique ht ht' hcontains hcontains'
  exact ⟨uuid, hlookup, hsub⟩

/-- A user creates a team, sets it as context and asks for a channel. -/
def oneChannelRun : List World.Event :=
  [.server (.accept 4), .server (.receive 4 (Request.login [97]).packet), .server (.dispatch 4 default),
    .server (.receive 4 (Request.createTeam [98] []).packet), .server (.dispatch 4 default),
    .server (.receive 4 (Request.use (generateUuid (default : Environment).draw) [] []).packet),
    .server (.dispatch 4 default),
    .server (.receive 4 (Request.createChannel [99] []).packet)]

theorem team_content_confidential_channel :
    ∃ w s queued, Runs.run World.step (World.boot 3 fun _ => none) oneChannelRun = some w ∧
      w.server.handle (.dispatch 4 default) = some (s, queued) ∧
      queued.map (fun q => q.2.channelUuid.isSome) = [true, true] ∧
      ∀ q ∈ queued, q.2.IsContent →
        (∃ t ∈ s.teams, t.Contains q.2 ∧ s.Subscriber q.1 t) ∧
          ∀ t ∈ s.teams, t.Contains q.2 → s.Subscriber q.1 t := by
  have hfacts : ((Runs.run World.step (World.boot 3 fun _ => none) oneChannelRun).bind fun w =>
      w.server.handle (.dispatch 4 default)).map (fun r => r.2.map fun q => q.2.channelUuid.isSome) =
        some [true, true] := by decide +kernel
  obtain ⟨r, hr, hcontent⟩ := Option.map_eq_some_iff.mp hfacts
  obtain ⟨w, hw, hs⟩ := Option.bind_eq_some_iff.mp hr
  refine ⟨w, r.1, r.2, hw, hs, hcontent, fun q hq hcontent => ?_⟩
  obtain ⟨htold, honly⟩ := team_content_confidential hs q hq hcontent
  exact ⟨htold, honly ⟨3, fun _ => none, oneChannelRun, fun _ => rfl, by decide +kernel, hw⟩⟩

end TeamsMirror
