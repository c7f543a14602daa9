import TeamsMirror.Server.References
import TeamsMirror.Server.Recipients
import TeamsMirror.Server.Resolution

/-!
# Membership

Who is subscribed to a team follows from what its users did: the last successful
creation, subscription or unsubscription decides. Both lists of subscriptions and the
permission checks of `/list`, `/info` and `/create` read the same subscribers.
-/

namespace TeamsMirror

open Lists

/-- A user joins a team, by its creation or by a subscription, or leaves it. -/
structure Membership where
  user : Bytes
  team : Bytes
  joins : Bool
deriving DecidableEq

/-- What a user did last about a team: join it or leave it. -/
def lastMembership (notes : List Membership) (user team : Bytes) : Option Bool :=
  ((notes.filter fun n => n.user = user && n.team = team).getLast?).map Membership.joins

theorem lastMembership_append (notes : List Membership) (n : Membership) (user team : Bytes) :
    lastMembership (notes ++ [n]) user team =
      if n.user = user ∧ n.team = team then some n.joins else lastMembership notes user team := by
  rw [lastMembership, List.filter_append, List.filter_singleton]
  by_cases h : n.user = user ∧ n.team = team
  · simp [h]
  · have hother : (decide (n.user = user) && decide (n.team = team)) = false := by simpa using h
    rw [if_neg h, hother, cond_false, List.append_nil, lastMembership]

/-- The team that a reply announces as created. -/
def Packet.createdTeam : Packet → Option Bytes
  | ⟨.created, .rplTeam p⟩ => some p.teamUuid.cstr
  | _ => none

/-- What a command that was not refused did about memberships. -/
def CommandContext.memberships (context : CommandContext) (code : UInt16) (queued : List (Fd × Packet)) :
    List Membership :=
  match getAuthenticatedUser context with
  | none => []
  | some user =>
    if queued.any fun q => q.2.status.isError then []
    else if code = CommandID.create.code then
      (queued.filterMap fun q => q.2.createdTeam).map fun team => ⟨user.uuid.bytes, team, true⟩
    else if code = CommandID.subscribe.code then
      (parseTeamUuidFromPayload context).toList.map fun team => ⟨user.uuid.bytes, team, true⟩
    else if code = CommandID.unsubscribe.code then
      (parseTeamUuidFromPayload context).toList.map fun team => ⟨user.uuid.bytes, team, false⟩
    else []

def Server.memberships (s : Server) (e : Event) (queued : List (Fd × Packet)) : List Membership :=
  match e with
  | .dispatch fd environment =>
    match peekPacket (s.clientManager.getIncomingBuffer fd) with
    | none => []
    | some (header, payload) => (s.context fd payload environment).memberships header.code queued
  | _ => []

theorem Team.isUserSubscribed_addSubscribedUser (t : Team) (u : Uuid) (user : Bytes) :
    (t.addSubscribedUser u.bytes).isUserSubscribed user = (t.isUserSubscribed user || decide (u.bytes = user)) := by
  simp [Team.addSubscribedUser, Team.isUserSubscribed, CString.copyBuffer_bytes]

theorem Team.isUserSubscribed_removeSubscribedUser (t : Team) (uuid user : Bytes) :
    (t.removeSubscribedUser uuid).2.isUserSubscribed user = (t.isUserSubscribed user && decide (user ≠ uuid)) := by
  rw [Bool.eq_iff_iff]
  simp only [Team.removeSubscribedUser, Team.isUserSubscribed, List.any_filter, List.any_eq_true,
    Bool.and_eq_true, decide_eq_true_eq]
  constructor
  · rintro ⟨v, hv, hne, rfl⟩
    exact ⟨⟨v, hv, rfl⟩, hne⟩
  · rintro ⟨⟨v, hv, rfl⟩, hne⟩
    exact ⟨v, hv, hne, rfl⟩

/-- Who is subscribed is who joined last; nothing is noted of teams that do not exist. -/
structure Enrolled (teams : List Team) (notes : List Membership) : Prop where
  known : ∀ n ∈ notes, n.team ∈ teams.map fun t => t.uuid.bytes
  subscribed : ∀ t ∈ teams, ∀ user : Bytes,
    t.isUserSubscribed user = true ↔ lastMembership notes user t.uuid.bytes = some true

namespace Enrolled

variable {teams teams' : List Team} {notes : List Membership}

theorem empty : Enrolled [] [] := ⟨by simp, by simp⟩

/-- A change that no team observes. -/
theorem congr (h : Enrolled teams notes)
    (hsame : teams'.map (fun t => (t.uuid, t.subscribedUserUuids)) = teams.map fun t => (t.uuid, t.subscribedUserUuids)) :
    Enrolled teams' notes := by
  have huuids : (teams'.map fun t => t.uuid.bytes) = teams.map fun t => t.uuid.bytes := by
    have hfst := congrArg (List.map fun p => p.1.bytes) hsame
    rwa [List.map_map, List.map_map] at hfst
  refine ⟨fun n hn => huuids ▸ h.known n hn, fun t' ht' user => ?_⟩
  obtain ⟨t, ht, he⟩ := List.mem_map.mp (hsame ▸ List.mem_map_of_mem ht')
  obtain ⟨huuid, hsubscribers⟩ := Prod.mk.inj he
  rw [← huuid, ← h.subscribed t ht user, Team.isUserSubscribed, Team.isUserSubscribed, hsubscribers]

/-- One user joined or left one team. -/
theorem note (h : Enrolled teams notes) {n : Membership} (huuids : teams'.map Team.uuid = teams.map Team.uuid)
    (hteam : n.team ∈ teams.map fun t => t.uuid.bytes)
    (hteams : ∀ t' ∈ teams', ∃ t ∈ teams, t'.uuid = t.uuid ∧ ∀ user, t'.isUserSubscribed user =
      if n.user = user ∧ n.team = t.uuid.bytes then n.joins else t.isUserSubscribed user) :
    Enrolled teams' (notes ++ [n]) := by
  have hbytes : (teams'.map fun t => t.uuid.bytes) = teams.map fun t => t.uuid.bytes := by
    have hmap := congrArg (List.map CString.bytes) huuids
    rwa [List.map_map, List.map_map] at hmap
  constructor
  · rw [hbytes]
    intro m hm
    rcases List.mem_append.mp hm with hm | hm
    · exact h.known m hm
    · rw [List.mem_singleton.mp hm]
      exact hteam
  · intro t' ht' user
    obtain ⟨t, ht, huuid, hsubscribed⟩ := hteams t' ht'
    rw [hsubscribed, huuid, lastMembership_append]
    split
    · simp
    · exact h.subscribed t ht user

/-- A new team has its creator as its only subscriber. -/
theorem create (h : Enrolled teams notes) {t : Team} {creator : Bytes}
    (hnew : t.uuid.bytes ∉ teams.map fun t => t.uuid.bytes)
    (hsubscribed : ∀ user, t.isUserSubscribed user = decide (creator = user)) :
    Enrolled (teams ++ [t]) (notes ++ [⟨creator, t.uuid.bytes, true⟩]) := by
  have hnotes : ∀ n ∈ notes, n.team ≠ t.uuid.bytes := fun n hn he => hnew (he ▸ h.known n hn)
  constructor
  · intro n hn
    rw [List.map_append]
    rcases List.mem_append.mp hn with hn | hn
    · exact List.mem_append_left _ (h.known n hn)
    · rw [List.mem_singleton.mp hn]
      exact List.mem_append_right _ (List.mem_singleton_self _)
  · intro t' ht' user
    rw [lastMembership_append]
    rcases List.mem_append.mp ht' with hold | hnewest
    · have hne : t.uuid.bytes ≠ t'.uuid.bytes := fun he => hnew (he ▸ List.mem_map_of_mem hold)
      rw [if_neg fun hboth => hne hboth.2]
      exact h.subscribed t' hold user
    · rw [List.mem_singleton.mp hnewest, hsubscribed]
      have hnone : lastMembership notes user t.uuid.bytes = none := by
        have hfilter : (notes.filter fun n => n.user = user && n.team = t.uuid.bytes) = [] := by
          rw [List.filter_eq_nil_iff]
          intro n hn
          simp [hnotes n hn]
        rw [lastMembership, hfilter]
        rfl
      by_cases hcreator : creator = user <;> simp [hcreator, hnone]

end Enrolled

section

variable {context : CommandContext} {notes : List Membership}

theorem memberships_refused (hqueued : context.queued = []) {status : StatusCode} (h : status.isError = true)
    (code : UInt16) : context.memberships code (queueStatus context status).queued = [] := by
  have herror : ((queueStatus context status).queued.any fun q => q.2.status.isError) = true := by
    simp [queueStatus, queuePacket, hqueued, Packet.ofStatus, h]
  rw [CommandContext.memberships]
  cases getAuthenticatedUser context with
  | none => rfl
  | some user => simp only [herror, if_true]

theorem Enrolled.refused (h : Enrolled context.teams notes) (hqueued : context.queued = [])
    {status : StatusCode} (hstatus : status.isError = true) (code : UInt16) :
    Enrolled (queueStatus context status).teams
      (notes ++ context.memberships code (queueStatus context status).queued) := by
  rw [memberships_refused hqueued hstatus, List.append_nil]
  exact h

/-- The subscribers of one team have changed, or stayed as they were, as the user asked. -/
theorem Enrolled.update (h : Enrolled context.teams notes) (hteams : (context.teams.map Team.uuid).Nodup)
    {user uuid : Bytes} {team : Team} {joins : Bool} (hteam : findTeamByUuid context.teams uuid = some team)
    {f : Team → Team} (huuid : ∀ t, (f t).uuid = t.uuid)
    (hf : ∀ other, (f team).isUserSubscribed other = if user = other then joins else team.isUserSubscribed other) :
    Enrolled (updateTeam context.teams uuid f) (notes ++ [⟨user, uuid, joins⟩]) := by
  have hbytes : (context.teams.map fun t => t.uuid.bytes).Nodup := CString.nodup_bytes hteams
  have hmem := List.mem_of_find?_eq_some hteam
  have hupdate : updateTeam context.teams uuid f =
      context.teams.map fun t => if t.uuid.bytes = uuid then f t else t := modifyFirst_key hbytes uuid
  refine h.note (map_modifyFirst huuid context.teams) ?_ fun t' ht' => ?_
  · exact List.mem_map.mpr ⟨team, hmem, uuid_of_findTeam hteam⟩
  · rw [hupdate] at ht'
    obtain ⟨t, ht, rfl⟩ := List.mem_map.mp ht'
    refine ⟨t, ht, ?_⟩
    by_cases he : t.uuid.bytes = uuid
    · have hsame : t = team := List.inj_on_of_nodup_map hbytes ht hmem (he.trans (uuid_of_findTeam hteam).symm)
      subst hsame
      simp [he, huuid, hf]
    · simp [he, Ne.symm he]

theorem Enrolled.unchanged (h : Enrolled context.teams notes) (hteams : (context.teams.map Team.uuid).Nodup)
    {user uuid : Bytes} {team : Team} {joins : Bool} (hteam : findTeamByUuid context.teams uuid = some team)
    (hsame : team.isUserSubscribed user = joins) :
    Enrolled context.teams (notes ++ [⟨user, uuid, joins⟩]) := by
  have hid : updateTeam context.teams uuid id = context.teams := by
    obtain ⟨l₁, l₂, hsplit, -, -, hmodify⟩ := exists_split hteam
    rw [updateTeam, hmodify, hsplit]
    rfl
  rw [← hid]
  refine h.update hteams hteam (fun _ => rfl) fun other => ?_
  by_cases he : user = other
  · rw [if_pos he, ← he]
    exact hsame
  · rw [if_neg he]
    rfl

theorem Enrolled.subscribe (h : Enrolled context.teams notes) (hteams : (context.teams.map Team.uuid).Nodup)
    (hqueued : context.queued = []) :
    Enrolled (handleSubscribeCommand context).teams
      (notes ++ context.memberships CommandID.subscribe.code (handleSubscribeCommand context).queued) := by
  rcases targets_or_refused context with ⟨user, uuid, team, htarget⟩ | ⟨status, huntargeted, hrefused, -⟩
  · have hnote : ∀ {p : Packet}, p.status.isError = false →
        context.memberships CommandID.subscribe.code (context.queued ++ [(context.clientFd, p)]) =
          [⟨user.uuid.bytes, uuid, true⟩] := by
      intro p hp
      have hcode : CommandID.subscribe.code ≠ CommandID.create.code := by decide
      simp [CommandContext.memberships, htarget.authenticated, hqueued, hp, hcode, htarget.parsed]
    rw [htarget.subscribe_eq]
    split
    · next hsub =>
      rw [queueStatus, queuePacket, hnote rfl]
      exact h.unchanged hteams htarget.found hsub
    · rw [teams_perform, queued_perform, toClient, List.map_singleton, hnote rfl]
      refine h.update hteams htarget.found (fun _ => rfl) fun other => ?_
      rw [Team.isUserSubscribed_addSubscribedUser]
      by_cases he : user.uuid.bytes = other <;> simp [he]
  · rw [hrefused]
    exact h.refused hqueued huntargeted.isError _

theorem Enrolled.unsubscribe (h : Enrolled context.teams notes) (hteams : (context.teams.map Team.uuid).Nodup)
    (hqueued : context.queued = []) :
    Enrolled (handleUnsubscribeCommand context).teams
      (notes ++ context.memberships CommandID.unsubscribe.code (handleUnsubscribeCommand context).queued) := by
  rcases targets_or_refused context with ⟨user, uuid, team, htarget⟩ | ⟨status, huntargeted, -, hrefused⟩
  · have hnote : ∀ {p : Packet}, p.status.isError = false →
        context.memberships CommandID.unsubscribe.code (context.queued ++ [(context.clientFd, p)]) =
          [⟨user.uuid.bytes, uuid, false⟩] := by
      intro p hp
      have hcreate : CommandID.unsubscribe.code ≠ CommandID.create.code := by decide
      have hsubscribe : CommandID.unsubscribe.code ≠ CommandID.subscribe.code := by decide
      simp [CommandContext.memberships, htarget.authenticated, hqueued, hp, hcreate, hsubscribe, htarget.parsed]
    rw [htarget.unsubscribe_eq, teams_perform, queued_perform, toClient, List.map_singleton,
      hnote (by split <;> rfl)]
    refine h.update hteams htarget.found (fun _ => rfl) fun other => ?_
    rw [Team.isUserSubscribed_removeSubscribedUser]
    by_cases he : user.uuid.bytes = other
    · simp [he]
    · simp [he, Ne.symm he]
  · rw [hrefused]
    exact h.refused hqueued huntargeted.isError _

/-- A creation other than that of a team announces no team. -/
theorem memberships_created {α : Type} {p event : Packet} (hp : p.createdTeam = none)
    (hevent : event.createdTeam = none) (fd : α → Fd) (xs : List α) :
    context.memberships CommandID.create.code (toClient context [p] ++ xs.map fun x => (fd x, event)) = [] := by
  have hnone : ((toClient context [p] ++ xs.map fun x => (fd x, event)).filterMap fun q => q.2.createdTeam) = [] := by
    rw [List.filterMap_eq_nil_iff]
    intro q hq
    rcases List.mem_append.mp hq with hq | hq
    · rw [toClient, List.map_singleton, List.mem_singleton] at hq
      rw [hq]
      exact hp
    · obtain ⟨x, -, rfl⟩ := List.mem_map.mp hq
      exact hevent
  rw [CommandContext.memberships]
  cases getAuthenticatedUser context with
  | none => rfl
  | some user =>
    dsimp only
    split
    · rfl
    · rw [if_pos rfl, hnone]
      rfl

/-- No other command moves a subscriber but the creation of a team. -/
theorem Enrolled.effect (h : Enrolled context.teams notes) {command : CommandID} {s : Server}
    {packets : List (Fd × Packet)} (heffect : Effect context command s packets)
    (hsubscribe : command ≠ .subscribe) (hunsubscribe : command ≠ .unsubscribe) :
    Enrolled s.teams (notes ++ context.memberships command.code packets) := by
  by_cases hcreate : command = .create
  · subst hcreate
    cases heffect with
    | @refused _ status =>
      have hnone : (Packet.ofStatus status).createdTeam = none := by cases status <;> rfl
      have hnotes : context.memberships CommandID.create.code (toClient context [.ofStatus status] ++ []) = [] :=
        memberships_created hnone hnone id []
      rw [List.append_nil] at hnotes
      rw [hnotes, List.append_nil]
      exact h
    | answered hanswer => cases hanswer
    | @createdTeam draw name description user team huser hname hnames hnew hteam hsize =>
      have huuid : team.uuid.bytes = generateUuid draw := by
        rw [hteam]
        exact bytes_copyBuffer_generateUuid draw
      have hnotes : context.memberships CommandID.create.code
          (toClient context [⟨.created, buildTeamPayload team⟩] ++
            toEveryone context.toServer (teamCreatedEvent team)) = [⟨user.uuid.bytes, team.uuid.bytes, true⟩] := by
        have hcstr : (CharArray.copyPadded uuidLength team.uuid.bytes).cstr = team.uuid.bytes :=
          CString.cstr_copyPadded (by decide) _
        have hevents : ((toEveryone context.toServer (teamCreatedEvent team)).filterMap fun q => q.2.createdTeam) =
            [] := by
          rw [List.filterMap_eq_nil_iff]
          intro q hq
          obtain ⟨fd, -, rfl⟩ := List.mem_map.mp hq
          rfl
        have hcreated : ((toClient context [⟨.created, buildTeamPayload team⟩] ++
            toEveryone context.toServer (teamCreatedEvent team)).filterMap fun q => q.2.createdTeam) =
              [team.uuid.bytes] := by
          rw [List.filterMap_append, hevents, List.append_nil, ← hcstr]
          rfl
        have herrors : ((toClient context [⟨.created, buildTeamPayload team⟩] ++
            toEveryone context.toServer (teamCreatedEvent team)).any fun q => q.2.status.isError) = false := by
          rw [List.any_eq_false]
          intro q hq
          rcases List.mem_append.mp hq with hq | hq
          · obtain ⟨p, hp, rfl⟩ := List.mem_map.mp hq
            rw [List.mem_singleton.mp hp]
            exact Bool.false_ne_true
          · obtain ⟨fd, -, rfl⟩ := List.mem_map.mp hq
            exact Bool.false_ne_true
        rw [CommandContext.memberships, huser]
        dsimp only
        rw [herrors, if_neg Bool.false_ne_true, if_pos rfl, hcreated]
        rfl
      rw [hnotes]
      refine h.create ?_ fun other => ?_
      · intro hmem
        obtain ⟨t, ht, he⟩ := List.mem_map.mp hmem
        exact absurd he (by simpa [huuid] using List.find?_eq_none.mp hnew t ht)
      · rw [hteam, Team.isUserSubscribed_addSubscribedUser]
        rfl
    | createdChannel =>
      rw [toSubscribers, memberships_created rfl rfl, List.append_nil]
      refine h.congr (map_modifyFirst ?_ context.teams)
      exact fun _ => rfl
    | createdThread =>
      rw [toSubscribers, memberships_created rfl rfl, List.append_nil]
      refine h.congr (map_modifyFirst ?_ context.teams)
      exact fun _ => rfl
    | createdReply =>
      rw [toSubscribers, memberships_created rfl rfl, List.append_nil]
      refine h.congr (map_modifyFirst ?_ context.teams)
      exact fun _ => rfl
  · have hnone : context.memberships command.code packets = [] := by
      have hcreate : command.code ≠ CommandID.create.code := fun he => hcreate (CommandID.code_injective he)
      have hsubscribe : command.code ≠ CommandID.subscribe.code :=
        fun he => hsubscribe (CommandID.code_injective he)
      have hunsubscribe : command.code ≠ CommandID.unsubscribe.code :=
        fun he => hunsubscribe (CommandID.code_injective he)
      rw [CommandContext.memberships]
      cases getAuthenticatedUser context with
      | none => rfl
      | some user => simp [hcreate, hsubscribe, hunsubscribe]
    rw [hnone, List.append_nil]
    cases heffect with
    | refused | unknownUser | answered | registered | loggedIn | loggedOut | loggedOutUnknown | sent | used =>
      exact h
    | subscribed => exact absurd rfl hsubscribe
    | unsubscribed => exact absurd rfl hunsubscribe
    | createdTeam | createdChannel | createdThread | createdReply => exact absurd rfl hcreate

theorem Enrolled.dispatch (h : Enrolled context.teams notes) (hteams : (context.teams.map Team.uuid).Nodup)
    (hqueued : context.queued = []) {code : UInt16} {context' : CommandContext}
    (hd : dispatchCommand context code = some context') :
    Enrolled context'.teams (notes ++ context.memberships code context'.queued) := by
  by_cases hcode : ∃ command : CommandID, code = command.code
  · obtain ⟨command, rfl⟩ := hcode
    by_cases hsubscribe : command = .subscribe
    · subst hsubscribe
      cases hd
      exact h.subscribe hteams hqueued
    by_cases hunsubscribe : command = .unsubscribe
    · subst hunsubscribe
      cases hd
      exact h.unsubscribe hteams hqueued
    obtain ⟨s, packets, heffect, rfl⟩ := dispatch_command hd
    rw [queued_perform, hqueued, toServer_perform, List.nil_append]
    have hmiddle := h.effect heffect hsubscribe hunsubscribe
    exact hmiddle
  · rw [dispatch_unknown fun command he => hcode ⟨command, he⟩] at hd
    cases hd
    exact h.refused hqueued rfl code

end

namespace Server

variable {s s' : Server} {notes : List Membership}

/-- Every event keeps the subscribers in step with what was noted. -/
theorem enrolled_step {e : Event} {queued : List (Fd × Packet)} (hstorable : s.Storable)
    (h : Enrolled s.teams notes) (hs : s.handle e = some (s', queued)) :
    Enrolled s'.teams (notes ++ s.memberships e queued) := by
  cases e with
  | accept fd =>
    obtain ⟨-, rfl, -⟩ := handle_accept hs
    simp only [memberships, List.append_nil]
    exact h
  | receive fd chunk =>
    obtain ⟨-, -, rfl⟩ := handle_receive hs
    simp only [memberships, List.append_nil]
    exact h
  | dispatch fd environment =>
    obtain ⟨header, payload, context', hpeek, hd, rfl, rfl⟩ := handle_dispatch_context hs
    rw [memberships, hpeek]
    exact Enrolled.dispatch h hstorable.teamUuids rfl hd
  | flush fd n =>
    obtain ⟨-, -, -, rfl⟩ := handle_flush hs
    simp only [memberships, List.append_nil]
    exact h
  | disconnect fd =>
    obtain ⟨-, middle, hd, rfl⟩ := handle_disconnect hs
    simp only [memberships, List.append_nil]
    cases hd with
    | anonymous | known | unknown => exact h

end Server

/-- The team of an entry of a list of subscriptions. -/
def Packet.listedTeam : Packet → Option Bytes
  | ⟨.subscribedList, .rplTeam p⟩ => some p.teamUuid.cstr
  | _ => none

/-- The user of an entry of a list of subscribers. -/
def Packet.listedUser : Packet → Option Bytes
  | ⟨.usersList, .rplUser p⟩ => some p.userUuid.cstr
  | _ => none

namespace Server

/-- The next packet of the connection, logged in as the user, asks for the teams of the user. -/
def AsksTeams (s : Server) (fd : Fd) (user : Bytes) : Prop :=
  s.authenticatedUsersByFd.lookup fd = some user ∧
    ∃ header, peekPacket (s.clientManager.getIncomingBuffer fd) = some (header, []) ∧
      header.code = CommandID.subscribedList.code

/-- The next packet of the connection, which is logged in, asks for the users of the team. -/
def AsksUsers (s : Server) (fd : Fd) (team : Bytes) : Prop :=
  fd ∈ s.authenticatedUsersByFd ∧
    ∃ header payload, peekPacket (s.clientManager.getIncomingBuffer fd) = some (header, payload) ∧
      header.code = CommandID.subscribedList.code ∧
      parseTeamUuidFromPayload (s.context fd payload default) = some team

/-- The connection is refused with `ERR_UNAUTHORIZED`. -/
def TurnsAway (s : Server) (fd : Fd) (environment : Environment) (payload : Bytes) (command : CommandID) : Prop :=
  let context := s.context fd payload environment
  dispatchCommand context command.code = some (queueStatus context .unauthorized)

/-- Both lists and the three permission checks show one membership, each list at most once. -/
structure Dual (s : Server) (u : User) (t : Team) : Prop where
  teams : ∀ fd environment s' queued, s.AsksTeams fd u.uuid.bytes →
    s.handle (.dispatch fd environment) = some (s', queued) →
    (queued.filterMap fun q => q.2.listedTeam).count t.uuid.bytes =
      if t.isUserSubscribed u.uuid.bytes then 1 else 0
  users : ∀ fd environment s' queued, s.AsksUsers fd t.uuid.bytes →
    s.handle (.dispatch fd environment) = some (s', queued) →
    (queued.filterMap fun q => q.2.listedUser).count u.uuid.bytes =
      if t.isUserSubscribed u.uuid.bytes then 1 else 0
  list : ∀ fd environment, s.authenticatedUsersByFd.lookup fd = some u.uuid.bytes →
    s.clientManager.getContextTeamUuid fd = t.uuid.bytes →
    (s.TurnsAway fd environment [] .list ↔ t.isUserSubscribed u.uuid.bytes = false)
  info : ∀ fd environment, s.authenticatedUsersByFd.lookup fd = some u.uuid.bytes →
    s.clientManager.getContextTeamUuid fd = t.uuid.bytes →
    (s.TurnsAway fd environment [] .info ↔ t.isUserSubscribed u.uuid.bytes = false)
  create : ∀ fd environment payload, s.authenticatedUsersByFd.lookup fd = some u.uuid.bytes →
    s.clientManager.getContextTeamUuid fd = t.uuid.bytes →
    (s.context fd payload environment).AcceptsCreation →
    (s.TurnsAway fd environment payload .create ↔ t.isUserSubscribed u.uuid.bytes = false)

variable {s : Server} {u : User} {t : Team} {fd : Fd}

/-- The keys of distinct elements that satisfy a test are listed once each. -/
theorem count_map_filter {α : Type} {l : List α} {key : α → Bytes} (hl : (l.map key).Nodup) {x : α} (hx : x ∈ l)
    (p : α → Bool) : ((l.filter p).map key).count (key x) = if p x then 1 else 0 := by
  have hnodup : ((l.filter p).map key).Nodup := hl.sublist (List.filter_sublist.map key)
  split
  · next hp =>
    exact List.count_eq_one_of_mem hnodup (List.mem_map_of_mem (List.mem_filter.mpr ⟨hx, hp⟩))
  · next hp =>
    rw [List.count_eq_zero]
    intro hmem
    obtain ⟨y, hy, he⟩ := List.mem_map.mp hmem
    obtain ⟨hy, hpy⟩ := List.mem_filter.mp hy
    exact hp (List.inj_on_of_nodup_map hl hy hx he ▸ hpy)

theorem getAuthenticatedUser_context (husers : (s.users.map User.uuid).Nodup) (hu : u ∈ s.users)
    (hlookup : s.authenticatedUsersByFd.lookup fd = some u.uuid.bytes) (payload : Bytes)
    (environment : Environment) : getAuthenticatedUser (s.context fd payload environment) = some u := by
  change (s.authenticatedUsersByFd.lookup fd).bind (findUserByUuid s.users) = some u
  rw [hlookup, Option.bind_some]
  exact find?_key_of_mem (CString.nodup_bytes husers) hu

theorem filterMap_listed {α : Type} {listed : Packet → Option Bytes} {status : StatusCode} {build : α → Payload}
    {key : α → Bytes} (hentry : ∀ x, listed ⟨status, build x⟩ = some (key x)) (hok : listed (.ofStatus .ok) = none)
    (context : CommandContext) (xs : List α) :
    (((xs.map fun x => (context.clientFd, Packet.mk status (build x))) ++
      toClient context [Packet.ofStatus .ok]).filterMap fun q => listed q.2) = xs.map key := by
  have hlast : ((toClient context [Packet.ofStatus .ok]).filterMap fun q => listed q.2) = [] :=
    List.filterMap_cons_none hok
  rw [List.filterMap_append, hlast, List.append_nil, List.filterMap_map, ← List.filterMap_eq_map]
  apply List.filterMap_congr
  intro x _
  exact hentry x

theorem listedTeam_entry (t : Team) : Packet.listedTeam ⟨.subscribedList, buildTeamPayload t⟩ = some t.uuid.bytes :=
  congrArg some (CString.cstr_copyPadded (by decide) t.uuid)

theorem listedUser_entry (u : User) : Packet.listedUser ⟨.usersList, buildUserPayload u⟩ = some u.uuid.bytes :=
  congrArg some (CString.cstr_copyPadded (by decide) u.uuid)

/-- The reply to a request for one's teams. -/
theorem listedTeams_eq {s' : Server} {environment : Environment} {queued : List (Fd × Packet)}
    (husers : (s.users.map User.uuid).Nodup) (hu : u ∈ s.users) (hasks : s.AsksTeams fd u.uuid.bytes)
    (hs : s.handle (.dispatch fd environment) = some (s', queued)) :
    (queued.filterMap fun q => q.2.listedTeam) =
      (s.teams.filter fun t => t.isUserSubscribed u.uuid.bytes).map fun t => t.uuid.bytes := by
  obtain ⟨hlookup, header, hpeek, hcode⟩ := hasks
  obtain ⟨header', payload, context', hpeek', hd, rfl, -⟩ := handle_dispatch_context hs
  cases hpeek.symm.trans hpeek'
  rw [hcode] at hd
  obtain rfl := Option.some.inj hd
  have huser := getAuthenticatedUser_context husers hu hlookup [] environment
  have hempty : (s.context fd [] environment).payloadSize = 0 := rfl
  simp only [handleSubscribedListCommand, huser, hempty, if_true]
  rw [queueSubscribedTeamsList, queueStatus_queuePackets, queuePackets_eq]
  exact filterMap_listed listedTeam_entry rfl _ _

/-- The reply to a request for the users of a team. -/
theorem listedUsers_eq {s' : Server} {environment : Environment} {queued : List (Fd × Packet)}
    (hknown : s.Known) (hreferential : s.Referential) (hteams : (s.teams.map Team.uuid).Nodup) (ht : t ∈ s.teams)
    (hasks : s.AsksUsers fd t.uuid.bytes) (hs : s.handle (.dispatch fd environment) = some (s', queued)) :
    (queued.filterMap fun q => q.2.listedUser) = t.subscribedUserUuids.map CString.bytes := by
  obtain ⟨hfd, header, payload, hpeek, hcode, hparse⟩ := hasks
  obtain ⟨header', payload', context', hpeek', hd, rfl, -⟩ := handle_dispatch_context hs
  cases hpeek.symm.trans hpeek'
  rw [hcode] at hd
  obtain rfl := Option.some.inj hd
  obtain ⟨uuid, huuid⟩ := UnorderedMap.exists_lookup hfd
  obtain ⟨user, hfound, -, -⟩ := hknown.exists_user huuid
  have huser : getAuthenticatedUser (s.context fd payload environment) = some user := by
    change (s.authenticatedUsersByFd.lookup fd).bind (findUserByUuid s.users) = some user
    rw [huuid, Option.bind_some, hfound]
  have hparse : parseTeamUuidFromPayload (s.context fd payload environment) = some t.uuid.bytes := hparse
  have hsize : (s.context fd payload environment).payloadSize ≠ 0 := by
    intro hzero
    rw [parseTeamUuidFromPayload, hzero, if_pos (by decide)] at hparse
    cases hparse
  have hfind : findTeamByUuid (s.context fd payload environment).teams t.uuid.bytes = some t :=
    find?_key_of_mem (CString.nodup_bytes hteams) ht
  have hreferential : (s.context fd payload environment).toServer.Referential := hreferential
  obtain ⟨users, huuids, -, hlist⟩ := hreferential.queueUsersList_eq ht
  simp only [handleSubscribedListCommand, huser, hsize, if_false, hparse, hfind, hlist]
  rw [queueStatus_queuePackets, queuePackets_eq, ← huuids, List.map_map]
  exact filterMap_listed listedUser_entry rfl _ _

/-- The walk is stopped by the permission check exactly when the user is not subscribed. -/
theorem resolve_unauthorized_iff {context : CommandContext} (huser : getAuthenticatedUser context = some u)
    (hteam : context.contextTeamUuid ≠ []) (hfind : findTeamByUuid context.teams context.contextTeamUuid = some t) :
    resolve context u = .error .unauthorized ↔ t.isUserSubscribed u.uuid.bytes = false := by
  have hwalk := resolve_walk huser
  have hsubscribed : ∀ {t' : Team}, InTeam context u t' → t.isUserSubscribed u.uuid.bytes = true := by
    intro t' hin
    cases hfind.symm.trans hin.found
    exact hin.subscribed
  generalize resolve context u = result at hwalk
  cases hwalk with
  | root hroot => exact absurd hroot hteam
  | unknownTeam _ hnone => cases hfind.symm.trans hnone
  | notSubscribed _ hfound hsub =>
    cases hfind.symm.trans hfound
    exact iff_of_true rfl hsub
  | team _ hin => simp [hsubscribed hin]
  | channel _ hin | thread _ hin => simp [hsubscribed hin.toInTeam]
  | unknownChannel _ hin => simp [hsubscribed hin]
  | unknownThread _ hin => simp [hsubscribed hin.toInTeam]

/-- Another end of a command than a refusal with this status. -/
theorem queueStatus_ne {context context' : CommandContext} {status : StatusCode} {q : Fd × Packet}
    (hqueued : context.queued = []) (hq : q ∈ context'.queued) (hstatus : q.2.status ≠ status) :
    context' ≠ queueStatus context status := by
  rintro rfl
  rw [queueStatus, queuePacket, hqueued, List.nil_append, List.mem_singleton] at hq
  exact hstatus (congrArg (fun q : Fd × Packet => q.2.status) hq)

theorem queueStatus_inj {context : CommandContext} (hqueued : context.queued = []) {status status' : StatusCode} :
    queueStatus context status = queueStatus context status' ↔ status = status' := by
  constructor
  · intro he
    by_contra hne
    refine queueStatus_ne hqueued (q := (context.clientFd, .ofStatus status)) ?_ hne he
    rw [queueStatus, queuePacket, hqueued]
    exact List.mem_singleton_self _
  · rintro rfl
    rfl

theorem endsAt_unauthorized_iff {context : CommandContext} (hqueued : context.queued = [])
    {atPlace : Place → CommandContext}
    (hplace : ∀ place, ∃ q ∈ (atPlace place).queued, q.2.status ≠ .unauthorized)
    (result : Except StatusCode Place) :
    context.endsAt atPlace result = queueStatus context .unauthorized ↔ result = .error .unauthorized := by
  cases result with
  | ok place =>
    obtain ⟨q, hq, hstatus⟩ := hplace place
    exact iff_of_false (queueStatus_ne hqueued hq hstatus) (by simp)
  | error status =>
    rw [CommandContext.endsAt, queueStatus_inj hqueued, Except.error.injEq]

/-- In a reachable state, with unique uuids and no dangling reference, the views of a membership agree. -/
theorem dual (hreachable : s.Reachable) (hreferential : s.Referential) (hstorable : s.Storable)
    (husers : (s.users.map User.uuid).Nodup) (hsubscribers : t.subscribedUserUuids.Nodup)
    (hu : u ∈ s.users) (ht : t ∈ s.teams) : s.Dual u t := by
  have hknown := hreachable.known
  have hteams := hstorable.teamUuids
  have hresolve : ∀ fd environment payload, s.authenticatedUsersByFd.lookup fd = some u.uuid.bytes →
      s.clientManager.getContextTeamUuid fd = t.uuid.bytes →
      (resolve (s.context fd payload environment) u = .error .unauthorized ↔
        t.isUserSubscribed u.uuid.bytes = false) := by
    intro fd environment payload hlookup hcontext
    have hcontext : (s.context fd payload environment).contextTeamUuid = t.uuid.bytes := hcontext
    refine resolve_unauthorized_iff (getAuthenticatedUser_context husers hu hlookup payload environment) ?_ ?_
    · rw [hcontext]
      exact (hstorable.namedTeams t ht).uuid
    · rw [hcontext]
      exact find?_key_of_mem (CString.nodup_bytes hteams) ht
  constructor
  · intro fd environment s' queued hasks hs
    rw [listedTeams_eq husers hu hasks hs]
    exact count_map_filter (CString.nodup_bytes hteams) ht _
  · intro fd environment s' queued hasks hs
    rw [listedUsers_eq hknown hreferential hteams ht hasks hs]
    have hnodup : (t.subscribedUserUuids.map CString.bytes).Nodup := by
      refine CString.nodup_bytes (f := id) ?_
      rwa [List.map_id]
    split
    · next hsub =>
      exact List.count_eq_one_of_mem hnodup (List.mem_map_of_mem (Team.isUserSubscribed_iff.mp hsub))
    · next hsub =>
      rw [List.count_eq_zero]
      intro hmem
      obtain ⟨uuid, huuid, he⟩ := List.mem_map.mp hmem
      exact hsub (Team.isUserSubscribed_iff.mpr (CString.ext he ▸ huuid))
  · intro fd environment hlookup hcontext
    have huser := getAuthenticatedUser_context husers hu hlookup [] environment
    have hlist : handleListCommand (s.context fd [] environment) = _ :=
      handleList_resolve rfl huser (hreachable.hierarchical fd)
    have hcommand : dispatchCommand (s.context fd [] environment) CommandID.list.code =
        some (handleListCommand (s.context fd [] environment)) := rfl
    rw [← hresolve fd environment [] hlookup hcontext, TurnsAway, hcommand, hlist, Option.some.injEq]
    refine endsAt_unauthorized_iff rfl (fun place => ⟨(fd, .ofStatus .ok), ?_, StatusCode.noConfusion⟩) _
    rw [queuePackets_eq]
    refine List.mem_append_right _ (List.mem_map_of_mem ?_)
    cases place <;> exact List.mem_append_right _ (List.mem_singleton_self _)
  · intro fd environment hlookup hcontext
    have huser := getAuthenticatedUser_context husers hu hlookup [] environment
    have hinfo : handleInfoCommand (s.context fd [] environment) = _ :=
      handleInfo_resolve rfl huser (hreachable.hierarchical fd)
    have hcommand : dispatchCommand (s.context fd [] environment) CommandID.info.code =
        some (handleInfoCommand (s.context fd [] environment)) := rfl
    rw [← hresolve fd environment [] hlookup hcontext, TurnsAway, hcommand, hinfo, Option.some.injEq]
    refine endsAt_unauthorized_iff rfl (fun place => ⟨(fd, place.info u), List.mem_singleton_self _, ?_⟩) _
    cases place <;> simp [Place.info]
  · intro fd environment payload hlookup hcontext haccepts
    have huser := getAuthenticatedUser_context husers hu hlookup payload environment
    have hcreate := handleCreate_resolve huser (hreachable.hierarchical fd) haccepts
    have hcommand : dispatchCommand (s.context fd payload environment) CommandID.create.code =
        handleCreateCommand (s.context fd payload environment) := rfl
    rw [← hresolve fd environment payload hlookup hcontext, TurnsAway, hcommand]
    generalize resolve (s.context fd payload environment) u = result at hcreate
    cases result with
    | error status =>
      simp only at hcreate
      rw [hcreate, Option.some.injEq, queueStatus_inj rfl, Except.error.injEq]
    | ok place =>
      refine iff_of_false (fun he => ?_) (by simp)
      by_cases hdraws : environment.Draws (place.used s.teams)
      · obtain ⟨context', hcontext', teams, payload', events, -, hcreates⟩ := hcreate.1 hdraws
        have hsame : context' = queueStatus (s.context fd payload environment) .unauthorized :=
          Option.some.inj (hcontext'.symm.trans he)
        refine queueStatus_ne rfl (q := (fd, ⟨.created, payload'⟩)) ?_ StatusCode.noConfusion hsame
        rw [hcreates, queued_perform]
        exact List.mem_append_right _ (List.mem_append_left _ (List.mem_singleton_self _))
      · rw [hcreate.2 hdraws] at he
        cases he

end Server

end TeamsMirror
