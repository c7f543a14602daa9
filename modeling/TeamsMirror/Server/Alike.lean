import TeamsMirror.Server.System
import TeamsMirror.Server.Visibility

/-!
# What a command does not look at

No handler reads a buffer; only `CMD_MESSAGES` reads private messages, those of its
own user; and what a team contains is read for its subscribers alone. Two servers that
differ in their buffers, in messages and in the contents of teams that are hidden from
a user therefore answer the requests of that user alike, and still differ in nothing
else afterwards. The one trace of what is hidden is a uuid that cannot be drawn again.
-/

namespace TeamsMirror

open Lists

/-- Where a connection stands in the forest of teams. -/
def Client.place (c : Client) : Uuid × Uuid × Uuid := (c.ctxTeamUuid, c.ctxChannelUuid, c.ctxThreadUuid)

namespace ClientManager

variable (m : ClientManager) (fd : Fd)

/-- Where a connection stands; `none` when there is no such connection. -/
def place : Option (Uuid × Uuid × Uuid) := m.find fd Client.place

theorem getContextTeamUuid_eq : m.getContextTeamUuid fd = ((m.place fd).map fun p => p.1.bytes).getD [] := by
  rw [getContextTeamUuid, place, find, find, Option.map_map]
  rfl

theorem getContextChannelUuid_eq :
    m.getContextChannelUuid fd = ((m.place fd).map fun p => p.2.1.bytes).getD [] := by
  rw [getContextChannelUuid, place, find, find, Option.map_map]
  rfl

theorem getContextThreadUuid_eq :
    m.getContextThreadUuid fd = ((m.place fd).map fun p => p.2.2.bytes).getD [] := by
  rw [getContextThreadUuid, place, find, find, Option.map_map]
  rfl

/-- Changes of buffers leave every connection where it stands. -/
theorem place_update {f : Client → Client} (hf : ∀ c, (f c).place = c.place) (fd' : Fd) :
    (m.update fd f).place fd' = m.place fd' := by
  rw [place, place, find, find, lookup_update, Option.map_map]
  congr 1
  funext c
  by_cases h : fd' = fd <;> simp [h, hf]

theorem place_queueDataToSend (data : Bytes) (fd' : Fd) : (m.queueDataToSend fd data).place fd' = m.place fd' := by
  rw [queueDataToSend_eq]
  apply place_update
  exact fun _ => rfl

theorem place_appendToIncomingBuffer (data : Bytes) (fd' : Fd) :
    (m.appendToIncomingBuffer fd data).place fd' = m.place fd' := by
  rw [appendToIncomingBuffer_eq]
  apply place_update
  exact fun _ => rfl

theorem place_consumeIncomingBuffer (n : Nat) (fd' : Fd) :
    (m.consumeIncomingBuffer fd n).place fd' = m.place fd' := by
  apply place_update
  exact fun _ => rfl

theorem place_consumeQueuedData (n : Nat) (fd' : Fd) : (m.consumeQueuedData fd n).place fd' = m.place fd' := by
  apply place_update
  exact fun _ => rfl

theorem place_setContext (teamUuid channelUuid threadUuid : Bytes) (fd' : Fd) :
    (m.setContext fd teamUuid channelUuid threadUuid).place fd' =
      if fd' = fd then (m.place fd).map fun _ =>
        (.copyBuffer _ teamUuid, .copyBuffer _ channelUuid, .copyBuffer _ threadUuid)
      else m.place fd' := by
  rw [setContext, place, place, place, find, find, find, lookup_update, Option.map_map, Option.map_map]
  by_cases h : fd' = fd
  · subst h
    cases m.clients.lookup fd' <;> simp [Client.setContext, Client.place]
  · cases m.clients.lookup fd' <;> simp [h]

theorem place_addClient (fd' : Fd) :
    (m.addClient fd).place fd' = if fd' = fd then (m.place fd).or (some Client.new.place) else m.place fd' := by
  rw [addClient, place, place, place, find, find, find, UnorderedMap.emplace]
  split
  · next hmem =>
    obtain ⟨c, hc⟩ := UnorderedMap.exists_lookup hmem
    split
    · next he => rw [he, hc]; rfl
    · rfl
  · next hmem =>
    split
    · next he => rw [he, AList.lookup_insert, AList.lookup_eq_none.mpr hmem]; rfl
    · next he => rw [AList.lookup_insert_ne he]

theorem place_removeClient (fd' : Fd) :
    (m.removeClient fd).place fd' = if fd' = fd then none else m.place fd' := by
  rw [removeClient, place, place, find, find]
  split
  · next he => rw [he, AList.lookup_erase]; rfl
  · next he => rw [AList.lookup_erase_ne he]

end ClientManager

/-- The same but for buffers, for the messages that are not seen, and for the contents of the teams that may
not be looked into. -/
structure Server.Alike (view : Visibility) (s t : Server) : Prop where
  rest : t = { s with
    clientManager := t.clientManager
    teams := t.teams
    messages := t.messages
    authenticatedUsersByUUID := t.authenticatedUsersByUUID }
  teams : t.teams.map view.outline = s.teams.map view.outline
  messages : t.messages.filter view.seesMessage = s.messages.filter view.seesMessage
  sessions : ∀ uuid, t.sessions uuid = s.sessions uuid
  places : ∀ fd, t.clientManager.place fd = s.clientManager.place fd

/-- The same request on servers that are alike, with the same packets queued so far. -/
structure Twins (view : Visibility) (c d : CommandContext) : Prop where
  alike : c.toServer.Alike view d.toServer
  rest : d = { c with toServer := d.toServer }

variable {view : Visibility} {c d : CommandContext}

namespace Twins

/-- The parts that may differ. -/
theorem exists_parts (h : Twins view c d) : ∃ m teams messages index,
    d = { c with
      clientManager := m, teams := teams, messages := messages, authenticatedUsersByUUID := index } := by
  refine ⟨d.clientManager, d.teams, d.messages, d.authenticatedUsersByUUID, ?_⟩
  conv_lhs => rw [h.rest, h.alike.rest]

theorem payloadSize (h : Twins view c d) : d.payloadSize = c.payloadSize := by
  rw [CommandContext.payloadSize, h.rest]
  rfl

theorem queuePacket (h : Twins view c d) (fd : Fd) (packet : Packet) :
    Twins view (queuePacket c fd packet) (queuePacket d fd packet) := by
  obtain ⟨m, teams, messages, index, rfl⟩ := h.exists_parts
  refine ⟨⟨rfl, h.alike.teams, h.alike.messages, h.alike.sessions, fun fd' => ?_⟩, rfl⟩
  simp only [TeamsMirror.queuePacket, ClientManager.place_queueDataToSend]
  exact h.alike.places fd'

theorem queueStatus (h : Twins view c d) (status : StatusCode) :
    Twins view (queueStatus c status) (queueStatus d status) := by
  have hfd : d.clientFd = c.clientFd := by rw [h.rest]
  rw [TeamsMirror.queueStatus, TeamsMirror.queueStatus, hfd]
  exact h.queuePacket _ _

theorem queuePackets (h : Twins view c d) (packets : List (Fd × Packet)) :
    Twins view (queuePackets c packets) (queuePackets d packets) := by
  induction packets generalizing c d with
  | nil => exact h
  | cons q packets ih => exact ih (h.queuePacket q.1 q.2)

theorem setUsers (h : Twins view c d) (users : List User) :
    Twins view { c with users := users } { d with users := users } := by
  obtain ⟨m, teams, messages, index, rfl⟩ := h.exists_parts
  exact ⟨⟨rfl, h.alike.teams, h.alike.messages, h.alike.sessions, h.alike.places⟩, rfl⟩

theorem setTeams (h : Twins view c d) {teams teams' : List Team}
    (hteams : teams'.map view.outline = teams.map view.outline) :
    Twins view { c with teams := teams } { d with teams := teams' } := by
  obtain ⟨m, _, messages, index, rfl⟩ := h.exists_parts
  exact ⟨⟨rfl, hteams, h.alike.messages, h.alike.sessions, h.alike.places⟩, rfl⟩

/-- A write to one team, the same wherever it shows. -/
theorem updateTeam (h : Twins view c d) {teamUuid : Bytes} {f f' : Team → Team}
    (hf : ∀ team team', team.uuid.bytes = teamUuid → view.outline team' = view.outline team →
      view.outline (f' team') = view.outline (f team)) :
    Twins view { c with teams := updateTeam c.teams teamUuid f }
      { d with teams := TeamsMirror.updateTeam d.teams teamUuid f' } :=
  h.setTeams (updateTeam_outline h.alike.teams hf)

theorem addMessage (h : Twins view c d) (message : Message) :
    Twins view { c with messages := c.messages ++ [message] }
      { d with messages := d.messages ++ [message] } := by
  obtain ⟨m, teams, messages, index, rfl⟩ := h.exists_parts
  refine ⟨⟨rfl, h.alike.teams, ?_, h.alike.sessions, h.alike.places⟩, rfl⟩
  simp only [List.filter_append]
  exact congrArg (· ++ [message].filter view.seesMessage) h.alike.messages

/-- A change of the sessions after which every user has the same ones. -/
theorem setSessions (h : Twins view c d) (byFd : UnorderedMap Fd Bytes)
    {index index' : UnorderedMap Bytes (List Fd)}
    (hindex : ∀ uuid, (index'.lookup uuid).getD [] = (index.lookup uuid).getD []) :
    Twins view { c with authenticatedUsersByFd := byFd, authenticatedUsersByUUID := index }
      { d with authenticatedUsersByFd := byFd, authenticatedUsersByUUID := index' } := by
  obtain ⟨m, teams, messages, _, rfl⟩ := h.exists_parts
  exact ⟨⟨rfl, h.alike.teams, h.alike.messages, hindex, h.alike.places⟩, rfl⟩

/-- Every user has the same sessions in both. -/
theorem getD_lookup (h : Twins view c d) (uuid : Bytes) :
    (d.authenticatedUsersByUUID.lookup uuid).getD [] = (c.authenticatedUsersByUUID.lookup uuid).getD [] :=
  h.alike.sessions uuid

theorem insert_sessions (h : Twins view c d) (uuid : Bytes) (fds : List Fd) (uuid' : Bytes) :
    ((d.authenticatedUsersByUUID.insert uuid fds).lookup uuid').getD [] =
      ((c.authenticatedUsersByUUID.insert uuid fds).lookup uuid').getD [] := by
  by_cases he : uuid' = uuid
  · rw [he, AList.lookup_insert, AList.lookup_insert]
  · rw [AList.lookup_insert_ne he, AList.lookup_insert_ne he, h.getD_lookup]

theorem erase_sessions (h : Twins view c d) (uuid uuid' : Bytes) :
    ((d.authenticatedUsersByUUID.erase uuid).lookup uuid').getD [] =
      ((c.authenticatedUsersByUUID.erase uuid).lookup uuid').getD [] := by
  by_cases he : uuid' = uuid
  · rw [he, AList.lookup_erase, AList.lookup_erase]
  · rw [AList.lookup_erase_ne he, AList.lookup_erase_ne he, h.getD_lookup]

theorem setContext (h : Twins view c d) (fd : Fd) (teamUuid channelUuid threadUuid : Bytes) :
    Twins view { c with clientManager := c.clientManager.setContext fd teamUuid channelUuid threadUuid }
      { d with clientManager := d.clientManager.setContext fd teamUuid channelUuid threadUuid } := by
  obtain ⟨m, teams, messages, index, rfl⟩ := h.exists_parts
  refine ⟨⟨rfl, h.alike.teams, h.alike.messages, h.alike.sessions, fun fd' => ?_⟩, rfl⟩
  have hplaces := h.alike.places
  simp only at hplaces ⊢
  rw [ClientManager.place_setContext, ClientManager.place_setContext, hplaces, hplaces]

/-- The three uuids of the context. -/
theorem contextUuids (h : Twins view c d) :
    d.contextTeamUuid = c.contextTeamUuid ∧ d.contextChannelUuid = c.contextChannelUuid ∧
      d.contextThreadUuid = c.contextThreadUuid := by
  have hfd : d.clientFd = c.clientFd := by rw [h.rest]
  have hplace := h.alike.places c.clientFd
  refine ⟨?_, ?_, ?_⟩
  · rw [CommandContext.contextTeamUuid, CommandContext.contextTeamUuid, ClientManager.getContextTeamUuid_eq,
      ClientManager.getContextTeamUuid_eq, hfd, hplace]
  · rw [CommandContext.contextChannelUuid, CommandContext.contextChannelUuid,
      ClientManager.getContextChannelUuid_eq, ClientManager.getContextChannelUuid_eq, hfd, hplace]
  · rw [CommandContext.contextThreadUuid, CommandContext.contextThreadUuid,
      ClientManager.getContextThreadUuid_eq, ClientManager.getContextThreadUuid_eq, hfd, hplace]

end Twins

theorem twins_completeLogin (h : Twins view c d) (user : User) :
    Twins view (completeLogin c user) (completeLogin d user) := by
  obtain ⟨m, teams, messages, index, rfl⟩ := h.exists_parts
  simp only [completeLogin, h.getD_lookup]
  exact ((h.setSessions _ (h.insert_sessions _ _)).queueStatus _).queuePackets _

theorem twins_handleLoginCommand (h : Twins view c d) :
    Option.Rel (Twins view) (handleLoginCommand c) (handleLoginCommand d) := by
  obtain ⟨m, teams, messages, index, rfl⟩ := h.exists_parts
  simp only [handleLoginCommand, h.payloadSize]
  split
  · exact .some (h.queueStatus _)
  · split
    · exact .some (h.queueStatus _)
    · split
      · exact .some (h.queueStatus _)
      · split
        · exact .some (h.queueStatus _)
        · split
          · cases generateUnused c.environment fun uuid => (findUserByUuid c.users uuid).isSome with
            | none => exact .none
            | some uuid => exact .some (twins_completeLogin (h.setUsers _) _)
          · exact .some (twins_completeLogin (h.setUsers _) _)

theorem twins_broadcastLoggedOutEvent (h : Twins view c d) (user : User) (fd : Fd) :
    Twins view (broadcastLoggedOutEvent c user fd) (broadcastLoggedOutEvent d user fd) := by
  obtain ⟨m, teams, messages, index, rfl⟩ := h.exists_parts
  exact h.queuePackets _

theorem twins_handleLogoutCommand (h : Twins view c d) :
    Twins view (handleLogoutCommand c) (handleLogoutCommand d) := by
  obtain ⟨m, teams, messages, index, rfl⟩ := h.exists_parts
  simp only [handleLogoutCommand, h.payloadSize, h.getD_lookup]
  split
  · exact h.queueStatus _
  · split
    · exact h.queueStatus _
    · have hsessions := fun uuid fds byFd => h.setSessions byFd (h.insert_sessions uuid fds)
      split
      · exact (hsessions _ _ _).queueStatus _
      · have hqueued := fun uuid fds byFd users status fd packet =>
          (((hsessions uuid fds byFd).setUsers users).queueStatus status).queuePacket fd packet
        exact twins_broadcastLoggedOutEvent (hqueued _ _ _ _ _ _ _) _ _

theorem twins_handleClientDisconnection (h : Twins view c d) :
    Twins view (handleClientDisconnection c) (handleClientDisconnection d) := by
  obtain ⟨m, teams, messages, index, rfl⟩ := h.exists_parts
  simp only [handleClientDisconnection]
  split
  · exact h
  · have hsessions := fun uuid byFd => h.setSessions byFd (h.erase_sessions uuid)
    split
    · exact hsessions _ _
    · exact twins_broadcastLoggedOutEvent ((hsessions _ _).setUsers _) _ _

theorem twins_handleUsersCommand (h : Twins view c d) :
    Twins view (handleUsersCommand c) (handleUsersCommand d) := by
  obtain ⟨m, teams, messages, index, rfl⟩ := h.exists_parts
  simp only [handleUsersCommand, h.payloadSize]
  split
  · exact h.queueStatus _
  · split
    · exact h.queueStatus _
    · exact (h.queuePackets _).queueStatus _

theorem twins_handleUserCommand (h : Twins view c d) :
    Twins view (handleUserCommand c) (handleUserCommand d) := by
  obtain ⟨m, teams, messages, index, rfl⟩ := h.exists_parts
  simp only [handleUserCommand, h.payloadSize]
  split
  · exact h.queueStatus _
  · split
    · exact h.queueStatus _
    · split
      · exact h.queueStatus _
      · split
        · exact h.queueStatus _
        · split
          · exact h.queuePacket _ _
          · exact h.queuePacket _ _

namespace Twins

theorem getAuthenticatedUser (h : Twins view c d) : getAuthenticatedUser d = getAuthenticatedUser c := by
  obtain ⟨m, teams, messages, index, rfl⟩ := h.exists_parts
  rfl

theorem parseTeamUuid (h : Twins view c d) : parseTeamUuidFromPayload d = parseTeamUuidFromPayload c := by
  obtain ⟨m, teams, messages, index, rfl⟩ := h.exists_parts
  rfl

end Twins

theorem twins_handleSubscribeCommand (h : Twins view c d) :
    Twins view (handleSubscribeCommand c) (handleSubscribeCommand d) := by
  obtain ⟨m, teams, messages, index, rfl⟩ := h.exists_parts
  have hteams : teams.map view.outline = c.teams.map view.outline := h.alike.teams
  simp only [handleSubscribeCommand, h.getAuthenticatedUser, h.parseTeamUuid]
  split
  · exact h.queueStatus _
  · split
    · exact h.queueStatus _
    · next teamUuid _ =>
      rcases findTeamByUuid_cases hteams teamUuid with ⟨hteam, hteam'⟩ | ⟨team, team', hteam, hteam', houtline⟩
      · simp only [hteam, hteam']
        exact h.queueStatus _
      · simp only [hteam, hteam', Visibility.isUserSubscribed_eq houtline]
        split
        · exact h.queueStatus _
        · exact (h.updateTeam fun _ _ _ he => Visibility.outline_addSubscribedUser he _).queuePacket _ _

theorem twins_handleUnsubscribeCommand (h : Twins view c d) :
    Twins view (handleUnsubscribeCommand c) (handleUnsubscribeCommand d) := by
  obtain ⟨m, teams, messages, index, rfl⟩ := h.exists_parts
  have hteams : teams.map view.outline = c.teams.map view.outline := h.alike.teams
  simp only [handleUnsubscribeCommand, h.getAuthenticatedUser, h.parseTeamUuid]
  split
  · exact h.queueStatus _
  · split
    · exact h.queueStatus _
    · next teamUuid _ =>
      rcases findTeamByUuid_cases hteams teamUuid with ⟨hteam, hteam'⟩ | ⟨team, team', hteam, hteam', houtline⟩
      · simp only [hteam, hteam']
        exact h.queueStatus _
      · simp only [hteam, hteam', Visibility.removed_eq houtline]
        split
        · exact (h.updateTeam fun _ _ _ he => Visibility.outline_removeSubscribedUser he _).queueStatus _
        · exact (h.updateTeam fun _ _ _ he => Visibility.outline_removeSubscribedUser he _).queuePacket _ _

theorem twins_handleSubscribedListCommand (h : Twins view c d) :
    Twins view (handleSubscribedListCommand c) (handleSubscribedListCommand d) := by
  obtain ⟨m, teams, messages, index, rfl⟩ := h.exists_parts
  have hteams : teams.map view.outline = c.teams.map view.outline := h.alike.teams
  simp only [handleSubscribedListCommand, h.getAuthenticatedUser, h.parseTeamUuid, h.payloadSize]
  split
  · exact h.queueStatus _
  · next user _ =>
    split
    · have hfilter := filter_outline (p := fun team => team.isUserSubscribed user.uuid.bytes)
        (view.isUserSubscribed_outline user.uuid.bytes) hteams
      have hpayloads := map_outside view.buildTeamPayload_outline hfilter
      have hpackets := congrArg (List.map fun payload => (c.clientFd, (⟨.subscribedList, payload⟩ : Packet))) hpayloads
      rw [List.map_map, List.map_map] at hpackets
      rw [queueSubscribedTeamsList, queueSubscribedTeamsList]
      simp only [Function.comp_def] at hpackets
      simp only [hpackets]
      exact (h.queuePackets _).queueStatus _
    · split
      · exact h.queueStatus _
      · next teamUuid _ =>
        rcases findTeamByUuid_cases hteams teamUuid with ⟨hteam, hteam'⟩ | ⟨team, team', hteam, hteam', houtline⟩
        · simp only [hteam, hteam']
          exact h.queueStatus _
        · obtain ⟨-, -, -, hsubscribers⟩ := Visibility.outside_eq houtline
          simp only [hteam, hteam', queueUsersList, hsubscribers]
          exact (h.queuePackets _).queueStatus _

theorem twins_handleUseCommand (h : Twins view c d) :
    Twins view (handleUseCommand c) (handleUseCommand d) := by
  obtain ⟨m, teams, messages, index, rfl⟩ := h.exists_parts
  simp only [handleUseCommand, h.payloadSize]
  split
  · exact h.queueStatus _
  · split
    · exact h.queueStatus _
    · split
      · exact h.queueStatus _
      · exact (h.setContext _ _ _ _).queueStatus _

/-- The authenticated user may look into the team of the context, if it is subscribed to it. -/
def Looks (view : Visibility) (c : CommandContext) : Prop :=
  ∀ user team, getAuthenticatedUser c = some user → findTeamByUuid c.teams c.contextTeamUuid = some team →
    team.isUserSubscribed user.uuid.bytes = true → view.seesTeam c.contextTeamUuid = true

/-- The team of the context is found in both, or in none; a subscriber finds the same one. -/
theorem Twins.contextTeam (h : Twins view c d) (hlooks : Looks view c) {user : User}
    (huser : TeamsMirror.getAuthenticatedUser c = some user) :
    findTeamByUuid c.teams c.contextTeamUuid = none ∧ findTeamByUuid d.teams c.contextTeamUuid = none ∨
      ∃ team team', findTeamByUuid c.teams c.contextTeamUuid = some team ∧
        findTeamByUuid d.teams c.contextTeamUuid = some team' ∧
        team'.isUserSubscribed user.uuid.bytes = team.isUserSubscribed user.uuid.bytes ∧
        (team.isUserSubscribed user.uuid.bytes = true → view.seesTeam c.contextTeamUuid = true ∧ team' = team) := by
  rcases findTeamByUuid_cases h.alike.teams c.contextTeamUuid with
    hnone | ⟨team, team', hteam, hteam', houtline⟩
  · exact .inl hnone
  · refine .inr ⟨team, team', hteam, hteam', Visibility.isUserSubscribed_eq houtline _, fun hsubscribed => ?_⟩
    have hsees := hlooks user team huser hteam hsubscribed
    have huuid : team.uuid.bytes = c.contextTeamUuid := by simpa using List.find?_some hteam
    exact ⟨hsees, Visibility.eq_of_sees houtline (huuid ▸ hsees)⟩

/-- What may be looked at in one may be looked at in the other. -/
theorem Twins.looks (h : Twins view c d) (hlooks : Looks view c) : Looks view d := by
  obtain ⟨hteamUuid, -, -⟩ := h.contextUuids
  intro user team' huser hteam' hsubscribed
  rw [h.getAuthenticatedUser] at huser
  rw [hteamUuid] at hteam' ⊢
  rcases findTeamByUuid_cases h.alike.teams c.contextTeamUuid with
    ⟨-, hnone⟩ | ⟨team, found, hteam, hfound, houtline⟩
  · rw [hnone] at hteam'
    cases hteam'
  · obtain rfl : found = team' := Option.some.inj (hfound.symm.trans hteam')
    rw [Visibility.isUserSubscribed_eq houtline] at hsubscribed
    exact hlooks user team huser hteam hsubscribed

theorem twins_handleListCommand (h : Twins view c d) (hlooks : Looks view c) :
    Twins view (handleListCommand c) (handleListCommand d) := by
  obtain ⟨hteamUuid, hchannelUuid, hthreadUuid⟩ := h.contextUuids
  have hcontext := fun user => @Twins.contextTeam view c d h hlooks user
  obtain ⟨m, teams, messages, index, rfl⟩ := h.exists_parts
  have hlist := fun packets => (h.queuePackets packets).queueStatus .ok
  have hteams : teams.map view.outline = c.teams.map view.outline := h.alike.teams
  simp only [handleListCommand, h.payloadSize, h.getAuthenticatedUser, hteamUuid, hchannelUuid, hthreadUuid]
  split
  · exact h.queueStatus _
  · split
    · exact h.queueStatus _
    · next user huser =>
      split
      · exact h.queueStatus _
      · split
        · rw [queueTeamsList, queueTeamsList, map_outside view.buildTeamPayload_outline hteams]
          exact hlist _
        · rcases hcontext user huser with ⟨hteam, hteam'⟩ | ⟨team, team', hteam, hteam', hsubscribed, hsame⟩
          · simp only [hteam, hteam']
            exact h.queueStatus _
          · simp only [hteam, hteam', hsubscribed]
            split
            · exact h.queueStatus _
            · next hmember =>
              obtain ⟨-, rfl⟩ := hsame (not_not.mp hmember)
              split
              · exact hlist _
              · split
                · exact h.queueStatus _
                · split
                  · exact hlist _
                  · split
                    · exact h.queueStatus _
                    · exact hlist _

theorem twins_handleInfoCommand (h : Twins view c d) (hlooks : Looks view c) :
    Twins view (handleInfoCommand c) (handleInfoCommand d) := by
  obtain ⟨hteamUuid, hchannelUuid, hthreadUuid⟩ := h.contextUuids
  have hcontext := fun user => @Twins.contextTeam view c d h hlooks user
  obtain ⟨m, teams, messages, index, rfl⟩ := h.exists_parts
  simp only [handleInfoCommand, h.payloadSize, h.getAuthenticatedUser, hteamUuid, hchannelUuid, hthreadUuid]
  split
  · exact h.queueStatus _
  · split
    · exact h.queueStatus _
    · next user huser =>
      split
      · exact h.queueStatus _
      · split
        · exact h.queuePacket _ _
        · rcases hcontext user huser with ⟨hteam, hteam'⟩ | ⟨team, team', hteam, hteam', hsubscribed, hsame⟩
          · simp only [hteam, hteam']
            exact h.queueStatus _
          · simp only [hteam, hteam', hsubscribed]
            split
            · exact h.queueStatus _
            · next hmember =>
              obtain ⟨-, rfl⟩ := hsame (not_not.mp hmember)
              split
              · exact h.queuePacket _ _
              · split
                · exact h.queueStatus _
                · split
                  · exact h.queuePacket _ _
                  · split
                    · exact h.queueStatus _
                    · exact h.queuePacket _ _

namespace Twins

/-- A write to a team that is seen. -/
theorem updateSeen (h : Twins view c d) {teamUuid : Bytes} (hsees : view.seesTeam teamUuid = true)
    (f : Team → Team) :
    Twins view { c with teams := TeamsMirror.updateTeam c.teams teamUuid f }
      { d with teams := TeamsMirror.updateTeam d.teams teamUuid f } :=
  h.updateTeam fun _ _ huuid houtline => by rw [Visibility.eq_of_sees houtline (huuid ▸ hsees)]

theorem environment (h : Twins view c d) : d.environment = c.environment := by
  rw [h.rest]

theorem generateUniqueTeamUuid (h : Twins view c d) : generateUniqueTeamUuid d = generateUniqueTeamUuid c := by
  rw [TeamsMirror.generateUniqueTeamUuid, TeamsMirror.generateUniqueTeamUuid, h.environment]
  refine generateUnused_congr fun draw _ => ?_
  rcases findTeamByUuid_cases h.alike.teams (generateUuid draw) with
    ⟨hteam, hteam'⟩ | ⟨team, team', hteam, hteam', -⟩
  · rw [hteam, hteam']
  · rw [hteam, hteam']
    rfl

theorem generateUniqueChannelUuid (h : Twins view c d) (hundrawn : view.Undrawn c.teams c.environment)
    (hundrawn' : view.Undrawn d.teams c.environment) :
    generateUniqueChannelUuid d = generateUniqueChannelUuid c := by
  rw [TeamsMirror.generateUniqueChannelUuid, TeamsMirror.generateUniqueChannelUuid, h.environment]
  exact generateUnused_channel h.alike.teams hundrawn hundrawn'

theorem generateUniqueThreadUuid (h : Twins view c d) (hundrawn : view.Undrawn c.teams c.environment)
    (hundrawn' : view.Undrawn d.teams c.environment) :
    generateUniqueThreadUuid d = generateUniqueThreadUuid c := by
  rw [TeamsMirror.generateUniqueThreadUuid, TeamsMirror.generateUniqueThreadUuid, h.environment]
  exact generateUnused_thread h.alike.teams hundrawn hundrawn'

/-- The channel that a subscriber of the context's team finds. -/
theorem resolve (h : Twins view c d) (hlooks : Looks view c) {user : User}
    (huser : TeamsMirror.getAuthenticatedUser c = some user) :
    resolveContextTeamChannel d user = resolveContextTeamChannel c user := by
  obtain ⟨hteamUuid, hchannelUuid, -⟩ := h.contextUuids
  rw [resolveContextTeamChannel, resolveContextTeamChannel, hteamUuid, hchannelUuid]
  rcases h.contextTeam hlooks huser with ⟨hteam, hteam'⟩ | ⟨team, team', hteam, hteam', hsubscribed, hsame⟩
  · rw [hteam, hteam']
  · simp only [hteam, hteam', hsubscribed]
    split
    · rfl
    · next hmember =>
      obtain ⟨-, rfl⟩ := hsame (not_not.mp hmember)
      rfl

end Twins

/-- What was resolved may be looked into. -/
theorem Looks.sees_of_resolve (hlooks : Looks view c) {user : User} {team : Team} {channel : Channel}
    (huser : getAuthenticatedUser c = some user)
    (hresolve : resolveContextTeamChannel c user = .ok (team, channel)) :
    view.seesTeam team.uuid.bytes = true := by
  rw [resolveContextTeamChannel] at hresolve
  split at hresolve
  · cases hresolve
  · next found hfound =>
    split at hresolve
    · cases hresolve
    · next hmember =>
      split at hresolve
      · cases hresolve
      · cases hresolve
        have huuid : team.uuid.bytes = c.contextTeamUuid := by simpa using List.find?_some hfound
        rw [huuid]
        exact hlooks user team huser hfound (not_not.mp hmember)

theorem twins_handleCreateTeam (h : Twins view c d) (user : User) :
    Option.Rel (Twins view) (handleCreateTeam c user) (handleCreateTeam d user) := by
  have hunique := h.generateUniqueTeamUuid
  obtain ⟨m, teams, messages, index, rfl⟩ := h.exists_parts
  have hteams : teams.map view.outline = c.teams.map view.outline := h.alike.teams
  have hparse : ∀ m teams messages index, parseCreateTeamPayload { c with
      clientManager := m, teams := teams, messages := messages, authenticatedUsersByUUID := index } =
        parseCreateTeamPayload c := fun _ _ _ _ => rfl
  have hname : ∀ name, (teams.any fun team => decide (team.name.bytes = name)) =
      c.teams.any fun team => decide (team.name.bytes = name) := by
    intro name
    exact any_outline (fun team => by rw [Visibility.name_outline]) hteams
  simp only [handleCreateTeam, hparse, hunique, hname]
  split
  · exact .some (h.queueStatus _)
  · split
    · exact .some (h.queueStatus _)
    · cases generateUniqueTeamUuid c with
      | none => exact .none
      | some uuid =>
        refine .some (((h.setTeams ?_).queuePacket _ _).queuePackets _)
        rw [List.map_append, List.map_append, hteams]

theorem twins_handleCreateChannel (h : Twins view c d) (hlooks : Looks view c)
    (hundrawn : view.Undrawn c.teams c.environment) (hundrawn' : view.Undrawn d.teams c.environment) {user : User}
    (huser : getAuthenticatedUser c = some user) :
    Option.Rel (Twins view) (handleCreateChannel c user) (handleCreateChannel d user) := by
  obtain ⟨hteamUuid, -, -⟩ := h.contextUuids
  have hunique := h.generateUniqueChannelUuid hundrawn hundrawn'
  have hcontext := h.contextTeam hlooks huser
  obtain ⟨m, teams, messages, index, rfl⟩ := h.exists_parts
  have hparse : ∀ m teams messages index, parseCreateChannelPayload { c with
      clientManager := m, teams := teams, messages := messages, authenticatedUsersByUUID := index } =
        parseCreateChannelPayload c := fun _ _ _ _ => rfl
  simp only [handleCreateChannel, hparse, hunique, hteamUuid]
  split
  · exact .some (h.queueStatus _)
  · rcases hcontext with ⟨hteam, hteam'⟩ | ⟨team, team', hteam, hteam', hsubscribed, hsame⟩
    · simp only [hteam, hteam']
      exact .some (h.queueStatus _)
    · simp only [hteam, hteam', hsubscribed]
      split
      · exact .some (h.queueStatus _)
      · next hmember =>
        obtain ⟨hsees, rfl⟩ := hsame (not_not.mp hmember)
        split
        · exact .some (h.queueStatus _)
        · cases generateUniqueChannelUuid c with
          | none => exact .none
          | some uuid => exact .some (((h.updateSeen hsees _).queuePacket _ _).queuePackets _)

theorem twins_handleCreateThread (h : Twins view c d) (hlooks : Looks view c)
    (hundrawn : view.Undrawn c.teams c.environment) (hundrawn' : view.Undrawn d.teams c.environment) {user : User}
    (huser : getAuthenticatedUser c = some user) :
    Option.Rel (Twins view) (handleCreateThread c user) (handleCreateThread d user) := by
  have hunique := h.generateUniqueThreadUuid hundrawn hundrawn'
  have hresolve := h.resolve hlooks huser
  obtain ⟨m, teams, messages, index, rfl⟩ := h.exists_parts
  have hparse : ∀ m teams messages index, parseCreateThreadPayload { c with
      clientManager := m, teams := teams, messages := messages, authenticatedUsersByUUID := index } =
        parseCreateThreadPayload c := fun _ _ _ _ => rfl
  simp only [handleCreateThread, hparse, hunique, hresolve]
  split
  · exact .some (h.queueStatus _)
  · split
    · exact .some (h.queueStatus _)
    · next team channel hok =>
      split
      · exact .some (h.queueStatus _)
      · cases generateUniqueThreadUuid c with
        | none => exact .none
        | some uuid =>
          have hsees := hlooks.sees_of_resolve huser hok
          exact .some (((h.updateSeen hsees _).queuePacket _ _).queuePackets _)

theorem twins_handleCreateReply (h : Twins view c d) (hlooks : Looks view c) {user : User}
    (huser : getAuthenticatedUser c = some user) :
    Twins view (handleCreateReply c user) (handleCreateReply d user) := by
  have hresolve := h.resolve hlooks huser
  obtain ⟨-, -, hthreadUuid⟩ := h.contextUuids
  obtain ⟨m, teams, messages, index, rfl⟩ := h.exists_parts
  have hparse : ∀ m teams messages index, parseCreateReplyPayload { c with
      clientManager := m, teams := teams, messages := messages, authenticatedUsersByUUID := index } =
        parseCreateReplyPayload c := fun _ _ _ _ => rfl
  simp only [handleCreateReply, hparse, hresolve, hthreadUuid]
  split
  · exact h.queueStatus _
  · split
    · exact h.queueStatus _
    · next team channel hok =>
      split
      · exact h.queueStatus _
      · have hsees := hlooks.sees_of_resolve huser hok
        exact ((h.updateSeen hsees _).queuePacket _ _).queuePackets _

theorem twins_handleCreateCommand (h : Twins view c d) (hlooks : Looks view c)
    (hundrawn : view.Undrawn c.teams c.environment) (hundrawn' : view.Undrawn d.teams c.environment) :
    Option.Rel (Twins view) (handleCreateCommand c) (handleCreateCommand d) := by
  obtain ⟨hteamUuid, hchannelUuid, hthreadUuid⟩ := h.contextUuids
  simp only [handleCreateCommand, h.getAuthenticatedUser, hteamUuid, hchannelUuid, hthreadUuid]
  split
  · exact .some (h.queueStatus _)
  · next user huser =>
    split
    · exact .some (h.queueStatus _)
    · split
      · exact .some (h.queueStatus _)
      · split
        · exact twins_handleCreateTeam h _
        · split
          · exact twins_handleCreateChannel h hlooks hundrawn hundrawn' huser
          · split
            · exact twins_handleCreateThread h hlooks hundrawn hundrawn' huser
            · exact .some (twins_handleCreateReply h hlooks huser)

theorem twins_sendMessage (h : Twins view c d) (message : Message) :
    Twins view (sendMessage c message) (sendMessage d message) := by
  rw [sendMessage_eq rfl, sendMessage_eq rfl, h.alike.sessions]
  have hindex := fun uuid => (UnorderedMap.getD_lookup_getOrInsert message.receiverUuid.bytes uuid []
    d.authenticatedUsersByUUID).trans ((h.getD_lookup uuid).trans
      (UnorderedMap.getD_lookup_getOrInsert message.receiverUuid.bytes uuid [] c.authenticatedUsersByUUID).symm)
  obtain ⟨m, teams, messages, index, rfl⟩ := h.exists_parts
  exact (h.setSessions _ hindex).queuePackets _

theorem twins_handleSendCommand (h : Twins view c d) :
    Twins view (handleSendCommand c) (handleSendCommand d) := by
  obtain ⟨m, teams, messages, index, rfl⟩ := h.exists_parts
  have hmessage := fun message => twins_sendMessage (h.addMessage message) message
  simp only [handleSendCommand, h.payloadSize]
  split
  · exact h.queueStatus _
  · split
    · exact h.queueStatus _
    · split
      · split
        · exact h.queueStatus _
        · split
          · exact (hmessage _).queueStatus _
          · exact h.queueStatus _
      · exact h.queueStatus _

/-- The user logged in on the connection reads no hidden message. -/
def ReadsVisible (view : Visibility) (c : CommandContext) : Prop :=
  ∀ userUuid, c.authenticatedUsersByFd.lookup c.clientFd = some userUuid →
    ∀ message : Message, message.authorUuid.bytes = userUuid ∨ message.receiverUuid.bytes = userUuid →
      view.seesMessage message = true

theorem filterMessages_visible {messages : List Message} {clientUuid targetUuid : Bytes}
    (hvisible : ∀ message : Message, message.authorUuid.bytes = clientUuid ∨
      message.receiverUuid.bytes = clientUuid → view.seesMessage message = true) :
    filterMessages messages clientUuid targetUuid =
      filterMessages (messages.filter view.seesMessage) clientUuid targetUuid := by
  rw [filterMessages, filterMessages, List.filter_filter]
  refine List.filter_congr fun message _ => ?_
  by_cases h : message.authorUuid.bytes = clientUuid ∨ message.receiverUuid.bytes = clientUuid
  · rw [hvisible message h, Bool.and_true]
  · obtain ⟨hauthor, hreceiver⟩ := not_or.mp h
    simp [hauthor, hreceiver]

theorem twins_handleMessagesCommand (h : Twins view c d) (hreads : ReadsVisible view c) :
    Twins view (handleMessagesCommand c) (handleMessagesCommand d) := by
  obtain ⟨m, teams, messages, index, rfl⟩ := h.exists_parts
  simp only [handleMessagesCommand, h.payloadSize]
  split
  · exact h.queueStatus _
  · split
    · exact h.queueStatus _
    · next clientUuid hclient =>
      split
      · exact h.queueStatus _
      · next targetUuid _ =>
        have hvisible := hreads clientUuid hclient
        have hleft : filterMessages messages clientUuid targetUuid = _ := filterMessages_visible hvisible
        have hright : filterMessages c.messages clientUuid targetUuid = _ := filterMessages_visible hvisible
        have hmessages : messages.filter view.seesMessage = c.messages.filter view.seesMessage := h.alike.messages
        rw [hleft, hright, hmessages]
        split
        · exact h.queueStatus _
        · split
          · exact h.queueStatus _
          · exact (h.queuePackets _).queueStatus _

/-- A request is answered from what may be seen, and draws no uuid that is hidden. -/
structure Answerable (view : Visibility) (c : CommandContext) (code : UInt16) : Prop where
  messages : code = CommandID.messages.code → ReadsVisible view c
  teams : code ∈ [CommandID.info.code, CommandID.create.code, CommandID.list.code] → Looks view c
  draws : code = CommandID.create.code → view.Undrawn c.teams c.environment

/-- Where all is seen, every request is answerable. -/
theorem Answerable.all (c : CommandContext) (code : UInt16) : Answerable .all c code where
  messages _ _ _ _ _ := rfl
  teams _ _ _ _ _ _ := rfl
  draws _ := Visibility.undrawn_of_sees fun _ => rfl

/-- A request that is answerable is answered alike. -/
theorem twins_dispatchCommand (h : Twins view c d) {code : UInt16} (hanswerable : Answerable view c code)
    (hundrawn : code = CommandID.create.code → view.Undrawn d.teams c.environment) :
    Option.Rel (Twins view) (dispatchCommand c code) (dispatchCommand d code) := by
  rw [dispatchCommand, dispatchCommand]
  split
  · exact .some (h.queueStatus _)
  · next entry hentry =>
    have hmem := List.mem_of_find?_eq_some hentry
    have hcode : entry.1 = code := by simpa using List.find?_some hentry
    simp only [commandHandlers, List.mem_cons, List.not_mem_nil, or_false] at hmem
    rcases hmem with rfl | rfl | rfl | rfl | rfl | rfl | rfl | rfl | rfl | rfl | rfl | rfl | rfl
    · exact twins_handleLoginCommand h
    · exact .some (twins_handleUsersCommand h)
    · exact .some (twins_handleUserCommand h)
    · exact .some (twins_handleInfoCommand h (hanswerable.teams (by simp [← hcode])))
    · exact .some (twins_handleLogoutCommand h)
    · exact .some (twins_handleUseCommand h)
    · exact twins_handleCreateCommand h (hanswerable.teams (by simp [← hcode])) (hanswerable.draws hcode.symm)
        (hundrawn hcode.symm)
    · exact .some (twins_handleListCommand h (hanswerable.teams (by simp [← hcode])))
    · exact .some (twins_handleSubscribeCommand h)
    · exact .some (twins_handleUnsubscribeCommand h)
    · exact .some (twins_handleSubscribedListCommand h)
    · exact .some (twins_handleMessagesCommand h (hanswerable.messages hcode.symm))
    · exact .some (twins_handleSendCommand h)

namespace Server.Alike

variable {s t : Server}

theorem refl (view : Visibility) (s : Server) : s.Alike view s := ⟨rfl, rfl, rfl, fun _ => rfl, fun _ => rfl⟩

theorem trans {u : Server} (h : s.Alike view t) (h' : t.Alike view u) : s.Alike view u := by
  refine ⟨?_, h'.teams.trans h.teams, h'.messages.trans h.messages,
    fun uuid => (h'.sessions uuid).trans (h.sessions uuid), fun fd => (h'.places fd).trans (h.places fd)⟩
  rw [h'.rest, h.rest]

theorem symm (h : s.Alike view t) : t.Alike view s := by
  refine ⟨?_, h.teams.symm, h.messages.symm, fun uuid => (h.sessions uuid).symm, fun fd => (h.places fd).symm⟩
  rw [h.rest]

/-- What the servers have in common. -/
theorem fields (h : s.Alike view t) :
    t.listenFd = s.listenFd ∧ t.users = s.users ∧ t.clientSockets = s.clientSockets ∧
      t.authenticatedUsersByFd = s.authenticatedUsersByFd := by
  refine ⟨?_, ?_, ?_, ?_⟩ <;> rw [h.rest]

/-- A change of buffers. -/
theorem setManager {m : ClientManager} (hm : ∀ fd, m.place fd = s.clientManager.place fd) :
    s.Alike view { s with clientManager := m } := ⟨rfl, rfl, rfl, fun _ => rfl, hm⟩

theorem deliver (s : Server) (packets : List (Fd × Packet)) : s.Alike view (s.deliver packets) := by
  refine setManager fun fd => ?_
  rw [ClientManager.place, ClientManager.place, ClientManager.find, ClientManager.find,
    ClientManager.lookup_sendAll, Option.map_map]
  rfl

theorem context (h : s.Alike view t) (fd : Fd) (payload : Bytes) (environment : Environment) :
    Twins view (s.context fd payload environment) (t.context fd payload environment) := by
  refine ⟨h, ?_⟩
  rw [h.rest]
  rfl

theorem accepted (h : s.Alike view t) (fd : Fd) : (s.accepted fd).Alike view (t.accepted fd) := by
  refine ⟨?_, h.teams, h.messages, h.sessions, fun fd' => ?_⟩
  · conv_lhs => rw [h.rest]
    rfl
  · simp only [Server.accepted, ClientManager.place_addClient, h.places]

/-- The connection is closed after its disconnection was handled. -/
theorem removed {c d : CommandContext} (h : s.Alike view t) (htwins : Twins view c d) (fd : Fd) :
    (s.removed c fd).Alike view (t.removed d fd) := by
  obtain ⟨-, -, hsockets, -⟩ := h.fields
  obtain ⟨m, teams, messages, index, rfl⟩ := htwins.exists_parts
  refine ⟨?_, htwins.alike.teams, htwins.alike.messages, htwins.alike.sessions, fun fd' => ?_⟩
  · rw [Server.removed, Server.removed, hsockets]
  · simp only [Server.removed, ClientManager.place_removeClient]
    split
    · rfl
    · exact htwins.alike.places fd'

end Server.Alike

end TeamsMirror
