import TeamsMirror.Server.Noninterference
import TeamsMirror.Server.Provenance

/-!
# What a team contains is kept from outsiders

As long as a user is not subscribed to a team, it cannot tell what its subscribers do
there: not from the lists, not from the events, not from what is refused, and not from
the order or the number of packets. The one thing that what is inside leaves a trace of
is which uuids can still be drawn; a run in which none of these is drawn shows nothing.
-/

namespace TeamsMirror

open Lists

/-- The environment from which a request to create something draws. -/
def Transaction.creation? : Transaction → Option Environment
  | .request _ code _ environment => if code = CommandID.create.code then some environment else none
  | .accept _ | .disconnect _ => none

namespace Server

/-- All private messages, and the teams that are not hidden. -/
def outsider (hidden : Bytes → Bool) : Visibility := ⟨fun _ => true, fun teamUuid => !hidden teamUuid⟩

/-- Somebody else reads or creates something in a hidden team, or tries to. -/
def inside (hidden : Bytes → Bool) (userUuid : Bytes) (s : Server) : Transaction → Bool
  | .request fd code _ _ =>
    ((s.authenticatedUsersByFd.lookup fd).any fun uuid => uuid ≠ userUuid) &&
      (hidden (s.clientManager.getContextTeamUuid fd) &&
        (code = CommandID.info.code || (code = CommandID.create.code || code = CommandID.list.code)))
  | .accept _ | .disconnect _ => false

/-- The user is in no hidden team, and what is created elsewhere gets no uuid that a hidden team has. -/
structure Outside (hidden : Bytes → Bool) (userUuid : Bytes) (s : Server) (e : Event) : Prop where
  unsubscribed : ∀ team ∈ s.teams, hidden team.uuid.bytes = true → team.isUserSubscribed userUuid = false
  undrawn : ∀ transaction ∈ s.transactions e, s.inside hidden userUuid transaction = false →
    ∀ environment ∈ transaction.creation?, (outsider hidden).Undrawn s.teams environment

instance (view : Visibility) (teams : List Team) (environment : Environment) :
    Decidable (view.Undrawn teams environment) :=
  inferInstanceAs (Decidable (∀ draw ∈ environment.draw :: environment.redraws, _ ∧ _))

instance (hidden : Bytes → Bool) (userUuid : Bytes) (s : Server) (e : Event) :
    Decidable (s.Outside hidden userUuid e) :=
  decidable_of_iff (_ ∧ _) ⟨fun h => ⟨h.1, h.2⟩, fun h => ⟨h.1, h.2⟩⟩

/-- Nothing is in the hidden teams. -/
def Blank (hidden : Bytes → Bool) (s : Server) : Prop :=
  ∀ team ∈ s.teams, hidden team.uuid.bytes = true → team.channels = []

variable {hidden : Bytes → Bool} {userUuid : Bytes} {s s' t t' : Server} {queued : List (Fd × Packet)}

/-- A subscriber of a team that the user is not in is somebody else. -/
theorem observes_toSubscribers {team : Team} (hteam : team.isUserSubscribed userUuid = false) (packet : Packet) :
    ∀ q ∈ toSubscribers s team packet, s.observes userUuid q.1 = false := by
  intro q hq
  obtain ⟨entry, hentry, rfl⟩ := List.mem_map.mp hq
  obtain ⟨hmem, hsubscribed⟩ := List.mem_filter.mp hentry
  have hlookup := UnorderedMap.mem_entries_iff.mp hmem
  refine observes_eq_false hlookup ?_
  intro he
  rw [he, hteam] at hsubscribed
  cases hsubscribed

/-- A change of what is in a hidden team is not seen. -/
theorem alike_updateTeam {teamUuid : Bytes} (hhidden : hidden teamUuid = true) {f : Team → Team}
    (hf : ∀ team, ∃ channels, f team = { team with channels := channels }) :
    s.Alike (outsider hidden) (s.setTeams (updateTeam s.teams teamUuid f)) where
  rest := rfl
  teams := by
    refine map_modifyFirst_of (fun team hteam => ?_) s.teams
    obtain ⟨channels, he⟩ := hf team
    have huuid : team.uuid.bytes = teamUuid := of_decide_eq_true hteam
    rw [he, Visibility.outline_eq_of_hidden]
    simp [outsider, huuid, hhidden]
  messages := rfl
  sessions _ := rfl
  places _ := rfl

/-- Whatever is created in the team of the context is told to its subscribers. -/
theorem created_inside {fd : Fd} {payload : Bytes} {environment : Environment}
    (hunsubscribed : ∀ team ∈ s.teams, hidden team.uuid.bytes = true → team.isUserSubscribed userUuid = false)
    (hfd : s.observes userUuid fd = false) (hhidden : hidden (s.clientManager.getContextTeamUuid fd) = true)
    {user : User} {team : Team} (hin : InTeam (s.context fd payload environment) user team) {f : Team → Team}
    (hf : ∀ team, ∃ channels, f team = { team with channels := channels }) (reply event : Packet) :
    s.Alike (outsider hidden) (s.setTeams (updateTeam s.teams team.uuid.bytes f)) ∧
      ∀ q ∈ toClient (s.context fd payload environment) [reply] ++ toSubscribers s team event,
        s.observes userUuid q.1 = false := by
  have hteam : team ∈ s.teams := List.mem_of_find?_eq_some hin.found
  have huuid : team.uuid.bytes = s.clientManager.getContextTeamUuid fd := uuid_of_findTeam hin.found
  have hhidden : hidden team.uuid.bytes = true := huuid ▸ hhidden
  refine ⟨alike_updateTeam hhidden hf, fun q hq => ?_⟩
  rcases List.mem_append.mp hq with hq | hq
  · exact observes_toClient hfd _ _ _ q hq
  · exact observes_toSubscribers (hunsubscribed team hteam hhidden) event q hq

/-- What somebody else does in a hidden team changes nothing that the user sees, and is told to others. -/
theorem inside_step (hempty : hidden [] = false) {e : Event} (houtside : s.Outside hidden userUuid e)
    {transaction : Transaction} (hinside : s.inside hidden userUuid transaction = true)
    (hs : s.transact transaction = some (s', queued)) :
    s.Alike (outsider hidden) s' ∧ s.observed userUuid queued = [] := by
  cases transaction with
  | accept | disconnect => cases hinside
  | request fd code payload environment =>
  obtain ⟨-, hsome⟩ := Option.ite_none_right_eq_some.mp hs
  obtain ⟨c, hdispatch, he⟩ := Option.map_eq_some_iff.mp hsome
  obtain ⟨rfl, rfl⟩ := Prod.mk.inj he
  obtain ⟨hother, hinside⟩ := (Bool.and_eq_true _ _).mp hinside
  obtain ⟨hhidden, hcode⟩ := (Bool.and_eq_true _ _).mp hinside
  obtain ⟨uuid, huuid, hne⟩ := (Option.any_eq_true _ _).mp hother
  have hfd : s.observes userUuid fd = false := observes_eq_false huuid (of_decide_eq_true hne)
  simp only [Bool.or_eq_true, decide_eq_true_eq] at hcode
  rcases hcode with rfl | rfl | rfl
  · obtain ⟨middle, packets, heffect, rfl⟩ := dispatch_command hdispatch
    cases heffect with
    | refused | answered => exact unseen_perform (.refl _ s) (observes_toClient hfd _ _ _)
  · cases handleCreate_cases hdispatch with
    | refused => exact unseen_perform (.refl _ s) (observes_toClient hfd payload environment [.ofStatus _])
    | team _ hnone =>
      have hnone : s.clientManager.getContextTeamUuid fd = [] := hnone
      rw [hnone, hempty] at hhidden
      cases hhidden
    | channel hin _ _ _ _ _ hchannel =>
      obtain ⟨halike, hpackets⟩ := created_inside houtside.unsubscribed hfd hhidden hin (fun _ => ⟨_, rfl⟩) _ _
      have huuid := uuid_of_findTeam hin.found
      rw [huuid] at halike
      exact unseen_perform halike hpackets
    | thread hin =>
      obtain ⟨halike, hpackets⟩ := created_inside houtside.unsubscribed hfd hhidden hin.toInTeam (fun _ => ⟨_, rfl⟩) _ _
      exact unseen_perform halike hpackets
    | reply hin =>
      obtain ⟨halike, hpackets⟩ := created_inside houtside.unsubscribed hfd hhidden hin.toInTeam (fun _ => ⟨_, rfl⟩) _ _
      exact unseen_perform halike hpackets
  · obtain ⟨middle, packets, heffect, rfl⟩ := dispatch_command hdispatch
    cases heffect with
    | refused | answered => exact unseen_perform (.refl _ s) (observes_toClient hfd _ _ _)

/-- Who looks at a hidden team is somebody else, or is not subscribed to it. -/
theorem looks_of_outside {e : Event} (houtside : s.Outside hidden userUuid e) {fd : Fd} {code : UInt16}
    {payload : Bytes} {environment : Environment}
    (hcode : code ∈ [CommandID.info.code, CommandID.create.code, CommandID.list.code])
    (hpublic : s.inside hidden userUuid (.request fd code payload environment) = false) :
    Looks (outsider hidden) (s.context fd payload environment) := by
  intro user team huser hteam hsubscribed
  have hlookup : s.authenticatedUsersByFd.lookup fd = some user.uuid.bytes := lookup_of_authenticated huser
  have huuid := uuid_of_findTeam hteam
  have hmem : team ∈ s.teams := List.mem_of_find?_eq_some hteam
  show (!hidden _) = true
  rw [Bool.not_eq_true', ← Bool.not_eq_true]
  intro hhidden
  rw [← huuid] at hhidden
  by_cases he : user.uuid.bytes = userUuid
  · rw [he, houtside.unsubscribed team hmem hhidden] at hsubscribed
    cases hsubscribed
  · have huuid : team.uuid.bytes = s.clientManager.getContextTeamUuid fd := huuid
    simp [inside, hlookup, he, ← huuid, hhidden] at hpublic
    simp [hpublic] at hcode

theorem Blank.undrawn (h : t.Blank hidden) (environment : Environment) :
    (outsider hidden).Undrawn t.teams environment := by
  intro draw _
  have hchannels : ∀ team ∈ t.teams.filter fun team => !(outsider hidden).seesTeam team.uuid.bytes,
      team.channels = [] := by
    intro team hteam
    obtain ⟨hmem, hsees⟩ := List.mem_filter.mp hteam
    exact h team hmem (by simpa [outsider] using hsees)
  simp only [isChannelUuidUsed, isThreadUuidUsed, List.any_eq_false]
  constructor <;> intro team hteam <;> simp [hchannels team hteam]

/-- Everything else is answered from what the user may see. -/
theorem answerable_outside {e : Event} (houtside : s.Outside hidden userUuid e) (hblank : t.Blank hidden)
    {transaction : Transaction} (hmem : transaction ∈ s.transactions e)
    (hpublic : s.inside hidden userUuid transaction = false) : s.Answerable (outsider hidden) t transaction := by
  cases transaction with
  | accept | disconnect => trivial
  | request fd code payload environment =>
    refine ⟨⟨fun _ _ _ _ _ => rfl, fun hcode => looks_of_outside houtside hcode hpublic, fun hcode => ?_⟩,
      fun _ => hblank.undrawn environment⟩
    refine houtside.undrawn _ hmem hpublic environment ?_
    rw [Transaction.creation?, if_pos hcode]
    rfl

/-- No team is filled that the sender may not look into. -/
theorem Blank.effect {context : CommandContext} {command : CommandID} {middle : Server}
    {packets : List (Fd × Packet)} (h : context.toServer.Blank hidden)
    (hlooks : command = .create → Looks (outsider hidden) context) (he : Effect context command middle packets) :
    middle.Blank hidden := by
  have hwrite : ∀ (user : User) (team : Team) (f : Team → Team), Looks (outsider hidden) context →
      InTeam context user team → (∀ team, (f team).uuid = team.uuid) →
      Blank hidden (context.toServer.setTeams (updateTeam context.teams team.uuid.bytes f)) := by
    intro user team f hlooks hin hf
    have hsees := hlooks user team hin.authenticated hin.found hin.subscribed
    have huuid := uuid_of_findTeam hin.found
    refine forall_modifyFirst_of_find h (huuid ▸ hin.found) fun hhidden => ?_
    rw [hf, huuid] at hhidden
    simp [outsider, hhidden] at hsees
  cases he with
  | subscribed | unsubscribed => exact forall_modifyFirst h fun _ hteam => hteam
  | createdTeam _ _ _ _ hteam =>
    refine List.forall_mem_append.mpr ⟨h, List.forall_mem_singleton.mpr fun _ => ?_⟩
    rw [hteam]
    rfl
  | createdChannel hin =>
    have huuid := uuid_of_findTeam hin.found
    exact huuid ▸ hwrite _ _ _ (hlooks rfl) hin fun _ => rfl
  | createdThread hin => exact hwrite _ _ _ (hlooks rfl) hin.toInTeam fun _ => rfl
  | createdReply hin => exact hwrite _ _ _ (hlooks rfl) hin.toInTeam fun _ => rfl
  | _ => exact h

theorem Blank.transact (h : t.Blank hidden) (halike : s.Alike (outsider hidden) t) {transaction : Transaction}
    (hanswerable : s.Answerable (outsider hidden) t transaction)
    (ht : t.transact transaction = some (t', queued)) : t'.Blank hidden := by
  cases transaction with
  | accept fd =>
    obtain ⟨-, hsome⟩ := Option.ite_none_right_eq_some.mp ht
    cases hsome
    exact h
  | request fd code payload environment =>
    obtain ⟨-, hsome⟩ := Option.ite_none_right_eq_some.mp ht
    obtain ⟨c, hdispatch, he⟩ := Option.map_eq_some_iff.mp hsome
    obtain ⟨rfl, -⟩ := Prod.mk.inj he
    obtain ⟨middle, packets, hends, rfl⟩ := dispatch_ends hdispatch
    cases hends with
    | @command command _ _ hcode heffect =>
      have hstart : Blank hidden (t.context fd payload environment).toServer := h
      have hblank : middle.Blank hidden := hstart.effect (fun he =>
        (halike.context fd payload environment).looks (hanswerable.1.teams (by simp [hcode, he]))) heffect
      rw [toServer_perform]
      exact hblank
    | unknown =>
      rw [toServer_perform]
      exact h
  | disconnect fd =>
    have hhandle : t.handle (.disconnect fd) = some (t', queued) := ht
    obtain ⟨-, middle, hd, rfl⟩ := handle_disconnect hhandle
    cases hd with
    | anonymous | known | unknown => exact h

theorem teams_unseen (hempty : hidden [] = false) (userUuid : Bytes) :
    Unseen userUuid (outsider hidden) (inside hidden userUuid) (fun _ => True) (Blank hidden)
      (Outside hidden userUuid) where
  hidden _ houtside _ hinside hs := inside_step hempty houtside hinside hs
  answerable _ houtside hblank hmem hpublic := answerable_outside houtside hblank hmem hpublic
  stays _ houtside halike hblank hmem hpublic ht :=
    hblank.transact halike (answerable_outside houtside hblank hmem hpublic) ht
  kept _ _ := trivial

/-- Two runs in which a user is in no hidden team, from stores that differ in what these teams contain, and
that differ in what others do there, show the user the same packets and leave it the same store. -/
theorem teams_unobserved (hempty : hidden [] = false) (userUuid : Bytes) {listenFd : Fd} {users : List User}
    {teams teams' : List Team} {messages : List Message} {events events' : List Event}
    (hteams : teams'.map (outsider hidden).outline = teams.map (outsider hidden).outline)
    (houtside : Runs.Always step (Outside hidden userUuid) (start listenFd users teams messages) events)
    (houtside' : Runs.Always step (Outside hidden userUuid) (start listenFd users teams' messages) events')
    (hrun : Runs.run step (start listenFd users teams messages) events = some s)
    (hrun' : Runs.run step (start listenFd users teams' messages) events' = some s')
    (hpublic : Runs.collect step (publicOf (inside hidden userUuid)) (start listenFd users teams' messages) events' =
      Runs.collect step (publicOf (inside hidden userUuid)) (start listenFd users teams messages) events) :
    Runs.collect step (observedAt userUuid) (start listenFd users teams' messages) events' =
        Runs.collect step (observedAt userUuid) (start listenFd users teams messages) events ∧
      s.Alike (outsider hidden) s' := by
  let outlined := teams.map (outsider hidden).outline
  have hidem : outlined.map (outsider hidden).outline = outlined := by
    rw [List.map_map]
    exact List.map_congr_left fun team _ => Visibility.outline_outline team
  have hblank : (start listenFd users outlined messages).Blank hidden := by
    intro team hteam hhidden
    obtain ⟨team, -, rfl⟩ := List.mem_map.mp hteam
    rw [Visibility.uuid_outline] at hhidden
    simp [Visibility.outline, outsider, hhidden]
  have hstart : (start listenFd users teams messages).Alike (outsider hidden)
      (start listenFd users outlined messages) := ⟨rfl, hidem, rfl, fun _ => rfl, fun _ => rfl⟩
  have hstart' : (start listenFd users teams' messages).Alike (outsider hidden)
      (start listenFd users outlined messages) := ⟨rfl, hidem.trans hteams.symm, rfl, fun _ => rfl, fun _ => rfl⟩
  exact (teams_unseen hempty userUuid).runs_alike trivial trivial hblank hstart hstart' houtside houtside' hrun
    hrun' hpublic

/-- Two users, of whom the second goes to a team and the first asks for the list of teams. -/
def idleRun (teamUuid : Bytes) : List Event :=
  [.accept 4, .accept 5, .receive 4 (Request.login [97]).packet, .dispatch 4 default,
    .receive 5 (Request.login [98]).packet, .dispatch 5 default, .receive 5 (Request.use teamUuid [] []).packet,
    .dispatch 5 default, .receive 4 Request.list.packet, .dispatch 4 default]

/-- The same, but the second creates a channel there and looks at it. -/
def busyRun (teamUuid : Bytes) : List Event :=
  (idleRun teamUuid).take 8 ++
  [.receive 5 (Request.createChannel [99] []).packet, .dispatch 5 default,
    .receive 5 Request.list.packet, .dispatch 5 default] ++ (idleRun teamUuid).drop 8

theorem teams_unobserved_busy :
    let uuid := fun n => generateUuid fun _ => n
    let users := [User.new (uuid 1) [97] false, User.new (uuid 2) [98] false]
    let start := start 3 users [(Team.new (uuid 9) [100] []).addSubscribedUser (uuid 2)] []
    ∃ s s', Runs.run step start (idleRun (uuid 9)) = some s ∧ Runs.run step start (busyRun (uuid 9)) = some s' ∧
      s.teams.map (fun team => team.channels.length) = [0] ∧
      s'.teams.map (fun team => team.channels.length) = [1] ∧
      Runs.collect step (observedAt (uuid 1)) start (busyRun (uuid 9)) =
        Runs.collect step (observedAt (uuid 1)) start (idleRun (uuid 9)) := by
  intro uuid users start
  let hidden : Bytes → Bool := fun teamUuid => decide (teamUuid = uuid 9)
  have hfacts : ((Runs.run step start (idleRun (uuid 9))).bind fun s =>
      (Runs.run step start (busyRun (uuid 9))).map fun s' =>
        decide (s.teams.map (fun team => team.channels.length) = [0]) &&
        decide (s'.teams.map (fun team => team.channels.length) = [1]) &&
        decide (Runs.Always step (Outside hidden (uuid 1)) start (idleRun (uuid 9))) &&
        decide (Runs.Always step (Outside hidden (uuid 1)) start (busyRun (uuid 9))) &&
        decide ((Runs.collect step (publicOf (inside hidden (uuid 1))) start (busyRun (uuid 9))).map
            Transaction.key =
          (Runs.collect step (publicOf (inside hidden (uuid 1))) start (idleRun (uuid 9))).map
            Transaction.key)) = some true := by
    decide +kernel
  obtain ⟨s, hs, hfacts⟩ := Option.bind_eq_some_iff.mp hfacts
  obtain ⟨s', hs', hfacts⟩ := Option.map_eq_some_iff.mp hfacts
  simp only [Bool.and_eq_true, decide_eq_true_eq] at hfacts
  obtain ⟨⟨⟨⟨hnone, hone⟩, houtside⟩, houtside'⟩, hkeys⟩ := hfacts
  have hidle : ∀ fd environment, .dispatch fd environment ∈ idleRun (uuid 9) → environment = default := by
    simp only [idleRun, List.mem_cons, Event.dispatch.injEq]
    grind
  have hbusy : ∀ fd environment, .dispatch fd environment ∈ busyRun (uuid 9) → environment = default := by
    simp only [busyRun, idleRun, List.take, List.drop, List.mem_append, List.mem_cons, Event.dispatch.injEq]
    grind
  have hpublic := congrArg (List.map Transaction.ofKey) hkeys
  rw [map_ofKey_publicOf hbusy, map_ofKey_publicOf hidle] at hpublic
  exact ⟨s, s', hs, hs', hnone, hone,
    (teams_unobserved (by decide) (uuid 1) rfl houtside houtside' hs hs' hpublic).1⟩

end Server

end TeamsMirror
