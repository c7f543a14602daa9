import TeamsMirror.Database.Lifetimes
import TeamsMirror.Server.Naming
import TeamsMirror.Server.References

/-!
# Integrity

A property of users, teams and messages that the empty database has, that every
event of a running server keeps and that depends on users through their identity
alone, holds in every life of the server as long as saves are complete. Uuids and
names are unique in this way, each in its scope, and no reference to a user dangles.
-/

namespace TeamsMirror

namespace World

/-- A process that ends has written all files to their end, or was killed before it opened one. -/
def Whole (w : World) : Event → Prop
  | .server _ => True
  | .restart outcome _ =>
    WritesAll w.disk w.server.users w.server.teams w.server.messages outcome ∨ ∀ file, outcome file = .notOpened

instance (w : World) : ∀ e : Event, Decidable (w.Whole e)
  | .server _ => isTrue trivial
  | .restart outcome _ =>
    inferInstanceAs (Decidable (WritesAll w.disk w.server.users w.server.teams w.server.messages outcome ∨
      ∀ file, outcome file = .notOpened))

/-- In neither case is a write made again. -/
theorem Whole.unrepeated {w : World} {e : Event} (h : w.Whole e) : w.Unrepeated e := by
  cases e with
  | server => trivial
  | restart outcome listenFd =>
    intro file
    rcases h with hsaved | hkilled
    · exact hsaved.unrepeated file
    · rw [hkilled file]
      trivial

theorem sound_of_whole {listenFd : Fd} {disk : Disk} {events : List Event} {w : World}
    (hempty : ∀ file, readTextFile (disk file) = [])
    (hwhole : Runs.Always step Whole (boot listenFd disk) events)
    (hrun : Runs.run step (boot listenFd disk) events = some w) : w.Sound :=
  Runs.run_invariant_of (fun _ _ _ h hwhole hs => h.step hwhole.unrepeated hs) (.boot_empty hempty listenFd)
    hwhole hrun

end World

/-- A property of what is stored that is not lost, neither to a step nor to a restart. -/
structure Kept (P : List User → List Team → List Message → Prop) : Prop where
  empty : P [] [] []
  identity : ∀ {users users' : List User} {teams : List Team} {messages : List Message},
    users'.map User.identity = users.map User.identity → P users teams messages → P users' teams messages
  step : ∀ {s s' : Server} {e : Event} {queued : List (Fd × Packet)}, s.Known →
    s.handle e = some (s', queued) → P s.users s.teams s.messages → P s'.users s'.teams s'.messages

/-- Nothing is loaded from files without lines. -/
theorem load_empty {disk : Disk} (hempty : ∀ file, readTextFile (disk file) = []) :
    (load disk).2 = ⟨[], [], []⟩ := by
  have hparsed : ∀ file, parseLines (readTextFile (disk file)) file 124 = [] := by
    intro file
    rw [hempty file]
    rfl
  simp only [load, hparsed]
  split
  · rfl
  · rfl

/-- A save that opens no file leaves the directory as it was. -/
theorem save_notOpened {disk : Disk} {users : List User} {teams : List Team} {messages : List Message}
    {outcome : DataFile → WriteOutcome} (h : ∀ file, outcome file = .notOpened) :
    (save disk users teams messages outcome).1 = disk := by
  funext file
  simp only [save, h file]
  rfl

namespace Kept

variable {P : List User → List Team → List Message → Prop}

/-- The property, of what is in memory and of what would be loaded. -/
structure Holds (P : List User → List Team → List Message → Prop) (w : World) : Prop where
  server : P w.server.users w.server.teams w.server.messages
  disk : P (load w.disk).2.users (load w.disk).2.teams (load w.disk).2.messages

theorem boot (hP : Kept P) {disk : Disk} (h : P (load disk).2.users (load disk).2.teams (load disk).2.messages)
    (listenFd : Fd) : Holds P (World.boot listenFd disk) where
  server := by
    refine hP.identity ?_ h
    simp only [World.boot, Server.start, List.map_map]
    exact List.map_congr_left fun _ _ => rfl
  disk := h

/-- An empty database is as good as none. -/
theorem boot_empty (hP : Kept P) {disk : Disk} (hempty : ∀ file, readTextFile (disk file) = []) (listenFd : Fd) :
    Holds P (World.boot listenFd disk) := by
  apply hP.boot
  rw [load_empty hempty]
  exact hP.empty

theorem holds_step (hP : Kept P) {w w' : World} {e : World.Event} (hsound : w.Sound) (h : Holds P w)
    (hwhole : w.Whole e) (hs : w.step e = some w') : Holds P w' := by
  cases e with
  | server e =>
    obtain ⟨s, hstep, rfl⟩ := Option.map_eq_some_iff.mp hs
    obtain ⟨queued, hhandle⟩ := Server.step_eq_some.mp hstep
    exact ⟨hP.step hsound.known hhandle h.server, h.disk⟩
  | restart outcome listenFd =>
    obtain rfl := Option.some.inj hs
    apply hP.boot
    rcases hwhole with hsaved | hkilled
    · rw [World.saved, hsaved.disk]
      obtain ⟨users, hload, husers⟩ := load_savedDisk hsound.storable
      rw [hload]
      exact hP.identity husers h.server
    · rw [World.saved, save_notOpened hkilled]
      exact h.disk

/-- The rule: from an empty database, through any number of lives. -/
theorem run (hP : Kept P) {listenFd : Fd} {disk : Disk} {events : List World.Event} {w : World}
    (hempty : ∀ file, readTextFile (disk file) = [])
    (hwhole : Runs.Always World.step World.Whole (World.boot listenFd disk) events)
    (hrun : Runs.run World.step (World.boot listenFd disk) events = some w) :
    P w.server.users w.server.teams w.server.messages := by
  have hstart : (World.boot listenFd disk).Sound := .boot_empty hempty listenFd
  have hboth : w.Sound ∧ Holds P w := by
    refine Runs.run_invariant_of (P := fun w => w.Sound ∧ Holds P w) ?_ ⟨hstart, hP.boot_empty hempty listenFd⟩
      hwhole hrun
    rintro w e w' ⟨hsound, h⟩ hwhole hs
    exact ⟨hsound.step hwhole.unrepeated hs, hP.holds_step hsound h hwhole hs⟩
  exact hboth.2.server

end Kept

/-- Uuids are unique in the whole database, names under one parent. -/
structure Unique (users : List User) (teams : List Team) : Prop where
  userUuids : (users.map User.uuid).Nodup
  userNames : (users.map User.name).Nodup
  teamUuids : (teams.map Team.uuid).Nodup
  teamNames : (teams.map Team.name).Nodup
  channelUuids : (teams.flatMap Team.channelUuids).Nodup
  channelNames : ∀ t ∈ teams, (t.channels.map Channel.name).Nodup
  threadUuids : (teams.flatMap Team.threadUuids).Nodup
  threadTitles : ∀ t ∈ teams, ∀ c ∈ t.channels, (c.threads.map Thread.title).Nodup
  subscribers : ∀ t ∈ teams, t.subscribedUserUuids.Nodup

theorem Unique.of_distinct {users : List User} {teams : List Team} {messages : List Message}
    (h : Storable users teams messages) (hdistinct : Distinct users teams) : Unique users teams where
  userUuids := hdistinct.userUuids
  userNames := hdistinct.userNames
  teamUuids := h.teamUuids
  teamNames := hdistinct.teamNames
  channelUuids := h.channelUuids
  channelNames t ht := (hdistinct.teams t ht).channelNames
  threadUuids := h.threadUuids
  threadTitles t ht := (hdistinct.teams t ht).threadTitles
  subscribers t ht := (hdistinct.teams t ht).subscribers

theorem identities_of_identity {users users' : List User}
    (h : users'.map User.identity = users.map User.identity) :
    (users'.map fun u => (u.uuid, u.name)) = users.map fun u => (u.uuid, u.name) := by
  induction users' generalizing users with
  | nil =>
    obtain rfl := List.map_eq_nil_iff.mp h.symm
    rfl
  | cons u' users' ih =>
    obtain ⟨u, rest, rfl, hhead, htail⟩ := List.map_eq_cons_iff.mp h.symm
    obtain ⟨huuid, hname⟩ := Prod.mk.inj hhead
    rw [List.map_cons, List.map_cons, ih htail.symm, CString.ext huuid, CString.ext hname]

theorem kept_distinct : Kept fun users teams _ => Distinct users teams where
  empty := .empty
  identity hsame h := h.congr (identities_of_identity hsame)
  step _ hs h := Server.Distinct.step h hs

namespace World

/-- In every life of a server whose saves are complete, no uuid and no name stands twice in its
scope: a uuid of a channel or thread among all teams, a name among its siblings. -/
theorem uuids_and_names_unique {listenFd : Fd} {disk : Disk} {events : List Event} {w : World}
    (hempty : ∀ file, readTextFile (disk file) = [])
    (hwhole : Runs.Always step Whole (boot listenFd disk) events)
    (hrun : Runs.run step (boot listenFd disk) events = some w) :
    Unique w.server.users w.server.teams :=
  .of_distinct (sound_of_whole hempty hwhole hrun).storable
    (kept_distinct.run hempty hwhole hrun)

/-- Two users create a team each; the server is stopped and started again, and then the second team gets
two channels. -/
def twoTeamsRun : List Event :=
  let secondTeamUuid := generateUuid (drawing 4).draw
  [.server (.accept 4), .server (.accept 5),
    .server (.receive 4 (Request.login [97]).packet), .server (.dispatch 4 (drawing 1)),
    .server (.receive 5 (Request.login [98]).packet), .server (.dispatch 5 (drawing 2)),
    .server (.receive 4 (Request.createTeam [97] []).packet), .server (.dispatch 4 (drawing 3)),
    .server (.receive 5 (Request.createTeam [98] []).packet), .server (.dispatch 5 (drawing 4)),
    .restart (fun _ => .opened [] 1000) 3,
    .server (.accept 4), .server (.receive 4 (Request.login [98]).packet), .server (.dispatch 4 default),
    .server (.receive 4 (Request.use secondTeamUuid [] []).packet), .server (.dispatch 4 default),
    .server (.receive 4 (Request.createChannel [99] []).packet), .server (.dispatch 4 (drawing 5)),
    .server (.receive 4 (Request.createChannel [100] []).packet), .server (.dispatch 4 (drawing 6))]

theorem uuids_and_names_unique_two_teams :
    ∃ w, Runs.run step (boot 3 fun _ => none) twoTeamsRun = some w ∧
      w.server.users.map (fun u => u.name.bytes) = [[97], [98]] ∧
      w.server.teams.map (fun t => (t.name.bytes, t.channels.map fun c => c.name.bytes)) =
        [([97], []), ([98], [[99], [100]])] ∧ Unique w.server.users w.server.teams := by
  have hfacts : (Runs.run step (boot 3 fun _ => none) twoTeamsRun).map (fun w =>
      (w.server.users.map fun u => u.name.bytes,
        w.server.teams.map fun t => (t.name.bytes, t.channels.map fun c => c.name.bytes))) =
      some ([[97], [98]], [([97], []), ([98], [[99], [100]])]) := by decide +kernel
  obtain ⟨w, hw, hfacts⟩ := Option.map_eq_some_iff.mp hfacts
  obtain ⟨husers, hteams⟩ := Prod.mk.inj hfacts
  exact ⟨w, hw, husers, hteams, uuids_and_names_unique (fun _ => rfl) (by decide +kernel) hw⟩

end World

theorem kept_referential : Kept Referential where
  empty := .empty
  identity hsame h := by
    have huuids := congrArg (List.map Prod.fst) (identities_of_identity hsame)
    rw [List.map_map, List.map_map] at huuids
    exact h.setUsers fun _ hu => huuids.symm ▸ hu
  step hknown hs h := Server.Referential.step h hknown hs

namespace World

/-- In every life of a server whose saves are complete, sessions, subscriptions, authors and
receivers are users: every handler finds the user of its connection, and no subscriber is
passed over. -/
theorem references_resolve {listenFd : Fd} {disk : Disk} {events : List Event} {w : World}
    (hempty : ∀ file, readTextFile (disk file) = [])
    (hwhole : Runs.Always step Whole (boot listenFd disk) events)
    (hrun : Runs.run step (boot listenFd disk) events = some w) :
    Referential w.server.users w.server.teams w.server.messages ∧ w.server.Known ∧
      ∀ context : CommandContext, context.toServer = w.server →
        (∀ uuid, context.authenticatedUsersByFd.lookup context.clientFd = some uuid →
          ∃ user ∈ context.users, Server.Resolves context uuid user) ∧
        ∀ t ∈ context.teams, ∃ users : List User, users.map User.uuid = t.subscribedUserUuids ∧
          (∀ user ∈ users, user ∈ context.users) ∧
          queueUsersList context t =
            queueStatus (queuePackets context
              (users.map fun user => (context.clientFd, ⟨.usersList, buildUserPayload user⟩))) .ok := by
  have hreferential := kept_referential.run hempty hwhole hrun
  have hknown := (sound_of_whole hempty hwhole hrun).known
  refine ⟨hreferential, hknown, ?_⟩
  intro context hcontext
  rw [← hcontext] at hknown
  have hteams : context.toServer.Referential := by
    rw [hcontext]
    exact hreferential
  refine ⟨fun uuid huuid => ?_, fun t ht => hteams.queueUsersList_eq ht⟩
  obtain ⟨user, hresolves⟩ := hknown.resolves huuid
  exact ⟨user, mem_users_of_authenticated hresolves.authenticated, hresolves⟩

/-- A user with a team writes to itself, before a restart after which it logs in again. -/
def oneUserRun : List Event :=
  [.server (.accept 4), .server (.receive 4 (Request.login [97]).packet), .server (.dispatch 4 default),
    .server (.receive 4 (Request.createTeam [98] []).packet), .server (.dispatch 4 default),
    .server (.receive 4 (Request.send (generateUuid (default : Environment).draw) [104]).packet),
    .server (.dispatch 4 default), .restart (fun _ => .opened [] 1000) 3,
    .server (.accept 4), .server (.receive 4 (Request.login [97]).packet), .server (.dispatch 4 default)]

theorem references_resolve_one_user :
    ∃ w, Runs.run step (boot 3 fun _ => none) oneUserRun = some w ∧
      (w.server.authenticatedUsersByFd.keys, w.server.teams.map (fun t => t.subscribedUserUuids.length),
        w.server.messages.length) = ([4], [1], 1) ∧
      Referential w.server.users w.server.teams w.server.messages ∧ w.server.Known := by
  obtain ⟨w, hw⟩ : ∃ w, Runs.run step (boot 3 fun _ => none) oneUserRun = some w :=
    Option.isSome_iff_exists.mp (by decide +kernel)
  have hstored : (Runs.run step (boot 3 fun _ => none) oneUserRun).map (fun w =>
      (w.server.authenticatedUsersByFd.keys, w.server.teams.map (fun t => t.subscribedUserUuids.length),
        w.server.messages.length)) = some ([4], [1], 1) := by decide +kernel
  rw [hw] at hstored
  have hresolve := references_resolve (fun _ => rfl) (by decide +kernel) hw
  exact ⟨w, hw, Option.some.inj hstored, hresolve.1, hresolve.2.1⟩

end World

end TeamsMirror
