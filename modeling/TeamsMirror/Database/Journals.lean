import TeamsMirror.Database.Histories
import TeamsMirror.Server.Replay

/-!
# The journal of all lives

Processes that report to the library, one after the other in one directory. A process
that a refused call ends, or that is killed, does not save, so that the calls of its
life outlast what they report; those of the lives that were saved rebuild the directory,
and with the calls of the running process they rebuild what it holds.
-/

namespace TeamsMirror

open Lists Logging

inductive Process where
  | running (server : Server)
  | stopped

/-- The server that runs, if any. -/
def Process.server? : Process → Option Server
  | .running server => some server
  | .stopped => none

theorem Process.server?_eq_some {process : Process} {s : Server} (h : process.server? = some s) :
    process = .running s := by
  cases process with
  | running server => exact congrArg _ (Option.some.inj h)
  | stopped => cases h

/-- The server of one directory, with the calls it has made. -/
structure Station where
  process : Process
  disk : Disk
  /-- Everything that the library was told. -/
  journal : List LogCall
  /-- The calls of the lives that ended with a save of all files. -/
  durable : List LogCall
  /-- The calls of the present process. -/
  life : List LogCall
  /-- The calls of each life that came to its end. -/
  finished : List (List LogCall)

namespace Station

/-- What may happen: a process is started, takes a step, is told to stop, or is killed. -/
inductive Event where
  | boot (listenFd : Fd)
  | server (e : TeamsMirror.Event)
  | stop (outcome : DataFile → WriteOutcome)
  | kill

def new (disk : Disk) : Station := ⟨.stopped, disk, [], [], [], []⟩

/-- An exception has left `main`. -/
def crashed (st : Station) (journal : List LogCall) : Station :=
  { st with process := .stopped, journal := journal, life := [] }

variable (lib : LoggingServer)

def step (st : Station) : Event → Option Station
  | .boot listenFd =>
    match st.process with
    | .running _ => none
    | .stopped =>
      let server := (World.boot listenFd st.disk).server
      match Logs.loadUsers lib server.users st.journal with
      | .error journal => some (st.crashed journal)
      | .ok (_, journal) =>
        some { st with
          process := .running server
          journal := journal
          life := journal.drop st.journal.length }
  | .server e =>
    match st.process with
    | .stopped => none
    | .running server =>
      match Logs.handle lib server e st.journal with
      | .error journal => some (st.crashed journal)
      | .ok (none, _) => none
      | .ok (some (server, _), journal) =>
        some { st with
          process := .running server
          journal := journal
          life := st.life ++ journal.drop st.journal.length }
  | .stop outcome =>
    match st.process with
    | .stopped => none
    | .running server =>
      match Logs.logoutUsers lib server.authenticatedUsersByFd st.journal with
      | .error journal => some (st.crashed journal)
      | .ok (_, journal) =>
        let life := st.life ++ journal.drop st.journal.length
        some
          { process := .stopped
            disk := (save st.disk server.users server.teams server.messages outcome).1
            journal := journal
            durable := if WritesAll st.disk server.users server.teams server.messages outcome then st.durable ++ life
              else st.durable
            life := []
            finished := st.finished ++ [life] }
  | .kill =>
    match st.process with
    | .stopped => none
    | .running _ => some (st.crashed st.journal)

/-- A process that comes to its end writes all files to their end, or opens none. -/
def Whole (st : Station) : Event → Prop
  | .stop outcome =>
    match st.process with
    | .running server =>
      WritesAll st.disk server.users server.teams server.messages outcome ∨ ∀ file, outcome file = .notOpened
    | .stopped => True
  | _ => True

instance (st : Station) : ∀ e : Event, Decidable (st.Whole e)
  | .stop outcome =>
    match h : st.process with
    | .running server =>
      decidable_of_iff (WritesAll st.disk server.users server.teams server.messages outcome ∨
        ∀ file, outcome file = .notOpened) (by simp only [Whole, h])
    | .stopped => isTrue (by simp only [Whole, h])
  | .boot _ | .server _ | .kill => isTrue trivial

/-- It saves all files, and is not killed. -/
def Orderly (st : Station) : Event → Prop
  | .kill => False
  | .stop outcome =>
    match st.process with
    | .running server => WritesAll st.disk server.users server.teams server.messages outcome
    | .stopped => True
  | _ => True

/-- The calls of the loop over the users loaded. -/
def loads (users : List User) : List LogCall := users.map fun u => .userLoaded u.uuid.bytes u.name.bytes

/-- The calls of `logoutUsers`. -/
def logouts (sessions : UnorderedMap Fd Bytes) : List LogCall :=
  sessions.entries.map fun e => .userLoggedOut (beforeNul e.2)

variable {lib}

theorem loadUsers_writes (users : List User) :
    Writes lib.accepts (Logs.loadUsers lib users) () (loads users) := by
  simp only [Logs.loadUsers, ServerLogger.logUserLoaded, ServerLogger.call, beforeNul_stored]
  exact writes_forM _ users

theorem logoutUsers_writes (sessions : UnorderedMap Fd Bytes) :
    Writes lib.accepts (Logs.logoutUsers lib sessions) () (logouts sessions) :=
  writes_forM _ sessions.entries

variable (lib) in
/-- All that can happen to a station. A call that is refused ends the process, whatever it was made for. -/
inductive Steps (st : Station) : Event → Station → Prop where
  | killed : Steps st .kill (st.crashed st.journal)
  | crashed {e : Event} {made : List LogCall} {call : LogCall} : lib (st.journal ++ made) call < 0 →
      Steps st e (st.crashed (st.journal ++ made ++ [call]))
  | boot {listenFd : Fd} {server : Server} : st.process = .stopped →
      server = (World.boot listenFd st.disk).server →
      Steps st (.boot listenFd)
        { st with
          process := .running server
          journal := st.journal ++ loads server.users
          life := loads server.users }
  | server {e : TeamsMirror.Event} {s s' : Server} {queued : List (Fd × Packet)} {calls : List LogCall} :
      st.process = .running s → s.handle e = some (s', queued) →
      Journaled s.ledger e.fd s'.ledger queued calls →
      Steps st (.server e)
        { st with process := .running s', journal := st.journal ++ calls, life := st.life ++ calls }
  | stop {outcome : DataFile → WriteOutcome} {s : Server} {life : List LogCall} : st.process = .running s →
      life = st.life ++ logouts s.authenticatedUsersByFd →
      Steps st (.stop outcome)
        { process := .stopped
          disk := (save st.disk s.users s.teams s.messages outcome).1
          journal := st.journal ++ logouts s.authenticatedUsersByFd
          durable := if WritesAll st.disk s.users s.teams s.messages outcome then st.durable ++ life
            else st.durable
          life := []
          finished := st.finished ++ [life] }

variable {st st' : Station}

/-- A computation ends early where a call is refused. -/
theorem crashed_of_error {α : Type} {logged : Logged LogCall α} {a : α} {calls : List LogCall} {e : Event}
    (h : Writes lib.accepts logged a calls) {journal : List LogCall} (he : logged st.journal = .error journal) :
    Steps lib st e (st.crashed journal) := by
  rw [h st.journal] at he
  cases hentries : entries lib.accepts st.journal calls with
  | ok => rw [hentries] at he; cases he
  | error made =>
    rw [hentries] at he
    cases he
    obtain ⟨made, call, rest, -, rfl, hrefused⟩ := exists_of_entries_error hentries
    exact .crashed (by simpa [LoggingServer.accepts] using hrefused)

theorem step_cases {e : Event} (h : st.step lib e = some st') : Steps lib st e st' := by
  cases e with
  | boot listenFd =>
    simp only [step] at h
    split at h
    · cases h
    next hprocess =>
    have hwrites := @loadUsers_writes lib (World.boot listenFd st.disk).server.users
    split at h
    · next journal herror => exact Option.some.inj h ▸ crashed_of_error hwrites herror
    · next journal hok =>
      obtain ⟨-, rfl⟩ := Prod.mk.inj (hwrites.eq_of_ok hok)
      rw [List.drop_left] at h
      exact Option.some.inj h ▸ .boot hprocess rfl
  | server e =>
    simp only [step] at h
    split at h
    · cases h
    next s hprocess =>
    obtain ⟨calls, hwrites, hjournaled⟩ := handle_accounts lib s e
    split at h
    · next journal herror => exact Option.some.inj h ▸ crashed_of_error hwrites herror
    · cases h
    · next s' queued journal hok =>
      obtain ⟨hhandle, rfl⟩ := Prod.mk.inj (hwrites.eq_of_ok hok)
      rw [List.drop_left] at h
      exact Option.some.inj h ▸ .server hprocess hhandle.symm (hjournaled _ _ hhandle.symm)
  | stop outcome =>
    simp only [step] at h
    split at h
    · cases h
    next s hprocess =>
    have hwrites := @logoutUsers_writes lib s.authenticatedUsersByFd
    split at h
    · next journal herror => exact Option.some.inj h ▸ crashed_of_error hwrites herror
    · next journal hok =>
      obtain ⟨-, rfl⟩ := Prod.mk.inj (hwrites.eq_of_ok hok)
      rw [List.drop_left] at h
      exact Option.some.inj h ▸ .stop hprocess rfl
  | kill =>
    simp only [step] at h
    split at h
    · cases h
    · exact Option.some.inj h ▸ .killed

theorem adjust_eq_self {α : Type} {key : α → Bytes} {k : Bytes} {f : α → α} {l : List α}
    (h : ∀ x ∈ l, key x = k → f x = x) : adjust key k f l = l := by
  refine (List.map_congr_left fun x hx => ?_).trans (List.map_id l)
  split
  · next hk => exact h x hx hk
  · rfl

/-- Loading users of whom nobody is logged in tells nothing new. -/
theorem foldl_loads {v : View} {users : List User} (hoffline : ∀ u ∈ v.users, u.online = 0)
    (hknown : ∀ u ∈ users, u.uuid.bytes ∈ v.users.map UserView.uuid) : (loads users).foldl View.apply v = v := by
  induction users with
  | nil => rfl
  | cons u users ih =>
    obtain ⟨hu, husers⟩ := List.forall_mem_cons.mp hknown
    have hsame : v.apply (.userLoaded u.uuid.bytes u.name.bytes) = v := by
      have hany : (v.users.any fun stored => stored.uuid = u.uuid.bytes) = true := by
        obtain ⟨stored, hstored, he⟩ := List.mem_map.mp hu
        exact List.any_eq_true.mpr ⟨stored, hstored, decide_eq_true he⟩
      rw [View.apply, if_pos hany, adjust_eq_self]
      intro x hx _
      rw [← hoffline x hx]
    rw [loads, List.map_cons, List.foldl_cons, hsame]
    exact ih husers

/-- Logouts take away from the counter of each user as many connections as they name. -/
theorem foldl_logouts (v : View) (uuids : List Bytes) :
    (uuids.map LogCall.userLoggedOut).foldl View.apply v =
      { v with users := v.users.map fun u => { u with online := u.online - uuids.count u.uuid } } := by
  induction uuids generalizing v with
  | nil => simp
  | cons uuid uuids ih =>
    rw [List.map_cons, List.foldl_cons, ih]
    simp only [View.apply, adjust, List.map_map, View.mk.injEq, and_true]
    refine List.map_congr_left fun u _ => ?_
    simp only [Function.comp_apply, List.count_cons]
    by_cases h : u.uuid = uuid
    · subst h
      simp
      omega
    · simp [h, Ne.symm h]

/-- What a user looks like when nobody is logged in. -/
def offline (identity : Bytes × Bytes) : UserView := ⟨identity.1, identity.2, 0⟩

/-- The directory, as the next process loads it. -/
def storedView (disk : Disk) : View :=
  viewOf ((load disk).2.users.map User.resetLoggedIn) (load disk).2.teams (load disk).2.messages

theorem users_storedView (disk : Disk) :
    (storedView disk).users = ((load disk).2.users.map User.identity).map offline := by
  simp only [storedView, viewOf, List.map_map]
  exact List.map_congr_left fun u _ => rfl

theorem logouts_eq {s : Server} (hknown : s.Known) :
    logouts s.authenticatedUsersByFd =
      (s.authenticatedUsersByFd.entries.map Sigma.snd).map LogCall.userLoggedOut := by
  rw [logouts, List.map_map]
  refine List.map_congr_left fun e he => ?_
  obtain ⟨u, -, -, huuid⟩ := hknown.exists_user (UnorderedMap.mem_entries_iff.mp he)
  rw [Function.comp_apply, ← huuid, beforeNul_stored]

theorem online_eq_count (s : Server) :
    s.online = fun uuid => (s.authenticatedUsersByFd.entries.map Sigma.snd).count uuid := by
  funext uuid
  rw [Server.online, UnorderedMap.keysWith, List.length_map, List.count, List.countP_map,
    List.countP_eq_length_filter]
  congr 2
  funext e
  rw [Bool.eq_iff_iff]
  simp

/-- When the counters count the connections, a shutdown brings them all to zero. -/
theorem foldl_shutdown {s : Server} (hknown : s.Known) (hcounted : s.Counted) :
    (logouts s.authenticatedUsersByFd).foldl View.apply s.ledger.view =
      { s.ledger.view with users := (s.users.map User.identity).map offline } := by
  rw [logouts_eq hknown, foldl_logouts]
  have husers : s.ledger.view.users = s.users.map User.view := rfl
  simp only [husers, List.map_map, View.mk.injEq, and_true]
  refine List.map_congr_left fun u hu => ?_
  have hcount := hcounted.count u hu
  rw [online_eq_count] at hcount
  simp only [Function.comp_apply, User.view, offline, User.identity, hcount]
  simp

/-- What the calls kept for the directory and for the process rebuild. -/
structure Rebuilt (st : Station) : Prop where
  /-- The directory is that of a world in which all is well, and so is the process. -/
  world : ∃ w : World, w.Integral ∧ w.disk = st.disk ∧ ∀ s, st.process = .running s → w.server = s
  running : ∀ s, st.process = .running s →
    s.Counted ∧ s.ledger.view = View.rebuild (st.durable ++ st.life)
  disk : storedView st.disk = View.rebuild st.durable

/-- A new process holds what the directory holds. -/
theorem view_boot (listenFd : Fd) (disk : Disk) :
    (World.boot listenFd disk).server.ledger.view = storedView disk := rfl

theorem Rebuilt.new {disk : Disk} (hempty : ∀ file, readTextFile (disk file) = []) : Rebuilt (new disk) where
  world := ⟨World.boot 0 disk, .boot hempty 0, rfl, fun s h => by cases h⟩
  running s h := by cases h
  disk := by
    simp only [storedView, Station.new, load_empty hempty]
    rfl

/-- From the directory as it is, the next process can be started. -/
theorem Rebuilt.boot (h : Rebuilt st) (listenFd : Fd) : (World.boot listenFd st.disk).Integral := by
  obtain ⟨w, hw, hdisk, -⟩ := h.world
  have hkilled : ∀ file, (fun _ : DataFile => WriteOutcome.notOpened) file = .notOpened := fun _ => rfl
  have hwhole : w.Whole (.restart (fun _ => .notOpened) listenFd) := Or.inr hkilled
  have hstep : w.step (.restart (fun _ => .notOpened) listenFd) = some (World.boot listenFd st.disk) := by
    rw [World.step, World.saved, save_notOpened hkilled, hdisk]
  exact hw.step hwhole hstep

/-- The calls with which a process starts tell nothing that the directory does not hold. -/
theorem foldl_boot (listenFd : Fd) (disk : Disk) :
    (loads (World.boot listenFd disk).server.users).foldl View.apply (storedView disk) = storedView disk := by
  refine foldl_loads (fun u hu => ?_) fun u hu => ?_
  · rw [users_storedView] at hu
    obtain ⟨identity, -, rfl⟩ := List.mem_map.mp hu
    rfl
  · exact List.mem_map.mpr ⟨u.view, List.mem_map_of_mem hu, rfl⟩

theorem coherent {w : World} {s : Server} (hw : w.Integral) (hs : w.server = s) (hcounted : s.Counted) :
    s.ledger.Coherent := by
  subst hs
  exact Server.coherent hw.sound.storable hw.distinct.server hw.sound.known hcounted

/-- After a complete save the directory holds what the calls of all lives that were saved tell. -/
theorem storedView_saved {w : World} (hw : w.Integral) (hcounted : w.server.Counted)
    {outcome : DataFile → WriteOutcome}
    (hsaved : WritesAll w.disk w.server.users w.server.teams w.server.messages outcome) :
    storedView (w.saved outcome).1 =
      (logouts w.server.authenticatedUsersByFd).foldl View.apply w.server.ledger.view := by
  obtain ⟨husers, hteams, hmessages⟩ := hw.sound.boot_saved hsaved 0
  have husers : (load (w.saved outcome).1).2.users.map User.identity = w.server.users.map User.identity := by
    rw [← husers]
    simp only [World.boot, Server.start, List.map_map]
    exact List.map_congr_left fun _ _ => rfl
  have hview : storedView (w.saved outcome).1 =
      ⟨(storedView (w.saved outcome).1).users, w.server.teams.map Team.view,
        w.server.messages.map Message.view⟩ := by
    rw [← hteams, ← hmessages]
    rfl
  rw [foldl_shutdown hw.sound.known hcounted, hview, users_storedView, husers]
  rfl

theorem Rebuilt.step {e : Event} (h : Rebuilt st) (hwhole : st.Whole e) (hs : st.step lib e = some st') :
    Rebuilt st' := by
  obtain ⟨w, hw, hdisk, hserver⟩ := h.world
  cases step_cases hs with
  | killed | crashed => exact ⟨⟨w, hw, hdisk, fun s hrun => (by cases hrun)⟩, fun s hrun => (by cases hrun), h.disk⟩
  | @boot listenFd server hprocess hbooted =>
    subst hbooted
    refine ⟨⟨_, h.boot listenFd, rfl, fun s hrun => (by cases hrun; rfl)⟩, fun s hrun => ?_, h.disk⟩
    cases hrun
    refine ⟨.start (CString.nodup_bytes (h.boot listenFd).distinct.disk.userUuids), ?_⟩
    rw [View.rebuild_append, ← h.disk, view_boot, foldl_boot]
  | @server e s s' queued calls hprocess hhandle hjournaled =>
    obtain rfl := hserver s hprocess
    obtain ⟨hcounted, hview⟩ := h.running w.server hprocess
    have hstep : w.step (.server e) = some { w with server := s' } := by
      rw [World.step, Server.step, hhandle]
      rfl
    have hwhole : w.Whole (.server e) := trivial
    refine ⟨⟨_, hw.step hwhole hstep, hdisk, fun s hrun => (by cases hrun; rfl)⟩, fun s hrun => ?_, h.disk⟩
    cases hrun
    refine ⟨hcounted.step hw.sound.known hhandle, ?_⟩
    have hrebuilt : View.rebuild (st.durable ++ (st.life ++ calls)) =
        calls.foldl View.apply w.server.ledger.view := by
      rw [← List.append_assoc, View.rebuild_append, hview]
    exact (hjournaled.view (coherent hw rfl hcounted)).trans hrebuilt.symm
  | @stop outcome s life hprocess hlife =>
    obtain rfl := hserver s hprocess
    obtain ⟨hcounted, hview⟩ := h.running w.server hprocess
    have hwhole : w.Whole (.restart outcome 0) := by
      have hstop := hwhole
      simp only [Whole, hprocess, ← hdisk] at hstop
      exact hstop
    refine ⟨⟨_, hw.step hwhole rfl, by rw [← hdisk]; rfl, fun s hrun => (by cases hrun)⟩,
      fun s hrun => (by cases hrun), ?_⟩
    simp only [← hdisk]
    by_cases hsaved : WritesAll w.disk w.server.users w.server.teams w.server.messages outcome
    · rw [if_pos hsaved, hlife, ← List.append_assoc, View.rebuild_append, ← hview]
      exact storedView_saved hw hcounted hsaved
    · have hkilled := hwhole.resolve_left hsaved
      rw [if_neg hsaved, save_notOpened hkilled, hdisk]
      exact h.disk

/-- The calls of saved lives and of the running process, in the order in which they were made. -/
def Retained (st : Station) : Prop := (st.durable ++ st.life).Sublist st.journal

theorem Retained.step {e : Event} (h : Retained st) (hs : st.step lib e = some st') : Retained st' := by
  have hdurable : st.durable.Sublist st.journal := (List.sublist_append_left _ _).trans h
  have hgrown : ∀ calls, (st.durable ++ (st.life ++ calls)).Sublist (st.journal ++ calls) := by
    intro calls
    rw [← List.append_assoc]
    exact h.append_right calls
  cases step_cases hs with
  | killed => simpa [Retained, Station.crashed] using hdurable
  | crashed =>
    simp only [Retained, Station.crashed, List.append_nil, List.append_assoc]
    exact hdurable.trans (List.sublist_append_left _ _)
  | boot => exact hdurable.append_right _
  | server => exact hgrown _
  | @stop outcome s life hprocess hlife =>
    simp only [Retained, List.append_nil]
    split
    · rw [hlife]
      exact hgrown _
    · exact hdurable.trans (List.sublist_append_left _ _)

/-- Nothing of the journal is lost. -/
structure Complete (st : Station) : Prop where
  journal : st.journal = st.durable ++ st.life
  stopped : st.process = .stopped → st.life = []

theorem Complete.step {e : Event} (hlib : ∀ journal call, 0 ≤ lib journal call) (h : Complete st)
    (horderly : st.Orderly e) (hs : st.step lib e = some st') : Complete st' := by
  cases step_cases hs with
  | killed => exact horderly.elim
  | @crashed e made call hrefused => exact absurd (hlib (st.journal ++ made) call) (by omega)
  | boot hprocess =>
    refine ⟨?_, fun hstopped => by cases hstopped⟩
    rw [h.journal, h.stopped hprocess, List.append_nil]
  | server hprocess =>
    refine ⟨?_, fun hstopped => by cases hstopped⟩
    rw [h.journal, List.append_assoc]
  | @stop outcome s life hprocess hlife =>
    simp only [Orderly, hprocess] at horderly
    refine ⟨?_, fun _ => rfl⟩
    rw [h.journal, if_pos horderly, hlife, List.append_nil, List.append_assoc]

/-- Whichever calls the library refuses, and wherever processes are killed: the calls of the lives that were
saved rebuild what the directory holds, those and the calls of the running process rebuild what it
holds, and both stand in the journal in their order. When no call is refused, no process is killed and
every save is complete, they are the journal. -/
theorem journal_rebuilds_store {disk : Disk} {events : List Event}
    (hempty : ∀ file, readTextFile (disk file) = [])
    (hwhole : Runs.Always (step lib) Whole (new disk) events)
    (hrun : Runs.run (step lib) (new disk) events = some st) :
    (∀ s, st.process = .running s →
      View.rebuild (st.durable ++ st.life) = viewOf s.users s.teams s.messages) ∧
    View.rebuild st.durable = storedView st.disk ∧
    (st.durable ++ st.life).Sublist st.journal ∧
    ((∀ journal call, 0 ≤ lib journal call) → Runs.Always (step lib) Orderly (new disk) events →
      st.durable ++ st.life = st.journal) := by
  have hrebuilt : Rebuilt st :=
    Runs.run_invariant_of (fun _ _ _ h hwhole hs => h.step hwhole hs) (.new hempty) hwhole hrun
  have hnew : Retained (new disk) := List.Sublist.refl []
  have hretained : Retained st := Runs.run_invariant (fun _ _ _ h hs => h.step hs) hnew hrun
  refine ⟨fun s hs => (hrebuilt.running s hs).2.symm, hrebuilt.disk.symm, hretained, fun hlib horderly => ?_⟩
  have hcomplete : Complete st := by
    refine Runs.run_invariant_of (fun _ _ _ h horderly hs => h.step hlib horderly hs) ?_ horderly hrun
    exact ⟨rfl, fun _ => rfl⟩
  exact hcomplete.journal.symm

/-- A library that refuses to be told of unsubscriptions. -/
def refusingLib : LoggingServer
  | _, .userUnsubscribed _ _ => -1
  | _, _ => 0

/-- A user creates a team, and leaves it in the next life, which ends there and then. -/
def leftTeamRun : List Event :=
  let team := generateUuid (default : Environment).draw
  let login : List Event := [.boot 3, .server (.accept 4),
    .server (.receive 4 (Request.login [97]).packet), .server (.dispatch 4 default)]
  login ++ [.server (.receive 4 (Request.createTeam [98] []).packet), .server (.dispatch 4 default),
      .stop fun _ => .opened [] 1000] ++
    login ++ [.server (.receive 4 (Request.unsubscribe team).packet), .server (.dispatch 4 default)] ++
    login

theorem journal_rebuilds_store_refused :
    ∃ st s, Runs.run (step refusingLib) (new fun _ => none) leftTeamRun = some st ∧
      st.process = .running s ∧
      View.rebuild (st.durable ++ st.life) = viewOf s.users s.teams s.messages ∧
      (st.durable ++ st.life).Sublist st.journal ∧
      (let uuid := generateUuid (default : Environment).draw
      st.durable ++ st.life = [.userCreated uuid [97], .userLoggedIn uuid, .teamCreated uuid [98] uuid,
        .userLoggedOut uuid, .userLoaded uuid [97], .userLoggedIn uuid] ∧ st.journal.length = 9) := by
  have hfacts : (Runs.run (step refusingLib) (new fun _ => none) leftTeamRun).map (fun st =>
      (st.durable ++ st.life, st.journal.length)) =
      some ([.userCreated (generateUuid (default : Environment).draw) [97],
        .userLoggedIn (generateUuid (default : Environment).draw),
        .teamCreated (generateUuid (default : Environment).draw) [98]
          (generateUuid (default : Environment).draw),
        .userLoggedOut (generateUuid (default : Environment).draw),
        .userLoaded (generateUuid (default : Environment).draw) [97],
        .userLoggedIn (generateUuid (default : Environment).draw)], 9) := by decide +kernel
  have hrunning : ((Runs.run (step refusingLib) (new fun _ => none) leftTeamRun).map fun st =>
      st.process.server?.isSome) = some true := by decide +kernel
  obtain ⟨st, hrun, hcalls⟩ := Option.map_eq_some_iff.mp hfacts
  rw [hrun] at hrunning
  obtain ⟨hstore, -, hsublist, -⟩ := journal_rebuilds_store (fun _ => rfl) (by decide +kernel) hrun
  cases hprocess : st.process with
  | running s =>
    exact ⟨st, s, hrun, hprocess, hstore s hprocess, hsublist, (Prod.mk.inj hcalls).1, (Prod.mk.inj hcalls).2⟩
  | stopped =>
    rw [Option.map_some, hprocess] at hrunning
    cases hrunning

/-- How many connections of each user are in, as the calls of one life tell it; `none` when a call lets
somebody out who is not in. -/
def attend (inside : Bytes → Nat) : LogCall → Option (Bytes → Nat)
  | .userLoggedIn userUuid => some (Function.update inside userUuid (inside userUuid + 1))
  | .userLoggedOut userUuid =>
    if 0 < inside userUuid then some (Function.update inside userUuid (inside userUuid - 1)) else none
  | _ => some inside

/-- A call about a session, of a user that has one. -/
theorem attend_entered {s s' : Server} {fd : Fd} {uuid : Bytes} (hfd : fd ∉ s.authenticatedUsersByFd)
    (hmap : s'.authenticatedUsersByFd = s.authenticatedUsersByFd.insert fd uuid) :
    attend s.online (.userLoggedIn uuid) = some s'.online := by
  rw [attend]
  congr 1
  funext uuid'
  rw [Server.online_insert hfd hmap, Function.update_apply]

theorem attend_left {s s' : Server} {fd : Fd} {uuid : Bytes}
    (hfd : s.authenticatedUsersByFd.lookup fd = some uuid)
    (hmap : s'.authenticatedUsersByFd = s.authenticatedUsersByFd.erase fd) :
    attend s.online (.userLoggedOut uuid) = some s'.online := by
  rw [attend, if_pos (Server.online_pos.mpr ⟨fd, hfd⟩)]
  congr 1
  funext uuid'
  rw [Server.online_erase hfd hmap, Function.update_apply]

theorem online_congr {s s' : Server} (h : s'.authenticatedUsersByFd = s.authenticatedUsersByFd) :
    s'.online = s.online := by
  funext uuid
  rw [Server.online, Server.online, h]

/-- The calls of a step count the connections as the server does. -/
theorem attend_journaled {s s' : Server} {fd : Fd} {packets : List (Fd × Packet)} {calls : List LogCall}
    (hknown : s.Known) (h : Journaled s.ledger fd s'.ledger packets calls) :
    Runs.run attend s.online calls = some s'.online := by
  have hsessions : ∀ l : Ledger, s'.ledger = l → s'.authenticatedUsersByFd = l.sessions := by
    rintro l rfl
    rfl
  generalize hl : s'.ledger = l' at h
  have hmap := hsessions l' hl
  cases h with
  | registered hfd => exact (Runs.run_singleton s.online _).trans (attend_entered hfd hmap)
  | loggedIn hfd => exact (Runs.run_singleton s.online _).trans (attend_entered hfd hmap)
  | @loggedOut uuid user replies excludedClientFd hfd huser =>
    obtain rfl : user.uuid.bytes = uuid := by simpa using List.find?_some huser
    exact (Runs.run_singleton s.online _).trans (attend_left hfd hmap)
  | forgotten packets hfd huser =>
    obtain ⟨user, hsome, -⟩ := hknown.exists_user hfd
    cases huser.symm.trans hsome
  | nothing | subscribed | unsubscribed | sent | createdTeam | createdChannel | createdThread
  | createdReply => rw [online_congr hmap]; rfl

/-- Those who are in are let out one by one. -/
theorem attend_logouts (uuids : List Bytes) :
    Runs.run attend (fun uuid => uuids.count uuid) (uuids.map LogCall.userLoggedOut) = some fun _ => 0 := by
  induction uuids with
  | nil => rfl
  | cons uuid uuids ih =>
    refine Runs.run_cons_eq_some.mpr ⟨_, ?_, ih⟩
    rw [attend, if_pos (by simp)]
    congr 1
    funext uuid'
    by_cases h : uuid' = uuid
    · simp [h]
    · simp [h, Ne.symm h]

/-- The running process counts its connections as its calls do, and the processes that have come to their
end had let everyone out. -/
structure Attended (st : Station) : Prop where
  running : ∀ s, st.process = .running s →
    s.Known ∧ Runs.run attend (fun _ => 0) st.life = some s.online
  finished : ∀ calls ∈ st.finished, Runs.run attend (fun _ => 0) calls = some fun _ => 0

theorem attend_loads (inside : Bytes → Nat) (users : List User) :
    Runs.run attend inside (loads users) = some inside := by
  induction users with
  | nil => rfl
  | cons u users ih => exact Runs.run_cons_eq_some.mpr ⟨inside, rfl, ih⟩

theorem Attended.step {e : Event} (h : Attended st) (hs : st.step lib e = some st') : Attended st' := by
  cases step_cases hs with
  | killed | crashed => exact ⟨fun s hrun => (by cases hrun), h.finished⟩
  | @boot listenFd server hprocess hbooted =>
    subst hbooted
    refine ⟨fun s hrun => ?_, h.finished⟩
    cases hrun
    refine ⟨fun fd uuid hfd => by simp [World.boot, Server.start] at hfd, ?_⟩
    exact attend_loads (fun _ => 0) _
  | @server e s s' queued calls hprocess hhandle hjournaled =>
    obtain ⟨hknown, hlife⟩ := h.running s hprocess
    refine ⟨fun t hrun => ?_, h.finished⟩
    cases hrun
    exact ⟨hknown.step hhandle, Runs.run_join hlife (attend_journaled hknown hjournaled)⟩
  | @stop outcome s life hprocess hlife =>
    obtain ⟨hknown, hattended⟩ := h.running s hprocess
    refine ⟨fun t hrun => (by cases hrun), List.forall_mem_append.mpr ⟨h.finished, ?_⟩⟩
    refine List.forall_mem_singleton.mpr ?_
    rw [hlife, logouts_eq hknown]
    refine Runs.run_join hattended ?_
    rw [online_eq_count]
    exact attend_logouts _

/-- From any directory, whichever calls are refused and whatever is saved: the calls of a process never let
out somebody who is not in, count at every moment the connections of each user, and have let
everyone out when the process has come to its end. -/
theorem sessions_attended {disk : Disk} {events : List Event}
    (hrun : Runs.run (step lib) (new disk) events = some st) :
    (∀ s, st.process = .running s → Runs.run attend (fun _ => 0) st.life = some s.online) ∧
      ∀ calls ∈ st.finished, Runs.run attend (fun _ => 0) calls = some fun _ => 0 := by
  have hnew : Attended (new disk) := ⟨fun s h => (by cases h), fun calls h => by cases h⟩
  have hattended : Attended st := Runs.run_invariant (fun _ _ _ h hs => h.step hs) hnew hrun
  exact ⟨fun s hs => (hattended.running s hs).2, hattended.finished⟩

/-- Two users, one of them twice; one connection breaks, and the process is stopped. -/
def threeSessionsLife : List Event :=
  let draw := fun _ => Fin.last 15
  [.boot 3, .server (.accept 4), .server (.accept 5), .server (.accept 6),
    .server (.receive 4 (Request.login [97]).packet), .server (.dispatch 4 default),
    .server (.receive 5 (Request.login [98]).packet),
    .server (.dispatch 5 { (default : Environment) with draw := draw }),
    .server (.receive 6 (Request.login [97]).packet), .server (.dispatch 6 default),
    .server (.disconnect 4), .stop fun _ => .notOpened]

theorem sessions_attended_three :
    ∃ st calls, Runs.run (step fun _ _ => 0) (new fun _ => none) threeSessionsLife = some st ∧
      calls ∈ st.finished ∧ calls.length = 8 ∧
      Runs.run attend (fun _ => 0) calls = some fun _ => 0 := by
  have hfacts : (Runs.run (step fun _ _ => 0) (new fun _ => none) threeSessionsLife).map (fun st =>
      st.finished.map List.length) = some [8] := by decide +kernel
  obtain ⟨st, hrun, hlengths⟩ := Option.map_eq_some_iff.mp hfacts
  obtain ⟨calls, hcalls, hlength⟩ := List.mem_map.mp (hlengths ▸ List.mem_singleton_self 8)
  exact ⟨st, calls, hrun, hcalls, hlength, (sessions_attended hrun).2 calls hcalls⟩

end Station

/-- The server of one directory, that reports to nobody. -/
structure Unlogged where
  process : Process
  disk : Disk

namespace Unlogged

def step (x : Unlogged) : Station.Event → Option Unlogged
  | .boot listenFd =>
    match x.process with
    | .running _ => none
    | .stopped => some { x with process := .running (World.boot listenFd x.disk).server }
  | .server e =>
    match x.process with
    | .stopped => none
    | .running server => (server.step e).map fun server => { x with process := .running server }
  | .stop outcome =>
    match x.process with
    | .stopped => none
    | .running server =>
      some ⟨.stopped, (save x.disk server.users server.teams server.messages outcome).1⟩
  | .kill =>
    match x.process with
    | .stopped => none
    | .running _ => some { x with process := .stopped }

/-- The packets that a step queues, and for whom. -/
def queues (x : Unlogged) : Station.Event → List (Fd × Packet)
  | .server e =>
    match x.process with
    | .stopped => []
    | .running server => (server.handle e).elim [] Prod.snd
  | _ => []

end Unlogged

namespace Station

def unlogged (st : Station) : Unlogged := ⟨st.process, st.disk⟩

variable (lib) in
/-- A call that the step makes is refused. -/
def crashes (st : Station) : Event → Bool
  | .boot listenFd =>
    match st.process with
    | .running _ => false
    | .stopped => !(Logs.loadUsers lib (World.boot listenFd st.disk).server.users st.journal).isOk
  | .server e =>
    match st.process with
    | .stopped => false
    | .running server => !(Logs.handle lib server e st.journal).isOk
  | .stop _ =>
    match st.process with
    | .stopped => false
    | .running server => !(Logs.logoutUsers lib server.authenticatedUsersByFd st.journal).isOk
  | .kill => false

/-- The packets that a step queues; those of a process that it ends are never sent. -/
def queues (lib : LoggingServer) (st : Station) : Event → List (Fd × Packet)
  | .server e =>
    match st.process with
    | .stopped => []
    | .running server =>
      match Logs.handle lib server e st.journal with
      | .ok (some (_, queued), _) => queued
      | _ => []
  | _ => []

/-- What a step comes to without the library: a process that a refused call ends is killed. -/
def comesTo (lib : LoggingServer) (st : Station) (e : Event) : List Event :=
  if st.crashes lib e then
    match e with
    | .boot listenFd => [.boot listenFd, .kill]
    | _ => [.kill]
  else [e]

/-- Step by step, with the same process, the same files and the same packets. -/
theorem step_unlogged (st : Station) (e : Event) :
    Runs.run Unlogged.step st.unlogged (comesTo lib st e) = (st.step lib e).map unlogged ∧
      Runs.collect Unlogged.step Unlogged.queues st.unlogged (comesTo lib st e) = queues lib st e := by
  obtain ⟨process, disk, journal, durable, life, finished⟩ := st
  cases e with
  | boot listenFd =>
    cases process with
    | running server => exact ⟨rfl, rfl⟩
    | stopped =>
      cases hload : Logs.loadUsers lib (World.boot listenFd disk).server.users journal with
      | error journal' => simp [comesTo, crashes, step, hload, Except.isOk, Except.toBool, Runs.run, Runs.collect,
          Unlogged.step, Unlogged.queues, queues, unlogged, crashed]
      | ok loaded => simp [comesTo, crashes, step, hload, Except.isOk, Except.toBool, Runs.run, Runs.collect,
          Unlogged.step, Unlogged.queues, queues, unlogged]
  | server e =>
    cases process with
    | stopped => exact ⟨rfl, rfl⟩
    | running server =>
      obtain ⟨calls, hwrites, -⟩ := handle_accounts lib server e
      cases hlogged : Logs.handle lib server e journal with
      | error journal' => simp [comesTo, crashes, step, hlogged, Except.isOk, Except.toBool, Runs.run, Runs.collect,
          Unlogged.step, Unlogged.queues, queues, unlogged, crashed]
      | ok logged =>
        obtain rfl := hwrites.eq_of_ok hlogged
        cases hhandle : server.handle e with
        | none => simp [comesTo, crashes, step, hlogged, hhandle, Except.isOk, Except.toBool, Runs.run, Runs.collect,
            Unlogged.step, Unlogged.queues, queues, unlogged, Server.step]
        | some result => simp [comesTo, crashes, step, hlogged, hhandle, Except.isOk, Except.toBool, Runs.run,
            Runs.collect, Unlogged.step, Unlogged.queues, queues, unlogged, Server.step]
  | stop outcome =>
    cases process with
    | stopped => exact ⟨rfl, rfl⟩
    | running server =>
      cases hout : Logs.logoutUsers lib server.authenticatedUsersByFd journal with
      | error journal' => simp [comesTo, crashes, step, hout, Except.isOk, Except.toBool, Runs.run, Runs.collect,
          Unlogged.step, Unlogged.queues, queues, unlogged, crashed]
      | ok loggedOut => simp [comesTo, crashes, step, hout, Except.isOk, Except.toBool, Runs.run, Runs.collect,
          Unlogged.step, Unlogged.queues, queues, unlogged]
  | kill =>
    cases process with
    | stopped => exact ⟨rfl, rfl⟩
    | running server => exact ⟨rfl, rfl⟩

/-- If the library refuses nothing, no step ends a process. -/
theorem comesTo_of_accepts (haccepts : ∀ journal call, lib.accepts journal call = true) (st : Station) (e : Event) :
    comesTo lib st e = [e] := by
  have hnever : st.crashes lib e = false := by
    cases e with
    | kill => rfl
    | boot listenFd =>
      rw [crashes]
      split
      · rfl
      · rw [(loadUsers_writes _).ok haccepts]
        rfl
    | server e =>
      rw [crashes]
      split
      · rfl
      · next server _ =>
        obtain ⟨calls, hwrites, -⟩ := handle_accounts lib server e
        rw [hwrites.ok haccepts]
        rfl
    | stop outcome =>
      rw [crashes]
      split
      · rfl
      · rw [(logoutUsers_writes _).ok haccepts]
        rfl
  simp [comesTo, hnever]

end Station

namespace World

def unlogged (w : World) : Unlogged := ⟨.running w.server, w.disk⟩

/-- A restart is the end of one process and the start of the next. -/
def Event.comesTo : Event → List Station.Event
  | .server e => [.server e]
  | .restart outcome listenFd => [.stop outcome, .boot listenFd]

def queues (w : World) : Event → List (Fd × Packet)
  | .server e => (w.server.handle e).elim [] Prod.snd
  | .restart _ _ => []

theorem step_unlogged (w : World) (e : Event) :
    Runs.run Unlogged.step w.unlogged e.comesTo = (w.step e).map unlogged ∧
      Runs.collect Unlogged.step Unlogged.queues w.unlogged e.comesTo = w.queues e := by
  cases e with
  | server e =>
    cases hs : w.server.step e with
    | none => simp [Event.comesTo, Runs.run, Runs.collect, Unlogged.step, Unlogged.queues, unlogged, step, queues, hs]
    | some s => simp [Event.comesTo, Runs.run, Runs.collect, Unlogged.step, Unlogged.queues, unlogged, step, queues, hs]
  | restart outcome listenFd => exact ⟨rfl, rfl⟩

end World

namespace Station

/-- The logged server refines the plain one, from any state and for any library: step by step it has the process,
the files and the packets of the plain server, in which a refused call, since it ends the process, comes to a kill.
If no call is refused, the steps are the same. The plain server is that of the worlds, each restart of
which is a stop and a start. -/
theorem logged_refines_plain :
    (∀ (lib : LoggingServer) (st : Station) (events : List Event),
      Runs.run Unlogged.step st.unlogged (Runs.collect (step lib) (comesTo lib) st events) =
          (Runs.run (step lib) st events).map unlogged ∧
        Runs.collect Unlogged.step Unlogged.queues st.unlogged (Runs.collect (step lib) (comesTo lib) st events) =
          Runs.collect (step lib) (queues lib) st events) ∧
    (∀ lib : LoggingServer, (∀ journal call, 0 ≤ lib journal call) → ∀ (st : Station) (events : List Event),
      Runs.run Unlogged.step st.unlogged events = (Runs.run (step lib) st events).map unlogged ∧
        Runs.collect Unlogged.step Unlogged.queues st.unlogged events =
          Runs.collect (step lib) (queues lib) st events) ∧
    ∀ (w : World) (events : List World.Event),
      Runs.run Unlogged.step w.unlogged (Runs.collect World.step (fun _ => World.Event.comesTo) w events) =
          (Runs.run World.step w events).map World.unlogged ∧
        Runs.collect Unlogged.step Unlogged.queues w.unlogged
            (Runs.collect World.step (fun _ => World.Event.comesTo) w events) =
          Runs.collect World.step World.queues w events := by
  refine ⟨fun lib => ?_, fun lib hlib => ?_, ?_⟩
  · exact Runs.run_map_eq (fun st e => (step_unlogged st e).1) fun st e => (step_unlogged st e).2
  · have haccepts : ∀ journal call, lib.accepts journal call = true := fun journal call =>
      decide_eq_true (hlib journal call)
    have hstep := fun st e => comesTo_of_accepts haccepts st e ▸ @step_unlogged lib st e
    exact Runs.run_map_of_step (fun st e => (hstep st e).1) fun st e => (hstep st e).2
  · exact Runs.run_map_eq (fun w e => (World.step_unlogged w e).1) fun w e => (World.step_unlogged w e).2

end Station

end TeamsMirror
