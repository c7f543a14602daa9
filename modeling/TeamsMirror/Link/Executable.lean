import TeamsMirror.Database.FailedSaves
import TeamsMirror.Link.Leakage
import TeamsMirror.Link.Signals
import TeamsMirror.Server.Main

/-!
# Executions

The program as it is run: one execution after the other in one directory, each with
its arguments, the answers of `libmyteams` and of all system calls from `socket` to the
last `write`, the signals that reach it, and its exit status. What the server is between two events of
the loop, and what it leaves in the directory, are the lives of a server.
-/

namespace TeamsMirror

/-- `main` has returned, or an exception or a signal has ended the process. -/
inductive ExitStatus where
  | success
  | failure
  | aborted
  | killed
deriving DecidableEq

/-- Where the process stands: in `runPollLoop` up to the save, at the save, or at its end. -/
inductive Progress where
  | serving (manager : ServerManager)
  | saving (server : Server)
  | ended (status : ExitStatus)

def Progress.server? : Progress → Option Server
  | .serving manager => some manager.pollLoop.link.server
  | .saving server => some server
  | .ended _ => none

def Progress.status? : Progress → Option ExitStatus
  | .serving _ | .saving _ => none
  | .ended status => some status

/-- A process with the lines that `run` and `runPollLoop` have printed. -/
structure Execution where
  progress : Progress
  stdout : List String

namespace Execution

def usage : String := "USAGE: ./myteams_server port"

/-- `--help`. -/
def help : Bytes := [45, 45, 104, 101, 108, 112]

def startedEmpty : String := "Server started with empty persisted state."

def notFullySaved : String := "Server state could not be fully saved."

variable (genericCategory : Errno → String)

/-- The `catch` of `run`. -/
def leave (escaped : Escaped) (stdout : List String) : Execution :=
  match escaped with
  | .serverException exception => ⟨.ended .failure, stdout ++ [exception.what genericCategory]⟩
  | .other => ⟨.ended .aborted, stdout⟩

/-- `runPollLoop` up to the installation of its signal handlers. -/
def runPollLoop (listenSocket : Option Fd) (disk : Disk) (signals : SignalCalls) : Execution :=
  match listenSocket with
  | none => leave genericCategory (.serverException socketNotInitializedException) []
  | some listenFd =>
    let (hasLoadedData, database) := load disk
    let stdout := if hasLoadedData then [] else [startedEmpty]
    match installSignalHandler signals with
    | .error escaped => leave genericCategory escaped stdout
    | .ok () => ⟨.serving (.start listenFd database.users database.teams database.messages), stdout⟩

/-- `run` up to there; the arguments are those after the name of the program. -/
def run (disk : Disk) (arguments : List Bytes) (listener : ListenerCalls) (signals : SignalCalls) :
    Execution :=
  if arguments = [help] then ⟨.ended .success, [usage]⟩
  else
    match arguments with
    | [argument] =>
      match parsePort argument with
      | none => ⟨.ended .failure, [usage]⟩
      | some port =>
        match initializeTcpListener none port listener with
        | .error escaped => leave genericCategory escaped []
        | .ok listenFd => runPollLoop genericCategory (some listenFd) disk signals
    | _ => ⟨.ended .failure, [usage]⟩

/-- What a process does next, and what the system does with it. A process that is killed in the middle of
its save has written some of the files. -/
inductive Event where
  | manager (e : ServerManager.Event)
  | save (isCreated : Bool) (outcome : DataFile → WriteOutcome)
  | kill (isCreated : Bool) (outcome : DataFile → WriteOutcome)

/-- What a turn throws when one of its calls is not handled. -/
def escapedTurn (calls : Calls) : Escaped :=
  match calls.accept with
  | none => .other
  | some accept =>
    match caughtAs socketAcceptException (Socket.accept accept) with
    | .ok _ => .other
    | .error escaped => escaped

/-- What a step throws that ends by an exception. -/
def escaped : ServerManager.Event → Escaped
  | .poll (.error errno) => .serverException (socketPollException errno)
  | .turn calls => escapedTurn calls
  | _ => .other

/-- `runPollLoop` goes on, or has come to the save, or is left by an exception. -/
def next (x : Execution) (manager : ServerManager) (escaped : Escaped) : Execution :=
  if manager.pollLoop.phase = .aborted then leave genericCategory escaped x.stdout
  else if manager.stage = .saving then ⟨.saving manager.pollLoop.link.server, x.stdout⟩
  else ⟨.serving manager, x.stdout⟩

def step (disk : Disk) (x : Execution) (e : Event) : Option (Execution × Disk) :=
  match x.progress with
  | .ended _ => none
  | .serving manager =>
    match e with
    | .manager e => (manager.step e).map fun manager => (x.next genericCategory manager (escaped e), disk)
    | .kill _ _ => some (⟨.ended .killed, x.stdout⟩, disk)
    | .save _ _ => none
  | .saving server =>
    match e with
    | .save isCreated outcome =>
      let (disk, isSaved) := saveInto isCreated disk server.users server.teams server.messages outcome
      some (⟨.ended .success, if isSaved then x.stdout else x.stdout ++ [notFullySaved]⟩, disk)
    | .kill isCreated outcome =>
      some (⟨.ended .killed, x.stdout⟩,
        (saveInto isCreated disk server.users server.teams server.messages outcome).1)
    | _ => none

end Execution

/-- A directory and the process that was started last in it. -/
structure Host where
  disk : Disk
  execution : Option Execution

namespace Host

inductive Event where
  | run (arguments : List Bytes) (listener : ListenerCalls) (signals : SignalCalls)
  | execution (e : Execution.Event)

def new (disk : Disk) : Host := ⟨disk, none⟩

/-- The server of the process, up to the end of its save. -/
def server? (h : Host) : Option Server := h.execution.bind fun x => x.progress.server?

variable (genericCategory : Errno → String)

/-- A process is started after the end of the one before it. -/
def step (h : Host) : Event → Option Host
  | .run arguments listener signals =>
    if h.server?.isNone then
      some { h with execution := some (Execution.run genericCategory h.disk arguments listener signals) }
    else none
  | .execution e =>
    h.execution.bind fun x =>
      (x.step genericCategory h.disk e).map fun (x, disk) => ⟨disk, some x⟩

end Host

theorem Outbound.exists_run {x y : Outbound} (h : Relation.ReflTransGen Outbound.Serves x y) :
    ∃ events, Runs.run Server.step x.server events = some y.server := by
  induction h with
  | refl => exact ⟨[], rfl⟩
  | tail _ hserves ih =>
    obtain ⟨events, hrun⟩ := ih
    obtain ⟨e, queued, hs, -⟩ := hserves
    exact ⟨events ++ [e], Runs.run_snoc hrun (Server.step_eq_some.mpr ⟨queued, hs⟩)⟩

/-- A step of the manager is some events of its server. -/
theorem ServerManager.exists_run {m m' : ServerManager} {e : ServerManager.Event} (h : m.pollLoop.Tracked)
    (hs : m.step e = some m') :
    ∃ events, Runs.run Server.step m.pollLoop.link.server events = some m'.pollLoop.link.server := by
  rcases (step_cases hs).turned_or_same with ⟨index, calls, -, hphase, hturn⟩ | ⟨⟨hlink, -⟩, -⟩
  · exact Outbound.exists_run (h.turn hphase hturn).serves
  · rw [hlink]
    exact ⟨[], rfl⟩

/-- Without a directory no file is opened. -/
theorem saveInto_eq_save (isCreated : Bool) (disk : Disk) (users : List User) (teams : List Team)
    (messages : List Message) (outcome : DataFile → WriteOutcome) :
    saveInto isCreated disk users teams messages outcome =
      save disk users teams messages (if isCreated then outcome else fun _ => .notOpened) := by
  cases isCreated <;> rfl

namespace Execution

variable {genericCategory : Errno → String} {disk disk' : Disk} {x x' : Execution} {e : Event}

/-- How a step writes files: the directory is there or not, and what becomes of each file. -/
def Event.save? : Event → Option (Bool × (DataFile → WriteOutcome))
  | .save isCreated outcome | .kill isCreated outcome => some (isCreated, outcome)
  | _ => none

/-- What a step comes to. -/
inductive Steps (genericCategory : Errno → String) (disk : Disk) (x : Execution) (e : Event) :
    Execution → Disk → Prop where
  | looped {manager manager' : ServerManager} {event : ServerManager.Event} :
      x.progress = .serving manager → e = .manager event → manager.step event = some manager' →
      Steps genericCategory disk x e (x.next genericCategory manager' (escaped event)) disk
  | killed {manager : ServerManager} (isCreated : Bool) (outcome : DataFile → WriteOutcome) :
      x.progress = .serving manager → e = .kill isCreated outcome →
      Steps genericCategory disk x e ⟨.ended .killed, x.stdout⟩ disk
  | saved {server : Server} {isCreated : Bool} {outcome : DataFile → WriteOutcome} (status : ExitStatus)
      (stdout : List String) : x.progress = .saving server →
      (e = .save isCreated outcome ∧ status = .success ∨ e = .kill isCreated outcome ∧ status = .killed) →
      Steps genericCategory disk x e ⟨.ended status, stdout⟩
        (saveInto isCreated disk server.users server.teams server.messages outcome).1

theorem step_cases (hs : x.step genericCategory disk e = some (x', disk')) :
    Steps genericCategory disk x e x' disk' := by
  simp only [step] at hs
  split at hs
  · cases hs
  · next manager hprogress =>
    split at hs
    · next event =>
      obtain ⟨manager', hmanager, hs⟩ := Option.map_eq_some_iff.mp hs
      cases hs
      exact .looped hprogress rfl hmanager
    · next isCreated outcome =>
      cases hs
      exact .killed isCreated outcome hprogress rfl
    · cases hs
  · next server hprogress =>
    split at hs
    · cases hs
      exact .saved _ _ hprogress (.inl ⟨rfl, rfl⟩)
    · cases hs
      exact .saved _ _ hprogress (.inr ⟨rfl, rfl⟩)
    · cases hs

theorem server?_leave (escaped : Escaped) (stdout : List String) :
    (leave genericCategory escaped stdout).progress.server? = none := by
  cases escaped <;> rfl

/-- A process is at its end after its start, or it serves what the directory holds. -/
theorem run_cases (genericCategory : Errno → String) (disk : Disk) (arguments : List Bytes)
    (listener : ListenerCalls) (signals : SignalCalls) :
    let database := (load disk).2
    (run genericCategory disk arguments listener signals).progress.server? = none ∨
      ∃ listenFd, (run genericCategory disk arguments listener signals).progress =
        .serving (.start listenFd database.users database.teams database.messages) := by
  intro database
  simp only [run]
  split
  · exact .inl rfl
  · split
    · split
      · exact .inl rfl
      · split
        · exact .inl (server?_leave _ _)
        · simp only [runPollLoop]
          split
          · exact .inl (server?_leave _ _)
          · exact .inr ⟨_, rfl⟩
    · exact .inl rfl

/-- The process that goes on has the server of the loop. -/
theorem server?_next {manager : ServerManager} {escaped : Escaped} {s : Server}
    (hs : (x.next genericCategory manager escaped).progress.server? = some s) :
    s = manager.pollLoop.link.server := by
  simp only [next] at hs
  split at hs
  · simp [server?_leave] at hs
  · split at hs
    · exact (Option.some.inj hs).symm
    · exact (Option.some.inj hs).symm

theorem next_serving {manager manager' : ServerManager} {escaped : Escaped}
    (h : (x.next genericCategory manager escaped).progress = .serving manager') : manager' = manager := by
  simp only [next] at h
  split at h
  · cases escaped <;> cases h
  · split at h
    · cases h
    · cases h
      rfl

end Execution

namespace Host

variable {genericCategory : Errno → String} {h h' : Host} {w : World}

/-- The save that a step makes: whose data it is, and what becomes of the directory and of each file. -/
def save? (h : Host) : Event → Option (Server × Bool × (DataFile → WriteOutcome))
  | .run _ _ _ => none
  | .execution e =>
    match h.execution.map Execution.progress, e.save? with
    | some (.saving server), some (isCreated, outcome) => some (server, isCreated, outcome)
    | _, _ => none

/-- The save writes all files to their end. -/
def SavesAll (h : Host) (server : Server) (isCreated : Bool) (outcome : DataFile → WriteOutcome) : Prop :=
  isCreated = true ∧ WritesAll h.disk server.users server.teams server.messages outcome

instance (h : Host) (server : Server) (isCreated : Bool) (outcome : DataFile → WriteOutcome) :
    Decidable (h.SavesAll server isCreated outcome) :=
  inferInstanceAs (Decidable (_ ∧ _))

/-- A save writes all files to their end, or opens none. -/
def Whole (h : Host) (e : Event) : Prop :=
  match h.save? e with
  | none => True
  | some (server, isCreated, outcome) =>
    h.SavesAll server isCreated outcome ∨ ∀ file, (isCreated && outcome file ≠ .notOpened) = false

instance (h : Host) (e : Event) : Decidable (h.Whole e) :=
  match hsave : h.save? e with
  | none => isTrue (by simp only [Whole, hsave])
  | some (server, isCreated, outcome) =>
    decidable_of_iff (h.SavesAll server isCreated outcome ∨
      ∀ file, (isCreated && outcome file ≠ .notOpened) = false) (by simp only [Whole, hsave])

/-- The files and the server are those of a life. -/
structure Follows (h : Host) (w : World) : Prop where
  disk : w.disk = h.disk
  server : ∀ s, h.server? = some s → w.server = s
  tracked : ∀ x manager, h.execution = some x → x.progress = .serving manager → manager.pollLoop.Tracked

/-- Before the first execution there are only files. -/
theorem Follows.new (listenFd : Fd) (disk : Disk) : Follows (new disk) (World.boot listenFd disk) where
  disk := rfl
  server s hs := by cases hs
  tracked x manager hx := by cases hx

/-- A life goes on with the events of its server. -/
theorem run_world {events : List TeamsMirror.Event} {s : Server}
    (hrun : Runs.run Server.step w.server events = some s) :
    Runs.run World.step w (events.map .server) = some ⟨s, w.disk⟩ := by
  induction events generalizing w with
  | nil =>
    cases hrun
    rfl
  | cons e events ih =>
    obtain ⟨t, ht, hrun⟩ := Runs.run_cons_eq_some.mp hrun
    refine Runs.run_cons_eq_some.mpr ⟨⟨t, w.disk⟩, ?_, ih hrun⟩
    rw [World.step, ht]
    rfl

theorem unrepeated_world (w : World) (events : List TeamsMirror.Event) :
    Runs.Always World.step World.Unrepeated w (events.map .server) := by
  induction events generalizing w with
  | nil => trivial
  | cons e events ih => exact ⟨trivial, fun w' _ => ih w'⟩

/-- A process that is killed before its save leaves the directory as it is, and the next one starts in it. -/
theorem restart_unsaved (w : World) (listenFd : Fd) :
    w.step (.restart (fun _ => .notOpened) listenFd) = some (World.boot listenFd w.disk) := by
  have hdisk : (w.saved fun _ => .notOpened).1 = w.disk := by
    funext file
    rfl
  rw [World.step, hdisk]

/-- A process that is started boots a server, or ends at once. -/
theorem follows_run {arguments : List Bytes} {listener : ListenerCalls} {signals : SignalCalls}
    (hfollows : Follows h w) (hs : h.step genericCategory (.run arguments listener signals) = some h') :
    ∃ lives w', Runs.run World.step w lives = some w' ∧ Runs.Always World.step World.Unrepeated w lives ∧
      Follows h' w' := by
  obtain ⟨-, hsome⟩ := Option.ite_none_right_eq_some.mp hs
  cases hsome
  rcases Execution.run_cases genericCategory h.disk arguments listener signals with hended | ⟨listenFd, hserving⟩
  · refine ⟨[], w, rfl, trivial, hfollows.disk, fun s hserver => ?_, fun x manager hx hmanager => ?_⟩
    · cases hended.symm.trans hserver
    · cases hx
      simp [hmanager, Progress.server?] at hended
  · refine ⟨[.restart (fun _ => .notOpened) listenFd], World.boot listenFd w.disk, ?_,
      ⟨fun _ => trivial, fun _ _ => trivial⟩, hfollows.disk, fun s hserver => ?_, fun x manager hx hmanager => ?_⟩
    · rw [Runs.run_singleton, restart_unsaved]
    · have hserver : (Execution.run genericCategory h.disk arguments listener signals).progress.server? =
          some s := hserver
      rw [hserving] at hserver
      cases hserver
      rw [hfollows.disk]
      rfl
    · cases hx
      cases hserving.symm.trans hmanager
      exact .start _ _ _ _

theorem save?_saved {x : Execution} {e : Execution.Event} {server : Server} {isCreated : Bool}
    {outcome : DataFile → WriteOutcome} {status : ExitStatus} (hx : h.execution = some x)
    (hprogress : x.progress = .saving server)
    (he : e = .save isCreated outcome ∧ status = .success ∨ e = .kill isCreated outcome ∧ status = .killed) :
    h.save? (.execution e) = some (server, isCreated, outcome) := by
  rcases he with ⟨rfl, -⟩ | ⟨rfl, -⟩ <;> simp only [save?, hx, Option.map_some, hprogress, Execution.Event.save?]

theorem whole_unrepeated {isCreated : Bool} {outcome : DataFile → WriteOutcome}
    (h : isCreated = true ∧ WritesAll w.disk w.server.users w.server.teams w.server.messages outcome ∨
      ∀ file, (isCreated && outcome file ≠ .notOpened) = false) :
    w.Unrepeated (.restart (if isCreated then outcome else fun _ => .notOpened) 0) := by
  refine World.Whole.unrepeated ?_
  rcases h with ⟨rfl, hsaved⟩ | hclosed
  · exact .inl hsaved
  · refine .inr fun file => ?_
    cases isCreated with
    | false => rfl
    | true => simpa using hclosed file

/-- A turn of the loop is a sequence of events of the server, a save is a restart, a kill is nothing. -/
theorem follows_execution {e : Execution.Event} (hfollows : Follows h w)
    (hs : h.step genericCategory (.execution e) = some h') :
    ∃ lives w', Runs.run World.step w lives = some w' ∧
      (h.Whole (.execution e) → Runs.Always World.step World.Unrepeated w lives) ∧ Follows h' w' := by
  obtain ⟨x, hx, hs⟩ := Option.bind_eq_some_iff.mp hs
  obtain ⟨⟨x', disk⟩, hstep, rfl⟩ := Option.map_eq_some_iff.mp hs
  have hcases := Execution.step_cases hstep
  generalize hdisk : h.disk = old at hcases
  cases hcases with
  | @looped manager manager' event hprogress _ hmanager =>
    have htracked := hfollows.tracked x manager hx hprogress
    obtain ⟨events, hrun⟩ := ServerManager.exists_run htracked hmanager
    have hserver : w.server = manager.pollLoop.link.server :=
      hfollows.server _ (by rw [server?, hx, Option.bind_some, hprogress]; rfl)
    refine ⟨events.map .server, ⟨manager'.pollLoop.link.server, w.disk⟩, run_world (hserver ▸ hrun),
      fun _ => unrepeated_world w events, hfollows.disk.trans hdisk, fun s hs => ?_, fun y manager'' hy hserving => ?_⟩
    · exact (Execution.server?_next hs).symm
    · cases hy
      rw [Execution.next_serving hserving]
      exact ServerManager.tracked_step htracked hmanager
  | killed _ _ hprogress _ =>
    refine ⟨[], w, rfl, fun _ => trivial, hfollows.disk.trans hdisk, fun s hs => ?_,
      fun y manager hy hserving => ?_⟩
    · cases hs
    · cases hy
      cases hserving
  | @saved server isCreated outcome status stdout hprogress he =>
    have hserver : w.server = server :=
      hfollows.server _ (by rw [server?, hx, Option.bind_some, hprogress]; rfl)
    have hsave := save?_saved hx hprogress he
    refine ⟨[.restart (if isCreated then outcome else fun _ => .notOpened) 0],
      World.boot 0 (w.saved (if isCreated then outcome else fun _ => .notOpened)).1, rfl,
      fun hwhole => ⟨?_, fun _ _ => trivial⟩, ?_, fun s hs => ?_, fun y manager hy hserving => ?_⟩
    · simp only [Whole, hsave, SavesAll, ← hserver, ← hfollows.disk] at hwhole
      exact whole_unrepeated hwhole
    · rw [saveInto_eq_save, ← hdisk, ← hfollows.disk, ← hserver]
      rfl
    · cases hs
    · cases hy
      cases hserving

theorem follows_step {e : Event} (hfollows : Follows h w) (hs : h.step genericCategory e = some h') :
    ∃ lives w', Runs.run World.step w lives = some w' ∧
      (h.Whole e → Runs.Always World.step World.Unrepeated w lives) ∧ Follows h' w' := by
  cases e with
  | run arguments listener signals =>
    obtain ⟨lives, w', hlives, hunrepeated, hfollows'⟩ := follows_run hfollows hs
    exact ⟨lives, w', hlives, fun _ => hunrepeated, hfollows'⟩
  | execution e => exact follows_execution hfollows hs

/-- The program, run again and again in one directory with whatever arguments, answers of the system,
signals and ends, is a server that lives again and again: at every moment the files are those of such
lives, and a process that has not ended has their server. -/
theorem follows_lives {disk : Disk} {events : List Event}
    (hrun : Runs.run (step genericCategory) (new disk) events = some h) :
    ∃ listenFd lives w, Runs.run World.step (World.boot listenFd disk) lives = some w ∧ w.disk = h.disk ∧
      ∀ s, h.server? = some s → w.server = s := by
  have hinvariant : ∃ lives w, Runs.run World.step (World.boot 0 disk) lives = some w ∧ Follows h w := by
    refine Runs.run_invariant (P := fun h : Host => ∃ lives w,
      Runs.run World.step (World.boot 0 disk) lives = some w ∧ Follows h w) (fun h e h' hlives hs => ?_)
      ⟨[], _, rfl, .new 0 disk⟩ hrun
    obtain ⟨lives, w, hlives, hfollows⟩ := hlives
    obtain ⟨more, w', hmore, -, hfollows'⟩ := follows_step hfollows hs
    exact ⟨lives ++ more, w', Runs.run_join hlives hmore, hfollows'⟩
  obtain ⟨lives, w, hlives, hfollows⟩ := hinvariant
  exact ⟨0, lives, w, hlives, hfollows.disk, hfollows.server⟩

/-- Every call of a start succeeds. -/
def startsWell : Event :=
  .run [[52, 50, 52, 50]] ⟨.ok 3, .ok (), fun _ => .ok (), .ok ()⟩ ⟨true, true⟩

/-- The port is taken (`EADDRINUSE`). -/
def startsBadly : Event :=
  .run [[52, 50, 52, 50]] ⟨.ok 3, .ok (), fun _ => .error 98, .ok ()⟩ ⟨true, true⟩

/-- A connection is accepted and a user logs in; the next `poll` is interrupted by a signal. -/
def oneLogin : List Execution.Event :=
  let events : List ServerManager.Event := ServerManager.acceptRun ++
    [.turn ServerManager.loginCalls, .turn ServerManager.noCalls, .enter, .call, .handleSignal, .poll (.error eintr),
      .leave, .logout [0]]
  events.map .manager

/-- An execution that saves, one that fails, and one that serves. -/
def threeExecutions : List Event :=
  startsWell :: oneLogin.map .execution ++ [.execution (.save true fun _ => .opened [] 1000), startsBadly, startsWell]

theorem follows_lives_three : ∃ h, Runs.run (step fun _ => "") (new fun _ => none) threeExecutions = some h ∧
    (h.server?.map fun s => s.users.map fun u => u.name.bytes) = some [[97]] ∧
    ∃ listenFd lives w, Runs.run World.step (World.boot listenFd fun _ => none) lives = some w ∧ w.disk = h.disk ∧
      ∀ s, h.server? = some s → w.server = s := by
  have hfacts : (Runs.run (step fun _ => "") (new fun _ => none) threeExecutions).map (fun h =>
      decide ((h.server?.map fun s => s.users.map fun u => u.name.bytes) = some [[97]])) = some true := by
    decide +kernel
  obtain ⟨h, hrun, hfacts⟩ := Option.map_eq_some_iff.mp hfacts
  exact ⟨h, hrun, of_decide_eq_true hfacts, follows_lives hrun⟩

/-- The server whose data a step has saved. -/
def saved (h : Host) (e : Event) : List Server :=
  match h.save? e with
  | none => []
  | some (server, isCreated, outcome) =>
    if h.SavesAll server isCreated outcome then [server] else []

/-- The directory has the data of the last save. -/
def Keeps (last : Option Server) (disk : Disk) : Prop :=
  match last with
  | none => ∀ file, readTextFile (disk file) = []
  | some s => s.Storable ∧ disk = savedDisk s.users s.teams s.messages

theorem keeps_step {e : Event} {last : Option Server} (hfollows : Follows h w) (hsound : w.Sound)
    (hwhole : h.Whole e) (hs : h.step genericCategory e = some h') (hkeeps : Keeps last h.disk) :
    Keeps ((h.saved e).getLast?.or last) h'.disk := by
  cases e with
  | run arguments listener signals =>
    obtain ⟨-, hsome⟩ := Option.ite_none_right_eq_some.mp hs
    cases hsome
    exact hkeeps
  | execution e =>
    obtain ⟨x, hx, hs⟩ := Option.bind_eq_some_iff.mp hs
    obtain ⟨⟨x', disk⟩, hstep, rfl⟩ := Option.map_eq_some_iff.mp hs
    have hcases := Execution.step_cases hstep
    generalize hdisk : h.disk = old at hcases
    cases hcases with
    | looped hprogress | killed _ _ hprogress =>
      have hnone : h.saved (.execution e) = [] := by
        simp only [saved, save?, hx, Option.map_some, hprogress]
      rw [hnone, ← hdisk]
      exact hkeeps
    | @saved server isCreated outcome status stdout hprogress he =>
      have hsave := save?_saved hx hprogress he
      subst hdisk
      simp only [saved, hsave]
      split
      · next hsaved =>
        have hserver : w.server = server :=
          hfollows.server _ (by rw [server?, hx, Option.bind_some, hprogress]; rfl)
        obtain ⟨rfl, hwritten⟩ := hsaved
        exact ⟨hserver ▸ hsound.storable, hwritten.disk⟩
      · next hunsaved =>
        simp only [Whole, hsave] at hwhole
        have hclosed := hwhole.resolve_left hunsaved
        have hsame : (saveInto isCreated h.disk server.users server.teams server.messages outcome).1 = h.disk :=
          funext fun file => saveInto_notOpened (hclosed file)
        show Keeps last (saveInto isCreated h.disk server.users server.teams server.messages outcome).1
        rw [hsame]
        exact hkeeps

/-- What a process finds in the directory. -/
theorem Keeps.load {last : Option Server} {disk : Disk} (h : Keeps last disk) :
    (load disk).2.users.map User.identity = last.elim [] (fun s => s.users.map User.identity) ∧
      (load disk).2.teams = last.elim [] Server.teams ∧
      (load disk).2.messages = last.elim [] Server.messages := by
  cases last with
  | none =>
    rw [load_empty h]
    exact ⟨rfl, rfl, rfl⟩
  | some s =>
    obtain ⟨hstorable, rfl⟩ := h
    obtain ⟨users, hload, husers⟩ := load_savedDisk hstorable
    rw [hload]
    exact ⟨husers, rfl, rfl⟩

theorem keeps_run {disk : Disk} {events : List Event} (hempty : ∀ file, readTextFile (disk file) = [])
    (hwhole : Runs.Always (step genericCategory) Whole (new disk) events)
    (hrun : Runs.run (step genericCategory) (new disk) events = some h) :
    Keeps (Runs.collect (step genericCategory) saved (new disk) events).getLast? h.disk := by
  have hlives : ∃ w : World, w.Sound ∧ Follows (new disk) w :=
    ⟨World.boot 0 disk, .boot_empty hempty 0, .new 0 disk⟩
  have hkeeps := Runs.run_collect (P := fun h => ∃ w : World, w.Sound ∧ Follows h w) (C := Whole) (f := saved)
    (R := fun h servers h' => ∀ last, Keeps last h.disk → Keeps (servers.getLast?.or last) h'.disk)
    (fun h _ last hkeeps => hkeeps) (fun h t h' servers servers' hfirst hsecond last hkeeps => ?_)
    (fun h e h' hlives hwhole hs => ?_) hlives hwhole hrun none hempty
  · rwa [Option.or_none] at hkeeps
  · rw [List.getLast?_append, Option.or_assoc]
    exact hsecond _ (hfirst last hkeeps)
  · obtain ⟨w, hsound, hfollows⟩ := hlives
    obtain ⟨lives, w', hrun', hunrepeated, hfollows'⟩ := follows_step hfollows hs
    have hsound' : w'.Sound :=
      Runs.run_invariant_of (fun _ _ _ h hunrepeated hs => h.step hunrepeated hs) hsound (hunrepeated hwhole) hrun'
    exact ⟨⟨w', hsound', hfollows'⟩, fun last => keeps_step hfollows hsound hwhole hs⟩

/-- Whatever executions there have been, as long as no save was broken off in the middle, the next one
that comes to serve starts from what the last one had that saved all files. -/
theorem serves_last_save {disk : Disk} {events : List Event} {arguments : List Bytes}
    {listener : ListenerCalls} {signals : SignalCalls} {s : Server}
    (hempty : ∀ file, readTextFile (disk file) = [])
    (hwhole : Runs.Always (step genericCategory) Whole (new disk) events)
    (hrun : Runs.run (step genericCategory) (new disk) (events ++ [.run arguments listener signals]) = some h)
    (hserver : h.server? = some s) :
    let last := (Runs.collect (step genericCategory) saved (new disk) events).getLast?
    s.users.map User.identity = last.elim [] (fun s => s.users.map User.identity) ∧
      s.teams = last.elim [] Server.teams ∧ s.messages = last.elim [] Server.messages := by
  intro last
  obtain ⟨before, hbefore, hs⟩ := Runs.run_append_eq_some.mp hrun
  rw [Runs.run_singleton] at hs
  obtain ⟨-, hsome⟩ := Option.ite_none_right_eq_some.mp hs
  cases hsome
  obtain ⟨husers, hteams, hmessages⟩ := (keeps_run hempty hwhole hbefore).load
  rcases Execution.run_cases genericCategory before.disk arguments listener signals with hended | ⟨listenFd, hserving⟩
  · cases hended.symm.trans hserver
  · have hserver : (Execution.run genericCategory before.disk arguments listener signals).progress.server? =
        some s := hserver
    rw [hserving] at hserver
    cases hserver
    refine ⟨Eq.trans ?_ husers, hteams, hmessages⟩
    rw [ServerManager.start, PollLoop.start, Outbound.start, Server.start, List.map_map]
    exact List.map_congr_left fun _ _ => rfl

theorem serves_last_save_three :
    ∃ h s, Runs.run (step fun _ => "") (new fun _ => none) threeExecutions = some h ∧ h.server? = some s ∧
      (Runs.collect (step fun _ => "") saved (new fun _ => none) threeExecutions.dropLast).length = 1 ∧
      s.users.map User.identity =
        (Runs.collect (step fun _ => "") saved (new fun _ => none) threeExecutions.dropLast).getLast?.elim []
          (fun s => s.users.map User.identity) := by
  have hsplit : threeExecutions = threeExecutions.dropLast ++ [startsWell] := rfl
  have hfacts : (Runs.run (step fun _ => "") (new fun _ => none) threeExecutions).bind (fun h =>
      h.server?.map fun _ => decide (Runs.Always (step fun _ => "") Whole (new fun _ => none)
        threeExecutions.dropLast) && decide ((Runs.collect (step fun _ => "") saved (new fun _ => none)
          threeExecutions.dropLast).length = 1)) = some true := by decide +kernel
  obtain ⟨h, hrun, hfacts⟩ := Option.bind_eq_some_iff.mp hfacts
  obtain ⟨s, hs, hfacts⟩ := Option.map_eq_some_iff.mp hfacts
  obtain ⟨hwhole, hlength⟩ := Bool.and_eq_true_iff.mp hfacts
  exact ⟨h, s, hrun, hs, of_decide_eq_true hlength,
    (serves_last_save (fun _ => rfl) (of_decide_eq_true hwhole) (hsplit ▸ hrun) hs).1⟩

end Host

end TeamsMirror
