import TeamsMirror.Common.Requests
import TeamsMirror.Database.RoundTrip

/-!
# Lives of a server

A server process is started on a directory, runs, and ends with a save, after
which it is started again. Saves may fail in part or not take place at all; what
is stored stays well formed nevertheless, and a complete save loses nothing.
-/

namespace TeamsMirror

/-- A running server and the directory it was started in. -/
structure World where
  server : Server
  disk : Disk

namespace World

/-- The process loads the database and enters its loop. -/
def boot (listenFd : Fd) (disk : Disk) : World :=
  let database := (load disk).2
  ⟨.start listenFd database.users database.teams database.messages, disk⟩

/-- A step of the process, or its end: what becomes of each file when it saves (a process that
is killed opens none of them), and the socket on which the next process listens. -/
inductive Event where
  | server (e : TeamsMirror.Event)
  | restart (outcome : DataFile → WriteOutcome) (listenFd : Fd)

def saved (w : World) (outcome : DataFile → WriteOutcome) : Disk × Bool :=
  save w.disk w.server.users w.server.teams w.server.messages outcome

def step (w : World) : Event → Option World
  | .server e => (w.server.step e).map fun s => { w with server := s }
  | .restart outcome listenFd => some (boot listenFd (w.saved outcome).1)

/-- In the save that ends a process no write is made again after it has failed. -/
def Unrepeated (w : World) : Event → Prop
  | .server _ => True
  | .restart outcome _ => ∀ file,
    (outcome file).Unrepeated (serializeData w.server.users w.server.teams w.server.messages 124 file)

instance (w : World) : ∀ e : Event, Decidable (w.Unrepeated e)
  | .server _ => isTrue trivial
  | .restart outcome _ => inferInstanceAs (Decidable (∀ file,
    (outcome file).Unrepeated (serializeData w.server.users w.server.teams w.server.messages 124 file)))

/-- Reached so that every file has always held the first part of what was written to it: saves may be cut
short anywhere, or not take place. -/
def Reachable (w : World) : Prop :=
  ∃ listenFd disk events, (∀ file, readTextFile (disk file) = []) ∧
    Runs.Always step Unrepeated (boot listenFd disk) events ∧ Runs.run step (boot listenFd disk) events = some w

/-- What every life leaves to the next. -/
structure Sound (w : World) : Prop where
  disk : CleanDisk w.disk
  storable : w.server.Storable
  known : w.server.Known
  linked : w.server.Linked

namespace Sound

theorem boot {disk : Disk} (hdisk : CleanDisk disk) (listenFd : Fd) : Sound (boot listenFd disk) where
  disk := hdisk
  storable := Server.Storable.start hdisk.load
  known := fun _ _ h => by simp [World.boot, Server.start] at h
  linked := .start _ _ _ _

theorem step {w w' : World} {e : Event} (h : Sound w) (hunrepeated : w.Unrepeated e) (hs : w.step e = some w') :
    Sound w' := by
  cases e with
  | server e =>
    obtain ⟨s, hstep, rfl⟩ := Option.map_eq_some_iff.mp hs
    obtain ⟨queued, hhandle⟩ := Server.step_eq_some.mp hstep
    exact ⟨h.disk, h.storable.step h.known hhandle, h.known.step hhandle, h.linked.step hhandle⟩
  | restart outcome listenFd =>
    obtain rfl := Option.some.inj hs
    exact .boot (h.disk.save h.storable hunrepeated) listenFd

end Sound

/-- A directory without records is clean. -/
theorem Sound.boot_empty {disk : Disk} (hempty : ∀ file, readTextFile (disk file) = []) (listenFd : Fd) :
    Sound (World.boot listenFd disk) := by
  refine .boot (fun file content hcontent fields hfields => ?_) listenFd
  have hlines := hempty file
  rw [hcontent] at hlines
  have hnone : Lines.lines 10 content = [] := hlines
  rw [hnone] at hfields
  cases hfields

theorem Reachable.sound {w : World} (h : w.Reachable) : Sound w := by
  obtain ⟨listenFd, disk, events, hempty, hunrepeated, hrun⟩ := h
  exact Runs.run_invariant_of (fun _ _ _ hs hu he => hs.step hu he) (.boot_empty hempty listenFd) hunrepeated hrun

/-- A process that is started after a complete save has what was saved. -/
theorem Sound.boot_saved {w : World} (h : w.Sound) {outcome : DataFile → WriteOutcome}
    (hsaved : WritesAll w.disk w.server.users w.server.teams w.server.messages outcome) (listenFd : Fd) :
    (World.boot listenFd (w.saved outcome).1).server.users.map User.identity =
        w.server.users.map User.identity ∧
      (World.boot listenFd (w.saved outcome).1).server.teams = w.server.teams ∧
      (World.boot listenFd (w.saved outcome).1).server.messages = w.server.messages := by
  obtain ⟨users, hload, husers⟩ := load_savedDisk h.storable
  rw [saved, hsaved.disk]
  simp only [World.boot, hload, Server.start, List.map_map, and_true]
  rw [← husers]
  exact List.map_congr_left fun _ _ => rfl

end World

/-- Of what still waits when the stream is closed, the last write misses at most the last line end. -/
def WriteOutcome.Flushes (lines : List Bytes) : WriteOutcome → Prop
  | .notOpened => True
  | .opened insertions closing => (outputFile lines insertions).buffer.length ≤ closing + 1

instance (lines : List Bytes) : ∀ outcome : WriteOutcome, Decidable (outcome.Flushes lines)
  | .notOpened => isTrue trivial
  | .opened insertions closing =>
    inferInstanceAs (Decidable ((outputFile lines insertions).buffer.length ≤ closing + 1))

/-- A save that calls itself successful has opened every file and written a first part of its text. -/
theorem save_success {disk : Disk} {users : List User} {teams : List Team} {messages : List Message}
    {outcome : DataFile → WriteOutcome} (h : (save disk users teams messages outcome).2 = true) (file : DataFile) :
    ∃ insertions closing, outcome file = .opened insertions closing ∧
      (save disk users teams messages outcome).1 file =
        some ((Lines.unlines 10 (serializeData users teams messages 124 file)).take
          ((outputFile (serializeData users teams messages 124 file) insertions).content.length + closing)) ∧
      (Lines.unlines 10 (serializeData users teams messages 124 file)).length =
        (outputFile (serializeData users teams messages 124 file) insertions).content.length +
          (outputFile (serializeData users teams messages 124 file) insertions).buffer.length := by
  have hfile : (writeLines (disk file) (serializeData users teams messages 124 file) (outcome file)).2 = true :=
    List.all_eq_true.mp h file (by cases file <;> simp)
  have hcontent : (save disk users teams messages outcome).1 file =
      (writeLines (disk file) (serializeData users teams messages 124 file) (outcome file)).1 := rfl
  cases houtcome : outcome file with
  | notOpened =>
    rw [houtcome] at hfile
    cases hfile
  | opened insertions closing =>
    rw [houtcome] at hfile hcontent
    have hholds := holds_outputFile (serializeData users teams messages 124 file) insertions
    refine ⟨insertions, closing, rfl, ?_, ?_⟩
    · rw [hcontent, writeLines, ← hholds.close_good hfile]
    · rw [← hholds.good hfile, List.length_append]

/-- A successful save, into any directory, whose last writes miss nothing but line ends is loaded to the same
teams and messages, entry by entry and in order, and to the same users but for the login counters. -/
theorem persistence_round_trip {w : World} (h : w.Reachable) {old disk : Disk}
    {outcome : DataFile → WriteOutcome}
    (hsave : save old w.server.users w.server.teams w.server.messages outcome = (disk, true))
    (hflushes : ∀ file, (outcome file).Flushes
      (serializeData w.server.users w.server.teams w.server.messages 124 file)) :
    ∃ users, load disk = (true, ⟨users, w.server.teams, w.server.messages⟩) ∧
      users.map User.identity = w.server.users.map User.identity := by
  have hwritten := save_success (congrArg Prod.snd hsave)
  simp only [hsave] at hwritten
  refine load_records h.sound.storable ⟨.users, ?_⟩ fun file => ?_
  · obtain ⟨insertions, closing, -, hcontent, -⟩ := hwritten .users
    rw [hcontent]
    rfl
  · obtain ⟨insertions, closing, houtcome, hcontent, hlength⟩ := hwritten file
    have hclosing := hflushes file
    rw [houtcome, WriteOutcome.Flushes] at hclosing
    rw [hcontent]
    exact parseLines_take_all h.sound.storable (by omega)

/-- A user, a team with a delimiter, a backslash and line ends in its name, and a restart. -/
def oneTeamRun : List World.Event :=
  [.server (.accept 4), .server (.receive 4 (Request.login [97]).packet), .server (.dispatch 4 default),
    .server (.receive 4 (Request.createTeam [124, 92, 10, 13] [255]).packet), .server (.dispatch 4 default),
    .restart (fun _ => .opened [] 1000) 3]

/-- The first line of the users is written at once, in two pieces; everything else waits until the end. -/
def piecewise : DataFile → WriteOutcome
  | .users => .opened [.taken 10, .taken 30] 1000
  | _ => .opened [] 1000

theorem persistence_round_trip_one_team :
    ∃ w disk, Runs.run World.step (World.boot 3 fun _ => none) oneTeamRun = some w ∧
      w.server.teams.map (fun t => t.name.bytes) = [[124, 92, 10, 13]] ∧
      ∃ users, load disk = (true, ⟨users, w.server.teams, w.server.messages⟩) ∧
        users.map User.identity = w.server.users.map User.identity := by
  obtain ⟨w, hw⟩ : ∃ w, Runs.run World.step (World.boot 3 fun _ => none) oneTeamRun = some w :=
    Option.isSome_iff_exists.mp (by decide +kernel)
  have hfacts : (Runs.run World.step (World.boot 3 fun _ => none) oneTeamRun).map (fun w =>
      (w.server.teams.map (fun t => t.name.bytes),
        (save (fun _ => none) w.server.users w.server.teams w.server.messages piecewise).2,
        decide (∀ file, (piecewise file).Flushes
          (serializeData w.server.users w.server.teams w.server.messages 124 file)))) =
      some ([[124, 92, 10, 13]], true, true) := by decide +kernel
  rw [hw] at hfacts
  obtain ⟨hname, hfacts⟩ := Prod.mk.inj (Option.some.inj hfacts)
  obtain ⟨hsave, hflushes⟩ := Prod.mk.inj hfacts
  exact ⟨w, _, hw, hname, persistence_round_trip ⟨3, fun _ => none, oneTeamRun, fun _ => rfl, by decide +kernel, hw⟩
    (Prod.ext rfl hsave) (of_decide_eq_true hflushes)⟩

/-- A user logs in. -/
def oneLoginRun : List World.Event :=
  [.server (.accept 4), .server (.receive 4 (Request.login [97]).packet), .server (.dispatch 4 default)]

/-- The save is called successful when no text has been refused; on a full disk all files are empty then. -/
theorem successful_save_loses :
    ¬∀ w : World, w.Reachable → ∀ (old disk : Disk) (outcome : DataFile → WriteOutcome),
      save old w.server.users w.server.teams w.server.messages outcome = (disk, true) →
      ∃ users, load disk = (true, ⟨users, w.server.teams, w.server.messages⟩) ∧
        users.map User.identity = w.server.users.map User.identity := by
  intro h
  have hfacts : (Runs.run World.step (World.boot 3 fun _ => none) oneLoginRun).map (fun w =>
      ((save (fun _ => none) w.server.users w.server.teams w.server.messages fun _ => .opened [] 0).2,
        (load (save (fun _ => none) w.server.users w.server.teams w.server.messages
          fun _ => .opened [] 0).1).2.users.length, w.server.users.length)) = some (true, 0, 1) := by
    decide +kernel
  obtain ⟨w, hw, hfacts⟩ := Option.map_eq_some_iff.mp hfacts
  obtain ⟨hsaved, hfacts⟩ := Prod.mk.inj hfacts
  obtain ⟨hloaded, hstored⟩ := Prod.mk.inj hfacts
  obtain ⟨users, hload, hsame⟩ := h w ⟨3, fun _ => none, oneLoginRun, fun _ => rfl, by decide +kernel, hw⟩
    (fun _ => none) _ _ (Prod.ext rfl hsaved)
  rw [hload] at hloaded
  have hlength := congrArg List.length hsame
  rw [List.length_map, List.length_map] at hlength
  have hone : users.length = 1 := hlength.trans hstored
  have hzero : users.length = 0 := hloaded
  omega

end TeamsMirror
