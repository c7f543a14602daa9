import TeamsMirror.Database.Conversations

/-!
# Histories

The lives of a server together with notes of what happened in them. A relation
between what is stored and what has been noted, which every event keeps and which
depends on users through their identity alone, holds in every life as long as
processes end with a complete save.
-/

namespace TeamsMirror

/-- What is noted of an event: from the server before it, the event and the packets it queued. -/
abbrev Recorder (α : Type) := Server → TeamsMirror.Event → List (Fd × Packet) → List α

namespace World

/-- What all lives share: the server is in a state reachable from its start, and what it stores,
in memory and as it would be loaded, has unique uuids and names and no dangling reference. -/
structure Integral (w : World) : Prop where
  sound : w.Sound
  reachable : w.server.Reachable
  distinct : Kept.Holds (fun users teams _ => Distinct users teams) w
  referential : Kept.Holds TeamsMirror.Referential w
  formatted : Kept.Holds (fun users _ _ => Formatted users) w

variable {w w' : World}

theorem Integral.boot {disk : Disk} (hempty : ∀ file, readTextFile (disk file) = []) (listenFd : Fd) :
    Integral (World.boot listenFd disk) where
  sound := .boot_empty hempty listenFd
  reachable := ⟨listenFd, _, _, _, [], rfl⟩
  distinct := kept_distinct.boot_empty hempty listenFd
  referential := kept_referential.boot_empty hempty listenFd
  formatted := kept_formatted.boot_empty hempty listenFd

theorem Integral.step {e : Event} (h : w.Integral) (hwhole : w.Whole e) (hs : w.step e = some w') :
    w'.Integral where
  sound := h.sound.step hwhole.unrepeated hs
  reachable := by
    cases e with
    | server e =>
      obtain ⟨s, hstep, rfl⟩ := Option.map_eq_some_iff.mp hs
      obtain ⟨listenFd, users, teams, messages, events, hrun⟩ := h.reachable
      exact ⟨listenFd, users, teams, messages, events ++ [e], Runs.run_snoc hrun hstep⟩
    | restart outcome listenFd =>
      obtain rfl := Option.some.inj hs
      exact ⟨listenFd, _, _, _, [], rfl⟩
  distinct := kept_distinct.holds_step h.sound h.distinct hwhole hs
  referential := kept_referential.holds_step h.sound h.referential hwhole hs
  formatted := kept_formatted.holds_step h.sound h.formatted hwhole hs

theorem Integral.unique (h : w.Integral) : Unique w.server.users w.server.teams :=
  .of_distinct h.sound.storable h.distinct.server

/-- The process is not interrupted before it has saved all files. -/
def Saved (w : World) : Event → Prop
  | .server _ => True
  | .restart outcome _ => WritesAll w.disk w.server.users w.server.teams w.server.messages outcome

theorem Saved.whole {e : Event} (h : w.Saved e) : w.Whole e := by
  cases e with
  | server => trivial
  | restart => exact .inl h

end World

structure History (α : Type) where
  world : World
  notes : List α

namespace History

variable {α : Type} (record : Recorder α)

def boot (listenFd : Fd) (disk : Disk) : History α := ⟨World.boot listenFd disk, []⟩

def step (h : History α) : World.Event → Option (History α)
  | .server e => (h.world.server.handle e).map fun r =>
    ⟨{ h.world with server := r.1 }, h.notes ++ record h.world.server e r.2⟩
  | .restart outcome listenFd => some ⟨World.boot listenFd (h.world.saved outcome).1, h.notes⟩

/-- Processes end with a save of all files. -/
def Saved (h : History α) (e : World.Event) : Prop := h.world.Saved e

instance (h : History α) : ∀ e : World.Event, Decidable (h.Saved e)
  | .server _ => isTrue trivial
  | .restart outcome _ => inferInstanceAs (Decidable
    (WritesAll h.world.disk h.world.server.users h.world.server.teams h.world.server.messages outcome))

variable {record} {h h' : History α}

theorem step_world {e : World.Event} (hs : h.step record e = some h') : h.world.step e = some h'.world := by
  cases e with
  | server e =>
    obtain ⟨⟨s, queued⟩, hhandle, rfl⟩ := Option.map_eq_some_iff.mp hs
    rw [World.step, Server.step, hhandle]
    rfl
  | restart outcome listenFd =>
    obtain rfl := Option.some.inj hs
    rfl

/-- A relation between what is stored and what is noted that neither a step nor a restart breaks. -/
structure Kept (record : Recorder α) (P : List User → List Team → List Message → List α → Prop) : Prop where
  empty : P [] [] [] []
  identity : ∀ {users users' : List User} {teams : List Team} {messages : List Message} {notes : List α},
    users'.map User.identity = users.map User.identity → P users teams messages notes →
    P users' teams messages notes
  step : ∀ {w : World} {s' : Server} {e : TeamsMirror.Event} {queued : List (Fd × Packet)} {notes : List α},
    w.Integral → w.server.handle e = some (s', queued) →
    P w.server.users w.server.teams w.server.messages notes →
    P s'.users s'.teams s'.messages (notes ++ record w.server e queued)

variable {P : List User → List Team → List Message → List α → Prop}

/-- The relation, in a world that is sound in all other respects. -/
structure Holds (P : List User → List Team → List Message → List α → Prop) (h : History α) : Prop where
  integral : h.world.Integral
  notes : P h.world.server.users h.world.server.teams h.world.server.messages h.notes

theorem Kept.holds_boot (hP : Kept record P) {disk : Disk} (hempty : ∀ file, readTextFile (disk file) = [])
    (listenFd : Fd) : Holds P (boot listenFd disk) where
  integral := .boot hempty listenFd
  notes := by
    simp only [boot, World.boot, load_empty hempty]
    exact hP.empty

theorem Kept.holds_step (hP : Kept record P) {e : World.Event} (hh : Holds P h) (hsaved : h.Saved e)
    (hs : h.step record e = some h') : Holds P h' := by
  refine ⟨hh.integral.step hsaved.whole (step_world hs), ?_⟩
  cases e with
  | server e =>
    obtain ⟨⟨s, queued⟩, hhandle, rfl⟩ := Option.map_eq_some_iff.mp hs
    exact hP.step hh.integral hhandle hh.notes
  | restart outcome listenFd =>
    obtain rfl := Option.some.inj hs
    obtain ⟨husers, hteams, hmessages⟩ := hh.integral.sound.boot_saved hsaved listenFd
    refine hP.identity husers ?_
    rw [hteams, hmessages]
    exact hh.notes

/-- The rule: from an empty database, through any number of lives with complete saves. -/
theorem Kept.run (hP : Kept record P) {listenFd : Fd} {disk : Disk} {events : List World.Event}
    (hempty : ∀ file, readTextFile (disk file) = [])
    (hsaved : Runs.Always (History.step record) Saved (boot listenFd disk) events)
    (hrun : Runs.run (History.step record) (boot listenFd disk) events = some h) : Holds P h :=
  Runs.run_invariant_of (fun _ _ _ hh hsaved hs => hP.holds_step hh hsaved hs) (hP.holds_boot hempty listenFd)
    hsaved hrun

end History

end TeamsMirror
