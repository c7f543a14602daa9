import TeamsMirror.Database.Integrity
import TeamsMirror.Server.Letters

/-!
# Conversations

Whoever asks for a conversation is shown every letter of it that was ever accepted,
in whatever life of the server that was.
-/

namespace TeamsMirror

open Lists

theorem isXdigit_hexDigit (d : Fin 16) : isxdigit (hexDigit d) = true := by
  revert d
  decide

theorem isUuidFormatValid_generateUuid (draw : Nat → Fin 16) : isUuidFormatValid (generateUuid draw) = true := by
  simp only [isUuidFormatValid, Bool.and_eq_true, decide_eq_true_eq, List.all_eq_true]
  refine ⟨length_generateUuid draw, ?_⟩
  rintro ⟨b, index⟩ hmem
  rw [List.mem_zipIdx_iff_getElem?, generateUuid, List.getElem?_map] at hmem
  obtain ⟨i, hi, hb⟩ := Option.map_eq_some_iff.mp hmem
  obtain ⟨hlt, hindex⟩ := List.getElem?_eq_some_iff.mp hi
  rw [List.getElem_range] at hindex
  obtain rfl : index = i := hindex
  obtain rfl : _ = b := hb
  by_cases hhyphen : isHyphenIndex index
  · simp [hhyphen]
  · simp [hhyphen, isXdigit_hexDigit]

/-- The uuid of every user is one that a request may name. -/
def Formatted (users : List User) : Prop := ∀ u ∈ users, isUuidFormatValid u.uuid.bytes = true

theorem Formatted.of_uuids {users users' : List User} (h : Formatted users)
    (hsub : ∀ uuid ∈ users'.map User.uuid, uuid ∈ users.map User.uuid) : Formatted users' := by
  intro u' hu'
  obtain ⟨u, hu, he⟩ := List.mem_map.mp (hsub _ (List.mem_map_of_mem hu'))
  rw [← he]
  exact h u hu

theorem kept_formatted : Kept fun users _ _ => Formatted users where
  empty := by simp [Formatted]
  identity {users users' _ _} hsame h := by
    have huuids := congrArg (List.map Prod.fst) (identities_of_identity hsame)
    rw [List.map_map, List.map_map] at huuids
    have huuids : users'.map User.uuid = users.map User.uuid := huuids
    exact h.of_uuids fun _ hu => huuids ▸ hu
  step {s s' e queued} _ hs h := by
    rcases Server.registers_step hs with hsame | ⟨draw, -, hadded⟩
    · exact h.of_uuids fun _ hu => hsame ▸ hu
    · intro u hu
      have huuid := List.mem_map_of_mem (f := User.uuid) hu
      rw [hadded] at huuid
      rcases List.mem_append.mp huuid with hold | hnew
      · obtain ⟨v, hv, he⟩ := List.mem_map.mp hold
        rw [← he]
        exact h v hv
      · rw [List.mem_singleton.mp hnew, bytes_copyBuffer_generateUuid]
        exact isUuidFormatValid_generateUuid draw

/-- The lives of a server, with the letters of all requests that it has answered `RPL_OK`. -/
structure Correspondence where
  world : World
  accepted : List Letter

namespace Correspondence

def step (c : Correspondence) : World.Event → Option Correspondence
  | .server e => (c.world.server.handle e).map fun r =>
    ⟨{ c.world with server := r.1 }, c.accepted ++ (c.world.server.acceptedLetter r.2 e).toList⟩
  | .restart outcome listenFd => some ⟨World.boot listenFd (c.world.saved outcome).1, c.accepted⟩

/-- Processes end with a save of all files. -/
def Saved (c : Correspondence) : World.Event → Prop
  | .server _ => True
  | .restart outcome _ =>
    WritesAll c.world.disk c.world.server.users c.world.server.teams c.world.server.messages outcome

instance (c : Correspondence) : ∀ e : World.Event, Decidable (c.Saved e)
  | .server _ => isTrue trivial
  | .restart outcome _ => inferInstanceAs (Decidable
    (WritesAll c.world.disk c.world.server.users c.world.server.teams c.world.server.messages outcome))

theorem step_world {c c' : Correspondence} {e : World.Event} (hs : c.step e = some c') :
    c.world.step e = some c'.world := by
  cases e with
  | server e =>
    obtain ⟨⟨s, queued⟩, hhandle, rfl⟩ := Option.map_eq_some_iff.mp hs
    rw [World.step, Server.step, hhandle]
    rfl
  | restart outcome listenFd =>
    obtain rfl := Option.some.inj hs
    rfl

/-- What is stored is what was accepted. -/
structure Recorded (c : Correspondence) : Prop where
  sound : c.world.Sound
  formatted : Kept.Holds (fun users _ _ => Formatted users) c.world
  messages : c.world.server.messages.map Message.letter = c.accepted

theorem Recorded.step {c c' : Correspondence} {e : World.Event} (h : c.Recorded) (hsaved : c.Saved e)
    (hs : c.step e = some c') : c'.Recorded := by
  have hworld := step_world hs
  have hwhole : c.world.Whole e := by
    cases e with
    | server => trivial
    | restart => exact .inl hsaved
  refine ⟨h.sound.step hwhole.unrepeated hworld, kept_formatted.holds_step h.sound h.formatted hwhole hworld, ?_⟩
  cases e with
  | server e =>
    obtain ⟨⟨s, queued⟩, hhandle, rfl⟩ := Option.map_eq_some_iff.mp hs
    rw [← h.messages]
    exact Server.letters_step h.sound.known hhandle
  | restart outcome listenFd =>
    obtain rfl := Option.some.inj hs
    obtain ⟨-, -, hmessages⟩ := h.sound.boot_saved hsaved listenFd
    rw [← h.messages, hmessages]

theorem Recorded.start {disk : Disk} (hempty : ∀ file, readTextFile (disk file) = []) (listenFd : Fd) :
    Recorded ⟨World.boot listenFd disk, []⟩ where
  sound := .boot_empty hempty listenFd
  formatted := kept_formatted.boot_empty hempty listenFd
  messages := by
    simp only [World.boot, load_empty hempty]
    rfl

/-- The rule: whatever is stored in any life was accepted once. -/
theorem Recorded.run {listenFd : Fd} {disk : Disk} {events : List World.Event} {c : Correspondence}
    (hempty : ∀ file, readTextFile (disk file) = [])
    (hsaved : Runs.Always Correspondence.step Saved ⟨World.boot listenFd disk, []⟩ events)
    (hrun : Runs.run Correspondence.step ⟨World.boot listenFd disk, []⟩ events = some c) : c.Recorded :=
  Runs.run_invariant_of (P := Recorded) (fun _ _ _ h hc hs => h.step hc hs) (.start hempty listenFd) hsaved hrun

/-- Over any number of lives with complete saves, a conversation of two users lists to either of
them what was accepted between them, and the same to both. -/
theorem conversations_complete {listenFd : Fd} {disk : Disk} {events : List World.Event} {c : Correspondence}
    (hempty : ∀ file, readTextFile (disk file) = [])
    (hsaved : Runs.Always step Saved ⟨World.boot listenFd disk, []⟩ events)
    (hrun : Runs.run step ⟨World.boot listenFd disk, []⟩ events = some c)
    {a b : User} (ha : a ∈ c.world.server.users) (hb : b ∈ c.world.server.users) :
    (∀ fd environment s' queued, c.world.server.Asks fd a.uuid.bytes b.uuid.bytes →
      c.world.server.handle (.dispatch fd environment) = some (s', queued) →
      Server.Lists c.accepted fd a.uuid.bytes b.uuid.bytes queued) ∧
    ∀ fd fd' environment environment' s₁ s₂ queued queued',
      c.world.server.Asks fd a.uuid.bytes b.uuid.bytes → c.world.server.Asks fd' b.uuid.bytes a.uuid.bytes →
      c.world.server.handle (.dispatch fd environment) = some (s₁, queued) →
      c.world.server.handle (.dispatch fd' environment') = some (s₂, queued') →
      (queued.map Prod.snd).Perm (queued'.map Prod.snd) := by
  have hrecorded : c.Recorded := .run hempty hsaved hrun
  have hlists : ∀ {x y : User}, y ∈ c.world.server.users → ∀ fd environment s' queued,
      c.world.server.Asks fd x.uuid.bytes y.uuid.bytes →
      c.world.server.handle (.dispatch fd environment) = some (s', queued) →
      Server.Lists c.accepted fd x.uuid.bytes y.uuid.bytes queued := by
    intro x y hy fd environment s' queued hasks hs
    have hfound : (findUserByUuid c.world.server.users y.uuid.bytes).isSome := by
      refine List.find?_isSome.mpr ⟨y, hy, ?_⟩
      simp
    rw [← hrecorded.messages]
    exact hasks.lists (hrecorded.formatted.server y hy) hfound hs
  refine ⟨hlists hb, ?_⟩
  intro fd fd' environment environment' s₁ s₂ queued queued' hasks hasks' hs hs'
  obtain ⟨listed, rfl, hperm, -, -⟩ := hlists hb _ _ _ _ hasks hs
  obtain ⟨listed', rfl, hperm', -, -⟩ := hlists ha _ _ _ _ hasks' hs'
  have hsame : (c.accepted.filter (Letter.Between b.uuid.bytes a.uuid.bytes)) =
      c.accepted.filter (Letter.Between a.uuid.bytes b.uuid.bytes) :=
    List.filter_congr fun l _ => l.between_comm _ _
  have hlisted : listed.Perm listed' := hperm.trans (hsame ▸ hperm'.symm)
  simp only [List.map_append, List.map_map]
  exact (hlisted.map Letter.entry).append_right _

/-- A user who writes to itself asks for the conversation after a restart. -/
def askingRun : List World.Event :=
  World.oneUserRun ++
    [.server (.receive 4 (Request.messages (generateUuid (default : Environment).draw)).packet)]

theorem conversations_complete_one_letter :
    ∃ c, Runs.run step ⟨World.boot 3 fun _ => none, []⟩ askingRun = some c ∧
      ∃ a ∈ c.world.server.users, ∃ s' queued,
        c.world.server.handle (.dispatch 4 default) = some (s', queued) ∧ queued.length = 2 ∧
        Server.Lists c.accepted 4 a.uuid.bytes a.uuid.bytes queued := by
  obtain ⟨c, hc⟩ : ∃ c, Runs.run step ⟨World.boot 3 fun _ => none, []⟩ askingRun = some c :=
    Option.isSome_iff_exists.mp (by decide +kernel)
  have hfacts : (Runs.run step ⟨World.boot 3 fun _ => none, []⟩ askingRun).map (fun c =>
      (c.world.server.users.map (fun u => u.uuid.bytes), c.world.server.authenticatedUsersByFd.lookup 4,
        c.world.server.askedConversation 4,
        (c.world.server.handle (.dispatch 4 default)).map fun r => r.2.length)) =
      some ([generateUuid (default : Environment).draw], some (generateUuid (default : Environment).draw),
        some (generateUuid (default : Environment).draw), some 2) := by decide +kernel
  rw [hc] at hfacts
  obtain ⟨⟨a, ha, huuid⟩, hclient, htarget, s', queued, hs, hlength⟩ := by simpa using hfacts
  have hmem : a ∈ c.world.server.users := ha ▸ List.mem_singleton_self a
  have hcomplete := conversations_complete (fun _ => rfl) (by decide +kernel) hc hmem hmem
  exact ⟨c, hc, a, hmem, s', queued, hs, hlength,
    hcomplete.1 4 default s' queued ⟨huuid ▸ hclient, huuid ▸ htarget⟩ hs⟩

end Correspondence

end TeamsMirror
