import TeamsMirror.Database.Conversations
import TeamsMirror.Lib.Sorting

/-!
# The order of a conversation

Letters are stored as they are accepted, and `/messages` sorts them by a clock that
counts seconds. `std::sort` may exchange the letters of one second, so that a
conversation is sure to be listed as it was accepted only when no second holds two
different letters of it.
-/

namespace TeamsMirror

open Sorting

/-- The packets list the conversation as it was accepted, then one status. -/
def Server.ListsInOrder (letters : List Letter) (fd : Fd) (client target : Bytes)
    (queued : List (Fd × Packet)) : Prop :=
  queued = (letters.filter (Letter.Between client target)).map (fun l => (fd, l.entry)) ++ [(fd, .ofStatus .ok)]

namespace Letter

/-- The clock did not go backwards between the letters. -/
def Chronological (letters : List Letter) : Prop := letters.Pairwise fun l l' => l.sentAt ≤ l'.sentAt

/-- No second holds two different letters. -/
def Untied (letters : List Letter) : Prop := ∀ l ∈ letters, ∀ l' ∈ letters, l.sentAt = l'.sentAt → l = l'

/-- The entry of a letter shows all of it to the two who write to each other. -/
theorem eq_of_entry {a b : Bytes} {l l' : Letter} (hl : l.Between a b = true) (hl' : l'.Between a b = true)
    (hlegible : l.Legible) (hlegible' : l'.Legible) (hentry : l.entry = l'.entry) : l = l' := by
  obtain ⟨sender, receiver, sentAt, body⟩ := l
  obtain ⟨sender', receiver', sentAt', body'⟩ := l'
  simp only [entry, Packet.mk.injEq, Payload.rplMessage.injEq, PayloadRplMessage.mk.injEq, true_and] at hentry
  obtain ⟨hsender, hat, hbody⟩ := hentry
  have hsender : sender = sender' := by
    have h := hlegible.sender
    rw [hsender, hlegible'.sender] at h
    exact (Option.some.inj h).symm
  have hbody : body = body' := by
    have h := hlegible.body
    rw [hbody, hlegible'.body] at h
    exact (Option.some.inj h).symm
  have hat : sentAt = sentAt' := by
    simpa using congrArg UInt64.toInt64 hat
  have hreceiver : receiver = receiver' := by
    simp only [Between, Bool.or_eq_true, Bool.and_eq_true, decide_eq_true_eq] at hl hl'
    rcases hl with ⟨hb, ha⟩ | ⟨ha, hb⟩ <;> rcases hl' with ⟨hb', ha'⟩ | ⟨ha', hb'⟩ <;> simp_all
  rw [hsender, hreceiver, hat, hbody]

end Letter

namespace Correspondence

theorem Recorded.inOrder_iff {c : Correspondence} (hrecorded : c.Recorded)
    (hclock : Letter.Chronological c.accepted) {a b : User} (hb : b ∈ c.world.server.users) {fd : Fd}
    (hasks : c.world.server.Asks fd a.uuid.bytes b.uuid.bytes) :
    (∀ environment s' queued, c.world.server.handle (.dispatch fd environment) = some (s', queued) →
        Server.ListsInOrder c.accepted fd a.uuid.bytes b.uuid.bytes queued) ↔
      Letter.Untied (c.accepted.filter (Letter.Between a.uuid.bytes b.uuid.bytes)) := by
  have hfd : fd ∈ c.world.server.clientSockets :=
    hrecorded.sound.linked.live fd (UnorderedMap.mem_of_lookup hasks.client)
  have hfound : (findUserByUuid c.world.server.users b.uuid.bytes).isSome :=
    List.find?_isSome.mpr ⟨b, hb, by simp⟩
  let conversation := filterMessages c.world.server.messages a.uuid.bytes b.uuid.bytes
  let look := fun m : Message => (fd, m.letter.entry)
  have hletters : conversation.map Message.letter =
      c.accepted.filter (Letter.Between a.uuid.bytes b.uuid.bytes) := by
    rw [map_letter_filterMessages, hrecorded.messages]
  have hsorted : conversation.Pairwise fun m m' => m.createdAt ≤ m'.createdAt := by
    have hfiltered : (conversation.map Message.letter).Pairwise fun l l' => l.sentAt ≤ l'.sentAt := by
      rw [hletters]
      exact hclock.filter _
    rwa [List.pairwise_map] at hfiltered
  -- the reply depends on the environment through its sort alone
  have hlisted : (∀ environment s' queued, c.world.server.handle (.dispatch fd environment) = some (s', queued) →
      Server.ListsInOrder c.accepted fd a.uuid.bytes b.uuid.bytes queued) ↔
      ∀ sort, Sorts Message.createdAt sort → (sort conversation).map look = conversation.map look := by
    have hinOrder : ∀ environment s' queued,
        c.world.server.handle (.dispatch fd environment) = some (s', queued) →
        (Server.ListsInOrder c.accepted fd a.uuid.bytes b.uuid.bytes queued ↔
          (environment.sorter.sort conversation).map look = conversation.map look) := by
      intro environment s' queued hs
      rw [hasks.queued_eq (hrecorded.formatted.server b hb) hfound hs, Server.ListsInOrder, ← hletters,
        List.append_left_inj, List.map_map, List.map_map]
      rfl
    constructor
    · intro hall sort hsort
      let environment : Environment := { (default : Environment) with sorter := ⟨sort, hsort.perm, hsort.sorted⟩ }
      obtain ⟨s', queued, hs⟩ := hasks.answered hfd environment
      exact (hinOrder environment s' queued hs).mp (hall environment s' queued hs)
    · intro hall environment s' queued hs
      exact (hinOrder environment s' queued hs).mpr
        (hall _ ⟨environment.sorter.perm, environment.sorter.sorted⟩)
  have hsorts : Sorts Message.createdAt (default : Environment).sorter.sort :=
    ⟨(default : Environment).sorter.perm, (default : Environment).sorter.sorted⟩
  rw [hlisted, forall_sorts_iff hsorts hsorted, ← hletters, Letter.Untied, List.forall_mem_map]
  have hbetween : ∀ m ∈ conversation, m.letter.Between a.uuid.bytes b.uuid.bytes = true :=
    fun m hm => (List.mem_filter.mp hm).2
  constructor
  · intro hties m hm l hl hat
    obtain ⟨m', hm', rfl⟩ := List.mem_map.mp hl
    exact Letter.eq_of_entry (hbetween m hm) (hbetween m' hm') m.legible_letter m'.legible_letter
      (Prod.mk.inj (hties m hm m' hm' hat)).2
  · intro hties m hm m' hm' hat
    exact congrArg (fun l => (fd, l.entry)) (hties m hm m'.letter (List.mem_map_of_mem hm') hat)

/-- Whatever order the sort leaves, a conversation is listed as it was accepted, if and only if no
second holds two different letters of it. -/
theorem listed_in_order_iff {listenFd : Fd} {disk : Disk} {events : List World.Event} {c : Correspondence}
    (hempty : ∀ file, readTextFile (disk file) = [])
    (hsaved : Runs.Always step Saved ⟨World.boot listenFd disk, []⟩ events)
    (hrun : Runs.run step ⟨World.boot listenFd disk, []⟩ events = some c)
    (hclock : Letter.Chronological c.accepted) {a b : User} (hb : b ∈ c.world.server.users) {fd : Fd}
    (hasks : c.world.server.Asks fd a.uuid.bytes b.uuid.bytes) :
    (∀ environment s' queued, c.world.server.handle (.dispatch fd environment) = some (s', queued) →
        Server.ListsInOrder c.accepted fd a.uuid.bytes b.uuid.bytes queued) ↔
      Letter.Untied (c.accepted.filter (Letter.Between a.uuid.bytes b.uuid.bytes)) := by
  have hrecorded : c.Recorded := .run hempty hsaved hrun
  exact hrecorded.inOrder_iff hclock hb hasks

/-- Connection 4 sends two letters to the user of connection 5, the second at another time or at
the same, and asks for them. -/
def twoLettersRun (later : Int64) : List World.Event :=
  let draw := fun _ => Fin.last 15
  [.server (.accept 4), .server (.accept 5),
    .server (.receive 4 (Request.login [97]).packet), .server (.dispatch 4 default),
    .server (.receive 5 (Request.login [98]).packet),
    .server (.dispatch 5 { (default : Environment) with draw := draw }),
    .server (.receive 4 (Request.send (generateUuid draw) [120]).packet), .server (.dispatch 4 default),
    .server (.receive 4 (Request.send (generateUuid draw) [121]).packet),
    .server (.dispatch 4 { (default : Environment) with now := later }),
    .server (.receive 4 (Request.messages (generateUuid draw)).packet)]

/-- What the run of the two letters leaves. -/
structure TwoLetters (later : Int64) (c : Correspondence) : Prop where
  run : Runs.run step ⟨World.boot 3 fun _ => none, []⟩ (twoLettersRun later) = some c
  accepted : c.accepted =
    [⟨generateUuid (default : Environment).draw, generateUuid fun _ => Fin.last 15, 0, [120]⟩,
      ⟨generateUuid (default : Environment).draw, generateUuid fun _ => Fin.last 15, later, [121]⟩]
  users : ∃ a ∈ c.world.server.users, ∃ b ∈ c.world.server.users,
    a.uuid.bytes = generateUuid (default : Environment).draw ∧ b.uuid.bytes = (generateUuid fun _ => Fin.last 15) ∧
    c.world.server.Asks 4 a.uuid.bytes b.uuid.bytes

theorem exists_twoLetters {later : Int64} (hlater : later = 0 ∨ later = 1) : ∃ c, TwoLetters later c := by
  have hfacts : (Runs.run step ⟨World.boot 3 fun _ => none, []⟩ (twoLettersRun later)).map (fun c =>
      (c.accepted, c.world.server.users.map (fun u => u.uuid.bytes),
        c.world.server.authenticatedUsersByFd.lookup 4, c.world.server.askedConversation 4)) =
      some ([⟨generateUuid (default : Environment).draw, generateUuid fun _ => Fin.last 15, 0, [120]⟩,
          ⟨generateUuid (default : Environment).draw, generateUuid fun _ => Fin.last 15, later, [121]⟩],
        [generateUuid (default : Environment).draw, generateUuid fun _ => Fin.last 15],
        some (generateUuid (default : Environment).draw), some (generateUuid fun _ => Fin.last 15)) := by
    rcases hlater with rfl | rfl <;> decide +kernel
  obtain ⟨c, hc, hfacts⟩ := Option.map_eq_some_iff.mp hfacts
  simp only [Prod.mk.injEq] at hfacts
  obtain ⟨haccepted, husers, hclient, htarget⟩ := hfacts
  obtain ⟨a, ha, hauuid⟩ := List.mem_map.mp (husers ▸ List.mem_cons_self)
  obtain ⟨b, hb, hbuuid⟩ := List.mem_map.mp (husers ▸ List.mem_cons_of_mem _ List.mem_cons_self)
  exact ⟨c, hc, haccepted, a, ha, b, hb, hauuid, hbuuid, hauuid ▸ hclient, hbuuid ▸ htarget⟩

theorem TwoLetters.chronological {later : Int64} {c : Correspondence} (h : TwoLetters later c)
    (hlater : 0 ≤ later) : Letter.Chronological c.accepted := by
  rw [h.accepted, Letter.Chronological, List.pairwise_pair]
  exact hlater

theorem listed_in_order_two_seconds :
    ∃ c, Runs.run step ⟨World.boot 3 fun _ => none, []⟩ (twoLettersRun 1) = some c ∧ c.accepted.length = 2 ∧
      ∃ a ∈ c.world.server.users, ∃ b ∈ c.world.server.users, ∀ environment s' queued,
        c.world.server.handle (.dispatch 4 environment) = some (s', queued) →
        Server.ListsInOrder c.accepted 4 a.uuid.bytes b.uuid.bytes queued := by
  obtain ⟨c, h⟩ := exists_twoLetters (.inr rfl)
  obtain ⟨a, ha, b, hb, -, -, hasks⟩ := h.users
  have huntied : Letter.Untied (c.accepted.filter (Letter.Between a.uuid.bytes b.uuid.bytes)) := by
    intro l hl l' hl' hat
    have hl := (List.mem_filter.mp hl).1
    have hl' := (List.mem_filter.mp hl').1
    simp only [h.accepted, List.mem_cons, List.not_mem_nil, or_false] at hl hl'
    rcases hl with rfl | rfl <;> rcases hl' with rfl | rfl <;> first | rfl | exact absurd hat (by decide)
  exact ⟨c, h.run, by rw [h.accepted]; rfl, a, ha, b, hb,
    (listed_in_order_iff (fun _ => rfl) (by decide +kernel) h.run (h.chronological (by decide)) hb hasks).mpr
      huntied⟩

/-- Two letters of one second may come back in the other order. -/
theorem not_listed_in_order :
    ¬∀ (listenFd : Fd) (disk : Disk) (events : List World.Event) (c : Correspondence) (a b : User) (fd : Fd)
      (environment : Environment) (s' : Server) (queued : List (Fd × Packet)),
      (∀ file, readTextFile (disk file) = []) →
      Runs.Always step Saved ⟨World.boot listenFd disk, []⟩ events →
      Runs.run step ⟨World.boot listenFd disk, []⟩ events = some c → Letter.Chronological c.accepted →
      a ∈ c.world.server.users → b ∈ c.world.server.users →
      c.world.server.Asks fd a.uuid.bytes b.uuid.bytes →
      c.world.server.handle (.dispatch fd environment) = some (s', queued) →
      Server.ListsInOrder c.accepted fd a.uuid.bytes b.uuid.bytes queued := by
  intro hall
  obtain ⟨c, h⟩ := exists_twoLetters (.inl rfl)
  obtain ⟨a, ha, b, hb, hauuid, hbuuid, hasks⟩ := h.users
  have hsaved : Runs.Always step Saved ⟨World.boot 3 fun _ => none, []⟩ (twoLettersRun 0) := by decide +kernel
  have hclock := h.chronological (by decide)
  have hrecorded : c.Recorded := .run (fun _ => rfl) hsaved h.run
  have huntied := (hrecorded.inOrder_iff hclock hb hasks).mp fun environment s' queued hs =>
    hall 3 (fun _ => none) (twoLettersRun 0) c a b 4 environment s' queued (fun _ => rfl) hsaved h.run hclock
      ha hb hasks hs
  rw [h.accepted, hauuid, hbuuid] at huntied
  have hbody := congrArg Letter.body (huntied
    _ (List.mem_filter.mpr ⟨List.mem_cons_self, by simp [Letter.Between]⟩)
    _ (List.mem_filter.mpr ⟨List.mem_cons_of_mem _ List.mem_cons_self, by simp [Letter.Between]⟩) rfl)
  exact absurd hbody (by decide)

end Correspondence

end TeamsMirror
