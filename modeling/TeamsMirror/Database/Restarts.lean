import TeamsMirror.Database.Histories
import TeamsMirror.Server.Transactions

/-!
# A restart goes unnoticed

A server that saves all its files and is started again is the server that it would be
if every connection had been closed: what is in memory but not in the database is about
connections, and nothing else is lost or brought back. From then on the two cannot be
told apart, whatever is sent to them.
-/

namespace TeamsMirror

open Lists

namespace Server

variable {s s' t u : Server}

/-- Servers that are the same but for buffers have the same histories. -/
theorem Alike.overWire (h : s.Alike .all t) (hlinked : t.Linked) (hdrained : t.Drained)
    {history : List (Transaction × List (Fd × Packet))} (hover : s.OverWire history u) :
    ∃ v, t.OverWire history v ∧ u.Alike .all v := by
  obtain ⟨events, hrun, rfl⟩ := hover
  obtain ⟨u₁, hu₁, halike₁, hshown₁⟩ := run_transactions hrun
  have hstep : ∀ (s : Server) transaction s' t, s.Alike .all t → s.transactStep transaction = some s' →
      ∃ t', Runs.run transactStep t [transaction] = some t' ∧ s'.Alike .all t' ∧
        Runs.collect transactStep tracedWhole t [transaction] = s.tracedWhole transaction := by
    intro s transaction s' t halike hs
    obtain ⟨⟨s'', queued⟩, htransact, rfl⟩ := Option.map_eq_some_iff.mp hs
    obtain ⟨t', ht', halike', -, hshown⟩ := halike.run_transact (.all _ _ _) htransact
    exact ⟨t', ht', halike', hshown.trans (tracedWhole_eq htransact).symm⟩
  obtain ⟨u₂, hu₂, halike₂, hshown₂⟩ := Runs.run_simulates hstep h hu₁
  obtain ⟨events', v, hv, halike, hshown⟩ := run_undivided hlinked hdrained hu₂
  exact ⟨v, ⟨events', hv, hshown.trans (hshown₂.trans hshown₁)⟩,
    halike₁.trans (halike₂.trans halike)⟩

/-- What holds of the server in every state of its life. -/
structure Regular (s : Server) : Prop where
  linked : s.Linked
  known : s.Known
  counted : s.Counted

theorem Regular.handle {e : Event} {queued : List (Fd × Packet)} (h : s.Regular)
    (hs : s.handle e = some (s', queued)) : s'.Regular where
  linked := h.linked.step hs
  known := h.known.step hs
  counted := h.counted.step h.known hs

/-- What a disconnection leaves: what is stored, and the other connections. -/
structure Leaves (s s' : Server) (fds : List Fd) : Prop where
  listenFd : s'.listenFd = s.listenFd
  users : s'.users.map User.identity = s.users.map User.identity
  teams : s'.teams = s.teams
  messages : s'.messages = s.messages
  sockets : ∀ fd, fd ∈ s'.clientSockets ↔ fd ∈ s.clientSockets ∧ fd ∉ fds

theorem identity_removeLoggedIn (user : User) : user.removeLoggedIn.identity = user.identity := by
  rw [User.identity, User.uuid_removeLoggedIn, User.name_removeLoggedIn, User.identity]

theorem exists_disconnect {fd : Fd} (hfd : fd ∈ s.clientSockets) :
    ∃ s' queued, s.handle (.disconnect fd) = some (s', queued) ∧ s.Leaves s' [fd] := by
  obtain ⟨s', queued, hs⟩ : ∃ s' queued, s.handle (.disconnect fd) = some (s', queued) := by
    simp only [handle, if_pos hfd]
    exact ⟨_, _, rfl⟩
  refine ⟨s', queued, hs, ?_⟩
  obtain ⟨-, middle, hd, rfl⟩ := handle_disconnect hs
  have hsockets : ∀ fd', fd' ∈ s.clientSockets.erase fd ↔ fd' ∈ s.clientSockets ∧ fd' ∉ [fd] := by
    intro fd'
    rw [Finset.mem_erase, List.mem_singleton, and_comm]
  cases hd with
  | anonymous => exact ⟨rfl, rfl, rfl, rfl, hsockets⟩
  | known =>
    exact ⟨rfl, map_modifyFirst identity_removeLoggedIn s.users, rfl, rfl, hsockets⟩
  | unknown => exact ⟨rfl, rfl, rfl, rfl, hsockets⟩

/-- All of some connections can be closed, one after the other. -/
theorem run_disconnect {fds : List Fd} (hregular : s.Regular) (hnodup : fds.Nodup)
    (hopen : ∀ fd ∈ fds, fd ∈ s.clientSockets) :
    ∃ s', Runs.run step s (fds.map .disconnect) = some s' ∧ s'.Regular ∧ s.Leaves s' fds := by
  induction fds generalizing s with
  | nil => exact ⟨s, rfl, hregular, rfl, rfl, rfl, rfl, by simp⟩
  | cons fd fds ih =>
    obtain ⟨hfd, hnodup⟩ := List.nodup_cons.mp hnodup
    obtain ⟨t, queued, ht, hleft⟩ := exists_disconnect (hopen fd List.mem_cons_self)
    have hrest : ∀ fd' ∈ fds, fd' ∈ t.clientSockets := by
      intro fd' hfd'
      refine (hleft.sockets fd').mpr ⟨hopen fd' (List.mem_cons_of_mem _ hfd'), ?_⟩
      rintro hmem
      exact hfd (List.mem_singleton.mp hmem ▸ hfd')
    obtain ⟨s', hs', hregular', hleft'⟩ := ih (hregular.handle ht) hnodup hrest
    have hstep : s.step (.disconnect fd) = some t := step_eq_some.mpr ⟨queued, ht⟩
    refine ⟨s', Runs.run_cons_eq_some.mpr ⟨t, hstep, hs'⟩, hregular', hleft'.listenFd.trans hleft.listenFd,
      hleft'.users.trans hleft.users, hleft'.teams.trans hleft.teams, hleft'.messages.trans hleft.messages,
      fun fd' => ?_⟩
    rw [hleft'.sockets, hleft.sockets, List.mem_singleton, List.mem_cons, not_or, and_assoc]

/-- A server without connections holds nothing but what it stores. -/
theorem Regular.closed (h : s.Regular) (hnone : s.clientSockets = ∅) :
    s.authenticatedUsersByFd = ∅ ∧ (∀ uuid, s.sessions uuid = []) ∧ (∀ fd, s.clientManager.place fd = none) ∧
      s.Drained ∧ s.users = s.users.map User.resetLoggedIn := by
  have hnobody : ∀ fd, fd ∉ s.authenticatedUsersByFd := by
    intro fd hmem
    have hfd := h.linked.live fd hmem
    rw [hnone] at hfd
    exact absurd hfd (Finset.notMem_empty fd)
  have hclients : ∀ fd, s.clientManager.clients.lookup fd = none := by
    intro fd
    rw [AList.lookup_eq_none, h.linked.clients, hnone]
    exact Finset.notMem_empty fd
  have hempty : s.authenticatedUsersByFd = ∅ := by
    refine AList.ext (List.eq_nil_iff_forall_not_mem.mpr fun entry hentry => ?_)
    exact hnobody entry.1 (List.mem_keys_of_mem hentry)
  refine ⟨hempty, fun uuid => ?_, fun fd => ?_, fun fd => ?_, ?_⟩
  · refine List.eq_nil_iff_forall_not_mem.mpr fun fd hfd => ?_
    have hlookup := h.linked.owned uuid fd hfd
    rw [hempty] at hlookup
    cases hlookup
  · rw [ClientManager.place, ClientManager.find, hclients]
    rfl
  · rw [ClientManager.getIncomingBuffer, ClientManager.find, hclients]
    rfl
  · have hreset : ∀ user ∈ s.users, user.resetLoggedIn = user := by
      intro user huser
      have hcount : user.isLoggedInCount = 0 := by
        rw [h.counted.count user huser, online, hempty]
        rfl
      rw [User.resetLoggedIn, ← hcount]
    rw [List.map_congr_left hreset, List.map_id']

end Server

namespace World

variable {w : World}

theorem regular_boot {disk : Disk} {listenFd : Fd} (h : (boot listenFd disk).Integral) :
    (boot listenFd disk).server.Regular where
  linked := h.sound.linked
  known := h.sound.known
  counted := by
    refine .start ?_
    have hnodup := CString.nodup_bytes h.distinct.disk.userUuids
    exact hnodup

/-- Over any number of lives with whole saves, or none. -/
theorem regular_run {listenFd : Fd} {disk : Disk} {events : List Event}
    (hempty : ∀ file, readTextFile (disk file) = [])
    (hwhole : Runs.Always step Whole (boot listenFd disk) events)
    (hrun : Runs.run step (boot listenFd disk) events = some w) : w.Integral ∧ w.server.Regular := by
  have hboot : (boot listenFd disk).Integral := .boot hempty listenFd
  refine Runs.run_invariant_of (P := fun w => w.Integral ∧ w.server.Regular) ?_
    ⟨hboot, regular_boot hboot⟩ hwhole hrun
  rintro w e w' ⟨hintegral, hregular⟩ hwhole hs
  have hintegral' := hintegral.step hwhole hs
  refine ⟨hintegral', ?_⟩
  cases e with
  | server e =>
    obtain ⟨s, hstep, rfl⟩ := Option.map_eq_some_iff.mp hs
    obtain ⟨queued, hhandle⟩ := Server.step_eq_some.mp hstep
    exact hregular.handle hhandle
  | restart outcome listenFd =>
    obtain rfl := Option.some.inj hs
    exact regular_boot hintegral'

/-- The users that are loaded are those that were saved, with nobody logged in. -/
theorem map_resetLoggedIn_eq {users users' : List User}
    (h : users'.map User.identity = users.map User.identity) :
    users'.map User.resetLoggedIn = users.map User.resetLoggedIn := by
  have hreset : ∀ users : List User, users.map User.resetLoggedIn =
      (users.map fun user => (user.uuid, user.name)).map fun p => ⟨p.1, p.2, 0⟩ := by
    intro users
    rw [List.map_map]
    rfl
  have hbytes : Function.Injective fun p : Uuid × CString maxNameLength => (p.1.bytes, p.2.bytes) := by
    rintro ⟨uuid, name⟩ ⟨uuid', name'⟩ he
    obtain ⟨huuid, hname⟩ := Prod.mk.inj he
    obtain rfl : uuid = uuid' := CString.ext huuid
    obtain rfl : name = name' := CString.ext hname
    rfl
  have hparts : users'.map (fun user => (user.uuid, user.name)) = users.map fun user => (user.uuid, user.name) := by
    refine List.map_injective_iff.mpr hbytes ?_
    rw [List.map_map, List.map_map]
    exact h
  rw [hreset, hreset users, hparts]

/-- A server is saved as a whole and started again. That is as if all its connections had been closed, in
whatever order: from then on both have the same histories, which lead both to the same state but for what is
in the buffers. -/
theorem restart_unnoticed {listenFd : Fd} {disk : Disk} {events : List Event} {outcome : DataFile → WriteOutcome}
    {fds : List Fd} (hempty : ∀ file, readTextFile (disk file) = [])
    (hwhole : Runs.Always step Whole (boot listenFd disk) events)
    (hrun : Runs.run step (boot listenFd disk) events = some w)
    (hsaved : WritesAll w.disk w.server.users w.server.teams w.server.messages outcome)
    (hnodup : fds.Nodup) (hopen : ∀ fd, fd ∈ fds ↔ fd ∈ w.server.clientSockets) :
    ∃ s, Runs.run Server.step w.server (fds.map .disconnect) = some s ∧
      s.Alike .all (boot w.server.listenFd (w.saved outcome).1).server ∧
      ∀ history,
        (∀ u, s.OverWire history u →
          ∃ v, (boot w.server.listenFd (w.saved outcome).1).server.OverWire history v ∧ u.Alike .all v) ∧
        ∀ v, (boot w.server.listenFd (w.saved outcome).1).server.OverWire history v →
          ∃ u, s.OverWire history u ∧ v.Alike .all u := by
  obtain ⟨hintegral, hregular⟩ := regular_run hempty hwhole hrun
  obtain ⟨s, hs, hregular', hleft⟩ := Server.run_disconnect hregular hnodup fun fd hfd => (hopen fd).mp hfd
  have hnone : s.clientSockets = ∅ := by
    refine Finset.eq_empty_iff_forall_notMem.mpr fun fd hfd => ?_
    obtain ⟨hsocket, hfds⟩ := (hleft.sockets fd).mp hfd
    exact hfds ((hopen fd).mpr hsocket)
  obtain ⟨hauthenticated, hsessions, hplaces, hdrained, hreset⟩ := hregular'.closed hnone
  obtain ⟨husers, hteams, hmessages⟩ := hintegral.sound.boot_saved hsaved w.server.listenFd
  have hbooted : ((boot w.server.listenFd (w.saved outcome).1).server.users) = s.users := by
    have hreboot : (boot w.server.listenFd (w.saved outcome).1).server.users.map User.resetLoggedIn =
        (boot w.server.listenFd (w.saved outcome).1).server.users := by
      simp only [boot, Server.start, List.map_map]
      rfl
    rw [hreset, ← hreboot]
    exact map_resetLoggedIn_eq (husers.trans hleft.users.symm)
  have halike : s.Alike .all (boot w.server.listenFd (w.saved outcome).1).server := by
    refine ⟨?_, ?_, ?_, fun uuid => (hsessions uuid).symm, fun fd => (hplaces fd).symm⟩
    · rw [← hbooted, hnone, hauthenticated, hleft.listenFd]
      rfl
    · rw [hteams, hleft.teams]
    · rw [hmessages, hleft.messages]
  have hlinked : (boot w.server.listenFd (w.saved outcome).1).server.Linked := .start _ _ _ _
  refine ⟨s, hs, halike, fun history => ⟨fun u hu => ?_, fun v hv => ?_⟩⟩
  · exact halike.overWire hlinked (fun _ => rfl) hu
  · exact halike.symm.overWire hregular'.linked hdrained hv

theorem restart_unnoticed_one_user :
    ∃ w s, Runs.run step (boot 3 fun _ => none) oneUserRun = some w ∧
      w.server.users.map User.isLoggedIn = [true] ∧
      Runs.run Server.step w.server [.disconnect 4] = some s ∧
      s.Alike .all (boot w.server.listenFd (w.saved fun _ => .opened [] 1000).1).server := by
  have hfacts : (Runs.run step (boot 3 fun _ => none) oneUserRun).map (fun w =>
      decide (w.server.users.map User.isLoggedIn = [true]) && decide (w.server.clientSockets = {4}) &&
        decide (WritesAll w.disk w.server.users w.server.teams w.server.messages fun _ => .opened [] 1000)) =
      some true := by decide +kernel
  obtain ⟨w, hw, hfacts⟩ := Option.map_eq_some_iff.mp hfacts
  simp only [Bool.and_eq_true, decide_eq_true_eq] at hfacts
  obtain ⟨⟨husers, hsockets⟩, hsaved⟩ := hfacts
  have hopen : ∀ fd, fd ∈ [(4 : Fd)] ↔ fd ∈ w.server.clientSockets := by
    intro fd
    rw [hsockets, Finset.mem_singleton, List.mem_singleton]
  obtain ⟨s, hs, halike, -⟩ :=
    restart_unnoticed (fun _ => rfl) (by decide +kernel) hw hsaved (List.nodup_singleton 4) hopen
  exact ⟨w, s, hw, husers, hs, halike⟩

end World

end TeamsMirror
