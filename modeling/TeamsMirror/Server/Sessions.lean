import TeamsMirror.Server.System

/-!
# The session maps

`authenticatedUsersByFd` decides who is logged in, `authenticatedUsersByUUID` is
its reverse index. This file shows how each change of the server acts on the two,
one lemma for each kind of change, and what they have in common in every
reachable state.
-/

namespace TeamsMirror

open Lists

namespace Server

variable {s s' : Server} {fd : Fd} {uuid : Bytes}

theorem sessions_addSession (s : Server) (fd : Fd) (uuid uuid' : Bytes) :
    (s.addSession fd uuid).sessions uuid' =
      if uuid' = uuid then s.sessions uuid ++ [fd] else s.sessions uuid' := by
  by_cases h : uuid' = uuid
  · subst h
    simp [sessions, addSession]
  · simp [sessions, addSession, h, AList.lookup_insert_ne h]

theorem sessions_removeSession (s : Server) (fd : Fd) (uuid uuid' : Bytes) :
    (s.removeSession fd uuid).sessions uuid' =
      if uuid' = uuid then (s.sessions uuid).filter fun socketFd => socketFd ≠ fd
      else s.sessions uuid' := by
  by_cases h : uuid' = uuid
  · subst h
    simp [sessions, removeSession]
  · simp [sessions, removeSession, h, AList.lookup_insert_ne h]

theorem sessions_dropSessions (s : Server) (fd : Fd) (uuid uuid' : Bytes) :
    (s.dropSessions fd uuid).sessions uuid' = if uuid' = uuid then [] else s.sessions uuid' := by
  by_cases h : uuid' = uuid
  · subst h
    simp [sessions, dropSessions]
  · simp [sessions, dropSessions, h, AList.lookup_erase_ne h]

/-- A change that neither opens nor closes a connection, and moves no byte. -/
structure SameConnections (s s' : Server) : Prop where
  listenFd : s'.listenFd = s.listenFd
  clientSockets : s'.clientSockets = s.clientSockets
  keys : s'.clientManager.clients.keys = s.clientManager.clients.keys
  incoming : ∀ fd, s'.clientManager.getIncomingBuffer fd = s.clientManager.getIncomingBuffer fd
  outgoing : ∀ fd, s'.clientManager.getQueuedData fd = s.clientManager.getQueuedData fd

theorem SameConnections.of_eq (hlisten : s'.listenFd = s.listenFd)
    (hsockets : s'.clientSockets = s.clientSockets) (hmanager : s'.clientManager = s.clientManager) :
    SameConnections s s' :=
  ⟨hlisten, hsockets, by rw [hmanager], fun _ => by rw [hmanager], fun _ => by rw [hmanager]⟩

end Server

theorem ClientManager.getIncomingBuffer_setContext (m : ClientManager) (fd fd' : Fd) (t c d : Bytes) :
    (m.setContext fd t c d).getIncomingBuffer fd' = m.getIncomingBuffer fd' := by
  rw [setContext, getIncomingBuffer, getIncomingBuffer, find, find, lookup_update, Option.map_map]
  congr 2
  funext client
  by_cases h : fd' = fd <;> simp [h, Client.setContext]

theorem ClientManager.getQueuedData_setContext (m : ClientManager) (fd fd' : Fd) (t c d : Bytes) :
    (m.setContext fd t c d).getQueuedData fd' = m.getQueuedData fd' := by
  rw [setContext, getQueuedData, getQueuedData, find, find, lookup_update, Option.map_map]
  congr 2
  funext client
  by_cases h : fd' = fd <;> simp [h, Client.setContext]

namespace Effect

open Server

variable {context : CommandContext} {command : CommandID} {s : Server} {packets : List (Fd × Packet)}

theorem sameConnections (h : Effect context command s packets) :
    SameConnections context.toServer s := by
  cases h with
  | used _ _ =>
    exact ⟨rfl, rfl, ClientManager.keys_update _,
      fun fd => ClientManager.getIncomingBuffer_setContext _ _ _ _ _ _,
      fun fd => ClientManager.getQueuedData_setContext _ _ _ _ _ _⟩
  | _ => exact .of_eq rfl rfl rfl

/-- How a command of `fd` may change the sessions. -/
inductive SessionChange (s : Server) (fd : Fd) (s' : Server) : Prop where
  | none : s'.authenticatedUsersByFd = s.authenticatedUsersByFd →
      (∀ uuid, s'.sessions uuid = s.sessions uuid) → SessionChange s fd s'
  | added {uuid : Bytes} : fd ∉ s.authenticatedUsersByFd →
      s'.authenticatedUsersByFd = s.authenticatedUsersByFd.insert fd uuid →
      (∀ uuid', s'.sessions uuid' = if uuid' = uuid then s.sessions uuid ++ [fd] else s.sessions uuid') →
      SessionChange s fd s'
  | removed {uuid : Bytes} : s.authenticatedUsersByFd.lookup fd = some uuid →
      s'.authenticatedUsersByFd = s.authenticatedUsersByFd.erase fd →
      (∀ uuid', s'.sessions uuid' =
        if uuid' = uuid then (s.sessions uuid).filter fun socketFd => socketFd ≠ fd
        else s.sessions uuid') →
      SessionChange s fd s'

theorem sessionChange (h : Effect context command s packets) :
    SessionChange context.toServer context.clientFd s := by
  cases h with
  | registered hfd => exact .added hfd rfl fun uuid' => sessions_addSession _ _ _ uuid'
  | loggedIn hfd => exact .added hfd rfl fun uuid' => sessions_addSession _ _ _ uuid'
  | loggedOut huuid => exact .removed huuid rfl fun uuid' => sessions_removeSession _ _ _ uuid'
  | loggedOutUnknown huuid => exact .removed huuid rfl fun uuid' => sessions_removeSession _ _ _ uuid'
  | sent => exact .none rfl fun uuid => UnorderedMap.getD_lookup_getOrInsert _ uuid [] _
  | _ => exact .none rfl fun _ => rfl

end Effect

namespace Server

/-- The containers keyed by descriptors agree: clients, sockets and sessions are those of
connections that are open now, and the reverse index lists no session but these. -/
structure Linked (s : Server) : Prop where
  clients : ∀ fd, fd ∈ s.clientManager.clients ↔ fd ∈ s.clientSockets
  isOpen : ∀ fd ∈ s.clientSockets, 0 ≤ fd ∧ fd < 2 ^ 31 ∧ fd ≠ s.listenFd
  live : ∀ fd ∈ s.authenticatedUsersByFd, fd ∈ s.clientSockets
  once : ∀ uuid, (s.sessions uuid).Nodup
  owned : ∀ uuid, ∀ fd ∈ s.sessions uuid, s.authenticatedUsersByFd.lookup fd = some uuid

namespace Linked

/-- Buffers and contexts do not matter, nor do users, teams and messages. -/
theorem congr (h : Linked s) (hlisten : s'.listenFd = s.listenFd)
    (hsockets : s'.clientSockets = s.clientSockets)
    (hkeys : s'.clientManager.clients.keys = s.clientManager.clients.keys)
    (hfd : s'.authenticatedUsersByFd = s.authenticatedUsersByFd)
    (hsessions : ∀ uuid, s'.sessions uuid = s.sessions uuid) : Linked s' where
  clients fd := by
    rw [AList.mem_keys, hkeys, ← AList.mem_keys, hsockets]
    exact h.clients fd
  isOpen := by
    rw [hsockets, hlisten]
    exact h.isOpen
  live := by
    rw [hfd, hsockets]
    exact h.live
  once uuid := by
    rw [hsessions]
    exact h.once uuid
  owned uuid := by
    rw [hsessions, hfd]
    exact h.owned uuid

theorem setManager (h : Linked s) {m : ClientManager}
    (hkeys : m.clients.keys = s.clientManager.clients.keys) :
    Linked { s with clientManager := m } :=
  h.congr rfl rfl hkeys rfl fun _ => rfl

/-- A descriptor that is not logged in occurs nowhere in the reverse index. -/
theorem notMem_sessions (h : Linked s) (hfd : fd ∉ s.authenticatedUsersByFd) (uuid : Bytes) :
    fd ∉ s.sessions uuid := by
  intro hmem
  exact hfd (UnorderedMap.mem_of_lookup (h.owned uuid fd hmem))

theorem added (h : Linked s) (hsame : SameConnections s s') (hlive : fd ∈ s.clientSockets)
    (hfd : fd ∉ s.authenticatedUsersByFd)
    (hmap : s'.authenticatedUsersByFd = s.authenticatedUsersByFd.insert fd uuid)
    (hsessions : ∀ uuid', s'.sessions uuid' =
      if uuid' = uuid then s.sessions uuid ++ [fd] else s.sessions uuid') : Linked s' where
  clients fd := by
    rw [AList.mem_keys, hsame.keys, ← AList.mem_keys, hsame.clientSockets]
    exact h.clients fd
  isOpen := by
    rw [hsame.clientSockets, hsame.listenFd]
    exact h.isOpen
  live fd' hmem := by
    rw [hsame.clientSockets]
    rw [hmap] at hmem
    rcases (AList.mem_insert _).mp hmem with rfl | hmem
    · exact hlive
    · exact h.live fd' hmem
  once uuid' := by
    rw [hsessions]
    split
    · rw [List.nodup_append_comm]
      exact List.nodup_cons.mpr ⟨h.notMem_sessions hfd uuid, h.once uuid⟩
    · exact h.once uuid'
  owned uuid' fd' hmem := by
    rw [hsessions] at hmem
    rw [hmap]
    split at hmem
    · next he =>
      rcases List.mem_append.mp hmem with hmem | hmem
      · have hne : fd' ≠ fd := fun hf => h.notMem_sessions hfd uuid (hf ▸ hmem)
        rw [AList.lookup_insert_ne hne, he]
        exact h.owned uuid fd' hmem
      · rw [List.mem_singleton.mp hmem, AList.lookup_insert, he]
    · have hne : fd' ≠ fd := fun hf => h.notMem_sessions hfd uuid' (hf ▸ hmem)
      rw [AList.lookup_insert_ne hne]
      exact h.owned uuid' fd' hmem

/-- Ending the session of `fd` keeps the containers linked, whatever else the index forgets. -/
theorem erased (h : Linked s) (hsame : SameConnections s s')
    (hmap : s'.authenticatedUsersByFd = s.authenticatedUsersByFd.erase fd)
    (hsub : ∀ uuid', (s'.sessions uuid').Sublist (s.sessions uuid'))
    (hgone : ∀ uuid', fd ∉ s'.sessions uuid') : Linked s' where
  clients fd := by
    rw [AList.mem_keys, hsame.keys, ← AList.mem_keys, hsame.clientSockets]
    exact h.clients fd
  isOpen := by
    rw [hsame.clientSockets, hsame.listenFd]
    exact h.isOpen
  live fd' hmem := by
    rw [hsame.clientSockets]
    rw [hmap] at hmem
    exact h.live fd' (AList.mem_erase.mp hmem).2
  once uuid' := (hsub uuid').nodup (h.once uuid')
  owned uuid' fd' hmem := by
    have hne : fd' ≠ fd := fun hf => hgone uuid' (hf ▸ hmem)
    rw [hmap, AList.lookup_erase_ne hne]
    exact h.owned uuid' fd' ((hsub uuid').subset hmem)

theorem removed (h : Linked s) (hsame : SameConnections s s')
    (huuid : s.authenticatedUsersByFd.lookup fd = some uuid)
    (hmap : s'.authenticatedUsersByFd = s.authenticatedUsersByFd.erase fd)
    (hsessions : ∀ uuid', s'.sessions uuid' =
      if uuid' = uuid then (s.sessions uuid).filter fun socketFd => socketFd ≠ fd
      else s.sessions uuid') : Linked s' := by
  refine h.erased hsame hmap (fun uuid' => ?_) (fun uuid' => ?_)
  · rw [hsessions]
    split
    · next he =>
      rw [he]
      exact List.filter_sublist
    · exact List.Sublist.refl _
  · rw [hsessions]
    split
    · simp
    · next hne =>
      intro hmem
      have hother := h.owned uuid' fd hmem
      rw [huuid] at hother
      exact hne (Option.some.inj hother).symm

theorem dropSessions (h : Linked s) (huuid : s.authenticatedUsersByFd.lookup fd = some uuid) :
    Linked (s.dropSessions fd uuid) := by
  refine h.erased (.of_eq rfl rfl rfl) rfl (fun uuid' => ?_) (fun uuid' => ?_)
  · rw [sessions_dropSessions]
    split
    · exact List.nil_sublist _
    · exact List.Sublist.refl _
  · rw [sessions_dropSessions]
    split
    · simp
    · next hne =>
      intro hmem
      have hother := h.owned uuid' fd hmem
      rw [huuid] at hother
      exact hne (Option.some.inj hother).symm

theorem effect {context : CommandContext} {command : CommandID} {packets : List (Fd × Packet)}
    (h : Linked context.toServer) (hlive : context.clientFd ∈ context.clientSockets)
    (he : Effect context command s packets) : Linked s := by
  have hsame := he.sameConnections
  cases he.sessionChange with
  | none hfd hsessions => exact h.congr hsame.listenFd hsame.clientSockets hsame.keys hfd hsessions
  | added hfd hmap hsessions => exact h.added hsame hlive hfd hmap hsessions
  | removed huuid hmap hsessions => exact h.removed hsame huuid hmap hsessions

theorem start (listenFd : Fd) (users : List User) (teams : List Team) (messages : List Message) :
    Linked (Server.start listenFd users teams messages) where
  clients fd := by simp [Server.start, ClientManager.empty]
  isOpen fd hfd := by simp [Server.start] at hfd
  live fd hfd := absurd hfd (AList.notMem_empty fd)
  once uuid := by simp [Server.start, sessions]
  owned uuid fd hfd := by simp [Server.start, sessions] at hfd

theorem accepted (h : Linked s) (hfd : s.CanAccept fd) : Linked (s.accepted fd) where
  clients fd' := by
    rw [Server.accepted, ClientManager.addClient, UnorderedMap.mem_emplace, Finset.mem_insert,
      h.clients fd']
  isOpen fd' hmem := by
    rcases Finset.mem_insert.mp hmem with rfl | hmem
    · exact ⟨hfd.1, hfd.2.1, hfd.2.2.1⟩
    · exact h.isOpen fd' hmem
  live fd' hmem := Finset.mem_insert_of_mem (h.live fd' hmem)
  once := h.once
  owned := h.owned

theorem deliver (h : Linked s) (packets : List (Fd × Packet)) : Linked (s.deliver packets) :=
  h.setManager (ClientManager.keys_sendAll _ _)

/-- Forgetting a connection that has no session. -/
theorem forget (h : Linked s) (hfd : fd ∉ s.authenticatedUsersByFd) :
    Linked { s with
      clientSockets := s.clientSockets.erase fd
      clientManager := s.clientManager.removeClient fd } where
  clients fd' := by
    rw [ClientManager.removeClient, AList.mem_erase, Finset.mem_erase, h.clients fd']
  isOpen fd' hmem := h.isOpen fd' (Finset.mem_of_mem_erase hmem)
  live fd' hmem := by
    have hne : fd' ≠ fd := fun he => hfd (he ▸ hmem)
    exact Finset.mem_erase_of_ne_of_mem hne (h.live fd' hmem)
  once := h.once
  owned := h.owned

theorem disconnection {packets : List (Fd × Packet)} (h : Linked s)
    (hd : Disconnection s fd s' packets) : Linked s' ∧ fd ∉ s'.authenticatedUsersByFd ∧
      SameConnections s s' := by
  cases hd with
  | anonymous hnone => exact ⟨h, AList.lookup_eq_none.mp hnone, .of_eq rfl rfl rfl⟩
  | known huuid _ =>
    exact ⟨(h.dropSessions huuid).congr rfl rfl rfl rfl fun _ => rfl, by
      simp [setUsers, Server.dropSessions, AList.mem_erase], .of_eq rfl rfl rfl⟩
  | unknown huuid _ =>
    exact ⟨h.dropSessions huuid, by simp [Server.dropSessions, AList.mem_erase], .of_eq rfl rfl rfl⟩

theorem step {e : Event} {queued : List (Fd × Packet)} (h : Linked s)
    (hs : s.handle e = some (s', queued)) : Linked s' := by
  cases e with
  | accept fd =>
    obtain ⟨hfd, rfl, -⟩ := handle_accept hs
    exact h.accepted hfd
  | receive fd chunk =>
    obtain ⟨-, -, rfl⟩ := handle_receive hs
    rw [ClientManager.appendToIncomingBuffer_eq]
    exact h.setManager (ClientManager.keys_update _)
  | dispatch fd environment =>
    obtain ⟨hlive, command, payload, middle, size, heffect, rfl⟩ := handle_dispatch hs
    exact ((h.effect hlive heffect).deliver queued).setManager (ClientManager.keys_update _)
  | flush fd n =>
    obtain ⟨-, -, -, rfl⟩ := handle_flush hs
    exact h.setManager (ClientManager.keys_update _)
  | disconnect fd =>
    obtain ⟨-, middle, hd, rfl⟩ := handle_disconnect hs
    obtain ⟨hmiddle, hfd, hsame⟩ := h.disconnection hd
    rw [← hsame.clientSockets]
    exact (hmiddle.deliver queued).forget hfd

end Linked

theorem Reachable.linked (h : Reachable s) : Linked s :=
  h.induction Linked.start fun _ _ _ _ hs he => hs.step he

/-- Every session is that of a user. -/
def Known (s : Server) : Prop :=
  ∀ fd uuid, s.authenticatedUsersByFd.lookup fd = some uuid → uuid ∈ s.users.map fun u => u.uuid.bytes

theorem Known.of_subset (h : Known s) (hfd : ∀ fd uuid, s'.authenticatedUsersByFd.lookup fd = some uuid →
      s.authenticatedUsersByFd.lookup fd = some uuid)
    (husers : (s.users.map fun u => u.uuid.bytes) ⊆ s'.users.map fun u => u.uuid.bytes) : Known s' :=
  fun fd uuid huuid => husers (h fd uuid (hfd fd uuid huuid))

theorem Known.added (h : Known s) (hmap : s'.authenticatedUsersByFd = s.authenticatedUsersByFd.insert fd uuid)
    (husers : (s.users.map fun u => u.uuid.bytes) ⊆ s'.users.map fun u => u.uuid.bytes)
    (huser : uuid ∈ s'.users.map fun u => u.uuid.bytes) : Known s' := by
  intro fd' uuid' huuid
  rw [hmap] at huuid
  by_cases hne : fd' = fd
  · rw [hne, AList.lookup_insert] at huuid
    exact Option.some.inj huuid ▸ huser
  · rw [AList.lookup_insert_ne hne] at huuid
    exact husers (h fd' uuid' huuid)

theorem lookup_erase_some {m : UnorderedMap Fd Bytes} {fd fd' : Fd} {uuid : Bytes}
    (h : (m.erase fd).lookup fd' = some uuid) : fd' ≠ fd ∧ m.lookup fd' = some uuid := by
  have hne : fd' ≠ fd := by
    rintro rfl
    rw [AList.lookup_erase] at h
    cases h
  exact ⟨hne, by rwa [AList.lookup_erase_ne hne] at h⟩

theorem uuids_updateUser (users : List User) (uuid : Bytes) :
    ((updateUser users uuid User.removeLoggedIn).map fun u => u.uuid.bytes) =
      users.map fun u => u.uuid.bytes :=
  map_modifyFirst (fun u : User => congrArg CString.bytes u.uuid_removeLoggedIn) users

theorem uuids_addLoggedIn (users : List User) (p : User → Bool) :
    ((modifyFirst p User.addLoggedIn users).map fun u => u.uuid.bytes) =
      users.map fun u => u.uuid.bytes :=
  map_modifyFirst (f := User.addLoggedIn) (fun _ => rfl) users

theorem Known.effect {context : CommandContext} {command : CommandID} {packets : List (Fd × Packet)}
    (h : Known context.toServer) (he : Effect context command s packets) : Known s := by
  cases he with
  | registered => exact h.added rfl (by simp [setUsers, addSession]) (by simp [setUsers, addSession])
  | loggedIn _ hfind =>
    refine h.added rfl (fun _ hx => (uuids_addLoggedIn _ _).symm ▸ hx) ?_
    have hmem := List.mem_map_of_mem (f := fun u : User => u.uuid.bytes) (List.mem_of_find?_eq_some hfind)
    rw [← uuids_addLoggedIn] at hmem
    exact hmem
  | loggedOut =>
    exact h.of_subset (fun _ _ hl => (lookup_erase_some hl).2)
      (fun _ hx => (uuids_updateUser _ _).symm ▸ hx)
  | loggedOutUnknown => exact h.of_subset (fun _ _ hl => (lookup_erase_some hl).2) (List.Subset.refl _)
  | _ => exact h

theorem Known.step {e : Event} {queued : List (Fd × Packet)} (h : Known s)
    (hs : s.handle e = some (s', queued)) : Known s' := by
  cases e with
  | accept fd =>
    obtain ⟨-, rfl, -⟩ := handle_accept hs
    exact h
  | receive fd chunk =>
    obtain ⟨-, -, rfl⟩ := handle_receive hs
    exact h
  | dispatch fd environment =>
    obtain ⟨-, command, payload, middle, size, heffect, rfl⟩ := handle_dispatch hs
    have hmiddle : Known middle := Known.effect h heffect
    exact hmiddle
  | flush fd n =>
    obtain ⟨-, -, -, rfl⟩ := handle_flush hs
    exact h
  | disconnect fd =>
    obtain ⟨-, middle, hd, rfl⟩ := handle_disconnect hs
    cases hd with
    | anonymous => exact h
    | known =>
      exact h.of_subset (fun _ _ hl => (lookup_erase_some hl).2)
        (fun _ hx => (uuids_updateUser _ _).symm ▸ hx)
    | unknown => exact h.of_subset (fun _ _ hl => (lookup_erase_some hl).2) (List.Subset.refl _)

theorem Reachable.known (h : Reachable s) : Known s :=
  h.induction (fun _ _ _ _ fd uuid hl => by simp [Server.start] at hl) fun _ _ _ _ hs he => hs.step he

/-- The user of a session is found. -/
theorem Known.exists_user (h : Known s) (huuid : s.authenticatedUsersByFd.lookup fd = some uuid) :
    ∃ user, findUserByUuid s.users uuid = some user ∧ user ∈ s.users ∧ user.uuid.bytes = uuid :=
  exists_find?_key (h fd uuid huuid)

end Server

end TeamsMirror
