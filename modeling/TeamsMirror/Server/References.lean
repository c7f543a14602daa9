import TeamsMirror.Server.Growth
import TeamsMirror.Server.Store

/-!
# References

Subscribers, authors and receivers are copies of a user's uuid in a fixed buffer,
taken from a session or from a request. Users are never removed, so that whoever is
referred to when an entity is stored is a user as long as it is.
-/

namespace TeamsMirror

open Lists Server

structure Message.Refers (uuids : List Uuid) (m : Message) : Prop where
  author : m.authorUuid ∈ uuids
  receiver : m.receiverUuid ∈ uuids

structure Thread.Refers (uuids : List Uuid) (d : Thread) : Prop where
  author : d.authorUuid ∈ uuids
  replies : ∀ m ∈ d.replies, m.authorUuid ∈ uuids

structure Channel.Refers (uuids : List Uuid) (c : Channel) : Prop where
  threads : ∀ d ∈ c.threads, d.Refers uuids

structure Team.Refers (uuids : List Uuid) (t : Team) : Prop where
  subscribers : ∀ u ∈ t.subscribedUserUuids, u ∈ uuids
  channels : ∀ c ∈ t.channels, c.Refers uuids

/-- Whoever subscribes, writes or receives is a user. -/
structure Referential (users : List User) (teams : List Team) (messages : List Message) : Prop where
  teams : ∀ t ∈ teams, t.Refers (users.map User.uuid)
  messages : ∀ m ∈ messages, m.Refers (users.map User.uuid)

variable {uuids uuids' : List Uuid}

theorem Message.Refers.mono {m : Message} (h : m.Refers uuids) (hsub : uuids ⊆ uuids') : m.Refers uuids' :=
  ⟨hsub h.author, hsub h.receiver⟩

theorem Thread.Refers.mono {d : Thread} (h : d.Refers uuids) (hsub : uuids ⊆ uuids') : d.Refers uuids' :=
  ⟨hsub h.author, fun m hm => hsub (h.replies m hm)⟩

theorem Channel.Refers.mono {c : Channel} (h : c.Refers uuids) (hsub : uuids ⊆ uuids') : c.Refers uuids' :=
  ⟨fun d hd => (h.threads d hd).mono hsub⟩

theorem Team.Refers.mono {t : Team} (h : t.Refers uuids) (hsub : uuids ⊆ uuids') : t.Refers uuids' :=
  ⟨fun u hu => hsub (h.subscribers u hu), fun c hc => (h.channels c hc).mono hsub⟩

theorem Thread.Refers.new {author : Uuid} (h : author ∈ uuids) (uuid : Bytes) (now : Int64) (title body : Bytes) :
    (Thread.new uuid author.bytes now title body).Refers uuids where
  author := by
    rw [Thread.new, CString.copyBuffer_bytes]
    exact h
  replies := by simp [Thread.new]

theorem Channel.Refers.new (uuid name description : Bytes) : (Channel.new uuid name description).Refers uuids where
  threads := by simp [Channel.new]

theorem Team.Refers.new (uuid name description : Bytes) : (Team.new uuid name description).Refers uuids where
  subscribers := by simp [Team.new]
  channels := by simp [Team.new]

theorem Thread.Refers.addReply {d : Thread} {m : Message} (h : d.Refers uuids) (hm : m.authorUuid ∈ uuids) :
    (d.addReply m).Refers uuids where
  author := h.author
  replies := List.forall_mem_append.mpr ⟨h.replies, List.forall_mem_singleton.mpr hm⟩

theorem Channel.Refers.addThread {c : Channel} {d : Thread} (h : c.Refers uuids) (hd : d.Refers uuids) :
    (c.addThread d).Refers uuids where
  threads := List.forall_mem_append.mpr ⟨h.threads, List.forall_mem_singleton.mpr hd⟩

theorem Channel.Refers.updateThread {c : Channel} {uuid : Bytes} {f : Thread → Thread} (h : c.Refers uuids)
    (hf : ∀ d : Thread, d.Refers uuids → (f d).Refers uuids) : (updateThread c uuid f).Refers uuids where
  threads := forall_modifyFirst h.threads hf

theorem Team.Refers.addSubscribedUser {t : Team} {u : Uuid} (h : t.Refers uuids) (hu : u ∈ uuids) :
    (t.addSubscribedUser u.bytes).Refers uuids where
  subscribers := by
    refine List.forall_mem_append.mpr ⟨h.subscribers, List.forall_mem_singleton.mpr ?_⟩
    rw [CString.copyBuffer_bytes]
    exact hu
  channels := h.channels

theorem Team.Refers.removeSubscribedUser {t : Team} (h : t.Refers uuids) (uuid : Bytes) :
    (t.removeSubscribedUser uuid).2.Refers uuids where
  subscribers u hu := h.subscribers u (List.mem_of_mem_filter hu)
  channels := h.channels

theorem Team.Refers.addChannel {t : Team} {c : Channel} (h : t.Refers uuids) (hc : c.Refers uuids) :
    (t.addChannel c).Refers uuids where
  subscribers := h.subscribers
  channels := List.forall_mem_append.mpr ⟨h.channels, List.forall_mem_singleton.mpr hc⟩

theorem Team.Refers.updateChannel {t : Team} {uuid : Bytes} {f : Channel → Channel} (h : t.Refers uuids)
    (hf : ∀ c : Channel, c.Refers uuids → (f c).Refers uuids) : (updateChannel t uuid f).Refers uuids where
  subscribers := h.subscribers
  channels := forall_modifyFirst h.channels hf

namespace Referential

variable {users users' : List User} {teams : List Team} {messages : List Message}

theorem empty : Referential [] [] [] := ⟨by simp, by simp⟩

theorem setUsers (h : Referential users teams messages)
    (hsub : users.map User.uuid ⊆ users'.map User.uuid) : Referential users' teams messages :=
  ⟨fun t ht => (h.teams t ht).mono hsub, fun m hm => (h.messages m hm).mono hsub⟩

theorem updateTeam (h : Referential users teams messages) {uuid : Bytes} {f : Team → Team}
    (hf : ∀ t : Team, t.Refers (users.map User.uuid) → (f t).Refers (users.map User.uuid)) :
    Referential users (updateTeam teams uuid f) messages :=
  ⟨forall_modifyFirst h.teams hf, h.messages⟩

end Referential

namespace Server

variable {s s' : Server} {context : CommandContext}

def Referential (s : Server) : Prop := TeamsMirror.Referential s.users s.teams s.messages

/-- Users stay. -/
theorem Extends.userUuids (h : s.Extends s') : s.users.map User.uuid ⊆ s'.users.map User.uuid := by
  have hfst := h.users.map Prod.fst
  rw [List.map_map, List.map_map] at hfst
  exact hfst.subset

theorem uuid_of_authenticated {user : User} (h : getAuthenticatedUser context = some user) :
    user.uuid ∈ context.users.map User.uuid :=
  List.mem_map_of_mem (mem_users_of_authenticated h)

theorem copyBuffer_mem_uuids {users : List User} {uuid : Bytes} (h : ∃ user ∈ users, user.uuid.bytes = uuid) :
    CString.copyBuffer uuidLength uuid ∈ users.map User.uuid := by
  obtain ⟨user, hmem, rfl⟩ := h
  rw [CString.copyBuffer_bytes]
  exact List.mem_map_of_mem hmem

theorem Referential.effect {command : CommandID} {packets : List (Fd × Packet)}
    (h : Referential context.toServer) (hknown : Known context.toServer)
    (he : Effect context command s packets) : Referential s := by
  have husers := he.extends_.userUuids
  cases he with
  | registered | loggedIn | loggedOut => exact h.setUsers husers
  | sent hauthor _ _ _ htarget hmessage =>
    obtain ⟨u, -, hu, huuid⟩ := hknown.exists_user hauthor
    refine ⟨h.teams, List.forall_mem_append.mpr ⟨h.messages, List.forall_mem_singleton.mpr ?_⟩⟩
    rw [hmessage]
    exact ⟨copyBuffer_mem_uuids ⟨u, hu, huuid⟩, copyBuffer_mem_uuids htarget⟩
  | subscribed huser => exact h.updateTeam fun t ht => ht.addSubscribedUser (uuid_of_authenticated huser)
  | unsubscribed => exact h.updateTeam fun t ht => ht.removeSubscribedUser _
  | createdTeam huser _ _ _ hteam =>
    refine ⟨List.forall_mem_append.mpr ⟨h.teams, List.forall_mem_singleton.mpr ?_⟩, h.messages⟩
    rw [hteam]
    exact (Team.Refers.new _ _ _).addSubscribedUser (uuid_of_authenticated huser)
  | createdChannel _ _ _ _ hchannel =>
    refine h.updateTeam fun t ht => ht.addChannel ?_
    rw [hchannel]
    exact .new _ _ _
  | createdThread hchannel _ _ _ _ hthread =>
    refine h.updateTeam fun t ht => ht.updateChannel fun c hc => hc.addThread ?_
    rw [hthread]
    exact .new (uuid_of_authenticated hchannel.toInTeam.authenticated) _ _ _ _
  | createdReply hthread _ hreply =>
    refine h.updateTeam fun t ht => ht.updateChannel fun c hc => hc.updateThread fun d hd => hd.addReply ?_
    rw [hreply, Message.new, CString.copyBuffer_bytes]
    exact uuid_of_authenticated hthread.toInTeam.authenticated
  | refused | unknownUser | answered | loggedOutUnknown | used => exact h

theorem Referential.step {e : Event} {queued : List (Fd × Packet)} (h : Referential s) (hknown : Known s)
    (hs : s.handle e = some (s', queued)) : Referential s' := by
  cases e with
  | accept fd =>
    obtain ⟨-, rfl, -⟩ := handle_accept hs
    exact h
  | receive fd chunk =>
    obtain ⟨-, -, rfl⟩ := handle_receive hs
    exact h
  | dispatch fd environment =>
    obtain ⟨-, command, payload, middle, size, heffect, rfl⟩ := handle_dispatch hs
    have hmiddle : Referential middle := Referential.effect h hknown heffect
    exact hmiddle
  | flush fd n =>
    obtain ⟨-, -, -, rfl⟩ := handle_flush hs
    exact h
  | disconnect fd =>
    obtain ⟨-, middle, hd, rfl⟩ := handle_disconnect hs
    cases hd with
    | anonymous | unknown => exact h
    | @known uuid => exact h.setUsers fun _ hu => (uuids_removeLoggedIn s.users uuid).symm ▸ hu

/-- The user of the connection is found by every command, by its logout and when it disconnects. -/
structure Resolves (context : CommandContext) (uuid : Bytes) (user : User) : Prop where
  own : user.uuid.bytes = uuid
  authenticated : getAuthenticatedUser context = some user
  logout : context.payloadSize = 0 → handleLogoutCommand context =
    perform context
      ((context.toServer.removeSession context.clientFd uuid).setUsers
        (updateUser context.users uuid User.removeLoggedIn))
      (toClient context [.ofStatus .ok, logoutEvent user] ++
        toOthers (context.toServer.removeSession context.clientFd uuid) (-1) (logoutEvent user))
  disconnection : handleClientDisconnection context =
    perform context
      ((context.toServer.dropSessions context.clientFd uuid).setUsers
        (updateUser context.users uuid User.removeLoggedIn))
      (toOthers (context.toServer.dropSessions context.clientFd uuid) context.clientFd (logoutEvent user))

theorem Known.resolves (hknown : Known context.toServer) {uuid : Bytes}
    (h : context.authenticatedUsersByFd.lookup context.clientFd = some uuid) :
    ∃ user, Resolves context uuid user := by
  obtain ⟨user, hfind, -, huuid⟩ := hknown.exists_user h
  refine ⟨user, huuid, ?_, ?_, ?_⟩
  · rw [getAuthenticatedUser, h]
    exact hfind
  · intro hsize
    simp only [handleLogoutCommand, hsize, h, hfind]
    rw [perform, ← queuePackets_queuePackets]
    rfl
  · simp only [handleClientDisconnection, h, hfind]
    rfl

/-- A search for each of several users' uuids finds them all, in order. -/
theorem map_filterMap_findUserByUuid {users : List User} {uuids : List Uuid}
    (h : ∀ u ∈ uuids, u ∈ users.map User.uuid) :
    (uuids.filterMap fun u => findUserByUuid users u.bytes).map User.uuid = uuids := by
  induction uuids with
  | nil => rfl
  | cons u uuids ih =>
    obtain ⟨hu, hrest⟩ := List.forall_mem_cons.mp h
    have hbytes : u.bytes ∈ users.map fun user => user.uuid.bytes := by
      obtain ⟨user, hmem, he⟩ := List.mem_map.mp hu
      exact List.mem_map.mpr ⟨user, hmem, congrArg CString.bytes he⟩
    obtain ⟨user, hfind, -, he⟩ := exists_find?_key hbytes
    have hfound : findUserByUuid users u.bytes = some user := hfind
    rw [List.filterMap_cons, hfound, List.map_cons, CString.ext he, ih hrest]

/-- Every subscriber is listed, in the order of the subscriptions. -/
theorem Referential.queueUsersList_eq (h : Referential context.toServer) {t : Team} (ht : t ∈ context.teams) :
    ∃ users : List User, users.map User.uuid = t.subscribedUserUuids ∧ (∀ user ∈ users, user ∈ context.users) ∧
      queueUsersList context t =
        queueStatus (queuePackets context
          (users.map fun user => (context.clientFd, ⟨.usersList, buildUserPayload user⟩))) .ok := by
  refine ⟨_, map_filterMap_findUserByUuid (h.teams t ht).subscribers, ?_, rfl⟩
  intro user hmem
  obtain ⟨uuid, -, hfind⟩ := List.mem_filterMap.mp hmem
  exact List.mem_of_find?_eq_some hfind

end Server

end TeamsMirror
