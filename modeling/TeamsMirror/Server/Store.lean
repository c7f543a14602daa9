import TeamsMirror.Server.Presence

/-!
# What the server stores

Users, teams and messages outlive the process. In every stored state each entity
has a uuid, and no two teams, no two channels and no two threads of the whole
forest share one, although a channel is only ever searched in its team and a
thread in its channel.
-/

namespace TeamsMirror

open Lists

def Team.channelUuids (t : Team) : List Uuid := t.channels.map Channel.uuid

def Channel.threadUuids (c : Channel) : List Uuid := c.threads.map Thread.uuid

def Team.threadUuids (t : Team) : List Uuid := t.channels.flatMap Channel.threadUuids

/-- The reply has a uuid, and no receiver. -/
structure Message.IsReply (m : Message) : Prop where
  uuid : m.uuid.bytes ≠ []
  receiver : m.receiverUuid = .empty _

/-- Every reply of a thread has a uuid, and so has the thread. -/
structure Thread.Named (d : Thread) : Prop where
  uuid : d.uuid.bytes ≠ []
  replies : ∀ m ∈ d.replies, m.IsReply

structure Channel.Named (c : Channel) : Prop where
  uuid : c.uuid.bytes ≠ []
  threads : ∀ d ∈ c.threads, d.Named

structure Team.Named (t : Team) : Prop where
  uuid : t.uuid.bytes ≠ []
  subscribers : ∀ u ∈ t.subscribedUserUuids, u.bytes ≠ []
  channels : ∀ c ∈ t.channels, c.Named

theorem generateUuid_ne_nil (draw : Nat → Fin 16) : generateUuid draw ≠ [] := by
  have hlength := length_generateUuid draw
  intro hnil
  rw [hnil] at hlength
  cases hlength

theorem Thread.Named.new (draw : Nat → Fin 16) (author : Bytes) (now : Int64) (title body : Bytes) :
    (Thread.new (generateUuid draw) author now title body).Named where
  uuid := by
    rw [Thread.new, bytes_copyBuffer_generateUuid]
    exact generateUuid_ne_nil draw
  replies := by simp [Thread.new]

theorem Channel.Named.new (draw : Nat → Fin 16) (name description : Bytes) :
    (Channel.new (generateUuid draw) name description).Named where
  uuid := by
    rw [Channel.new, bytes_copyBuffer_generateUuid]
    exact generateUuid_ne_nil draw
  threads := by simp [Channel.new]

theorem Team.Named.new (draw : Nat → Fin 16) (name description : Bytes) :
    (Team.new (generateUuid draw) name description).Named where
  uuid := by
    rw [Team.new, bytes_copyBuffer_generateUuid]
    exact generateUuid_ne_nil draw
  subscribers := by simp [Team.new]
  channels := by simp [Team.new]

theorem Thread.Named.addReply {d : Thread} {m : Message} (h : d.Named) (hm : m.IsReply) :
    (d.addReply m).Named where
  uuid := h.uuid
  replies := List.forall_mem_append.mpr ⟨h.replies, List.forall_mem_singleton.mpr hm⟩

theorem Channel.Named.addThread {c : Channel} {d : Thread} (h : c.Named) (hd : d.Named) :
    (c.addThread d).Named where
  uuid := h.uuid
  threads := List.forall_mem_append.mpr ⟨h.threads, List.forall_mem_singleton.mpr hd⟩

theorem Team.Named.addChannel {t : Team} {c : Channel} (h : t.Named) (hc : c.Named) :
    (t.addChannel c).Named where
  uuid := h.uuid
  subscribers := h.subscribers
  channels := List.forall_mem_append.mpr ⟨h.channels, List.forall_mem_singleton.mpr hc⟩

theorem Team.Named.addSubscribedUser {t : Team} {u : Uuid} (h : t.Named) (hu : u.bytes ≠ []) :
    (t.addSubscribedUser u.bytes).Named where
  uuid := h.uuid
  subscribers := by
    refine List.forall_mem_append.mpr ⟨h.subscribers, List.forall_mem_singleton.mpr ?_⟩
    rw [CString.copyBuffer_bytes]
    exact hu
  channels := h.channels

theorem Team.Named.removeSubscribedUser {t : Team} (h : t.Named) (uuid : Bytes) :
    (t.removeSubscribedUser uuid).2.Named where
  uuid := h.uuid
  subscribers u hu := h.subscribers u (List.mem_of_mem_filter hu)
  channels := h.channels

theorem Channel.Named.updateThread {c : Channel} {uuid : Bytes} {f : Thread → Thread} (h : c.Named)
    (hf : ∀ d, d.Named → (f d).Named) : (updateThread c uuid f).Named where
  uuid := h.uuid
  threads := forall_modifyFirst h.threads hf

theorem Team.Named.updateChannel {t : Team} {uuid : Bytes} {f : Channel → Channel} (h : t.Named)
    (hf : ∀ c, c.Named → (f c).Named) : (updateChannel t uuid f).Named where
  uuid := h.uuid
  subscribers := h.subscribers
  channels := forall_modifyFirst h.channels hf

structure Storable (users : List User) (teams : List Team) (messages : List Message) : Prop where
  namedUsers : ∀ u ∈ users, u.uuid.bytes ≠ []
  namedMessages : ∀ m ∈ messages, m.uuid.bytes ≠ [] ∧ m.authorUuid.bytes ≠ []
  namedTeams : ∀ t ∈ teams, t.Named
  teamUuids : (teams.map Team.uuid).Nodup
  channelUuids : (teams.flatMap Team.channelUuids).Nodup
  threadUuids : (teams.flatMap Team.threadUuids).Nodup

namespace Storable

variable {users : List User} {teams : List Team} {messages : List Message}

theorem empty : Storable [] [] [] where
  namedUsers := by simp
  namedMessages := by simp
  namedTeams := by simp
  teamUuids := .nil
  channelUuids := .nil
  threadUuids := .nil

theorem setUsers (h : Storable users teams messages) {users' : List User}
    (husers : ∀ u ∈ users', u.uuid.bytes ≠ []) : Storable users' teams messages :=
  { h with namedUsers := husers }

theorem addMessage (h : Storable users teams messages) {m : Message} (huuid : m.uuid.bytes ≠ [])
    (hauthor : m.authorUuid.bytes ≠ []) : Storable users teams (messages ++ [m]) :=
  { h with
    namedMessages := List.forall_mem_append.mpr ⟨h.namedMessages, List.forall_mem_singleton.mpr ⟨huuid, hauthor⟩⟩ }

theorem addTeam (h : Storable users teams messages) {t : Team} (ht : t.Named)
    (hfresh : t.uuid ∉ teams.map Team.uuid) (hchannels : t.channels = []) :
    Storable users (teams ++ [t]) messages :=
  { h with
    namedTeams := List.forall_mem_append.mpr ⟨h.namedTeams, List.forall_mem_singleton.mpr ht⟩
    teamUuids := by
      rw [List.map_append, List.nodup_append_comm]
      exact List.nodup_cons.mpr ⟨hfresh, h.teamUuids⟩
    channelUuids := by simpa [Team.channelUuids, hchannels] using h.channelUuids
    threadUuids := by simpa [Team.threadUuids, hchannels] using h.threadUuids }

/-- A change of one team that adds new channels and threads, if any. -/
theorem modifyTeam (h : Storable users teams messages) {p : Team → Bool} {t : Team} {f : Team → Team}
    (newChannels newThreads : List Uuid) (hfind : teams.find? p = some t)
    (huuid : ∀ t, (f t).uuid = t.uuid) (hnamed : ∀ t, t.Named → (f t).Named)
    (hchannels : (f t).channelUuids.Perm (t.channelUuids ++ newChannels))
    (hthreads : (f t).threadUuids.Perm (t.threadUuids ++ newThreads))
    (hnewChannels : (teams.flatMap Team.channelUuids ++ newChannels).Nodup)
    (hnewThreads : (teams.flatMap Team.threadUuids ++ newThreads).Nodup) :
    Storable users (modifyFirst p f teams) messages where
  namedUsers := h.namedUsers
  namedMessages := h.namedMessages
  namedTeams := forall_modifyFirst h.namedTeams hnamed
  teamUuids := by
    rw [map_modifyFirst huuid]
    exact h.teamUuids
  channelUuids := (perm_flatMap_modifyFirst hfind hchannels).nodup_iff.mpr hnewChannels
  threadUuids := (perm_flatMap_modifyFirst hfind hthreads).nodup_iff.mpr hnewThreads

/-- A change of one team that leaves the uuids of its channels and threads alone. -/
theorem modifyTeam_same (h : Storable users teams messages) {p : Team → Bool} {t : Team} {f : Team → Team}
    (hfind : teams.find? p = some t) (huuid : ∀ t, (f t).uuid = t.uuid)
    (hnamed : ∀ t, t.Named → (f t).Named) (hchannels : (f t).channelUuids = t.channelUuids)
    (hthreads : (f t).threadUuids = t.threadUuids) :
    Storable users (modifyFirst p f teams) messages := by
  refine h.modifyTeam [] [] hfind huuid hnamed ?_ ?_ ?_ ?_
  · rw [hchannels, List.append_nil]
  · rw [hthreads, List.append_nil]
  · rw [List.append_nil]
    exact h.channelUuids
  · rw [List.append_nil]
    exact h.threadUuids

end Storable

theorem isChannelUuidUsed_iff {teams : List Team} {uuid : Uuid} :
    isChannelUuidUsed teams uuid.bytes = true ↔ uuid ∈ teams.flatMap Team.channelUuids := by
  simp only [isChannelUuidUsed, List.any_eq_true, decide_eq_true_eq, CString.bytes_inj, List.mem_flatMap,
    Team.channelUuids, List.mem_map]

theorem isThreadUuidUsed_iff {teams : List Team} {uuid : Uuid} :
    isThreadUuidUsed teams uuid.bytes = true ↔ uuid ∈ teams.flatMap Team.threadUuids := by
  simp only [isThreadUuidUsed, List.any_eq_true, decide_eq_true_eq, CString.bytes_inj, List.mem_flatMap,
    Team.threadUuids, Channel.threadUuids, List.mem_map]

theorem notMem_channelUuids {teams : List Team} {draw : Nat → Fin 16}
    (h : isChannelUuidUsed teams (generateUuid draw) = false) :
    CString.copyBuffer uuidLength (generateUuid draw) ∉ teams.flatMap Team.channelUuids := by
  intro hmem
  have hused := isChannelUuidUsed_iff.mpr hmem
  rw [bytes_copyBuffer_generateUuid, h] at hused
  cases hused

theorem notMem_threadUuids {teams : List Team} {draw : Nat → Fin 16}
    (h : isThreadUuidUsed teams (generateUuid draw) = false) :
    CString.copyBuffer uuidLength (generateUuid draw) ∉ teams.flatMap Team.threadUuids := by
  intro hmem
  have hused := isThreadUuidUsed_iff.mpr hmem
  rw [bytes_copyBuffer_generateUuid, h] at hused
  cases hused

theorem notMem_teamUuids {teams : List Team} {draw : Nat → Fin 16}
    (h : findTeamByUuid teams (generateUuid draw) = none) :
    CString.copyBuffer uuidLength (generateUuid draw) ∉ teams.map Team.uuid := by
  intro hmem
  obtain ⟨t, ht, he⟩ := List.mem_map.mp hmem
  refine find?_key_eq_none.mp h (List.mem_map.mpr ⟨t, ht, ?_⟩)
  rw [he, bytes_copyBuffer_generateUuid]

theorem nodup_append_singleton {α : Type} {l : List α} {x : α} (h : l.Nodup) (hx : x ∉ l) :
    (l ++ [x]).Nodup := by
  rw [List.nodup_append_comm]
  exact List.nodup_cons.mpr ⟨hx, h⟩

/-- Distinct buffers have distinct contents. -/
theorem CString.nodup_bytes {α : Type} {n : Nat} {l : List α} {f : α → CString n} (h : (l.map f).Nodup) :
    (l.map fun x => (f x).bytes).Nodup := by
  have hmap := h.map fun (s t : CString n) (he : s.bytes = t.bytes) => CString.ext he
  rwa [List.map_map] at hmap

theorem channelUuids_updateChannel {t : Team} {uuid : Bytes} {f : Channel → Channel}
    (hf : ∀ c, (f c).uuid = c.uuid) : (updateChannel t uuid f).channelUuids = t.channelUuids :=
  map_modifyFirst hf t.channels

theorem threadUuids_updateThread {c : Channel} {uuid : Bytes} {f : Thread → Thread}
    (hf : ∀ d, (f d).uuid = d.uuid) : (updateThread c uuid f).threadUuids = c.threadUuids :=
  map_modifyFirst hf c.threads

theorem perm_threadUuids_updateChannel {t : Team} {uuid : Bytes} {c : Channel} {f : Channel → Channel}
    {extra : List Uuid} (hfind : findChannelByUuid t uuid = some c)
    (hf : (f c).threadUuids.Perm (c.threadUuids ++ extra)) :
    (updateChannel t uuid f).threadUuids.Perm (t.threadUuids ++ extra) :=
  perm_flatMap_modifyFirst hfind hf

namespace Server

variable {s s' : Server}

def Storable (s : Server) : Prop := TeamsMirror.Storable s.users s.teams s.messages

theorem Storable.effect {context : CommandContext} {command : CommandID} {packets : List (Fd × Packet)}
    (h : Storable context.toServer) (hknown : Known context.toServer)
    (he : Effect context command s packets) : Storable s := by
  cases he with
  | @registered draw name user _ _ _ _ huser =>
    refine h.setUsers (List.forall_mem_append.mpr ⟨h.namedUsers, List.forall_mem_singleton.mpr ?_⟩)
    rw [huser, User.new, bytes_copyBuffer_generateUuid]
    exact generateUuid_ne_nil draw
  | loggedIn => exact h.setUsers (forall_modifyFirst h.namedUsers fun _ hu => hu)
  | loggedOut =>
    refine h.setUsers (forall_modifyFirst h.namedUsers fun u hu => ?_)
    rw [User.uuid_removeLoggedIn]
    exact hu
  | @sent author _ _ _ hauthor _ _ _ _ hmessage =>
    obtain ⟨u, -, hu, rfl⟩ := hknown.exists_user hauthor
    refine h.addMessage ?_ ?_
    · rw [hmessage, Message.new, bytes_copyBuffer_generateUuid]
      exact generateUuid_ne_nil _
    · rw [hmessage, Message.new, CString.copyBuffer_bytes]
      exact h.namedUsers u hu
  | subscribed huser hteam =>
    have huuid := h.namedUsers _ (mem_users_of_authenticated huser)
    exact h.modifyTeam_same hteam (fun _ => rfl) (fun t ht => ht.addSubscribedUser huuid) rfl rfl
  | unsubscribed _ hteam =>
    exact h.modifyTeam_same hteam (fun _ => rfl) (fun t ht => ht.removeSubscribedUser _) rfl rfl
  | createdTeam huser _ _ hfresh hteam =>
    have huuid := h.namedUsers _ (mem_users_of_authenticated huser)
    rw [hteam]
    exact h.addTeam ((Team.Named.new _ _ _).addSubscribedUser huuid) (notMem_teamUuids hfresh) rfl
  | @createdChannel draw name description user team channel hteam _ _ hfresh hchannel =>
    have hnamed : channel.Named := hchannel ▸ .new draw name description
    refine h.modifyTeam [channel.uuid] [] hteam.found (fun _ => rfl)
      (fun t ht => ht.addChannel hnamed) ?_ ?_ ?_ ?_
    · simp [Team.addChannel, Team.channelUuids]
    · simp [Team.addChannel, Team.threadUuids, Channel.threadUuids, hchannel, Channel.new]
    · rw [hchannel]
      exact nodup_append_singleton h.channelUuids (notMem_channelUuids hfresh)
    · rw [List.append_nil]
      exact h.threadUuids
  | @createdThread draw title body user team channel thread hchannel _ _ _ hfresh hthread =>
    have hnamed : thread.Named := hthread ▸ .new draw _ _ title body
    refine h.modifyTeam [] [thread.uuid] hchannel.toInTeam.found_uuid
      (fun _ => rfl) (fun t ht => ht.updateChannel fun c hc => hc.addThread hnamed) ?_ ?_ ?_ ?_
    · rw [channelUuids_updateChannel fun c => Channel.uuid_addThread c thread, List.append_nil]
    · refine perm_threadUuids_updateChannel hchannel.found_uuid ?_
      simp [Channel.addThread, Channel.threadUuids]
    · rw [List.append_nil]
      exact h.channelUuids
    · rw [hthread]
      exact nodup_append_singleton h.threadUuids (notMem_threadUuids hfresh)
  | @createdReply body user team channel thread reply hthread _ hreply =>
    have hnamed : reply.IsReply := by
      rw [hreply]
      refine ⟨?_, rfl⟩
      rw [Message.new, bytes_copyBuffer_generateUuid]
      exact generateUuid_ne_nil _
    refine h.modifyTeam [] [] hthread.toInTeam.found_uuid
      (fun _ => rfl)
      (fun t ht => ht.updateChannel fun c hc => hc.updateThread fun d hd => hd.addReply hnamed)
      ?_ ?_ ?_ ?_
    · rw [channelUuids_updateChannel, List.append_nil]
      intro c
      rfl
    · refine perm_threadUuids_updateChannel hthread.toInChannel.found_uuid ?_
      rw [threadUuids_updateThread fun d => Thread.uuid_addReply d reply, List.append_nil]
    · rw [List.append_nil]
      exact h.channelUuids
    · rw [List.append_nil]
      exact h.threadUuids
  | _ => exact h

theorem Storable.step {e : Event} {queued : List (Fd × Packet)} (h : Storable s) (hknown : Known s)
    (hs : s.handle e = some (s', queued)) : Storable s' := by
  cases e with
  | accept fd =>
    obtain ⟨-, rfl, -⟩ := handle_accept hs
    exact h
  | receive fd chunk =>
    obtain ⟨-, -, rfl⟩ := handle_receive hs
    exact h
  | dispatch fd environment =>
    obtain ⟨-, command, payload, middle, size, heffect, rfl⟩ := handle_dispatch hs
    have hmiddle : Storable middle := Storable.effect h hknown heffect
    exact hmiddle
  | flush fd n =>
    obtain ⟨-, -, -, rfl⟩ := handle_flush hs
    exact h
  | disconnect fd =>
    obtain ⟨-, middle, hd, rfl⟩ := handle_disconnect hs
    cases hd with
    | anonymous => exact h
    | known =>
      refine h.setUsers (forall_modifyFirst h.namedUsers fun u hu => ?_)
      rw [User.uuid_removeLoggedIn]
      exact hu
    | unknown => exact h

/-- The state in which the loop is entered stores what was loaded. -/
theorem Storable.start {listenFd : Fd} {users : List User} {teams : List Team}
    {messages : List Message} (h : TeamsMirror.Storable users teams messages) :
    Storable (Server.start listenFd users teams messages) := by
  refine h.setUsers fun u hu => ?_
  obtain ⟨v, hv, rfl⟩ := List.mem_map.mp hu
  exact h.namedUsers v hv

end Server

end TeamsMirror
