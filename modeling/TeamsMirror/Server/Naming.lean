import TeamsMirror.Server.Growth
import TeamsMirror.Server.Store

/-!
# Names

Users, teams, channels and threads are refused when their name is taken: a user's
among all users, a team's among all teams, a channel's in its team and a thread's
in its channel. The name of a request is compared with stored ones before it is
itself stored in a fixed buffer, which it fits, so that no two stored names agree.
-/

namespace TeamsMirror

open Lists Server

variable {context context' : CommandContext}

/-- A text read from a character field fits a buffer of the same size. -/
theorem fits_of_extract {n : Nat} {field : CharArray n} {text : Bytes}
    (h : extractFixedString field.bytes = some text) :
    (CString.copyBuffer n text).bytes = text := by
  unfold extractFixedString at h
  split at h
  · next hnul =>
    have hlt := length_beforeNul_lt hnul
    rw [field.length_bytes] at hlt
    obtain rfl := Option.some.inj h
    exact CString.bytes_copyBuffer (by omega) (zero_notMem_beforeNul _)
  · cases h

/-- Whatever else a payload is checked for, the first text it is parsed into fits. -/
theorem fits_of_parse {n : Nat} {field : CharArray n} {second : Option Bytes} {name text : Bytes}
    {wrongSize : Prop} [Decidable wrongSize] {missing : Bytes → Bytes → Prop}
    [∀ first second, Decidable (missing first second)]
    (h : (if wrongSize then none
      else do
        let first ← extractFixedString field.bytes
        let second ← second
        if missing first second then none else some (first, second)) = some (name, text)) :
    (CString.copyBuffer n name).bytes = name := by
  split at h
  · cases h
  obtain ⟨first, hfirst, h⟩ := Option.bind_eq_some_iff.mp h
  obtain ⟨second, -, h⟩ := Option.bind_eq_some_iff.mp h
  split at h
  · cases h
  · cases h
    exact fits_of_extract hfirst

theorem parseCreateTeamPayload_fits {name description : Bytes}
    (h : parseCreateTeamPayload context = some (name, description)) :
    (CString.copyBuffer maxNameLength name).bytes = name := by
  unfold parseCreateTeamPayload at h
  exact fits_of_parse h

theorem parseCreateChannelPayload_fits {name description : Bytes}
    (h : parseCreateChannelPayload context = some (name, description)) :
    (CString.copyBuffer maxNameLength name).bytes = name := by
  unfold parseCreateChannelPayload at h
  exact fits_of_parse h

theorem parseCreateThreadPayload_fits {title body : Bytes}
    (h : parseCreateThreadPayload context = some (title, body)) :
    (CString.copyBuffer maxNameLength title).bytes = title := by
  unfold parseCreateThreadPayload at h
  exact fits_of_parse h

/-- A requested name that no stored one equals is still new once it is stored. -/
theorem stored_name_fresh {α : Type} {n : Nat} {stored : α → CString n} {xs : List α} {name : Bytes}
    (hfits : (CString.copyBuffer n name).bytes = name) (h : ∀ x ∈ xs, (stored x).bytes ≠ name) :
    CString.copyBuffer n name ∉ xs.map stored := by
  intro hmem
  obtain ⟨x, hx, he⟩ := List.mem_map.mp hmem
  exact h x hx (by rw [he, hfits])

/-- How a command may change the names in the forest: one new name, where there was none like it. -/
inductive Naming (teams : List Team) : List Team → Prop where
  | same : Naming teams teams
  | team {t : Team} : t.name ∉ teams.map Team.name → t.channels = [] → t.subscribedUserUuids.Nodup →
      Naming teams (teams ++ [t])
  | channel {uuid : Bytes} {t : Team} {c : Channel} : findTeamByUuid teams uuid = some t →
      c.name ∉ t.channels.map Channel.name → c.threads = [] →
      Naming teams (updateTeam teams uuid fun team => team.addChannel c)
  | thread {t : Team} {c : Channel} {d : Thread} : findTeamByUuid teams t.uuid.bytes = some t →
      findChannelByUuid t c.uuid.bytes = some c → d.title ∉ c.threads.map Thread.title →
      Naming teams (updateTeam teams t.uuid.bytes fun team =>
        updateChannel team c.uuid.bytes fun channel => channel.addThread d)
  | reply {t : Team} {c : Channel} {threadUuid : Bytes} {m : Message} :
      findTeamByUuid teams t.uuid.bytes = some t → findChannelByUuid t c.uuid.bytes = some c →
      Naming teams (updateTeam teams t.uuid.bytes fun team =>
        updateChannel team c.uuid.bytes fun channel =>
          updateThread channel threadUuid fun thread => thread.addReply m)

theorem handleCreate_naming (h : handleCreateCommand context = some context') :
    Naming context.teams context'.teams := by
  cases handleCreate_cases h with
  | refused _ => exact .same
  | team _ _ _ _ hparse hnames _ hteam =>
    subst hteam
    rw [teams_perform]
    exact .team (stored_name_fresh (parseCreateTeamPayload_fits hparse) hnames) rfl (List.nodup_singleton _)
  | channel hin _ _ hparse hnames _ hchannel =>
    subst hchannel
    rw [teams_perform]
    exact .channel hin.found (stored_name_fresh (parseCreateChannelPayload_fits hparse) hnames) rfl
  | thread hin _ hparse htitles _ hthread =>
    subst hthread
    rw [teams_perform]
    have hfresh := stored_name_fresh (parseCreateThreadPayload_fits hparse) htitles
    exact .thread hin.toInTeam.found_uuid hin.found_uuid hfresh
  | reply hin _ _ =>
    rw [teams_perform]
    exact .reply hin.toInTeam.found_uuid hin.toInChannel.found_uuid

/-- A login keeps the names of the users, or adds one that none of them has. -/
theorem handleLogin_naming (h : handleLoginCommand context = some context') :
    context'.users.map User.name = context.users.map User.name ∨
      ∃ name, name ∉ context.users.map User.name ∧
        context'.users.map User.name = context.users.map User.name ++ [name] := by
  cases handleLogin_cases h with
  | refused _ => exact .inl rfl
  | @registered draw name user _ _ hname _ hnone _ huser =>
    have hnames : ∀ u ∈ context.users, u.name.bytes ≠ name := by
      simpa [findUserByName, List.find?_eq_none] using hnone
    subst huser
    rw [users_perform]
    exact .inr ⟨_, stored_name_fresh (fits_of_extract hname) hnames, List.map_append⟩
  | loggedIn _ _ _ _ =>
    rw [users_perform]
    refine .inl (map_modifyFirst ?_ context.users)
    exact fun _ => rfl

/-- No two of what is found by name under one parent have the same name, nobody is subscribed
twice to a team, and no two users share a uuid. -/
structure Team.Distinct (t : Team) : Prop where
  channelNames : (t.channels.map Channel.name).Nodup
  threadTitles : ∀ c ∈ t.channels, (c.threads.map Thread.title).Nodup
  subscribers : t.subscribedUserUuids.Nodup

structure Distinct (users : List User) (teams : List Team) : Prop where
  userUuids : (users.map User.uuid).Nodup
  userNames : (users.map User.name).Nodup
  teamNames : (teams.map Team.name).Nodup
  teams : ∀ t ∈ teams, t.Distinct

theorem channelNames_updateChannel (t : Team) {uuid : Bytes} {f : Channel → Channel}
    (hf : ∀ c, (f c).name = c.name) :
    (updateChannel t uuid f).channels.map Channel.name = t.channels.map Channel.name :=
  map_modifyFirst hf t.channels

theorem threadTitles_updateThread (c : Channel) {uuid : Bytes} {f : Thread → Thread}
    (hf : ∀ d, (f d).title = d.title) :
    (updateThread c uuid f).threads.map Thread.title = c.threads.map Thread.title :=
  map_modifyFirst hf c.threads

namespace Distinct

variable {users : List User} {teams teams' : List Team}

theorem empty : Distinct [] [] := ⟨.nil, .nil, .nil, by simp⟩

theorem setUsers (h : Distinct users teams) {users' : List User}
    (huuids : (users'.map User.uuid).Nodup) (hnames : (users'.map User.name).Nodup) :
    Distinct users' teams :=
  { h with userUuids := huuids, userNames := hnames }

/-- Users are as good as others with the same identities. -/
theorem congr (h : Distinct users teams) {users' : List User}
    (hsame : (users'.map fun u => (u.uuid, u.name)) = users.map fun u => (u.uuid, u.name)) :
    Distinct users' teams := by
  have huuids : users'.map User.uuid = users.map User.uuid := by
    have hfst := congrArg (List.map Prod.fst) hsame
    rwa [List.map_map, List.map_map] at hfst
  have hnames : users'.map User.name = users.map User.name := by
    have hsnd := congrArg (List.map Prod.snd) hsame
    rwa [List.map_map, List.map_map] at hsnd
  exact h.setUsers (huuids ▸ h.userUuids) (hnames ▸ h.userNames)

theorem updateTeam (h : Distinct users teams) {uuid : Bytes} {t : Team} {f : Team → Team}
    (hfind : findTeamByUuid teams uuid = some t) (hname : ∀ t, (f t).name = t.name) (hf : (f t).Distinct) :
    Distinct users (updateTeam teams uuid f) :=
  { h with
    teamNames := by
      rw [TeamsMirror.updateTeam, map_modifyFirst hname]
      exact h.teamNames
    teams := forall_modifyFirst_of_find h.teams hfind hf }

theorem naming (h : Distinct users teams) (hnaming : Naming teams teams') : Distinct users teams' := by
  cases hnaming with
  | same => exact h
  | @team t hname hchannels hsubs =>
    refine { h with teamNames := ?_, teams := ?_ }
    · rw [List.map_append]
      exact nodup_append_singleton h.teamNames hname
    · have ht : t.Distinct := ⟨by simp [hchannels], by simp [hchannels], hsubs⟩
      exact List.forall_mem_append.mpr ⟨h.teams, List.forall_mem_singleton.mpr ht⟩
  | @channel uuid t c hfind hname hthreads =>
    obtain ⟨hnames, htitles, hsubs⟩ := h.teams t (List.mem_of_find?_eq_some hfind)
    refine h.updateTeam hfind (fun _ => rfl) ⟨?_, ?_, hsubs⟩
    · rw [Team.addChannel, List.map_append]
      exact nodup_append_singleton hnames hname
    · exact List.forall_mem_append.mpr ⟨htitles, List.forall_mem_singleton.mpr (by simp [hthreads])⟩
  | @thread t c d hfind hchannel htitle =>
    obtain ⟨hnames, htitles, hsubs⟩ := h.teams t (List.mem_of_find?_eq_some hfind)
    refine h.updateTeam hfind (fun _ => rfl) ⟨?_, ?_, hsubs⟩
    · rw [channelNames_updateChannel]
      · exact hnames
      · exact fun _ => rfl
    · refine forall_modifyFirst_of_find htitles hchannel ?_
      rw [Channel.addThread, List.map_append]
      exact nodup_append_singleton (htitles c (List.mem_of_find?_eq_some hchannel)) htitle
  | @reply t c threadUuid m hfind hchannel =>
    obtain ⟨hnames, htitles, hsubs⟩ := h.teams t (List.mem_of_find?_eq_some hfind)
    refine h.updateTeam hfind (fun _ => rfl) ⟨?_, ?_, hsubs⟩
    · rw [channelNames_updateChannel]
      · exact hnames
      · exact fun _ => rfl
    · refine forall_modifyFirst_of_find htitles hchannel ?_
      rw [threadTitles_updateThread]
      · exact htitles c (List.mem_of_find?_eq_some hchannel)
      · exact fun _ => rfl

end Distinct

namespace Server

variable {s s' : Server}

def Distinct (s : Server) : Prop := TeamsMirror.Distinct s.users s.teams

/-- Commands that name nothing. -/
theorem Distinct.effect {command : CommandID} {packets : List (Fd × Packet)}
    (h : Distinct context.toServer) (he : Effect context command s packets)
    (hlogin : command ≠ .login) (hcreate : command ≠ .create) : Distinct s := by
  cases he with
  | registered | loggedIn => exact absurd rfl hlogin
  | createdTeam | createdChannel | createdThread | createdReply => exact absurd rfl hcreate
  | refused | unknownUser | answered | loggedOutUnknown | sent | used => exact h
  | loggedOut =>
    refine h.congr (map_modifyFirst (fun u => ?_) context.users)
    rw [User.uuid_removeLoggedIn, User.name_removeLoggedIn]
  | @subscribed uuid user team huser hfind hnot =>
    obtain ⟨hnames, htitles, hsubs⟩ := h.teams team (List.mem_of_find?_eq_some hfind)
    refine h.updateTeam hfind (fun _ => rfl) ⟨hnames, htitles, nodup_append_singleton hsubs fun hmem => ?_⟩
    rw [CString.copyBuffer_bytes] at hmem
    rw [Team.isUserSubscribed_iff.mpr hmem] at hnot
    cases hnot
  | @unsubscribed uuid user team reply huser hfind =>
    obtain ⟨hnames, htitles, hsubs⟩ := h.teams team (List.mem_of_find?_eq_some hfind)
    exact h.updateTeam hfind (fun _ => rfl) ⟨hnames, htitles, hsubs.filter _⟩

/-- The uuid of a new user is new. -/
theorem nodup_of_registers {users users' : List User} (h : (users.map User.uuid).Nodup)
    (hr : Registers users users') :
    (users'.map User.uuid).Nodup := by
  rcases hr with hsame | ⟨draw, hunused, hadded⟩
  · rw [hsame]
    exact h
  · rw [hadded]
    refine nodup_append_singleton h fun hmem => ?_
    obtain ⟨u, hu, he⟩ := List.mem_map.mp hmem
    refine find?_key_eq_none.mp hunused (List.mem_map.mpr ⟨u, hu, ?_⟩)
    rw [he, bytes_copyBuffer_generateUuid]

theorem Distinct.dispatch {code : UInt16} {context' : CommandContext} (h : Distinct context.toServer)
    (hd : dispatchCommand context code = some context') : Distinct context'.toServer := by
  by_cases hcode : ∃ command : CommandID, code = command.code
  · obtain ⟨command, rfl⟩ := hcode
    obtain ⟨s, packets, heffect, rfl⟩ := dispatch_command hd
    rw [toServer_perform]
    by_cases hlogin : command = .login
    · subst hlogin
      have huuids := nodup_of_registers h.userUuids heffect.registers
      have hlogin := handleLogin_naming hd
      rw [toServer_perform] at hlogin
      have hnames : (s.users.map User.name).Nodup := by
        rcases hlogin with hsame | ⟨name, hfresh, hadded⟩
        · exact hsame ▸ h.userNames
        · exact hadded ▸ nodup_append_singleton h.userNames hfresh
      have hteams : s.teams = context.teams := by
        cases heffect with
        | refused | answered | registered | loggedIn => rfl
      exact { h with
          userUuids := huuids
          userNames := hnames
          teamNames := hteams ▸ h.teamNames
          teams := hteams ▸ h.teams }
    by_cases hcreate : command = .create
    · subst hcreate
      have hnaming := handleCreate_naming hd
      rw [toServer_perform] at hnaming
      have husers : s.users = context.users := by
        cases heffect with
        | refused | answered | createdTeam | createdChannel | createdThread | createdReply => rfl
      have hdistinct := h.naming hnaming
      rw [← husers] at hdistinct
      exact hdistinct
    have hdistinct : Distinct s := h.effect heffect hlogin hcreate
    exact hdistinct
  · rw [dispatch_unknown fun command he => hcode ⟨command, he⟩] at hd
    cases hd
    exact h

theorem Distinct.step {e : Event} {queued : List (Fd × Packet)} (h : Distinct s)
    (hs : s.handle e = some (s', queued)) : Distinct s' := by
  cases e with
  | accept fd =>
    obtain ⟨-, rfl, -⟩ := handle_accept hs
    exact h
  | receive fd chunk =>
    obtain ⟨-, -, rfl⟩ := handle_receive hs
    exact h
  | dispatch fd environment =>
    obtain ⟨header, payload, context', -, hd, -, rfl⟩ := handle_dispatch_context hs
    have hcontext : Distinct (s.context fd payload environment).toServer := h
    have hafter := hcontext.dispatch hd
    exact hafter
  | flush fd n =>
    obtain ⟨-, -, -, rfl⟩ := handle_flush hs
    exact h
  | disconnect fd =>
    obtain ⟨-, middle, hd, rfl⟩ := handle_disconnect hs
    cases hd with
    | anonymous | unknown => exact h
    | known =>
      refine h.congr (map_modifyFirst (fun u => ?_) s.users)
      rw [User.uuid_removeLoggedIn, User.name_removeLoggedIn]

end Server

end TeamsMirror
