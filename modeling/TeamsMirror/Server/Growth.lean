import TeamsMirror.Server.Provenance

/-!
# The store only grows

Users, teams and messages are never moved, replaced or removed by a command. At
every level of the forest the old sequence keeps its place at the head of the new
one; a command adds at most one entity, and touches the subscription of one user
to one team.
-/

namespace TeamsMirror

open Lists Server

/-- Only replies were added. -/
structure Thread.Grows (d d' : Thread) : Prop where
  same : { d' with replies := d.replies } = d
  replies : d.replies <+: d'.replies

/-- Threads were added, or grew. -/
structure Channel.Grows (c c' : Channel) : Prop where
  same : { c' with threads := c.threads } = c
  threads : Lists.Grows Thread.Grows c.threads c'.threads

/-- Channels were added, or grew; subscriptions are another matter. -/
structure Team.Grows (t t' : Team) : Prop where
  same : { t' with subscribedUserUuids := t.subscribedUserUuids, channels := t.channels } = t
  channels : Lists.Grows Channel.Grows t.channels t'.channels

/-- Everything the first server stores is in the second one, at the same place. -/
structure Server.Extends (s s' : Server) : Prop where
  users : (s.users.map fun u => (u.uuid, u.name)) <+: s'.users.map fun u => (u.uuid, u.name)
  teams : Lists.Grows Team.Grows s.teams s'.teams
  messages : s.messages <+: s'.messages

theorem Thread.Grows.refl (d : Thread) : d.Grows d := ⟨rfl, List.prefix_refl _⟩

theorem Channel.Grows.refl (c : Channel) : c.Grows c := ⟨rfl, grows_refl Thread.Grows.refl _⟩

theorem Team.Grows.refl (t : Team) : t.Grows t := ⟨rfl, grows_refl Channel.Grows.refl _⟩

theorem Server.Extends.refl (s : Server) : s.Extends s :=
  ⟨List.prefix_refl _, grows_refl Team.Grows.refl _, List.prefix_refl _⟩

theorem Thread.Grows.trans {d d' d'' : Thread} (h : d.Grows d') (h' : d'.Grows d'') : d.Grows d'' where
  same := by
    rw [← h.same, ← h'.same]
  replies := h.replies.trans h'.replies

theorem Channel.Grows.trans {c c' c'' : Channel} (h : c.Grows c') (h' : c'.Grows c'') : c.Grows c'' where
  same := by
    rw [← h.same, ← h'.same]
  threads := grows_trans (R := Thread.Grows) (fun _ _ _ => Thread.Grows.trans) h.threads h'.threads

theorem Team.Grows.trans {t t' t'' : Team} (h : t.Grows t') (h' : t'.Grows t'') : t.Grows t'' where
  same := by
    rw [← h.same, ← h'.same]
  channels := grows_trans (R := Channel.Grows) (fun _ _ _ => Channel.Grows.trans) h.channels h'.channels

theorem Server.Extends.trans {s s' s'' : Server} (h : s.Extends s') (h' : s'.Extends s'') : s.Extends s'' where
  users := h.users.trans h'.users
  teams := grows_trans (R := Team.Grows) (fun _ _ _ => Team.Grows.trans) h.teams h'.teams
  messages := h.messages.trans h'.messages

theorem Thread.grows_addReply (d : Thread) (m : Message) : d.Grows (d.addReply m) :=
  ⟨rfl, List.prefix_append _ _⟩

theorem Channel.grows_addThread (c : Channel) (d : Thread) : c.Grows (c.addThread d) :=
  ⟨rfl, grows_append Thread.Grows.refl _ _⟩

theorem Team.grows_addChannel (t : Team) (c : Channel) : t.Grows (t.addChannel c) :=
  ⟨rfl, grows_append Channel.Grows.refl _ _⟩

theorem Channel.grows_updateThread (c : Channel) (uuid : Bytes) {f : Thread → Thread}
    (hf : ∀ d : Thread, d.Grows (f d)) : c.Grows (updateThread c uuid f) :=
  ⟨rfl, grows_modifyFirst Thread.Grows.refl hf _⟩

theorem Team.grows_updateChannel (t : Team) (uuid : Bytes) {f : Channel → Channel}
    (hf : ∀ c : Channel, c.Grows (f c)) : t.Grows (updateChannel t uuid f) :=
  ⟨rfl, grows_modifyFirst Channel.Grows.refl hf _⟩

theorem Server.Extends.setTeams {s : Server} {teams : List Team} (h : Lists.Grows Team.Grows s.teams teams) :
    s.Extends (s.setTeams teams) :=
  ⟨List.prefix_refl _, h, List.prefix_refl _⟩

theorem Server.Extends.updateTeam (s : Server) (uuid : Bytes) {f : Team → Team}
    (hf : ∀ t : Team, t.Grows (f t)) : s.Extends (s.setTeams (updateTeam s.teams uuid f)) :=
  .setTeams (grows_modifyFirst Team.Grows.refl hf _)

/-- A change of users that keeps their identities. -/
theorem Server.Extends.of_users {s s' : Server} (hteams : s'.teams = s.teams) (hmessages : s'.messages = s.messages)
    (husers : (s.users.map fun u => (u.uuid, u.name)) <+: s'.users.map fun u => (u.uuid, u.name)) :
    s.Extends s' :=
  ⟨husers, hteams ▸ grows_refl Team.Grows.refl _, hmessages ▸ List.prefix_refl _⟩

theorem identities_modifyFirst (users : List User) (p : User → Bool) {f : User → User}
    (hf : ∀ u, (f u).uuid = u.uuid ∧ (f u).name = u.name) :
    ((modifyFirst p f users).map fun u => (u.uuid, u.name)) = users.map fun u => (u.uuid, u.name) :=
  map_modifyFirst (fun u => Prod.ext (hf u).1 (hf u).2) users

theorem Effect.extends_ {context : CommandContext} {command : CommandID} {s : Server}
    {packets : List (Fd × Packet)} (h : Effect context command s packets) : context.toServer.Extends s := by
  cases h with
  | refused | unknownUser | answered | loggedOutUnknown | used => exact .of_users rfl rfl (List.prefix_refl _)
  | registered =>
    refine .of_users rfl rfl ?_
    simp only [setUsers, addSession, List.map_append]
    exact List.prefix_append _ _
  | loggedIn =>
    refine .of_users rfl rfl ?_
    simp only [setUsers, addSession]
    rw [identities_modifyFirst]
    exact fun u => ⟨rfl, rfl⟩
  | loggedOut =>
    refine .of_users rfl rfl ?_
    simp only [setUsers, removeSession, updateUser]
    rw [identities_modifyFirst]
    exact fun u => ⟨u.uuid_removeLoggedIn, u.name_removeLoggedIn⟩
  | sent => exact ⟨List.prefix_refl _, grows_refl Team.Grows.refl _, List.prefix_append _ _⟩
  | subscribed | unsubscribed =>
    exact .updateTeam _ _ fun t => ⟨rfl, grows_refl Channel.Grows.refl _⟩
  | createdTeam => exact .setTeams (grows_append Team.Grows.refl _ _)
  | createdChannel => exact .updateTeam _ _ fun t => t.grows_addChannel _
  | createdThread => exact .updateTeam _ _ fun t => t.grows_updateChannel _ fun c => c.grows_addThread _
  | createdReply =>
    exact .updateTeam _ _ fun t => t.grows_updateChannel _ fun c => c.grows_updateThread _ fun d =>
      d.grows_addReply _

/-- The users of the second list are those of the first, but for one registered under a new uuid. -/
def Registers (users users' : List User) : Prop :=
  users'.map User.uuid = users.map User.uuid ∨ ∃ draw, findUserByUuid users (generateUuid draw) = none ∧
    users'.map User.uuid = users.map User.uuid ++ [.copyBuffer _ (generateUuid draw)]

theorem uuids_removeLoggedIn (users : List User) (uuid : Bytes) :
    (updateUser users uuid User.removeLoggedIn).map User.uuid = users.map User.uuid :=
  map_modifyFirst (fun u => u.uuid_removeLoggedIn) users

theorem Effect.registers {context : CommandContext} {command : CommandID} {s : Server}
    {packets : List (Fd × Packet)} (h : Effect context command s packets) : Registers context.users s.users := by
  cases h with
  | @registered draw name user _ _ _ hunused huser =>
    refine .inr ⟨draw, hunused, ?_⟩
    simp only [setUsers, addSession, List.map_append, huser]
    rfl
  | loggedIn =>
    simp only [setUsers, addSession]
    refine .inl (map_modifyFirst ?_ context.users)
    exact fun _ => rfl
  | loggedOut => exact .inl (uuids_removeLoggedIn _ _)
  | refused | unknownUser | answered | loggedOutUnknown | sent | subscribed | unsubscribed | used
  | createdTeam | createdChannel | createdThread | createdReply => exact .inl rfl

theorem Server.registers_step {s s' : Server} {e : Event} {queued : List (Fd × Packet)}
    (h : s.handle e = some (s', queued)) : Registers s.users s'.users := by
  cases e with
  | accept fd =>
    obtain ⟨-, rfl, -⟩ := handle_accept h
    exact .inl rfl
  | receive fd chunk =>
    obtain ⟨-, -, rfl⟩ := handle_receive h
    exact .inl rfl
  | dispatch fd environment =>
    obtain ⟨-, command, payload, middle, size, heffect, rfl⟩ := handle_dispatch h
    have hmiddle : Registers s.users middle.users := heffect.registers
    exact hmiddle
  | flush fd n =>
    obtain ⟨-, -, -, rfl⟩ := handle_flush h
    exact .inl rfl
  | disconnect fd =>
    obtain ⟨-, middle, hd, rfl⟩ := handle_disconnect h
    cases hd with
    | anonymous | unknown => exact .inl rfl
    | known => exact .inl (uuids_removeLoggedIn _ _)

def Channel.size (c : Channel) : Nat := 1 + (c.threads.map fun d => 1 + d.replies.length).sum

def Team.size (t : Team) : Nat := 1 + (t.channels.map Channel.size).sum

/-- How many users, messages, teams, channels, threads and replies are stored. -/
def Server.size (s : Server) : Nat := s.users.length + s.messages.length + (s.teams.map Team.size).sum

theorem Channel.size_addThread (c : Channel) {d : Thread} (hd : d.replies = []) :
    (c.addThread d).size = c.size + 1 := by
  simp only [Channel.size, Channel.addThread, List.map_append, List.sum_append, List.map_singleton,
    List.sum_singleton, hd, List.length_nil]
  omega

theorem Channel.size_updateThread_le (c : Channel) (uuid : Bytes) (m : Message) :
    (updateThread c uuid fun thread => thread.addReply m).size ≤ c.size + 1 := by
  have hsum := sum_modifyFirst_le (p := fun thread : Thread => thread.uuid.bytes = uuid)
    (f := fun thread => thread.addReply m) (g := fun d : Thread => 1 + d.replies.length) (k := 1)
    (fun d => by simp only [Thread.addReply, List.length_append, List.length_singleton]; omega) c.threads
  simp only [Channel.size, updateThread]
  omega

theorem Team.size_addChannel (t : Team) {c : Channel} (hc : c.threads = []) :
    (t.addChannel c).size = t.size + 1 := by
  simp only [Team.size, Team.addChannel, List.map_append, List.sum_append, List.map_singleton,
    List.sum_singleton, Channel.size, hc, List.map_nil, List.sum_nil]
  omega

theorem Team.size_updateChannel_le (t : Team) (uuid : Bytes) {f : Channel → Channel}
    (hf : ∀ c, (f c).size ≤ c.size + 1) : (updateChannel t uuid f).size ≤ t.size + 1 := by
  have hsum := sum_modifyFirst_le (p := fun channel : Channel => channel.uuid.bytes = uuid) hf t.channels
  simp only [Team.size, updateChannel]
  omega

theorem Server.size_updateTeam_le (s : Server) (uuid : Bytes) {f : Team → Team} {k : Nat}
    (hf : ∀ t, (f t).size ≤ t.size + k) : (s.setTeams (updateTeam s.teams uuid f)).size ≤ s.size + k := by
  have hsum := sum_modifyFirst_le (p := fun team : Team => team.uuid.bytes = uuid) hf s.teams
  simp only [Server.size, setTeams, updateTeam]
  omega

theorem length_modifyFirst {α : Type} (p : α → Bool) (f : α → α) (l : List α) :
    (modifyFirst p f l).length = l.length := by
  induction l with
  | nil => rfl
  | cons a l ih =>
    rw [modifyFirst]
    split <;> simp [ih]

theorem Effect.size_le {context : CommandContext} {command : CommandID} {s : Server}
    {packets : List (Fd × Packet)} (h : Effect context command s packets) :
    s.size ≤ context.toServer.size + 1 := by
  cases h with
  | refused | unknownUser | answered | loggedOutUnknown | used => exact Nat.le_succ _
  | registered | sent =>
    simp only [Server.size, setUsers, addSession, List.length_append, List.length_singleton]
    omega
  | loggedIn | loggedOut =>
    simp only [Server.size, setUsers, addSession, removeSession, updateUser, length_modifyFirst]
    omega
  | subscribed | unsubscribed => exact size_updateTeam_le _ _ fun t => Nat.le_succ t.size
  | createdTeam _ _ _ _ hteam =>
    simp only [Server.size, setTeams, List.map_append, List.sum_append, List.map_singleton,
      List.sum_singleton, hteam, Team.size, Team.addSubscribedUser, Team.new, List.map_nil, List.sum_nil]
    omega
  | createdChannel _ _ _ _ hchannel =>
    exact size_updateTeam_le _ _ fun t => Nat.le_of_eq (t.size_addChannel (hchannel ▸ rfl))
  | createdThread _ _ _ _ _ hthread =>
    exact size_updateTeam_le _ _ fun t =>
      t.size_updateChannel_le _ fun c => Nat.le_of_eq (c.size_addThread (hthread ▸ rfl))
  | createdReply =>
    exact size_updateTeam_le _ _ fun t => t.size_updateChannel_le _ fun c => c.size_updateThread_le _ _

/-- The user is subscribed to the team at an index. -/
def SubscribedAt (teams : List Team) (index : Nat) (u : Uuid) : Prop :=
  ∃ t, teams[index]? = some t ∧ u ∈ t.subscribedUserUuids

/-- At most one user gained or lost a subscription, to at most one team. -/
structure SubscriptionChange (own : Uuid → Prop) (teams teams' : List Team) : Prop where
  own : ∀ i u, ¬(SubscribedAt teams' i u ↔ SubscribedAt teams i u) → own u
  single : ∃ i, ∀ j, j ≠ i → ∀ u, SubscribedAt teams' j u ↔ SubscribedAt teams j u

theorem SubscriptionChange.none {own : Uuid → Prop} {teams teams' : List Team}
    (h : teams'.map Team.subscribedUserUuids = teams.map Team.subscribedUserUuids) :
    SubscriptionChange own teams teams' := by
  have hiff : ∀ i u, SubscribedAt teams' i u ↔ SubscribedAt teams i u := by
    intro i u
    have hi := congrArg (fun l => l[i]?) h
    simp only [List.getElem?_map] at hi
    simp only [SubscribedAt]
    cases h' : teams'[i]? <;> cases ht : teams[i]? <;> simp_all
  exact ⟨fun i u hne => absurd (hiff i u) hne, 0, fun j _ u => hiff j u⟩

/-- The subscribers of one team may change, by one user. -/
theorem SubscriptionChange.replace {own : Uuid → Prop} {l₁ l₂ : List Team} {t t' : Team}
    (h : ∀ u, ¬own u → (u ∈ t'.subscribedUserUuids ↔ u ∈ t.subscribedUserUuids)) :
    SubscriptionChange own (l₁ ++ t :: l₂) (l₁ ++ t' :: l₂) := by
  have hother : ∀ j, j ≠ l₁.length → (l₁ ++ t' :: l₂)[j]? = (l₁ ++ t :: l₂)[j]? := by
    intro j hj
    rcases Nat.lt_or_gt_of_ne hj with hlt | hgt
    · rw [List.getElem?_append_left hlt, List.getElem?_append_left hlt]
    · obtain ⟨k, hk⟩ : ∃ k, j - l₁.length = k + 1 := ⟨j - l₁.length - 1, by omega⟩
      rw [List.getElem?_append_right (by omega), List.getElem?_append_right (by omega), hk]
      rfl
  refine ⟨fun i u hne => ?_, l₁.length, fun j hj u => ?_⟩
  · by_contra hown
    apply hne
    by_cases hi : i = l₁.length
    · subst hi
      simpa [SubscribedAt] using h u hown
    · simp only [SubscribedAt, hother i hi]
  · simp only [SubscribedAt, hother j hj]

/-- A new team has no subscriber but its creator. -/
theorem SubscriptionChange.append {own : Uuid → Prop} {teams : List Team} {t : Team}
    (h : ∀ u ∈ t.subscribedUserUuids, own u) : SubscriptionChange own teams (teams ++ [t]) := by
  have hother : ∀ j, j ≠ teams.length → (teams ++ [t])[j]? = teams[j]? := by
    intro j hj
    rw [getElem?_concat, if_neg hj]
  refine ⟨fun i u hne => ?_, teams.length, fun j hj u => ?_⟩
  · by_cases hi : i = teams.length
    · subst hi
      by_contra hown
      apply hne
      have hu : u ∉ t.subscribedUserUuids := fun hu => hown (h u hu)
      simp [SubscribedAt, hu]
    · exact absurd (by simp only [SubscribedAt, hother i hi]) hne
  · simp only [SubscribedAt, hother j hj]

theorem Effect.subscriptionChange {context : CommandContext} {command : CommandID} {s : Server}
    {packets : List (Fd × Packet)} (h : Effect context command s packets) :
    SubscriptionChange (fun u => context.authenticatedUsersByFd.lookup context.clientFd = some u.bytes)
      context.teams s.teams := by
  cases h with
  | @subscribed uuid user team huser hfind =>
    obtain ⟨l₁, l₂, hsplit, -, -, hupdate⟩ := exists_split hfind
    have hown := lookup_of_authenticated huser
    simp only [setTeams, updateTeam, hupdate]
    rw [hsplit]
    refine .replace fun u hu => ?_
    have hne : u ≠ user.uuid := by
      rintro rfl
      exact hu hown
    simp [Team.addSubscribedUser, hne]
  | @unsubscribed uuid user team reply huser hfind =>
    obtain ⟨l₁, l₂, hsplit, -, -, hupdate⟩ := exists_split hfind
    have hown := lookup_of_authenticated huser
    simp only [setTeams, updateTeam, hupdate]
    rw [hsplit]
    refine .replace fun u hu => ?_
    have hne : u.bytes ≠ user.uuid.bytes := by
      intro he
      exact hu (he ▸ hown)
    simp [Team.removeSubscribedUser, hne]
  | @createdTeam draw name description user team huser _ _ _ hteam =>
    have hown := lookup_of_authenticated huser
    refine .append fun u hu => ?_
    rw [hteam] at hu
    obtain rfl : u = user.uuid := by simpa [Team.addSubscribedUser, Team.new] using hu
    exact hown
  | createdChannel | createdThread | createdReply =>
    refine .none (map_modifyFirst ?_ context.teams)
    exact fun t => rfl
  | refused | unknownUser | answered | registered | loggedIn | loggedOut | loggedOutUnknown | sent | used =>
    exact .none rfl

end TeamsMirror
