import TeamsMirror.Database.Records

/-!
# Loading by position and by uuid

The loader keeps indexes from uuids to positions. What it computes can be said
without them: a record is inserted under the team, channel or thread that has
the uuid it names. The indexes find the same places, because each of them knows
the position of every uuid.
-/

namespace TeamsMirror

open Lists UnorderedMap

def Team.hasChannel (t : Team) (channelUuid : Bytes) : Bool :=
  t.channels.any fun channel => channel.uuid.bytes = channelUuid

def Channel.hasThread (c : Channel) (threadUuid : Bytes) : Bool :=
  c.threads.any fun thread => thread.uuid.bytes = threadUuid

def Team.hasThread (t : Team) (threadUuid : Bytes) : Bool :=
  t.channels.any fun channel => channel.hasThread threadUuid

def insertTeam (teams : List Team) (fields : List Bytes) : List Team :=
  match fields with
  | [uuid, name, description] =>
    if (findTeamByUuid teams uuid).isSome then teams else teams ++ [.new uuid name description]
  | _ => teams

def insertSubscription (teams : List Team) (fields : List Bytes) : List Team :=
  match fields with
  | [teamUuid, userUuid] => updateTeam teams teamUuid fun team => team.addSubscribedUser userUuid
  | _ => teams

def insertChannel (teams : List Team) (fields : List Bytes) : List Team :=
  match fields with
  | [teamUuid, uuid, name, description] =>
    if isChannelUuidUsed teams uuid then teams
    else updateTeam teams teamUuid fun team => team.addChannel (.new uuid name description)
  | _ => teams

def addThreadTo (channelUuid : Bytes) (d : Thread) (t : Team) : Team :=
  updateChannel t channelUuid fun channel => channel.addThread d

def insertThread (teams : List Team) (fields : List Bytes) : List Team :=
  match fields with
  | [channelUuid, uuid, authorUuid, createdAt, title, body] =>
    if isThreadUuidUsed teams uuid then teams
    else match parseTimeValue createdAt with
    | none => teams
    | some createdAt =>
      modifyFirst (fun team => team.hasChannel channelUuid)
        (addThreadTo channelUuid (.new uuid authorUuid createdAt title body)) teams
  | _ => teams

def addReplyTo (threadUuid : Bytes) (m : Message) (t : Team) : Team :=
  { t with
    channels := modifyFirst (fun channel => channel.hasThread threadUuid)
      (fun channel => updateThread channel threadUuid fun thread => thread.addReply m) t.channels }

def insertReply (teams : List Team) (fields : List Bytes) : List Team :=
  match fields with
  | [threadUuid, uuid, authorUuid, createdAt, body] =>
    match parseTimeValue createdAt with
    | none => teams
    | some createdAt =>
      modifyFirst (fun team => team.hasThread threadUuid)
        (addReplyTo threadUuid (.new uuid authorUuid createdAt body)) teams
  | _ => teams

/-- The field of each record that holds the uuid of what the record is about. -/
def ownField : DataFile → Nat
  | .users | .teams | .teamSubscriptions | .privateMessages => 0
  | .channels | .threads | .messages => 1

/-- No field holds a NUL, and the record's own uuid is one that the buffers can hold. -/
structure CleanRecord (file : DataFile) (fields : List Bytes) : Prop where
  noNul : ∀ field ∈ fields, 0 ∉ field
  own : ∀ uuid, fields[ownField file]? = some uuid → uuid ≠ [] ∧ uuid.length ≤ uuidLength - 1

def teamAt (l : List LoadedTeam) (i : Nat) : Option Bytes := l[i]?.bind fun t => some t.team.uuid.bytes

def LoadedTeam.channelUuids (t : LoadedTeam) : List Bytes := t.channels.map fun c => c.channel.uuid.bytes

def LoadedChannel.threadUuids (c : LoadedChannel) : List Bytes := c.threads.map fun d => d.thread.uuid.bytes

def channelAt (l : List LoadedTeam) (p : ChannelPosition) : Option Bytes :=
  l[p.teamIndex]?.bind fun t => t.channelUuids[p.channelIndex]?

def LoadedTeam.threadAt (t : LoadedTeam) (channelIndex threadIndex : Nat) : Option Bytes :=
  t.channels[channelIndex]?.bind fun c => c.threadUuids[threadIndex]?

def threadAt (l : List LoadedTeam) (p : ThreadPosition) : Option Bytes :=
  l[p.teamIndex]?.bind fun t => t.threadAt p.channelIndex p.threadIndex

/-- What is added later is not yet in the entities themselves. -/
structure LoadedTeam.Bare (t : LoadedTeam) : Prop where
  subscribers : t.team.subscribedUserUuids = []
  channels : t.team.channels = []
  threads : ∀ c ∈ t.channels, c.channel.threads = []
  replies : ∀ c ∈ t.channels, ∀ d ∈ c.threads, d.thread.replies = []

/-- Each index knows the position of every uuid. -/
structure Loading.Placed (s : Loading) : Prop where
  teams : Indexes s.teamIndexes (teamAt s.loadedTeams)
  channels : Indexes s.channelIndexes (channelAt s.loadedTeams)
  threads : Indexes s.threadIndexes (threadAt s.loadedTeams)
  bare : ∀ t ∈ s.loadedTeams, t.Bare

theorem Loading.Placed.start : Loading.start.Placed where
  teams := .empty fun i => by simp [Loading.start, teamAt]
  channels := .empty fun p => by simp [Loading.start, channelAt]
  threads := .empty fun p => by simp [Loading.start, threadAt]
  bare := by simp [Loading.start]

theorem Thread.foldl_addReply (ms : List Message) (d : Thread) :
    ms.foldl Thread.addReply d = { d with replies := d.replies ++ ms } := by
  induction ms generalizing d with
  | nil => simp
  | cons m ms ih => rw [List.foldl_cons, ih]; simp [Thread.addReply]

theorem Channel.foldl_addThread {α : Type} (f : α → Thread) (ds : List α) (c : Channel) :
    ds.foldl (fun c d => c.addThread (f d)) c = { c with threads := c.threads ++ ds.map f } := by
  induction ds generalizing c with
  | nil => simp
  | cons d ds ih => rw [List.foldl_cons, ih]; simp [Channel.addThread]

theorem Team.foldl_addChannel {α : Type} (f : α → Channel) (cs : List α) (t : Team) :
    cs.foldl (fun t c => t.addChannel (f c)) t = { t with channels := t.channels ++ cs.map f } := by
  induction cs generalizing t with
  | nil => simp
  | cons c cs ih => rw [List.foldl_cons, ih]; simp [Team.addChannel]

theorem Team.foldl_addSubscribedUser {α : Type} (f : α → Bytes) (us : List α) (t : Team) :
    us.foldl (fun t u => t.addSubscribedUser (f u)) t =
      { t with subscribedUserUuids := t.subscribedUserUuids ++ us.map fun u => .copyBuffer _ (f u) } := by
  induction us generalizing t with
  | nil => simp
  | cons u us ih => rw [List.foldl_cons, ih]; simp [Team.addSubscribedUser]

theorem materializeThread_eq (d : LoadedThread) :
    materializeThread d = { d.thread with replies := d.thread.replies ++ d.replies } :=
  Thread.foldl_addReply d.replies d.thread

theorem materializeChannel_eq (c : LoadedChannel) :
    materializeChannel c =
      { c.channel with threads := c.channel.threads ++ c.threads.map materializeThread } :=
  Channel.foldl_addThread materializeThread c.threads c.channel

theorem materializeTeam_eq (t : LoadedTeam) :
    materializeTeam t =
      { t.team with
        subscribedUserUuids := t.team.subscribedUserUuids ++ t.subscribedUsers.map (CString.copyBuffer _)
        channels := t.team.channels ++ t.channels.map materializeChannel } := by
  have hsubscribers := Team.foldl_addSubscribedUser id t.subscribedUsers t.team
  have hchannels := Team.foldl_addChannel materializeChannel t.channels
  simp only [id] at hsubscribers
  rw [materializeTeam, hchannels]
  exact congrArg (fun team : Team =>
    { team with channels := team.channels ++ t.channels.map materializeChannel }) hsubscribers

@[simp] theorem uuid_materializeThread (d : LoadedThread) : (materializeThread d).uuid = d.thread.uuid := by
  rw [materializeThread_eq]

@[simp] theorem uuid_materializeChannel (c : LoadedChannel) :
    (materializeChannel c).uuid = c.channel.uuid := by
  rw [materializeChannel_eq]

@[simp] theorem uuid_materializeTeam (t : LoadedTeam) : (materializeTeam t).uuid = t.team.uuid := by
  rw [materializeTeam_eq]

theorem channels_materializeTeam {t : LoadedTeam} (h : t.Bare) :
    (materializeTeam t).channels = t.channels.map materializeChannel := by
  rw [materializeTeam_eq, h.channels, List.nil_append]

theorem threads_materializeChannel {t : LoadedTeam} (h : t.Bare) {c : LoadedChannel} (hc : c ∈ t.channels) :
    (materializeChannel c).threads = c.threads.map materializeThread := by
  rw [materializeChannel_eq, h.threads c hc, List.nil_append]

theorem hasChannel_materializeTeam {t : LoadedTeam} (h : t.Bare) (k : Bytes) :
    (materializeTeam t).hasChannel k = true ↔ k ∈ t.channelUuids := by
  simp [Team.hasChannel, channels_materializeTeam h, LoadedTeam.channelUuids]

theorem hasThread_materializeChannel {t : LoadedTeam} (h : t.Bare) {c : LoadedChannel} (hc : c ∈ t.channels)
    (k : Bytes) : (materializeChannel c).hasThread k = true ↔ k ∈ c.threadUuids := by
  simp [Channel.hasThread, threads_materializeChannel h hc, LoadedChannel.threadUuids]

theorem hasThread_materializeTeam {t : LoadedTeam} (h : t.Bare) (k : Bytes) :
    (materializeTeam t).hasThread k = true ↔ ∃ c ∈ t.channels, k ∈ c.threadUuids := by
  rw [Team.hasThread, channels_materializeTeam h]
  simp only [List.any_map, List.any_eq_true, Function.comp]
  constructor
  · rintro ⟨c, hc, hk⟩
    exact ⟨c, hc, (hasThread_materializeChannel h hc k).mp hk⟩
  · rintro ⟨c, hc, hk⟩
    exact ⟨c, hc, (hasThread_materializeChannel h hc k).mpr hk⟩

theorem exists_teamAt {l : List LoadedTeam} {k : Bytes} :
    (∃ i, teamAt l i = some k) ↔ ∃ t ∈ l, t.team.uuid.bytes = k := by
  simp only [teamAt, Option.bind_eq_some_iff, Option.some.injEq]
  constructor
  · rintro ⟨i, t, ht, hk⟩
    exact ⟨t, List.mem_of_getElem? ht, hk⟩
  · rintro ⟨t, ht, hk⟩
    obtain ⟨i, hi⟩ := List.mem_iff_getElem?.mp ht
    exact ⟨i, t, hi, hk⟩

theorem exists_channelAt {l : List LoadedTeam} {k : Bytes} :
    (∃ p, channelAt l p = some k) ↔ ∃ t ∈ l, k ∈ t.channelUuids := by
  simp only [channelAt, Option.bind_eq_some_iff]
  constructor
  · rintro ⟨p, t, ht, hk⟩
    exact ⟨t, List.mem_of_getElem? ht, List.mem_of_getElem? hk⟩
  · rintro ⟨t, ht, hk⟩
    obtain ⟨i, hi⟩ := List.mem_iff_getElem?.mp ht
    obtain ⟨j, hj⟩ := List.mem_iff_getElem?.mp hk
    exact ⟨⟨i, j⟩, t, hi, hj⟩

theorem exists_threadAt {l : List LoadedTeam} {k : Bytes} :
    (∃ p, threadAt l p = some k) ↔ ∃ t ∈ l, ∃ c ∈ t.channels, k ∈ c.threadUuids := by
  simp only [threadAt, LoadedTeam.threadAt, Option.bind_eq_some_iff]
  constructor
  · rintro ⟨p, t, ht, c, hc, hk⟩
    exact ⟨t, List.mem_of_getElem? ht, c, List.mem_of_getElem? hc, List.mem_of_getElem? hk⟩
  · rintro ⟨t, ht, c, hc, hk⟩
    obtain ⟨i, hi⟩ := List.mem_iff_getElem?.mp ht
    obtain ⟨j, hj⟩ := List.mem_iff_getElem?.mp hc
    obtain ⟨m, hm⟩ := List.mem_iff_getElem?.mp hk
    exact ⟨⟨i, j, m⟩, t, hi, c, hj, hm⟩

theorem materializeTeam_atChannel {t : LoadedTeam} (h : t.Bare) {i : Nat} {c : LoadedChannel}
    {f : LoadedChannel → LoadedChannel} {q : Channel → Bool} {f' : Channel → Channel}
    (hc : t.channels[i]? = some c) (hq : q (materializeChannel c) = true)
    (hf : materializeChannel (f c) = f' (materializeChannel c))
    (hunique : ∀ j y, t.channels[j]? = some y → q (materializeChannel y) = true → j = i) :
    materializeTeam (t.atChannel i f) =
      { materializeTeam t with channels := modifyFirst q f' (materializeTeam t).channels } := by
  have hwrite := map_modify (g := materializeChannel) hc hq hf hunique
  have hchannels := channels_materializeTeam h
  rw [materializeTeam_eq] at hchannels ⊢
  rw [materializeTeam_eq]
  simp only [LoadedTeam.atChannel, hwrite]
  rw [h.channels, List.nil_append, List.nil_append]

theorem materializeChannel_atThread {t : LoadedTeam} (h : t.Bare) {c : LoadedChannel} (hc : c ∈ t.channels)
    {i : Nat} {d : LoadedThread} {f : LoadedThread → LoadedThread} {q : Thread → Bool}
    {f' : Thread → Thread} (hd : c.threads[i]? = some d) (hq : q (materializeThread d) = true)
    (hf : materializeThread (f d) = f' (materializeThread d))
    (hunique : ∀ j y, c.threads[j]? = some y → q (materializeThread y) = true → j = i) :
    materializeChannel (c.atThread i f) =
      { materializeChannel c with threads := modifyFirst q f' (materializeChannel c).threads } := by
  have hwrite := map_modify (g := materializeThread) hd hq hf hunique
  rw [materializeChannel_eq, materializeChannel_eq]
  simp only [LoadedChannel.atThread, hwrite]
  rw [h.threads c hc, List.nil_append, List.nil_append]

theorem LoadedTeam.Bare.push {t : LoadedTeam} (h : t.Bare) {c : Channel} (hc : c.threads = []) :
    LoadedTeam.Bare { t with channels := t.channels ++ [⟨c, []⟩] } where
  subscribers := h.subscribers
  channels := h.channels
  threads := List.forall_mem_append.mpr ⟨h.threads, List.forall_mem_singleton.mpr hc⟩
  replies := List.forall_mem_append.mpr ⟨h.replies, by simp⟩

theorem LoadedTeam.Bare.atChannel {t : LoadedTeam} (h : t.Bare) (i : Nat) {f : LoadedChannel → LoadedChannel}
    (hchannel : ∀ c, (f c).channel = c.channel)
    (hreplies : ∀ c, (∀ d ∈ c.threads, d.thread.replies = []) → ∀ d ∈ (f c).threads, d.thread.replies = []) :
    (t.atChannel i f).Bare where
  subscribers := h.subscribers
  channels := h.channels
  threads := by
    refine forall_modify h.threads (fun c _ hc => ?_) i
    rw [hchannel]
    exact hc
  replies := forall_modify h.replies (fun c _ hc => hreplies c hc) i

theorem LoadedTeam.channelUuids_atChannel (t : LoadedTeam) (i : Nat) {f : LoadedChannel → LoadedChannel}
    (hchannel : ∀ c, (f c).channel = c.channel) : (t.atChannel i f).channelUuids = t.channelUuids := by
  refine map_modify_of_eq (fun c => ?_) t.channels i
  rw [hchannel]

theorem LoadedTeam.threadAt_atChannel {t : LoadedTeam} {i : Nat} {c : LoadedChannel}
    (hc : t.channels[i]? = some c) (f : LoadedChannel → LoadedChannel) (j k : Nat) :
    (t.atChannel i f).threadAt j k = if j = i then (f c).threadUuids[k]? else t.threadAt j k :=
  getElem?_modify_bind hc f _ j

namespace Loading.Placed

variable {s : Loading}

/-- A write that moves no team, channel or thread. -/
theorem modify (h : s.Placed) {i : Nat} {t : LoadedTeam} (hi : s.loadedTeams[i]? = some t)
    {f : LoadedTeam → LoadedTeam} (hteam : (f t).team = t.team)
    (hchannels : (f t).channelUuids = t.channelUuids) (hthreads : (f t).threadAt = t.threadAt)
    (hbare : ∀ t, t.Bare → (f t).Bare) :
    { s with loadedTeams := s.loadedTeams.modify i f }.Placed where
  teams := h.teams.congr fun j => by
    rw [teamAt, getElem?_modify_bind hi, hteam]
    split
    · next hj => rw [hj, teamAt, hi]; rfl
    · rfl
  channels := h.channels.congr fun p => by
    rw [channelAt, getElem?_modify_bind hi, hchannels]
    split
    · next hj => rw [channelAt, hj, hi]; rfl
    · rfl
  threads := h.threads.congr fun p => by
    rw [threadAt, getElem?_modify_bind hi, hthreads]
    split
    · next hj => rw [threadAt, hj, hi]; rfl
    · rfl
  bare := forall_modify h.bare (fun t _ ht => hbare t ht) i

/-- The team that a team uuid leads to. -/
theorem exists_team (h : s.Placed) {k : Bytes} {i : Nat} (hk : s.teamIndexes.lookup k = some i) :
    ∃ t, s.loadedTeams[i]? = some t ∧ t ∈ s.loadedTeams ∧ t.team.uuid.bytes = k := by
  obtain ⟨t, ht, he⟩ := Option.bind_eq_some_iff.mp ((h.teams k i).mp hk)
  exact ⟨t, ht, List.mem_of_getElem? ht, Option.some.inj he⟩

theorem exists_channel (h : s.Placed) {k : Bytes} {p : ChannelPosition}
    (hk : s.channelIndexes.lookup k = some p) :
    ∃ t c, s.loadedTeams[p.teamIndex]? = some t ∧ t ∈ s.loadedTeams ∧
      t.channels[p.channelIndex]? = some c ∧ c.channel.uuid.bytes = k := by
  obtain ⟨t, ht, he⟩ := Option.bind_eq_some_iff.mp ((h.channels k p).mp hk)
  rw [LoadedTeam.channelUuids, List.getElem?_map, Option.map_eq_some_iff] at he
  obtain ⟨c, hc, he⟩ := he
  exact ⟨t, c, ht, List.mem_of_getElem? ht, hc, he⟩

theorem exists_thread (h : s.Placed) {k : Bytes} {p : ThreadPosition}
    (hk : s.threadIndexes.lookup k = some p) :
    ∃ t c d, s.loadedTeams[p.teamIndex]? = some t ∧ t ∈ s.loadedTeams ∧
      t.channels[p.channelIndex]? = some c ∧ c ∈ t.channels ∧
      c.threads[p.threadIndex]? = some d ∧ d.thread.uuid.bytes = k := by
  obtain ⟨t, ht, he⟩ := Option.bind_eq_some_iff.mp ((h.threads k p).mp hk)
  obtain ⟨c, hc, he⟩ := Option.bind_eq_some_iff.mp he
  rw [LoadedChannel.threadUuids, List.getElem?_map, Option.map_eq_some_iff] at he
  obtain ⟨d, hd, he⟩ := he
  exact ⟨t, c, d, ht, List.mem_of_getElem? ht, hc, List.mem_of_getElem? hc, hd, he⟩

/-- A team uuid that the index does not know is that of no team. -/
theorem findTeam_eq_none (h : s.Placed) {k : Bytes} (hk : s.teamIndexes.lookup k = none) :
    findTeamByUuid (materializeTeams s.loadedTeams) k = none := by
  refine List.find?_eq_none.mpr fun t ht => ?_
  obtain ⟨u, hu, rfl⟩ := List.mem_map.mp ht
  have hnot : ¬∃ i, teamAt s.loadedTeams i = some k := fun hat =>
    AList.lookup_eq_none.mp hk (h.teams.mem.mpr hat)
  have hne : u.team.uuid.bytes ≠ k := fun he => hnot (exists_teamAt.mpr ⟨u, hu, he⟩)
  simpa using hne

theorem isChannelUuidUsed_iff (h : s.Placed) {k : Bytes} :
    isChannelUuidUsed (materializeTeams s.loadedTeams) k = true ↔ k ∈ s.channelIndexes := by
  rw [h.channels.mem, exists_channelAt, isChannelUuidUsed, List.any_eq_true]
  constructor
  · rintro ⟨t, ht, hk⟩
    obtain ⟨u, hu, rfl⟩ := List.mem_map.mp ht
    exact ⟨u, hu, (hasChannel_materializeTeam (h.bare u hu) k).mp hk⟩
  · rintro ⟨t, ht, hk⟩
    exact ⟨_, List.mem_map_of_mem ht, (hasChannel_materializeTeam (h.bare t ht) k).mpr hk⟩

theorem isThreadUuidUsed_iff (h : s.Placed) {k : Bytes} :
    isThreadUuidUsed (materializeTeams s.loadedTeams) k = true ↔ k ∈ s.threadIndexes := by
  rw [h.threads.mem, exists_threadAt, isThreadUuidUsed, List.any_eq_true]
  constructor
  · rintro ⟨t, ht, hk⟩
    obtain ⟨u, hu, rfl⟩ := List.mem_map.mp ht
    exact ⟨u, hu, (hasThread_materializeTeam (h.bare u hu) k).mp hk⟩
  · rintro ⟨t, ht, hk⟩
    exact ⟨_, List.mem_map_of_mem ht, (hasThread_materializeTeam (h.bare t ht) k).mpr hk⟩

theorem loadTeam (h : s.Placed) {fields : List Bytes} (hclean : CleanRecord .teams fields) :
    (loadTeam s fields).Placed ∧ materializeTeams (TeamsMirror.loadTeam s fields).loadedTeams =
      insertTeam (materializeTeams s.loadedTeams) fields := by
  match fields, hclean with
  | [uuid, name, description], hclean =>
    have huuid : (Team.new uuid name description).uuid.bytes = uuid :=
      CString.bytes_copyBuffer (hclean.own uuid rfl).2 (hclean.noNul uuid (by simp))
    by_cases hk : uuid ∈ s.teamIndexes
    · obtain ⟨i, hi⟩ := exists_lookup hk
      obtain ⟨t, -, ht, he⟩ := h.exists_team hi
      have hfound : (findTeamByUuid (materializeTeams s.loadedTeams) uuid).isSome = true := by
        rw [findTeamByUuid, List.find?_isSome]
        exact ⟨_, List.mem_map_of_mem ht, by simpa using he⟩
      rw [TeamsMirror.loadTeam, if_pos hk, insertTeam, if_pos hfound]
      exact ⟨h, rfl⟩
    · have hnone := h.findTeam_eq_none (AList.lookup_eq_none.mpr hk)
      rw [TeamsMirror.loadTeam, if_neg hk, insertTeam, hnone, if_neg (by simp)]
      refine ⟨⟨?_, ?_, ?_, ?_⟩, ?_⟩
      · refine h.teams.emplace hk (by simp [teamAt]) fun j => ?_
        rw [teamAt, getElem?_concat_bind, huuid]
        rfl
      · refine h.channels.congr fun p => ?_
        rw [channelAt, getElem?_concat_bind]
        split
        · next hp => simp [channelAt, hp, LoadedTeam.channelUuids]
        · rfl
      · refine h.threads.congr fun p => ?_
        rw [threadAt, getElem?_concat_bind]
        split
        · next hp => simp [threadAt, hp, LoadedTeam.threadAt]
        · rfl
      · refine List.forall_mem_append.mpr ⟨h.bare, List.forall_mem_singleton.mpr ?_⟩
        exact ⟨rfl, rfl, by simp, by simp⟩
      · simp [materializeTeams, materializeTeam]
  | [], _ | [_], _ | [_, _], _ | _ :: _ :: _ :: _ :: _, _ => exact ⟨h, rfl⟩

theorem loadTeamSubscription (h : s.Placed) (fields : List Bytes) :
    (loadTeamSubscription s fields).Placed ∧
      materializeTeams (TeamsMirror.loadTeamSubscription s fields).loadedTeams =
        insertSubscription (materializeTeams s.loadedTeams) fields := by
  match fields with
  | [teamUuid, userUuid] =>
    cases hi : s.teamIndexes.lookup teamUuid with
    | none =>
      simp only [TeamsMirror.loadTeamSubscription, hi, insertSubscription, updateTeam]
      rw [modifyFirst_of_find?_eq_none (h.findTeam_eq_none hi)]
      exact ⟨h, rfl⟩
    | some i =>
      obtain ⟨t, ht, -, he⟩ := h.exists_team hi
      simp only [TeamsMirror.loadTeamSubscription, hi, insertSubscription, updateTeam]
      refine ⟨h.modify ht rfl rfl rfl fun t hbare => ⟨hbare.1, hbare.2, hbare.3, hbare.4⟩, ?_⟩
      refine map_modify ht (by simpa using he) ?_ fun j y hy hq => ?_
      · simp [materializeTeam_eq, Team.addSubscribedUser]
      · refine h.teams.unique (k := teamUuid) ?_ ((h.teams teamUuid i).mp hi)
        simpa [teamAt, hy] using hq
  | [] | [_] | _ :: _ :: _ :: _ => exact ⟨h, rfl⟩

theorem loadChannel (h : s.Placed) {fields : List Bytes} (hclean : CleanRecord .channels fields) :
    (loadChannel s fields).Placed ∧ materializeTeams (TeamsMirror.loadChannel s fields).loadedTeams =
      insertChannel (materializeTeams s.loadedTeams) fields := by
  match fields, hclean with
  | [teamUuid, uuid, name, description], hclean =>
    have huuid : (Channel.new uuid name description).uuid.bytes = uuid :=
      CString.bytes_copyBuffer (hclean.own uuid rfl).2 (hclean.noNul uuid (by simp))
    have hused := h.isChannelUuidUsed_iff (k := uuid)
    by_cases hk : uuid ∈ s.channelIndexes
    · rw [TeamsMirror.loadChannel, if_pos hk, insertChannel, if_pos (hused.mpr hk)]
      exact ⟨h, rfl⟩
    rw [TeamsMirror.loadChannel, if_neg hk, insertChannel, if_neg fun hu => hk (hused.mp hu)]
    cases hi : s.teamIndexes.lookup teamUuid with
    | none =>
      rw [updateTeam, modifyFirst_of_find?_eq_none (h.findTeam_eq_none hi)]
      exact ⟨h, rfl⟩
    | some i =>
      obtain ⟨t, ht, hmem, he⟩ := h.exists_team hi
      simp only [ht, Option.map_some, Option.getD_some]
      have hfree : channelAt s.loadedTeams ⟨i, t.channels.length⟩ = none := by
        simp [channelAt, ht, LoadedTeam.channelUuids]
      refine ⟨⟨?_, ?_, ?_, ?_⟩, ?_⟩
      · refine h.teams.congr fun j => ?_
        rw [teamAt, getElem?_modify_bind ht]
        split
        · next hj => rw [hj, teamAt, ht]; rfl
        · rfl
      · refine h.channels.emplace hk hfree fun p => ?_
        obtain ⟨j, m⟩ := p
        rw [channelAt, getElem?_modify_bind ht]
        by_cases hj : j = i
        · subst hj
          simp [channelAt, ht, LoadedTeam.channelUuids, getElem?_concat, huuid]
        · simp [channelAt, hj]
      · refine h.threads.congr fun p => ?_
        obtain ⟨j, m, n⟩ := p
        rw [threadAt, getElem?_modify_bind ht]
        by_cases hj : j = i
        · subst hj
          simp only [threadAt, ht, if_true, LoadedTeam.threadAt, getElem?_concat_bind]
          split
          · next hm => simp [hm, LoadedChannel.threadUuids]
          · rfl
        · simp [threadAt, hj]
      · exact forall_modify h.bare (fun t _ hbare => hbare.push rfl) i
      · refine map_modify ht (by simpa using he) ?_ fun j y hy hq => ?_
        · simp [materializeTeam, materializeChannel]
        · refine h.teams.unique (k := teamUuid) ?_ ((h.teams teamUuid i).mp hi)
          simpa [teamAt, hy] using hq
  | [], _ | [_], _ | [_, _], _ | [_, _, _], _ | _ :: _ :: _ :: _ :: _ :: _, _ => exact ⟨h, rfl⟩

/-- A channel uuid that the index does not know is in no team. -/
theorem find_hasChannel_eq_none (h : s.Placed) {k : Bytes} (hk : s.channelIndexes.lookup k = none) :
    (materializeTeams s.loadedTeams).find? (fun team => team.hasChannel k) = none := by
  refine List.find?_eq_none.mpr fun t ht hfound => ?_
  refine AList.lookup_eq_none.mp hk (h.isChannelUuidUsed_iff.mp ?_)
  exact List.any_eq_true.mpr ⟨t, ht, hfound⟩

theorem find_hasThread_eq_none (h : s.Placed) {k : Bytes} (hk : s.threadIndexes.lookup k = none) :
    (materializeTeams s.loadedTeams).find? (fun team => team.hasThread k) = none := by
  refine List.find?_eq_none.mpr fun t ht hfound => ?_
  refine AList.lookup_eq_none.mp hk (h.isThreadUuidUsed_iff.mp ?_)
  exact List.any_eq_true.mpr ⟨t, ht, hfound⟩

theorem channelAt_eq {i j : Nat} {t : LoadedTeam} {c : LoadedChannel} (ht : s.loadedTeams[i]? = some t)
    (hc : t.channels[j]? = some c) : channelAt s.loadedTeams ⟨i, j⟩ = some c.channel.uuid.bytes := by
  simp [channelAt, ht, LoadedTeam.channelUuids, hc]

theorem threadAt_eq {i j m : Nat} {t : LoadedTeam} {c : LoadedChannel} {d : LoadedThread}
    (ht : s.loadedTeams[i]? = some t) (hc : t.channels[j]? = some c) (hd : c.threads[m]? = some d) :
    threadAt s.loadedTeams ⟨i, j, m⟩ = some d.thread.uuid.bytes := by
  simp [threadAt, ht, LoadedTeam.threadAt, hc, LoadedChannel.threadUuids, hd]

theorem loadThread (h : s.Placed) {fields : List Bytes} (hclean : CleanRecord .threads fields) :
    (loadThread s fields).Placed ∧ materializeTeams (TeamsMirror.loadThread s fields).loadedTeams =
      insertThread (materializeTeams s.loadedTeams) fields := by
  match fields, hclean with
  | [channelUuid, uuid, authorUuid, createdAt, title, body], hclean =>
    have hused := h.isThreadUuidUsed_iff (k := uuid)
    by_cases hk : uuid ∈ s.threadIndexes
    · rw [TeamsMirror.loadThread, if_pos hk, insertThread, if_pos (hused.mpr hk)]
      exact ⟨h, rfl⟩
    rw [TeamsMirror.loadThread, if_neg hk, insertThread, if_neg fun hu => hk (hused.mp hu)]
    cases htime : parseTimeValue createdAt with
    | none => exact ⟨h, rfl⟩
    | some createdAt =>
    have huuid : (Thread.new uuid authorUuid createdAt title body).uuid.bytes = uuid :=
      CString.bytes_copyBuffer (hclean.own uuid rfl).2 (hclean.noNul uuid (by simp))
    cases hp : s.channelIndexes.lookup channelUuid with
    | none =>
      simp only
      rw [modifyFirst_of_find?_eq_none (h.find_hasChannel_eq_none hp)]
      exact ⟨h, rfl⟩
    | some p =>
      obtain ⟨i, j⟩ := p
      obtain ⟨t, c, ht, hmem, hc, he⟩ := h.exists_channel hp
      have hcmem : c ∈ t.channels := List.mem_of_getElem? hc
      have hat := (h.channels channelUuid ⟨i, j⟩).mp hp
      simp only [ht, Option.bind_some, hc, Option.map_some, Option.getD_some]
      have hfree : threadAt s.loadedTeams ⟨i, j, c.threads.length⟩ = none := by
        simp [threadAt, ht, LoadedTeam.threadAt, hc, LoadedChannel.threadUuids]
      refine ⟨⟨?_, ?_, ?_, ?_⟩, ?_⟩
      · refine h.teams.congr fun m => ?_
        rw [teamAt, getElem?_modify_bind ht]
        split
        · next hm => rw [hm, teamAt, ht]; rfl
        · rfl
      · refine h.channels.congr fun p => ?_
        obtain ⟨m, n⟩ := p
        rw [channelAt, getElem?_modify_bind ht, LoadedTeam.channelUuids_atChannel]
        · split
          · next hm => rw [channelAt, hm, ht]; rfl
          · rfl
        · exact fun _ => rfl
      · refine h.threads.emplace hk hfree fun p => ?_
        obtain ⟨m, n, o⟩ := p
        rw [threadAt, getElem?_modify_bind ht, LoadedTeam.threadAt_atChannel hc]
        by_cases hm : m = i
        · subst hm
          by_cases hn : n = j
          · subst hn
            simp [threadAt, ht, LoadedTeam.threadAt, hc, LoadedChannel.threadUuids, getElem?_concat, huuid]
          · simp [threadAt, ht, hn]
        · simp [threadAt, hm]
      · refine forall_modify h.bare ?_ i
        intro t _ hbare
        refine hbare.atChannel j (fun _ => rfl) fun c hreplies => ?_
        exact List.forall_mem_append.mpr ⟨hreplies, List.forall_mem_singleton.mpr rfl⟩
      · refine map_modify ht ?_ ?_ fun m y hy hq => ?_
        · exact (hasChannel_materializeTeam (h.bare t hmem) channelUuid).mpr
            (List.mem_map.mpr ⟨c, hcmem, he⟩)
        · refine materializeTeam_atChannel (h.bare t hmem) hc (by simpa using he) ?_ fun m y hy hq => ?_
          · simp [materializeChannel, materializeThread]
          · have hother := channelAt_eq ht hy
            have hsame : y.channel.uuid.bytes = channelUuid := by simpa using hq
            rw [hsame] at hother
            exact congrArg ChannelPosition.channelIndex (h.channels.unique hother hat)
        · have hin := (hasChannel_materializeTeam (h.bare y (List.mem_of_getElem? hy)) channelUuid).mp hq
          obtain ⟨n, hn⟩ := List.mem_iff_getElem?.mp hin
          have hother : channelAt s.loadedTeams ⟨m, n⟩ = some channelUuid := by
            simp [channelAt, hy, hn]
          exact congrArg ChannelPosition.teamIndex (h.channels.unique hother hat)
  | [], _ | [_], _ | [_, _], _ | [_, _, _], _ | [_, _, _, _], _ | [_, _, _, _, _], _
  | _ :: _ :: _ :: _ :: _ :: _ :: _ :: _, _ => exact ⟨h, rfl⟩

theorem loadMessage (h : s.Placed) (fields : List Bytes) :
    (loadMessage s fields).Placed ∧ materializeTeams (TeamsMirror.loadMessage s fields).loadedTeams =
      insertReply (materializeTeams s.loadedTeams) fields := by
  match fields with
  | [threadUuid, uuid, authorUuid, createdAt, body] =>
    rw [TeamsMirror.loadMessage, insertReply]
    cases htime : parseTimeValue createdAt with
    | none => exact ⟨h, rfl⟩
    | some createdAt =>
    cases hp : s.threadIndexes.lookup threadUuid with
    | none =>
      simp only
      rw [modifyFirst_of_find?_eq_none (h.find_hasThread_eq_none hp)]
      exact ⟨h, rfl⟩
    | some p =>
      obtain ⟨i, j, m⟩ := p
      obtain ⟨t, c, d, ht, hmem, hc, hcmem, hd, he⟩ := h.exists_thread hp
      have hat := (h.threads threadUuid ⟨i, j, m⟩).mp hp
      have hbare := h.bare t hmem
      have hin : threadUuid ∈ c.threadUuids := List.mem_map.mpr ⟨d, List.mem_of_getElem? hd, he⟩
      simp only
      refine ⟨h.modify ht rfl ?_ ?_ ?_, ?_⟩
      · exact LoadedTeam.channelUuids_atChannel t j fun _ => rfl
      · funext n o
        rw [LoadedTeam.threadAt_atChannel hc]
        split
        · next hn =>
          rw [LoadedTeam.threadAt, hn, hc, LoadedChannel.threadUuids, LoadedChannel.atThread,
            map_modify_of_eq]
          · rfl
          · exact fun _ => rfl
        · rfl
      · intro t ht
        refine ht.atChannel j (fun _ => rfl) fun c hreplies => ?_
        refine forall_modify hreplies ?_ m
        exact fun d _ hd => hd
      · refine map_modify ht ?_ ?_ fun n y hy hq => ?_
        · exact (hasThread_materializeTeam hbare threadUuid).mpr ⟨c, hcmem, hin⟩
        · refine materializeTeam_atChannel hbare hc
            ((hasThread_materializeChannel hbare hcmem threadUuid).mpr hin) ?_ fun n y hy hq => ?_
          · refine materializeChannel_atThread hbare hcmem hd (by simpa using he) ?_ fun n y hy hq => ?_
            · simp [materializeThread]
            · have hother := threadAt_eq ht hc hy
              have hsame : y.thread.uuid.bytes = threadUuid := by simpa using hq
              rw [hsame] at hother
              exact congrArg ThreadPosition.threadIndex (h.threads.unique hother hat)
          · have hymem : y ∈ t.channels := List.mem_of_getElem? hy
            obtain ⟨o, ho⟩ := List.mem_iff_getElem?.mp
              ((hasThread_materializeChannel hbare hymem threadUuid).mp hq)
            have hother : threadAt s.loadedTeams ⟨i, n, o⟩ = some threadUuid := by
              simp [threadAt, ht, LoadedTeam.threadAt, hy, ho]
            exact congrArg ThreadPosition.channelIndex (h.threads.unique hother hat)
        · obtain ⟨z, hz, hin⟩ :=
            (hasThread_materializeTeam (h.bare y (List.mem_of_getElem? hy)) threadUuid).mp hq
          obtain ⟨o, ho⟩ := List.mem_iff_getElem?.mp hz
          obtain ⟨q, hq⟩ := List.mem_iff_getElem?.mp hin
          have hother : threadAt s.loadedTeams ⟨n, o, q⟩ = some threadUuid := by
            simp [threadAt, hy, LoadedTeam.threadAt, ho, hq]
          exact congrArg ThreadPosition.teamIndex (h.threads.unique hother hat)
  | [] | [_] | [_, _] | [_, _, _] | [_, _, _, _] | _ :: _ :: _ :: _ :: _ :: _ :: _ => exact ⟨h, rfl⟩

end Loading.Placed

/-- What `loadTeams` computes, without positions. -/
def insertForest (parsed : DataFile → List (List Bytes)) : List Team :=
  let teams := (parsed .teams).foldl insertTeam []
  let teams := (parsed .teamSubscriptions).foldl insertSubscription teams
  let teams := (parsed .channels).foldl insertChannel teams
  let teams := (parsed .threads).foldl insertThread teams
  (parsed .messages).foldl insertReply teams

/-- What holds of one record holds of a file. -/
theorem Loading.Placed.foldl {load : Loading → List Bytes → Loading}
    {insert : List Team → List Bytes → List Team} {C : List Bytes → Prop}
    (hstep : ∀ s fields, s.Placed → C fields → (load s fields).Placed ∧
      materializeTeams (load s fields).loadedTeams = insert (materializeTeams s.loadedTeams) fields)
    {rs : List (List Bytes)} (hC : ∀ fields ∈ rs, C fields) {s : Loading} (hs : s.Placed) :
    (rs.foldl load s).Placed ∧ materializeTeams (rs.foldl load s).loadedTeams =
      rs.foldl insert (materializeTeams s.loadedTeams) := by
  induction rs generalizing s with
  | nil => exact ⟨hs, rfl⟩
  | cons r rs ih =>
    obtain ⟨hr, hrs⟩ := List.forall_mem_cons.mp hC
    obtain ⟨hplaced, heq⟩ := hstep s r hs hr
    rw [List.foldl_cons, List.foldl_cons, ← heq]
    exact ih hrs hplaced

theorem materializeTeams_loadTeams {parsed : DataFile → List (List Bytes)}
    (hclean : ∀ file, ∀ fields ∈ parsed file, CleanRecord file fields) :
    materializeTeams (loadTeams parsed).loadedTeams = insertForest parsed := by
  have h₁ := Loading.Placed.start.foldl (fun s fields hs => hs.loadTeam) (hclean .teams)
  have h₂ := h₁.1.foldl (fun s fields hs _ => hs.loadTeamSubscription fields) (hclean .teamSubscriptions)
  have h₃ := h₂.1.foldl (fun s fields hs => hs.loadChannel) (hclean .channels)
  have h₄ := h₃.1.foldl (fun s fields hs => hs.loadThread) (hclean .threads)
  have h₅ := h₄.1.foldl (fun s fields hs _ => hs.loadMessage fields) (hclean .messages)
  have hstart : materializeTeams Loading.start.loadedTeams = [] := rfl
  rw [loadTeams, h₅.2, h₄.2, h₃.2, h₂.2, h₁.2, hstart]
  rfl

end TeamsMirror
