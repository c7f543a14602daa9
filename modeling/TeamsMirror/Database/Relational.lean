import TeamsMirror.Database.Forest
import TeamsMirror.Lib.Tables

/-!
# The relational reading of the save files

Each file is a table, and a record refers to its parent by uuid. Said so, the
forest needs no positions: accept the first record of each uuid whose parent is
accepted, and put under each record the accepted records that name it. The
loader computes that forest, although it looks parents up by position in
containers that are still growing.
-/

namespace TeamsMirror

open Lists Tables UnorderedMap

structure TeamRecord where
  uuid : Bytes
  name : Bytes
  description : Bytes

structure SubscriptionRecord where
  teamUuid : Bytes
  userUuid : Bytes

structure ChannelRecord where
  teamUuid : Bytes
  uuid : Bytes
  name : Bytes
  description : Bytes

structure ThreadRecord where
  channelUuid : Bytes
  uuid : Bytes
  authorUuid : Bytes
  createdAt : Int64
  title : Bytes
  body : Bytes

structure ReplyRecord where
  threadUuid : Bytes
  uuid : Bytes
  authorUuid : Bytes
  createdAt : Int64
  body : Bytes

def TeamRecord.read : List Bytes → Option TeamRecord
  | [uuid, name, description] => some ⟨uuid, name, description⟩
  | _ => none

def SubscriptionRecord.read : List Bytes → Option SubscriptionRecord
  | [teamUuid, userUuid] => some ⟨teamUuid, userUuid⟩
  | _ => none

def ChannelRecord.read : List Bytes → Option ChannelRecord
  | [teamUuid, uuid, name, description] => some ⟨teamUuid, uuid, name, description⟩
  | _ => none

/-- `none` also for an invalid timestamp. -/
def ThreadRecord.read : List Bytes → Option ThreadRecord
  | [channelUuid, uuid, authorUuid, createdAt, title, body] =>
    (parseTimeValue createdAt).map fun createdAt => ⟨channelUuid, uuid, authorUuid, createdAt, title, body⟩
  | _ => none

/-- `none` also for an invalid timestamp. -/
def ReplyRecord.read : List Bytes → Option ReplyRecord
  | [threadUuid, uuid, authorUuid, createdAt, body] =>
    (parseTimeValue createdAt).map fun createdAt => ⟨threadUuid, uuid, authorUuid, createdAt, body⟩
  | _ => none

structure Reading where
  teams : List TeamRecord
  subscriptions : List SubscriptionRecord
  channels : List ChannelRecord
  threads : List ThreadRecord
  replies : List ReplyRecord

namespace Reading

def teamUuids (R : Reading) : List Bytes := R.teams.map TeamRecord.uuid

def channelUuids (R : Reading) : List Bytes := R.channels.map ChannelRecord.uuid

def threadUuids (R : Reading) : List Bytes := R.threads.map ThreadRecord.uuid

def empty : Reading := ⟨[], [], [], [], []⟩

def acceptTeams (R : Reading) (records : List (List Bytes)) : Reading :=
  { R with teams := firsts TeamRecord.uuid (records.filterMap TeamRecord.read) }

def acceptSubscriptions (R : Reading) (records : List (List Bytes)) : Reading :=
  { R with
    subscriptions := (records.filterMap SubscriptionRecord.read).filter fun r => R.teamUuids.contains r.teamUuid }

def acceptChannels (R : Reading) (records : List (List Bytes)) : Reading :=
  { R with
    channels := firsts ChannelRecord.uuid
      ((records.filterMap ChannelRecord.read).filter fun r => R.teamUuids.contains r.teamUuid) }

def acceptThreads (R : Reading) (records : List (List Bytes)) : Reading :=
  { R with
    threads := firsts ThreadRecord.uuid
      ((records.filterMap ThreadRecord.read).filter fun r => R.channelUuids.contains r.channelUuid) }

def acceptReplies (R : Reading) (records : List (List Bytes)) : Reading :=
  { R with
    replies := (records.filterMap ReplyRecord.read).filter fun r => R.threadUuids.contains r.threadUuid }

/-- What the five files of the forest say, read one after the other. -/
def ofFiles (parsed : DataFile → List (List Bytes)) : Reading :=
  ((((empty.acceptTeams (parsed .teams)).acceptSubscriptions (parsed .teamSubscriptions)).acceptChannels
    (parsed .channels)).acceptThreads (parsed .threads)).acceptReplies (parsed .messages)

def subscriptionsOf (R : Reading) (t : TeamRecord) : List SubscriptionRecord :=
  R.subscriptions.filter fun r => r.teamUuid = t.uuid

def channelsOf (R : Reading) (t : TeamRecord) : List ChannelRecord :=
  R.channels.filter fun r => r.teamUuid = t.uuid

def threadsOf (R : Reading) (c : ChannelRecord) : List ThreadRecord :=
  R.threads.filter fun r => r.channelUuid = c.uuid

def repliesOf (R : Reading) (d : ThreadRecord) : List ReplyRecord :=
  R.replies.filter fun r => r.threadUuid = d.uuid

end Reading

def ReplyRecord.reply (r : ReplyRecord) : Message := .new r.uuid r.authorUuid r.createdAt r.body

namespace Reading

def thread (R : Reading) (d : ThreadRecord) : Thread :=
  { Thread.new d.uuid d.authorUuid d.createdAt d.title d.body with
    replies := (R.repliesOf d).map ReplyRecord.reply }

def channel (R : Reading) (c : ChannelRecord) : Channel :=
  { Channel.new c.uuid c.name c.description with threads := (R.threadsOf c).map R.thread }

def team (R : Reading) (t : TeamRecord) : Team :=
  { Team.new t.uuid t.name t.description with
    subscribedUserUuids := (R.subscriptionsOf t).map fun r => .copyBuffer _ r.userUuid
    channels := (R.channelsOf t).map R.channel }

/-- Every accepted record under the record it names, siblings in file order. -/
def forest (R : Reading) : List Team := R.teams.map R.team

def loadedThread (R : Reading) (d : ThreadRecord) : LoadedThread :=
  ⟨.new d.uuid d.authorUuid d.createdAt d.title d.body, (R.repliesOf d).map ReplyRecord.reply⟩

def loadedChannel (R : Reading) (c : ChannelRecord) : LoadedChannel :=
  ⟨.new c.uuid c.name c.description, (R.threadsOf c).map R.loadedThread⟩

def loadedTeam (R : Reading) (t : TeamRecord) : LoadedTeam :=
  ⟨.new t.uuid t.name t.description, (R.subscriptionsOf t).map SubscriptionRecord.userUuid,
    (R.channelsOf t).map R.loadedChannel⟩

def loadedTeams (R : Reading) : List LoadedTeam := R.teams.map R.loadedTeam

theorem materializeThread_loadedThread (R : Reading) (d : ThreadRecord) :
    materializeThread (R.loadedThread d) = R.thread d := by
  rw [materializeThread_eq]
  rfl

theorem materializeChannel_loadedChannel (R : Reading) (c : ChannelRecord) :
    materializeChannel (R.loadedChannel c) = R.channel c := by
  rw [materializeChannel_eq]
  simp [loadedChannel, channel, materializeThread_loadedThread, Channel.new]

theorem materializeTeam_loadedTeam (R : Reading) (t : TeamRecord) :
    materializeTeam (R.loadedTeam t) = R.team t := by
  rw [materializeTeam_eq]
  simp [loadedTeam, team, materializeChannel_loadedChannel, Team.new]

theorem materializeTeams_loadedTeams (R : Reading) : materializeTeams R.loadedTeams = R.forest := by
  simp [materializeTeams, loadedTeams, forest, materializeTeam_loadedTeam]

def teamAt (R : Reading) (i : Nat) : Option Bytes := R.teams[i]?.map TeamRecord.uuid

def channelAt (R : Reading) (p : ChannelPosition) : Option Bytes :=
  R.teams[p.teamIndex]?.bind fun t => (R.channelsOf t)[p.channelIndex]?.map ChannelRecord.uuid

def threadAt (R : Reading) (p : ThreadPosition) : Option Bytes :=
  R.teams[p.teamIndex]?.bind fun t => (R.channelsOf t)[p.channelIndex]?.bind fun c =>
    (R.threadsOf c)[p.threadIndex]?.map ThreadRecord.uuid

/-- Uuids occur once, and parents exist. -/
structure Sound (R : Reading) : Prop where
  teams : R.teamUuids.Nodup
  channels : R.channelUuids.Nodup
  threads : R.threadUuids.Nodup
  subscriptionTeams : ∀ r ∈ R.subscriptions, r.teamUuid ∈ R.teamUuids
  channelTeams : ∀ r ∈ R.channels, r.teamUuid ∈ R.teamUuids
  threadChannels : ∀ r ∈ R.threads, r.channelUuid ∈ R.channelUuids
  replyThreads : ∀ r ∈ R.replies, r.threadUuid ∈ R.threadUuids

end Reading

/-- The loader holds the forest of `R`, and its indexes know where each uuid of `R` stands. -/
structure Loading.Reads (s : Loading) (R : Reading) : Prop where
  loadedTeams : s.loadedTeams = R.loadedTeams
  teams : Indexes s.teamIndexes R.teamAt
  channels : Indexes s.channelIndexes R.channelAt
  threads : Indexes s.threadIndexes R.threadAt
  sound : R.Sound

namespace Reading.Sound

variable {R : Reading}

theorem channel_unique (h : R.Sound) {c c' : ChannelRecord} (hc : c ∈ R.channels) (hc' : c' ∈ R.channels)
    (he : c.uuid = c'.uuid) : c = c' :=
  List.inj_on_of_nodup_map h.channels hc hc' he

theorem thread_unique (h : R.Sound) {d d' : ThreadRecord} (hd : d ∈ R.threads) (hd' : d' ∈ R.threads)
    (he : d.uuid = d'.uuid) : d = d' :=
  List.inj_on_of_nodup_map h.threads hd hd' he

theorem nodup_channelsOf (h : R.Sound) (t : TeamRecord) : ((R.channelsOf t).map ChannelRecord.uuid).Nodup :=
  h.channels.sublist (List.filter_sublist.map _)

theorem nodup_threadsOf (h : R.Sound) (c : ChannelRecord) : ((R.threadsOf c).map ThreadRecord.uuid).Nodup :=
  h.threads.sublist (List.filter_sublist.map _)

end Reading.Sound

namespace Reading

variable {R : Reading}

theorem mem_channelsOf {t : TeamRecord} {c : ChannelRecord} :
    c ∈ R.channelsOf t ↔ c ∈ R.channels ∧ c.teamUuid = t.uuid := by
  simp [channelsOf]

theorem mem_threadsOf {c : ChannelRecord} {d : ThreadRecord} :
    d ∈ R.threadsOf c ↔ d ∈ R.threads ∧ d.channelUuid = c.uuid := by
  simp [threadsOf]

theorem exists_teamAt {k : Bytes} : (∃ i, R.teamAt i = some k) ↔ k ∈ R.teamUuids := by
  simp only [teamAt, Option.map_eq_some_iff, teamUuids, List.mem_map]
  constructor
  · rintro ⟨i, t, ht, hk⟩
    exact ⟨t, List.mem_of_getElem? ht, hk⟩
  · rintro ⟨t, ht, hk⟩
    obtain ⟨i, hi⟩ := List.mem_iff_getElem?.mp ht
    exact ⟨i, t, hi, hk⟩

/-- What stands at the position of a channel uuid. -/
theorem channelAt_eq_some {p : ChannelPosition} {k : Bytes} (h : R.channelAt p = some k) :
    ∃ t c, R.teams[p.teamIndex]? = some t ∧ (R.channelsOf t)[p.channelIndex]? = some c ∧ c.uuid = k := by
  obtain ⟨t, ht, h⟩ := Option.bind_eq_some_iff.mp h
  obtain ⟨c, hc, hk⟩ := Option.map_eq_some_iff.mp h
  exact ⟨t, c, ht, hc, hk⟩

theorem threadAt_eq_some {p : ThreadPosition} {k : Bytes} (h : R.threadAt p = some k) :
    ∃ t c d, R.teams[p.teamIndex]? = some t ∧ (R.channelsOf t)[p.channelIndex]? = some c ∧
      (R.threadsOf c)[p.threadIndex]? = some d ∧ d.uuid = k := by
  obtain ⟨t, ht, h⟩ := Option.bind_eq_some_iff.mp h
  obtain ⟨c, hc, h⟩ := Option.bind_eq_some_iff.mp h
  obtain ⟨d, hd, hk⟩ := Option.map_eq_some_iff.mp h
  exact ⟨t, c, d, ht, hc, hd, hk⟩

/-- An accepted channel stands under its team. -/
theorem Sound.exists_channel (h : R.Sound) {c : ChannelRecord} (hc : c ∈ R.channels) :
    ∃ (i j : Nat) (t : TeamRecord), R.teams[i]? = some t ∧ (R.channelsOf t)[j]? = some c := by
  obtain ⟨t, ht, he⟩ := List.mem_map.mp (h.channelTeams c hc)
  obtain ⟨i, hi⟩ := List.mem_iff_getElem?.mp ht
  obtain ⟨j, hj⟩ := List.mem_iff_getElem?.mp (mem_channelsOf.mpr ⟨hc, he.symm⟩)
  exact ⟨i, j, t, hi, hj⟩

theorem Sound.exists_channelAt (h : R.Sound) {k : Bytes} :
    (∃ p, R.channelAt p = some k) ↔ k ∈ R.channelUuids := by
  constructor
  · rintro ⟨p, hp⟩
    obtain ⟨t, c, -, hc, rfl⟩ := channelAt_eq_some hp
    exact List.mem_map_of_mem (mem_channelsOf.mp (List.mem_of_getElem? hc)).1
  · intro hk
    obtain ⟨c, hc, rfl⟩ := List.mem_map.mp hk
    obtain ⟨i, j, t, hi, hj⟩ := h.exists_channel hc
    exact ⟨⟨i, j⟩, by simp [channelAt, hi, hj]⟩

theorem Sound.exists_threadAt (h : R.Sound) {k : Bytes} :
    (∃ p, R.threadAt p = some k) ↔ k ∈ R.threadUuids := by
  constructor
  · rintro ⟨p, hp⟩
    obtain ⟨t, c, d, -, -, hd, rfl⟩ := threadAt_eq_some hp
    exact List.mem_map_of_mem (mem_threadsOf.mp (List.mem_of_getElem? hd)).1
  · intro hk
    obtain ⟨d, hd, rfl⟩ := List.mem_map.mp hk
    obtain ⟨c, hc, he⟩ := List.mem_map.mp (h.threadChannels d hd)
    obtain ⟨i, j, t, hi, hj⟩ := h.exists_channel hc
    obtain ⟨m, hm⟩ := List.mem_iff_getElem?.mp (mem_threadsOf.mpr ⟨hd, he.symm⟩)
    exact ⟨⟨i, j, m⟩, by simp [threadAt, hi, hj, hm]⟩

end Reading

namespace Loading.Reads

variable {s : Loading} {R : Reading}

theorem mem_teamIndexes (h : s.Reads R) {k : Bytes} : k ∈ s.teamIndexes ↔ k ∈ R.teamUuids :=
  h.teams.mem.trans Reading.exists_teamAt

theorem mem_channelIndexes (h : s.Reads R) {k : Bytes} : k ∈ s.channelIndexes ↔ k ∈ R.channelUuids :=
  h.channels.mem.trans h.sound.exists_channelAt

theorem mem_threadIndexes (h : s.Reads R) {k : Bytes} : k ∈ s.threadIndexes ↔ k ∈ R.threadUuids :=
  h.threads.mem.trans h.sound.exists_threadAt

/-- The index entry of a team uuid is in range and designates the team. -/
theorem exists_team (h : s.Reads R) {k : Bytes} {i : Nat} (hk : s.teamIndexes.lookup k = some i) :
    ∃ t, R.teams[i]? = some t ∧ s.loadedTeams[i]? = some (R.loadedTeam t) ∧ t.uuid = k := by
  obtain ⟨t, ht, he⟩ := Option.map_eq_some_iff.mp ((h.teams k i).mp hk)
  exact ⟨t, ht, by simp [h.loadedTeams, Reading.loadedTeams, ht], he⟩

theorem exists_channel (h : s.Reads R) {k : Bytes} {i j : Nat} (hk : s.channelIndexes.lookup k = some ⟨i, j⟩) :
    ∃ t c, R.teams[i]? = some t ∧ s.loadedTeams[i]? = some (R.loadedTeam t) ∧
      (R.channelsOf t)[j]? = some c ∧ (R.loadedTeam t).channels[j]? = some (R.loadedChannel c) ∧
      c.uuid = k := by
  obtain ⟨t, c, ht, hc, he⟩ := Reading.channelAt_eq_some ((h.channels k ⟨i, j⟩).mp hk)
  simp only at ht hc
  exact ⟨t, c, ht, by simp [h.loadedTeams, Reading.loadedTeams, ht], hc, by simp [Reading.loadedTeam, hc], he⟩

theorem exists_thread (h : s.Reads R) {k : Bytes} {i j m : Nat}
    (hk : s.threadIndexes.lookup k = some ⟨i, j, m⟩) :
    ∃ t c d, R.teams[i]? = some t ∧ s.loadedTeams[i]? = some (R.loadedTeam t) ∧
      (R.channelsOf t)[j]? = some c ∧ (R.loadedTeam t).channels[j]? = some (R.loadedChannel c) ∧
      (R.threadsOf c)[m]? = some d ∧ (R.loadedChannel c).threads[m]? = some (R.loadedThread d) ∧
      d.uuid = k := by
  obtain ⟨t, c, d, ht, hc, hd, he⟩ := Reading.threadAt_eq_some ((h.threads k ⟨i, j, m⟩).mp hk)
  simp only at ht hc hd
  exact ⟨t, c, d, ht, by simp [h.loadedTeams, Reading.loadedTeams, ht], hc,
    by simp [Reading.loadedTeam, hc], hd, by simp [Reading.loadedChannel, hd], he⟩

theorem start : Loading.start.Reads .empty where
  loadedTeams := rfl
  teams := .empty fun i => by simp [Reading.teamAt, Reading.empty]
  channels := .empty fun p => by simp [Reading.channelAt, Reading.empty]
  threads := .empty fun p => by simp [Reading.threadAt, Reading.empty]
  sound := by constructor <;> simp [Reading.empty, Reading.teamUuids, Reading.channelUuids, Reading.threadUuids]

theorem pushTeam (h : s.Reads R) {r : TeamRecord} (hnew : r.uuid ∉ R.teamUuids) :
    Loading.Reads
      { s with
        loadedTeams := s.loadedTeams ++ [⟨.new r.uuid r.name r.description, [], []⟩]
        teamIndexes := s.teamIndexes.emplace r.uuid s.loadedTeams.length }
      { R with teams := R.teams ++ [r] } := by
  have hlength : s.loadedTeams.length = R.teams.length := by
    rw [h.loadedTeams, Reading.loadedTeams, List.length_map]
  -- no accepted record names a team that is not there yet
  have hsubscriptions : R.subscriptionsOf r = [] := by
    refine List.filter_eq_nil_iff.mpr fun a ha he => hnew ?_
    exact of_decide_eq_true he ▸ h.sound.subscriptionTeams a ha
  have hchannels : R.channelsOf r = [] := by
    refine List.filter_eq_nil_iff.mpr fun a ha he => hnew ?_
    exact of_decide_eq_true he ▸ h.sound.channelTeams a ha
  have hbelow : ∀ {β : Type} (g : TeamRecord → Option β), g r = none →
      ∀ i : Nat, (R.teams ++ [r])[i]?.bind g = R.teams[i]?.bind g := by
    intro β g hg i
    rw [getElem?_concat_bind]
    split
    · next hi => rw [hg, hi, List.getElem?_eq_none (Nat.le_refl _)]; rfl
    · rfl
  refine ⟨?_, ?_, ?_, ?_, ?_⟩
  · have hrow : R.loadedTeam r = ⟨.new r.uuid r.name r.description, [], []⟩ := by
      rw [Reading.loadedTeam, hsubscriptions, hchannels]
      rfl
    have hrows : Reading.loadedTeams { R with teams := R.teams ++ [r] } = R.loadedTeams ++ [R.loadedTeam r] :=
      List.map_append
    rw [hrows, hrow, h.loadedTeams]
  · refine h.teams.emplace (mt h.mem_teamIndexes.mp hnew) ?_ fun i => ?_
    · simp [Reading.teamAt, hlength]
    · rw [Reading.teamAt, getElem?_concat, hlength]
      split
      · rfl
      · rfl
  · refine h.channels.congr fun p => ?_
    refine hbelow _ ?_ p.teamIndex
    have hnone : (R.channelsOf r)[p.channelIndex]?.map ChannelRecord.uuid = none := by simp [hchannels]
    exact hnone
  · refine h.threads.congr fun p => ?_
    refine hbelow _ ?_ p.teamIndex
    have hnone : ((R.channelsOf r)[p.channelIndex]?.bind fun c =>
        (R.threadsOf c)[p.threadIndex]?.map ThreadRecord.uuid) = none := by simp [hchannels]
    exact hnone
  · have huuids : Reading.teamUuids { R with teams := R.teams ++ [r] } = R.teamUuids ++ [r.uuid] :=
      List.map_append
    refine ⟨?_, h.sound.channels, h.sound.threads, ?_, ?_, h.sound.threadChannels, h.sound.replyThreads⟩
    · rw [huuids, ← List.concat_eq_append]
      exact h.sound.teams.concat hnew
    · intro a ha
      rw [huuids]
      exact List.mem_append_left _ (h.sound.subscriptionTeams a ha)
    · intro a ha
      rw [huuids]
      exact List.mem_append_left _ (h.sound.channelTeams a ha)

theorem pushSubscription (h : s.Reads R) {r : SubscriptionRecord} {i : Nat} {t : TeamRecord}
    (ht : R.teams[i]? = some t) (he : r.teamUuid = t.uuid) :
    Loading.Reads
      { s with
        loadedTeams := s.loadedTeams.modify i fun team =>
          { team with subscribedUsers := team.subscribedUsers ++ [r.userUuid] } }
      { R with subscriptions := R.subscriptions ++ [r] } where
  loadedTeams := by
    rw [h.loadedTeams]
    refine modify_map _ h.sound.teams ht ?_ fun t' _ hne => ?_
    · simp [Reading.loadedTeam, Reading.subscriptionsOf, he, Reading.channelsOf, Reading.loadedChannel,
        Reading.threadsOf, Reading.loadedThread, Reading.repliesOf]
    · have hother : r.teamUuid ≠ t'.uuid := fun hr => hne (hr.symm.trans he)
      simp [Reading.loadedTeam, Reading.subscriptionsOf, hother, Reading.channelsOf, Reading.loadedChannel,
        Reading.threadsOf, Reading.loadedThread, Reading.repliesOf]
  teams := h.teams
  channels := h.channels
  threads := h.threads
  sound := by
    refine ⟨h.sound.teams, h.sound.channels, h.sound.threads, ?_, h.sound.channelTeams,
      h.sound.threadChannels, h.sound.replyThreads⟩
    refine List.forall_mem_append.mpr ⟨h.sound.subscriptionTeams, List.forall_mem_singleton.mpr ?_⟩
    exact he ▸ List.mem_map_of_mem (List.mem_of_getElem? ht)

theorem pushChannel (h : s.Reads R) {r : ChannelRecord} (hnew : r.uuid ∉ R.channelUuids) {i : Nat}
    {t : TeamRecord} (ht : R.teams[i]? = some t) (he : r.teamUuid = t.uuid) :
    Loading.Reads
      { s with
        loadedTeams := s.loadedTeams.modify i fun team =>
          { team with channels := team.channels ++ [⟨.new r.uuid r.name r.description, []⟩] }
        channelIndexes := s.channelIndexes.emplace r.uuid ⟨i, (R.channelsOf t).length⟩ }
      { R with channels := R.channels ++ [r] } := by
  let R' : Reading := { R with channels := R.channels ++ [r] }
  have hthreads : R.threadsOf r = [] := by
    refine List.filter_eq_nil_iff.mpr fun a ha ha' => hnew ?_
    exact of_decide_eq_true ha' ▸ h.sound.threadChannels a ha
  have hof : ∀ t' : TeamRecord, R'.channelsOf t' =
      if r.teamUuid = t'.uuid then R.channelsOf t' ++ [r] else R.channelsOf t' := by
    intro t'
    by_cases hr : r.teamUuid = t'.uuid <;> simp [R', Reading.channelsOf, hr]
  refine ⟨?_, h.teams, ?_, ?_, ?_⟩
  · rw [h.loadedTeams]
    have hrow : R.loadedChannel r = ⟨.new r.uuid r.name r.description, []⟩ := by
      rw [Reading.loadedChannel, hthreads]
      rfl
    refine modify_map R'.loadedTeam h.sound.teams ht ?_ fun t' _ hne => ?_
    · rw [Reading.loadedTeam, hof t, if_pos he, List.map_append, Reading.loadedTeam, ← hrow]
      rfl
    · rw [Reading.loadedTeam, hof t', if_neg fun hr => hne (hr.symm.trans he)]
      rfl
  · refine h.channels.emplace (mt h.mem_channelIndexes.mp hnew) ?_ fun p => ?_
    · simp [Reading.channelAt, ht]
    · obtain ⟨m, n⟩ := p
      change (R.teams[m]?.bind fun t' => (R'.channelsOf t')[n]?.map ChannelRecord.uuid) = _
      by_cases hm : m = i
      · subst hm
        rw [ht, Option.bind_some, hof t, if_pos he, getElem?_concat]
        by_cases hn : n = (R.channelsOf t).length
        · simp [hn]
        · simp [hn, Reading.channelAt, ht]
      · rw [if_neg fun hp => hm (congrArg ChannelPosition.teamIndex hp)]
        cases ht' : R.teams[m]? with
        | none => simp [Reading.channelAt, ht']
        | some t' =>
          have hne : r.teamUuid ≠ t'.uuid := fun hr =>
            hm (position_unique h.sound.teams ht' ht (hr.symm.trans he))
          simp [Reading.channelAt, ht', hof t', hne]
  · refine h.threads.congr fun p => ?_
    obtain ⟨m, n, o⟩ := p
    change (R.teams[m]?.bind fun t' => (R'.channelsOf t')[n]?.bind fun c =>
      (R.threadsOf c)[o]?.map ThreadRecord.uuid) = _
    rw [Reading.threadAt]
    congr 1
    funext t'
    rw [hof t']
    split
    · rw [getElem?_concat_bind]
      split
      · next hn => simp [hthreads, hn]
      · rfl
    · rfl
  · have huuids : R'.channelUuids = R.channelUuids ++ [r.uuid] := List.map_append
    refine ⟨h.sound.teams, ?_, h.sound.threads, h.sound.subscriptionTeams, ?_, ?_, h.sound.replyThreads⟩
    · rw [huuids, ← List.concat_eq_append]
      exact h.sound.channels.concat hnew
    · refine List.forall_mem_append.mpr ⟨h.sound.channelTeams, List.forall_mem_singleton.mpr ?_⟩
      exact he ▸ List.mem_map_of_mem (List.mem_of_getElem? ht)
    · intro a ha
      rw [huuids]
      exact List.mem_append_left _ (h.sound.threadChannels a ha)

theorem pushThread (h : s.Reads R) {r : ThreadRecord} (hnew : r.uuid ∉ R.threadUuids) {i j : Nat}
    {t : TeamRecord} {c : ChannelRecord} (ht : R.teams[i]? = some t) (hc : (R.channelsOf t)[j]? = some c)
    (he : r.channelUuid = c.uuid) :
    Loading.Reads
      { s with
        loadedTeams := s.loadedTeams.modify i fun team => team.atChannel j fun channel =>
          { channel with
            threads := channel.threads ++ [⟨.new r.uuid r.authorUuid r.createdAt r.title r.body, []⟩] }
        threadIndexes := s.threadIndexes.emplace r.uuid ⟨i, j, (R.threadsOf c).length⟩ }
      { R with threads := R.threads ++ [r] } := by
  let R' : Reading := { R with threads := R.threads ++ [r] }
  have hcmem := Reading.mem_channelsOf.mp (List.mem_of_getElem? hc)
  have hreplies : R.repliesOf r = [] := by
    refine List.filter_eq_nil_iff.mpr fun a ha ha' => hnew ?_
    exact of_decide_eq_true ha' ▸ h.sound.replyThreads a ha
  have hof : ∀ c' : ChannelRecord, R'.threadsOf c' =
      if r.channelUuid = c'.uuid then R.threadsOf c' ++ [r] else R.threadsOf c' := by
    intro c'
    by_cases hr : r.channelUuid = c'.uuid <;> simp [R', Reading.threadsOf, hr]
  have hother : ∀ c' ∈ R.channels, c' ≠ c → R'.threadsOf c' = R.threadsOf c' := by
    intro c' hc' hne
    rw [hof c', if_neg fun hr => hne (h.sound.channel_unique hc' hcmem.1 (hr.symm.trans he))]
  refine ⟨?_, h.teams, h.channels, ?_, ?_⟩
  · rw [h.loadedTeams]
    have hrow : R.loadedThread r = ⟨.new r.uuid r.authorUuid r.createdAt r.title r.body, []⟩ := by
      rw [Reading.loadedThread, hreplies]
      rfl
    have hchannel : ∀ c' ∈ R.channels, c'.uuid ≠ c.uuid → R'.loadedChannel c' = R.loadedChannel c' := by
      intro c' hc' hne
      rw [Reading.loadedChannel, hother c' hc' fun hcc => hne (congrArg ChannelRecord.uuid hcc)]
      rfl
    refine modify_map R'.loadedTeam h.sound.teams ht ?_ fun t' _ hne => ?_
    · rw [Reading.loadedTeam, LoadedTeam.atChannel]
      refine congrArg (LoadedTeam.mk _ _) (modify_map _ (h.sound.nodup_channelsOf t) hc ?_ fun c' hc' hne => ?_).symm
      · rw [Reading.loadedChannel, hof c, if_pos he, List.map_append, Reading.loadedChannel, ← hrow]
        rfl
      · exact hchannel c' (Reading.mem_channelsOf.mp hc').1 hne
    · refine congrArg (LoadedTeam.mk _ _) (List.map_congr_left fun c' hc' => ?_)
      have hmem := Reading.mem_channelsOf.mp hc'
      refine hchannel c' hmem.1 fun hcc => hne ?_
      have hsame := h.sound.channel_unique hmem.1 hcmem.1 hcc
      rw [← hmem.2, ← hcmem.2, hsame]
  · refine h.threads.emplace (mt h.mem_threadIndexes.mp hnew) ?_ fun p => ?_
    · simp [Reading.threadAt, ht, hc]
    · obtain ⟨m, n, o⟩ := p
      change (R.teams[m]?.bind fun t' => (R.channelsOf t')[n]?.bind fun c' =>
        (R'.threadsOf c')[o]?.map ThreadRecord.uuid) = _
      cases ht' : R.teams[m]? with
      | none =>
        have hm : m ≠ i := fun hm => by simp [← hm, ht'] at ht
        simp [Reading.threadAt, ht', hm]
      | some t' =>
      cases hc' : (R.channelsOf t')[n]? with
      | none =>
        have hmn : ¬(m = i ∧ n = j) := by
          rintro ⟨hm, hn⟩
          subst hm hn
          rw [ht'] at ht
          cases ht
          rw [hc'] at hc
          cases hc
        have hp : (⟨m, n, o⟩ : ThreadPosition) ≠ ⟨i, j, (R.threadsOf c).length⟩ := fun hp => by
          cases hp
          exact hmn ⟨rfl, rfl⟩
        simp [Reading.threadAt, ht', hc', hp]
      | some c' =>
      have hmem := Reading.mem_channelsOf.mp (List.mem_of_getElem? hc')
      by_cases hcc : c' = c
      · subst hcc
        have hm : m = i := position_unique h.sound.teams ht' ht (hmem.2.symm.trans hcmem.2)
        subst hm
        rw [ht'] at ht
        cases ht
        have hn : n = j := position_unique (h.sound.nodup_channelsOf _) hc' hc rfl
        subst hn
        simp only [Option.bind_some, hc', hof c', if_pos he, getElem?_concat]
        by_cases ho : o = (R.threadsOf c').length
        · simp [ho]
        · simp [ho, Reading.threadAt, ht', hc']
      · have hp : (⟨m, n, o⟩ : ThreadPosition) ≠ ⟨i, j, (R.threadsOf c).length⟩ := fun hp => by
          cases hp
          rw [ht'] at ht
          cases ht
          rw [hc'] at hc
          exact hcc (Option.some.inj hc)
        simp [Reading.threadAt, ht', hc', hp, hother c' hmem.1 hcc]
  · have huuids : R'.threadUuids = R.threadUuids ++ [r.uuid] := List.map_append
    refine ⟨h.sound.teams, h.sound.channels, ?_, h.sound.subscriptionTeams, h.sound.channelTeams, ?_, ?_⟩
    · rw [huuids, ← List.concat_eq_append]
      exact h.sound.threads.concat hnew
    · refine List.forall_mem_append.mpr ⟨h.sound.threadChannels, List.forall_mem_singleton.mpr ?_⟩
      exact he ▸ List.mem_map_of_mem hcmem.1
    · intro a ha
      rw [huuids]
      exact List.mem_append_left _ (h.sound.replyThreads a ha)

theorem pushReply (h : s.Reads R) {r : ReplyRecord} {i j m : Nat} {t : TeamRecord} {c : ChannelRecord}
    {d : ThreadRecord} (ht : R.teams[i]? = some t) (hc : (R.channelsOf t)[j]? = some c)
    (hd : (R.threadsOf c)[m]? = some d) (he : r.threadUuid = d.uuid) :
    Loading.Reads
      { s with
        loadedTeams := s.loadedTeams.modify i fun team => team.atChannel j fun channel =>
          channel.atThread m fun thread => { thread with replies := thread.replies ++ [r.reply] } }
      { R with replies := R.replies ++ [r] } where
  loadedTeams := by
    let R' : Reading := { R with replies := R.replies ++ [r] }
    have hcmem := Reading.mem_channelsOf.mp (List.mem_of_getElem? hc)
    have hdmem := Reading.mem_threadsOf.mp (List.mem_of_getElem? hd)
    have hthread : ∀ d' : ThreadRecord, d'.uuid ≠ d.uuid → R'.loadedThread d' = R.loadedThread d' := by
      intro d' hne
      have hr : r.threadUuid ≠ d'.uuid := fun hr => hne (hr.symm.trans he)
      simp [R', Reading.loadedThread, Reading.repliesOf, hr]
    have hchannel : ∀ c' ∈ R.channels, c'.uuid ≠ c.uuid → R'.loadedChannel c' = R.loadedChannel c' := by
      intro c' hc' hne
      refine congrArg (LoadedChannel.mk _) (List.map_congr_left fun d' hd' => hthread d' fun hdd => hne ?_)
      have hmem := Reading.mem_threadsOf.mp hd'
      rw [← hmem.2, ← hdmem.2, h.sound.thread_unique hmem.1 hdmem.1 hdd]
    rw [h.loadedTeams]
    refine modify_map R'.loadedTeam h.sound.teams ht ?_ fun t' _ hne => ?_
    · refine congrArg (LoadedTeam.mk _ _) (modify_map _ (h.sound.nodup_channelsOf t) hc ?_ fun c' hc' hne => ?_).symm
      · refine congrArg (LoadedChannel.mk _) (modify_map _ (h.sound.nodup_threadsOf c) hd ?_ fun d' _ hne => ?_).symm
        · simp [R', Reading.loadedThread, Reading.repliesOf, he]
        · exact hthread d' hne
      · exact hchannel c' (Reading.mem_channelsOf.mp hc').1 hne
    · refine congrArg (LoadedTeam.mk _ _) (List.map_congr_left fun c' hc' => ?_)
      have hmem := Reading.mem_channelsOf.mp hc'
      refine hchannel c' hmem.1 fun hcc => hne ?_
      rw [← hmem.2, ← hcmem.2, h.sound.channel_unique hmem.1 hcmem.1 hcc]
  teams := h.teams
  channels := h.channels
  threads := h.threads
  sound := by
    refine ⟨h.sound.teams, h.sound.channels, h.sound.threads, h.sound.subscriptionTeams,
      h.sound.channelTeams, h.sound.threadChannels, ?_⟩
    refine List.forall_mem_append.mpr ⟨h.sound.replyThreads, List.forall_mem_singleton.mpr ?_⟩
    have hdmem := Reading.mem_threadsOf.mp (List.mem_of_getElem? hd)
    exact he ▸ List.mem_map_of_mem hdmem.1

theorem loadTeam {records : List (List Bytes)} (h : s.Reads (R.acceptTeams records)) (fields : List Bytes) :
    (loadTeam s fields).Reads (R.acceptTeams (records ++ [fields])) := by
  match fields with
  | [uuid, name, description] =>
    have hknown : (uuid ∈ s.teamIndexes) ↔ uuid ∈ (records.filterMap TeamRecord.read).map TeamRecord.uuid :=
      h.mem_teamIndexes.trans mem_map_firsts
    have hread : TeamRecord.read [uuid, name, description] = some ⟨uuid, name, description⟩ := rfl
    rw [Reading.acceptTeams, filterMap_concat, hread, Option.toList_some, firsts_concat, TeamsMirror.loadTeam]
    by_cases hk : uuid ∈ s.teamIndexes
    · rw [if_pos hk, if_pos (hknown.mp hk)]
      exact h
    · rw [if_neg hk, if_neg (mt hknown.mpr hk)]
      exact h.pushTeam (r := ⟨uuid, name, description⟩) (mt h.mem_teamIndexes.mpr hk)
  | [] | [_] | [_, _] | _ :: _ :: _ :: _ :: _ =>
    simp only [Reading.acceptTeams, filterMap_concat, TeamRecord.read, Option.toList_none, List.append_nil]
    exact h

theorem loadTeamSubscription {records : List (List Bytes)} (h : s.Reads (R.acceptSubscriptions records))
    (fields : List Bytes) :
    (loadTeamSubscription s fields).Reads (R.acceptSubscriptions (records ++ [fields])) := by
  match fields with
  | [teamUuid, userUuid] =>
    have hread : SubscriptionRecord.read [teamUuid, userUuid] = some ⟨teamUuid, userUuid⟩ := rfl
    rw [Reading.acceptSubscriptions, filterMap_concat, hread, Option.toList_some, List.filter_append,
      TeamsMirror.loadTeamSubscription]
    cases hk : s.teamIndexes.lookup teamUuid with
    | none =>
      have hnew : teamUuid ∉ R.teamUuids := mt h.mem_teamIndexes.mpr (AList.lookup_eq_none.mp hk)
      rw [List.filter_cons_of_neg (by simpa using hnew), List.filter_nil, List.append_nil]
      exact h
    | some i =>
      obtain ⟨t, ht, -, he⟩ := h.exists_team hk
      have hknown : teamUuid ∈ R.teamUuids := h.mem_teamIndexes.mp (mem_of_lookup hk)
      rw [List.filter_cons_of_pos (by simpa using hknown), List.filter_nil]
      exact h.pushSubscription (r := ⟨teamUuid, userUuid⟩) ht he.symm
  | [] | [_] | _ :: _ :: _ :: _ =>
    simp only [Reading.acceptSubscriptions, filterMap_concat, SubscriptionRecord.read, Option.toList_none, List.append_nil]
    exact h

theorem loadChannel {records : List (List Bytes)} (h : s.Reads (R.acceptChannels records))
    (fields : List Bytes) : (loadChannel s fields).Reads (R.acceptChannels (records ++ [fields])) := by
  match fields with
  | [teamUuid, uuid, name, description] =>
    have hread : ChannelRecord.read [teamUuid, uuid, name, description] =
        some ⟨teamUuid, uuid, name, description⟩ := rfl
    rw [Reading.acceptChannels, filterMap_concat, hread, Option.toList_some, List.filter_append,
      TeamsMirror.loadChannel]
    have hknown : uuid ∈ s.channelIndexes ↔ uuid ∈
        ((records.filterMap ChannelRecord.read).filter fun r => R.teamUuids.contains r.teamUuid).map
          ChannelRecord.uuid :=
      h.mem_channelIndexes.trans mem_map_firsts
    by_cases hused : uuid ∈ s.channelIndexes
    · rw [if_pos hused]
      by_cases hteam : teamUuid ∈ R.teamUuids
      · rw [List.filter_cons_of_pos (by simpa using hteam), List.filter_nil, firsts_concat,
          if_pos (hknown.mp hused)]
        exact h
      · rw [List.filter_cons_of_neg (by simpa using hteam), List.filter_nil, List.append_nil]
        exact h
    rw [if_neg hused]
    cases hk : s.teamIndexes.lookup teamUuid with
    | none =>
      have hteam : teamUuid ∉ R.teamUuids := mt h.mem_teamIndexes.mpr (AList.lookup_eq_none.mp hk)
      rw [List.filter_cons_of_neg (by simpa using hteam), List.filter_nil, List.append_nil]
      exact h
    | some i =>
      obtain ⟨t, ht, hloaded, he⟩ := h.exists_team hk
      have hteam : teamUuid ∈ R.teamUuids := h.mem_teamIndexes.mp (mem_of_lookup hk)
      rw [List.filter_cons_of_pos (by simpa using hteam), List.filter_nil, firsts_concat,
        if_neg (mt hknown.mpr hused)]
      have hpush := h.pushChannel (r := ⟨teamUuid, uuid, name, description⟩)
        (mt h.mem_channelIndexes.mpr hused) ht he.symm
      have hlength : (s.loadedTeams[i]?.map fun team => team.channels.length).getD 0 =
          ((R.acceptChannels records).channelsOf t).length := by
        simp [hloaded, Reading.loadedTeam]
      simp only [hlength]
      exact hpush
  | [] | [_] | [_, _] | [_, _, _] | _ :: _ :: _ :: _ :: _ :: _ =>
    simp only [Reading.acceptChannels, filterMap_concat, ChannelRecord.read, Option.toList_none, List.append_nil]
    exact h

theorem loadThread {records : List (List Bytes)} (h : s.Reads (R.acceptThreads records))
    (fields : List Bytes) : (loadThread s fields).Reads (R.acceptThreads (records ++ [fields])) := by
  match fields with
  | [channelUuid, uuid, authorUuid, createdAt, title, body] =>
    rw [Reading.acceptThreads, filterMap_concat, ThreadRecord.read, TeamsMirror.loadThread]
    have hknown : uuid ∈ s.threadIndexes ↔ uuid ∈
        ((records.filterMap ThreadRecord.read).filter fun r => R.channelUuids.contains r.channelUuid).map
          ThreadRecord.uuid :=
      h.mem_threadIndexes.trans mem_map_firsts
    cases htime : parseTimeValue createdAt with
    | none =>
      rw [Option.map_none, Option.toList_none, List.append_nil]
      split
      · exact h
      · exact h
    | some time =>
    rw [Option.map_some, Option.toList_some, List.filter_append]
    by_cases hused : uuid ∈ s.threadIndexes
    · rw [if_pos hused]
      by_cases hchannel : channelUuid ∈ R.channelUuids
      · rw [List.filter_cons_of_pos (by simpa using hchannel), List.filter_nil, firsts_concat,
          if_pos (hknown.mp hused)]
        exact h
      · rw [List.filter_cons_of_neg (by simpa using hchannel), List.filter_nil, List.append_nil]
        exact h
    rw [if_neg hused]
    cases hk : s.channelIndexes.lookup channelUuid with
    | none =>
      have hchannel : channelUuid ∉ R.channelUuids :=
        mt h.mem_channelIndexes.mpr (AList.lookup_eq_none.mp hk)
      rw [List.filter_cons_of_neg (by simpa using hchannel), List.filter_nil, List.append_nil]
      exact h
    | some p =>
      obtain ⟨i, j⟩ := p
      obtain ⟨t, c, ht, hteam, hc, hloaded, he⟩ := h.exists_channel hk
      have hchannel : channelUuid ∈ R.channelUuids := h.mem_channelIndexes.mp (mem_of_lookup hk)
      rw [List.filter_cons_of_pos (by simpa using hchannel), List.filter_nil, firsts_concat,
        if_neg (mt hknown.mpr hused)]
      have hpush := h.pushThread (r := ⟨channelUuid, uuid, authorUuid, time, title, body⟩)
        (mt h.mem_threadIndexes.mpr hused) ht hc he.symm
      have hlength : ((s.loadedTeams[i]?.bind fun team => team.channels[j]?).map
          fun channel => channel.threads.length).getD 0 = ((R.acceptThreads records).threadsOf c).length := by
        simp [hteam, hloaded, Reading.loadedChannel]
      simp only [hlength]
      exact hpush
  | [] | [_] | [_, _] | [_, _, _] | [_, _, _, _] | [_, _, _, _, _] | _ :: _ :: _ :: _ :: _ :: _ :: _ :: _ =>
    simp only [Reading.acceptThreads, filterMap_concat, ThreadRecord.read, Option.toList_none, List.append_nil]
    exact h

theorem loadMessage {records : List (List Bytes)} (h : s.Reads (R.acceptReplies records))
    (fields : List Bytes) : (loadMessage s fields).Reads (R.acceptReplies (records ++ [fields])) := by
  match fields with
  | [threadUuid, uuid, authorUuid, createdAt, body] =>
    rw [Reading.acceptReplies, filterMap_concat, ReplyRecord.read, TeamsMirror.loadMessage]
    cases htime : parseTimeValue createdAt with
    | none =>
      rw [Option.map_none, Option.toList_none, List.append_nil]
      exact h
    | some time =>
    rw [Option.map_some, Option.toList_some, List.filter_append]
    cases hk : s.threadIndexes.lookup threadUuid with
    | none =>
      have hthread : threadUuid ∉ R.threadUuids := mt h.mem_threadIndexes.mpr (AList.lookup_eq_none.mp hk)
      rw [List.filter_cons_of_neg (by simpa using hthread), List.filter_nil, List.append_nil]
      exact h
    | some p =>
      obtain ⟨i, j, m⟩ := p
      obtain ⟨t, c, d, ht, -, hc, -, hd, -, he⟩ := h.exists_thread hk
      have hthread : threadUuid ∈ R.threadUuids := h.mem_threadIndexes.mp (mem_of_lookup hk)
      rw [List.filter_cons_of_pos (by simpa using hthread), List.filter_nil]
      exact h.pushReply (r := ⟨threadUuid, uuid, authorUuid, time, body⟩) ht hc hd he.symm
  | [] | [_] | [_, _] | [_, _, _] | [_, _, _, _] | _ :: _ :: _ :: _ :: _ :: _ :: _ =>
    simp only [Reading.acceptReplies, filterMap_concat, ReplyRecord.read, Option.toList_none, List.append_nil]
    exact h

/-- A file whose records are accepted one after the other. -/
theorem foldl (accept : List (List Bytes) → Reading) {load : Loading → List Bytes → Loading}
    (hstep : ∀ s records fields, s.Reads (accept records) → (load s fields).Reads (accept (records ++ [fields])))
    (h : s.Reads (accept [])) (records : List (List Bytes)) :
    (records.foldl load s).Reads (accept records) := by
  induction records using List.reverseRecOn with
  | nil => exact h
  | append_singleton records fields ih =>
    rw [List.foldl_concat]
    exact hstep _ _ _ ih

end Loading.Reads

/-- The loader holds what the files say, and every index entry is where its record is. -/
theorem loadTeams_reads (parsed : DataFile → List (List Bytes)) :
    (loadTeams parsed).Reads (.ofFiles parsed) := by
  let R₁ := Reading.empty.acceptTeams (parsed .teams)
  let R₂ := R₁.acceptSubscriptions (parsed .teamSubscriptions)
  let R₃ := R₂.acceptChannels (parsed .channels)
  let R₄ := R₃.acceptThreads (parsed .threads)
  have h₁ := Loading.Reads.foldl Reading.empty.acceptTeams
    (fun _ _ fields h => h.loadTeam fields) .start (parsed .teams)
  have h₂ := Loading.Reads.foldl R₁.acceptSubscriptions
    (fun _ _ fields h => h.loadTeamSubscription fields) h₁ (parsed .teamSubscriptions)
  have h₃ := Loading.Reads.foldl R₂.acceptChannels
    (fun _ _ fields h => h.loadChannel fields) h₂ (parsed .channels)
  have h₄ := Loading.Reads.foldl R₃.acceptThreads
    (fun _ _ fields h => h.loadThread fields) h₃ (parsed .threads)
  exact Loading.Reads.foldl R₄.acceptReplies
    (fun _ _ fields h => h.loadMessage fields) h₄ (parsed .messages)

theorem materializeTeams_loadTeams_eq_forest (parsed : DataFile → List (List Bytes)) :
    materializeTeams (loadTeams parsed).loadedTeams = (Reading.ofFiles parsed).forest := by
  rw [(loadTeams_reads parsed).loadedTeams, Reading.materializeTeams_loadedTeams]

end TeamsMirror
