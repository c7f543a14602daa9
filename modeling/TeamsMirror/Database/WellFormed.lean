import TeamsMirror.Database.Positions

/-!
# Loaded states and the invariants of the handlers

The handlers find users, teams, channels and threads by the uuid that a buffer
holds, and expect it to be that of one entity. The loader compares teams, channels
and threads by the whole text field, which the buffers then cut; users and
subscriptions it does not compare at all. So a loaded state is as the handlers
expect exactly when the fields it keeps are still distinct as the buffers hold
them.
-/

namespace TeamsMirror

open Tables

/-- What the command handlers rely on. -/
structure Database.WellFormed (d : Database) : Prop where
  users : (d.users.map User.uuid).Nodup
  teams : (d.teams.map Team.uuid).Nodup
  channels : ((d.teams.flatMap Team.channels).map Channel.uuid).Nodup
  threads : (((d.teams.flatMap Team.channels).flatMap Channel.threads).map Thread.uuid).Nodup
  subscribers : ∀ t ∈ d.teams, t.subscribedUserUuids.Nodup

/-- A uuid field as a model stores it: at most 36 bytes, up to the first NUL. -/
def storedUuid (field : Bytes) : Uuid := .copyBuffer uuidLength field

/-- The uuid field of a user record. -/
def userField (fields : List Bytes) : Bytes := fields.getD 0 []

/-- Records with a known parent, and a timestamp where one is due. -/
def teamRecords (parsed : DataFile → List (List Bytes)) : List TeamRecord :=
  (parsed .teams).filterMap TeamRecord.read

def subscriptionRecords (parsed : DataFile → List (List Bytes)) : List SubscriptionRecord :=
  ((parsed .teamSubscriptions).filterMap SubscriptionRecord.read).filter fun r =>
    ((teamRecords parsed).map TeamRecord.uuid).contains r.teamUuid

def channelRecords (parsed : DataFile → List (List Bytes)) : List ChannelRecord :=
  ((parsed .channels).filterMap ChannelRecord.read).filter fun r =>
    ((teamRecords parsed).map TeamRecord.uuid).contains r.teamUuid

def threadRecords (parsed : DataFile → List (List Bytes)) : List ThreadRecord :=
  ((parsed .threads).filterMap ThreadRecord.read).filter fun r =>
    ((channelRecords parsed).map ChannelRecord.uuid).contains r.channelUuid

/-- Fields that the loader keeps apart, or does not compare, are kept apart by the buffers: users;
teams, channels and threads with different uuid fields; the subscribers of one team. -/
structure DistinctlyStored (parsed : DataFile → List (List Bytes)) : Prop where
  users : (parsed .users).Pairwise fun r s => storedUuid (userField r) ≠ storedUuid (userField s)
  teams : ∀ r ∈ teamRecords parsed, ∀ s ∈ teamRecords parsed,
    storedUuid r.uuid = storedUuid s.uuid → r.uuid = s.uuid
  channels : ∀ r ∈ channelRecords parsed, ∀ s ∈ channelRecords parsed,
    storedUuid r.uuid = storedUuid s.uuid → r.uuid = s.uuid
  threads : ∀ r ∈ threadRecords parsed, ∀ s ∈ threadRecords parsed,
    storedUuid r.uuid = storedUuid s.uuid → r.uuid = s.uuid
  subscribers : (subscriptionRecords parsed).Pairwise fun r s =>
    r.teamUuid = s.teamUuid → storedUuid r.userUuid ≠ storedUuid s.userUuid

namespace Reading

variable (R : Reading) (parsed : DataFile → List (List Bytes))

theorem mem_teamUuids_ofFiles {k : Bytes} :
    k ∈ (ofFiles parsed).teamUuids ↔ k ∈ (teamRecords parsed).map TeamRecord.uuid := mem_map_firsts

theorem teams_ofFiles : (ofFiles parsed).teams = firsts TeamRecord.uuid (teamRecords parsed) := rfl

theorem subscriptions_ofFiles : (ofFiles parsed).subscriptions = subscriptionRecords parsed := by
  apply List.filter_congr
  intro r _
  rw [List.contains_eq_mem, List.contains_eq_mem]
  exact decide_eq_decide.mpr (mem_teamUuids_ofFiles parsed)

theorem channels_ofFiles : (ofFiles parsed).channels = firsts ChannelRecord.uuid (channelRecords parsed) := by
  refine congrArg (firsts ChannelRecord.uuid) (List.filter_congr fun r _ => ?_)
  rw [List.contains_eq_mem, List.contains_eq_mem]
  exact decide_eq_decide.mpr (mem_teamUuids_ofFiles parsed)

theorem mem_channelUuids_ofFiles {k : Bytes} :
    k ∈ (ofFiles parsed).channelUuids ↔ k ∈ (channelRecords parsed).map ChannelRecord.uuid := by
  rw [channelUuids, channels_ofFiles]
  exact mem_map_firsts

theorem threads_ofFiles : (ofFiles parsed).threads = firsts ThreadRecord.uuid (threadRecords parsed) := by
  refine congrArg (firsts ThreadRecord.uuid) (List.filter_congr fun r _ => ?_)
  rw [List.contains_eq_mem, List.contains_eq_mem]
  exact decide_eq_decide.mpr (mem_channelUuids_ofFiles parsed)

theorem sound_ofFiles : (ofFiles parsed).Sound := (loadTeams_reads parsed).sound

theorem uuids_forest : R.forest.map Team.uuid = R.teams.map fun r => storedUuid r.uuid := by
  rw [forest, List.map_map]
  rfl

variable {R}

/-- The channels of the forest are the accepted ones, team by team. -/
theorem Sound.channelUuids_forest (h : R.Sound) :
    ((R.forest.flatMap Team.channels).map Channel.uuid).Perm (R.channels.map fun r => storedUuid r.uuid) := by
  have hchannels : (R.forest.flatMap Team.channels) = (R.teams.flatMap R.channelsOf).map R.channel := by
    rw [forest, List.flatMap_map, List.map_flatMap]
    rfl
  rw [hchannels, List.map_map]
  exact (flatMap_children_perm h.teams ChannelRecord.teamUuid h.channelTeams).map _

theorem Sound.threadUuids_forest (h : R.Sound) :
    (((R.forest.flatMap Team.channels).flatMap Channel.threads).map Thread.uuid).Perm
      (R.threads.map fun r => storedUuid r.uuid) := by
  have hthreads : (R.forest.flatMap Team.channels).flatMap Channel.threads =
      ((R.teams.flatMap R.channelsOf).flatMap R.threadsOf).map R.thread := by
    rw [forest, List.flatMap_map, List.map_flatMap, List.flatMap_assoc, List.flatMap_assoc]
    refine List.flatMap_congr fun t _ => ?_
    exact List.flatMap_map ..
  rw [hthreads, List.map_map]
  have hchannels := flatMap_children_perm h.teams ChannelRecord.teamUuid h.channelTeams
  have hbelow := flatMap_children_perm h.channels ThreadRecord.channelUuid h.threadChannels
  exact ((hchannels.flatMap_right R.threadsOf).trans hbelow).map _

theorem subscribers_forest :
    (∀ t ∈ R.forest, t.subscribedUserUuids.Nodup) ↔
      ∀ t ∈ R.teams, ((R.subscriptionsOf t).map fun r => storedUuid r.userUuid).Nodup :=
  List.forall_mem_map

end Reading

theorem length_of_mem_parseLines {lines : List Bytes} {file : DataFile} {delimiter : UInt8}
    {fields : List Bytes} (h : fields ∈ parseLines lines file delimiter) :
    fields.length = (recordFormat file).expectedFieldCount := by
  obtain ⟨line, -, hline⟩ := List.mem_filterMap.mp h
  split at hline
  · cases hline
  · exact length_of_parseRecord hline

theorem uuids_loadUser {records : List (List Bytes)} (h : ∀ fields ∈ records, fields.length = 3) :
    (records.filterMap loadUser).map User.uuid = records.map fun fields => storedUuid (userField fields) := by
  induction records with
  | nil => rfl
  | cons fields records ih =>
    obtain ⟨hlength, hrest⟩ := List.forall_mem_cons.mp h
    match fields with
    | [uuid, name, isLoggedIn] =>
      rw [List.filterMap_cons_some (by rfl), List.map_cons, List.map_cons, ih hrest]
      rfl

/-- What the loader keeps of the files, also when there are none. -/
theorem load_tables (disk : Disk) (messages : List Message) (delimiter : UInt8) :
    let parsed := fun file => parseLines (readTextFile (disk file)) file delimiter
    (load disk messages delimiter).2.users = (parsed .users).filterMap loadUser ∧
      (load disk messages delimiter).2.teams = (Reading.ofFiles parsed).forest := by
  rw [load_eq_relationalReading, relationalReading]
  split
  · next hnone =>
    have hempty : ∀ file, parseLines (readTextFile (disk file)) file delimiter = [] := by
      intro file
      have hfile : disk file = none := by cases file <;> simp_all
      rw [hfile]
      rfl
    simp only [hempty]
    exact ⟨rfl, rfl⟩
  · exact ⟨rfl, rfl⟩

/-- Loading gives the handlers what they rely on exactly when the buffers keep apart what the
loader keeps. -/
theorem load_wellFormed_iff (disk : Disk) (messages : List Message) (delimiter : UInt8) :
    (load disk messages delimiter).2.WellFormed ↔
      DistinctlyStored fun file => parseLines (readTextFile (disk file)) file delimiter := by
  obtain ⟨husers, hteams⟩ := load_tables disk messages delimiter
  generalize hparsed : (fun file => parseLines (readTextFile (disk file)) file delimiter) = parsed at husers hteams
  have hsound := Reading.sound_ofFiles parsed
  have huserRecords : ∀ fields ∈ parsed .users, fields.length = 3 := by
    intro fields hfields
    rw [← hparsed] at hfields
    exact length_of_mem_parseLines hfields
  have hu : ((load disk messages delimiter).2.users.map User.uuid).Nodup ↔
      (parsed .users).Pairwise fun r s => storedUuid (userField r) ≠ storedUuid (userField s) := by
    rw [husers, uuids_loadUser huserRecords]
    exact List.pairwise_map
  have ht : ((load disk messages delimiter).2.teams.map Team.uuid).Nodup ↔
      ∀ r ∈ teamRecords parsed, ∀ s ∈ teamRecords parsed,
        storedUuid r.uuid = storedUuid s.uuid → r.uuid = s.uuid := by
    rw [hteams, Reading.uuids_forest, Reading.teams_ofFiles]
    exact nodup_map_rename_firsts
  have hc : (((load disk messages delimiter).2.teams.flatMap Team.channels).map Channel.uuid).Nodup ↔
      ∀ r ∈ channelRecords parsed, ∀ s ∈ channelRecords parsed,
        storedUuid r.uuid = storedUuid s.uuid → r.uuid = s.uuid := by
    rw [hteams, hsound.channelUuids_forest.nodup_iff, Reading.channels_ofFiles]
    exact nodup_map_rename_firsts
  have hd : ((((load disk messages delimiter).2.teams.flatMap Team.channels).flatMap Channel.threads).map
        Thread.uuid).Nodup ↔
      ∀ r ∈ threadRecords parsed, ∀ s ∈ threadRecords parsed,
        storedUuid r.uuid = storedUuid s.uuid → r.uuid = s.uuid := by
    rw [hteams, hsound.threadUuids_forest.nodup_iff, Reading.threads_ofFiles]
    exact nodup_map_rename_firsts
  have hs : (∀ t ∈ (load disk messages delimiter).2.teams, t.subscribedUserUuids.Nodup) ↔
      (subscriptionRecords parsed).Pairwise fun r s =>
        r.teamUuid = s.teamUuid → storedUuid r.userUuid ≠ storedUuid s.userUuid := by
    rw [hteams, Reading.subscribers_forest]
    have hchildren := nodup_children_iff SubscriptionRecord.teamUuid
      (fun r => storedUuid r.userUuid) hsound.subscriptionTeams
    rw [Reading.subscriptions_ofFiles] at hchildren
    rw [← hchildren, ← Reading.subscriptions_ofFiles]
    rfl
  constructor
  · exact fun h => ⟨hu.mp h.users, ht.mp h.teams, hc.mp h.channels, hd.mp h.threads, hs.mp h.subscribers⟩
  · exact fun h => ⟨hu.mpr h.users, ht.mpr h.teams, hc.mpr h.channels, hd.mpr h.threads, hs.mpr h.subscribers⟩

/-- Two lines of `users.txt` with one uuid make two users with that uuid: `a|x|0` and `a|y|0`. -/
theorem load_repeats_user :
    ¬∀ (disk : Disk) (messages : List Message) (delimiter : UInt8),
      (load disk messages delimiter).2.WellFormed := by
  intro h
  let usersFile : Bytes := [97, 124, 120, 124, 48, 10, 97, 124, 121, 124, 48, 10]
  have hwell := h (fun file => if file = .users then some usersFile else none) [] 124
  exact absurd hwell.users (by decide)

end TeamsMirror
