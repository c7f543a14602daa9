import TeamsMirror.Database.RoundTrip

/-!
# What a save and a load keep

Nothing is said here of how a database came about. What is saved and loaded again is
the same exactly when its uuids are there and distinct, wherever the loader needs
them; and whatever it was, what was loaded from a save stays the same from then on.
-/

namespace TeamsMirror

open Lists Numerals

/-- Fields are texts of models: they hold no NUL, and a uuid is no longer than its buffer. -/
structure FittingRecord (file : DataFile) (fields : List Bytes) : Prop where
  length : 2 ≤ fields.length
  noNul : ∀ field ∈ fields, 0 ∉ field
  own : ∀ uuid, fields[ownField file]? = some uuid → uuid.length ≤ uuidLength - 1

theorem fitting_records {users : List User} {teams : List Team} {messages : List Message} {file : DataFile}
    {fields : List Bytes} (h : fields ∈ records users teams messages file) : FittingRecord file fields := by
  have hown : ∀ (u : Uuid) uuid, some u.bytes = some uuid → uuid.length ≤ uuidLength - 1 := by
    rintro u uuid ⟨rfl⟩
    exact u.fits
  cases file with
  | users =>
    obtain ⟨u, -, rfl⟩ := List.mem_map.mp h
    refine ⟨by simp [userFields], ?_, hown u.uuid⟩
    simp only [userFields, List.forall_mem_cons, CString.zero_notMem_bytes, not_false_eq_true, true_and]
    split <;> simp
  | privateMessages =>
    obtain ⟨m, -, rfl⟩ := List.mem_map.mp h
    exact ⟨by simp [privateMessageFields], by simp [privateMessageFields], hown m.uuid⟩
  | teams =>
    obtain ⟨t, -, rfl⟩ := List.mem_map.mp h
    exact ⟨by simp [teamFields], by simp [teamFields], hown t.uuid⟩
  | teamSubscriptions =>
    obtain ⟨t, -, h⟩ := List.mem_flatMap.mp h
    obtain ⟨u, -, rfl⟩ := List.mem_map.mp h
    exact ⟨by simp [teamSubscriptionFields], by simp [teamSubscriptionFields], hown t.uuid⟩
  | channels =>
    obtain ⟨t, -, h⟩ := List.mem_flatMap.mp h
    obtain ⟨c, -, rfl⟩ := List.mem_map.mp h
    exact ⟨by simp [channelFields], by simp [channelFields], hown c.uuid⟩
  | threads =>
    obtain ⟨t, -, h⟩ := List.mem_flatMap.mp h
    obtain ⟨c, -, h⟩ := List.mem_flatMap.mp h
    obtain ⟨d, -, rfl⟩ := List.mem_map.mp h
    exact ⟨by simp [threadFields], by simp [threadFields], hown d.uuid⟩
  | messages =>
    obtain ⟨t, -, h⟩ := List.mem_flatMap.mp h
    obtain ⟨c, -, h⟩ := List.mem_flatMap.mp h
    obtain ⟨d, -, h⟩ := List.mem_flatMap.mp h
    obtain ⟨m, -, rfl⟩ := List.mem_map.mp h
    exact ⟨by simp [messageFields], by simp [messageFields], hown m.uuid⟩

/-- The line of a record is split into that record. -/
theorem FittingRecord.split {file : DataFile} {fields : List Bytes} (h : FittingRecord file fields) :
    splitEscapedLine (joinEscapedFields fields 124) 124 = fields := by
  have hdelimits : Delimits 124 := by decide
  have hne : fields ≠ [] := fun hnil => absurd h.length (by simp [hnil])
  exact splitEscapedLine_joinEscapedFields hdelimits.separates hne

/-- A record that the loader accepts has its own uuid, users apart. -/
theorem AcceptedRecord.own_ne_nil {file : DataFile} {fields : List Bytes} (h : AcceptedRecord file fields)
    (hfile : file ≠ .users) {uuid : Bytes} (huuid : fields[ownField file]? = some uuid) : uuid ≠ [] := by
  have hat : ∀ n, fields[n]? = some uuid → fields.getD n [] = uuid := by
    intro n hn
    rw [List.getD_eq_getElem?_getD, hn, Option.getD_some]
  cases file with
  | users => exact absurd rfl hfile
  | teams | teamSubscriptions | privateMessages => exact hat 0 huuid ▸ h.first rfl
  | channels | threads | messages => exact hat 1 huuid ▸ h.second rfl

theorem readTextFile_savedDisk (users : List User) (teams : List Team) (messages : List Message)
    (file : DataFile) :
    readTextFile (savedDisk users teams messages file) = serializeData users teams messages 124 file :=
  Lines.lines_unlines fun _ => lf_notMem_serializeData

/-- The records that are read from a save are among those that were written. -/
theorem mem_parseLines_savedDisk {users : List User} {teams : List Team} {messages : List Message}
    {file : DataFile} {fields : List Bytes}
    (h : fields ∈ parseLines (readTextFile (savedDisk users teams messages file)) file 124) :
    fields ∈ records users teams messages file ∧ AcceptedRecord file fields := by
  obtain ⟨line, hline, rfl, haccepted⟩ := mem_parseLines h
  rw [readTextFile_savedDisk] at hline
  obtain ⟨record, hrecord, rfl⟩ := List.mem_map.mp hline
  rw [(fitting_records hrecord).split] at haccepted ⊢
  exact ⟨hrecord, haccepted⟩

/-- A save without users is clean, whatever it is a save of. -/
theorem cleanDisk_teams (teams : List Team) (messages : List Message) :
    CleanDisk (savedDisk [] teams messages) := by
  intro file content hcontent fields hfields
  have hread : readTextFile (savedDisk [] teams messages file) = Lines.lines 10 content := by
    rw [hcontent]
    rfl
  rw [← hread] at hfields
  obtain ⟨hrecord, haccepted⟩ := mem_parseLines_savedDisk hfields
  have hfits := fitting_records hrecord
  have hfile : file ≠ .users := by
    rintro rfl
    exact absurd hrecord (List.not_mem_nil)
  exact ⟨hfits.noNul, fun uuid huuid => ⟨haccepted.own_ne_nil hfile huuid, hfits.own uuid huuid⟩⟩

/-- Users are read as they were written. -/
theorem parseLines_users (users : List User) (teams : List Team) (messages : List Message) :
    parseLines (readTextFile (savedDisk users teams messages .users)) .users 124 = users.map userFields := by
  rw [readTextFile_savedDisk, serializeData, parseLines, List.filterMap_map]
  refine (List.filterMap_congr fun fields hfields => ?_).trans List.filterMap_some
  have hsplit := (fitting_records hfields).split
  obtain ⟨u, -, rfl⟩ := List.mem_map.mp hfields
  have hne : joinEscapedFields (userFields u) 124 ≠ [] := joinEscapedFields_ne_nil _ _ _
  have haccepted : AcceptedRecord .users (userFields u) := ⟨rfl, Bool.noConfusion, Bool.noConfusion⟩
  rw [Function.comp_apply, if_neg hne]
  exact parseRecord_eq_some.mpr ⟨hsplit.symm, haccepted⟩

/-- What a later process has of a database that was saved completely. -/
def Database.reread (d : Database) : Database := (load (savedDisk d.users d.teams d.messages)).2

namespace Database

variable (d : Database)

theorem users_reread : d.reread.users = d.users.map fun u => .new u.uuid.bytes u.name.bytes u.isLoggedIn := by
  have husers : d.reread.users = (d.users.map userFields).filterMap loadUser :=
    congrArg (List.filterMap loadUser) (parseLines_users d.users d.teams d.messages)
  rw [husers, List.filterMap_map, ← List.filterMap_eq_map]
  refine List.filterMap_congr fun u _ => ?_
  cases hlogged : u.isLoggedIn <;> simp [loadUser, userFields, hlogged, parseBoolValue]

/-- Users have no part in the loading of teams and messages. -/
theorem reread_eq_withoutUsers :
    d.reread.teams = (load (savedDisk [] d.teams d.messages)).2.teams ∧
      d.reread.messages = (load (savedDisk [] d.teams d.messages)).2.messages := ⟨rfl, rfl⟩

/-- Teams and messages that come from a save can be saved and loaded. -/
theorem storable_reread : Storable [] d.reread.teams d.reread.messages := by
  have hstorable := (cleanDisk_teams d.teams d.messages).load
  exact ⟨by simp, hstorable.namedMessages, hstorable.namedTeams, hstorable.teamUuids, hstorable.channelUuids,
    hstorable.threadUuids⟩

theorem reread_of_storable (h : Storable [] d.teams d.messages) :
    d.reread.teams = d.teams ∧ d.reread.messages = d.messages := by
  obtain ⟨users, hload, -⟩ := load_savedDisk h
  obtain ⟨hteams, hmessages⟩ := d.reread_eq_withoutUsers
  rw [hload] at hteams hmessages
  exact ⟨hteams, hmessages⟩

/-- Of its users a later process knows who they are, and whether they were logged in. -/
theorem users_reread_reread : d.reread.reread.users = d.reread.users := by
  rw [users_reread, users_reread, List.map_map]
  refine List.map_congr_left fun u _ => ?_
  have hflag : ∀ flag, (User.new u.uuid.bytes u.name.bytes flag).isLoggedIn = flag := by
    intro flag
    cases flag <;> rfl
  rw [Function.comp_apply, hflag]
  simp [User.new]

/-- A database is the same after a save and a load exactly when it is storable, users apart; and whatever
it was, what was loaded is the same ever after. -/
theorem reread_eq_iff_storable (users : List User) (teams : List Team) (messages : List Message) :
    let d : Database := ⟨users, teams, messages⟩
    (d.reread.teams = teams ∧ d.reread.messages = messages ∧
        d.reread.users.map User.identity = users.map User.identity ↔ Storable [] teams messages) ∧
      d.reread.reread = d.reread := by
  intro d
  have hidentity : d.reread.users.map User.identity = users.map User.identity := by
    rw [users_reread, List.map_map]
    exact List.map_congr_left fun u _ => by simp [User.identity, User.new]
  constructor
  · constructor
    · rintro ⟨hteams, hmessages, -⟩
      exact hteams ▸ hmessages ▸ d.storable_reread
    · intro h
      obtain ⟨hteams, hmessages⟩ := d.reread_of_storable h
      exact ⟨hteams, hmessages, hidentity⟩
  · obtain ⟨hteams, hmessages⟩ := d.reread.reread_of_storable d.storable_reread
    have husers := d.users_reread_reread
    generalize d.reread.reread = e at hteams hmessages husers ⊢
    cases e
    cases hteams
    cases hmessages
    cases husers
    rfl

end Database

end TeamsMirror
