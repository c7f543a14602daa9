import TeamsMirror.Database.Integrity

/-!
# Saves that fail

A save rewrites the seven files in place, one after the other, and goes on after a
failure. What a failed save leaves is decided file by file: the old records, or the
first of the new ones. Only when no file was opened is the old state there as a whole.
-/

namespace TeamsMirror

/-- `DatabaseSaver::save` from its first call: without a directory no file is touched. -/
def saveInto (created : Bool) (disk : Disk) (users : List User) (teams : List Team) (messages : List Message)
    (outcome : DataFile → WriteOutcome) : Disk × Bool :=
  if created then save disk users teams messages outcome else (disk, false)

/-- A load yields this state, but for the login counters. -/
def Yields (disk : Disk) (s : Server) : Prop :=
  ∃ users, load disk = (true, ⟨users, s.teams, s.messages⟩) ∧
    users.map User.identity = s.users.map User.identity

/-- What a save that may have failed makes of a file: nothing if it was not opened, else the first part of
the new text, and when a write has been made again, behind it a stretch of the text that starts no later than
that part ends. -/
def Leaves (opened : Bool) (before : Option Bytes) (text : Bytes) (after : Option Bytes) : Prop :=
  if opened then
    ∃ first start more, start ≤ first ∧ after = some (text.take first ++ (text.drop start).take more)
  else after = before

/-- What is read from a file after a save that may have failed, if no write was made again: the old records
if it was not opened, else the first new ones, and perhaps one more of which the end is missing. -/
def Remains (opened : Bool) (old new read : List (List Bytes)) : Prop :=
  if opened then
    ∃ k, ∃ cut : Option (List Bytes), read = new.take k ++ cut.toList ∧
      ∀ fields ∈ cut, ∃ record, new[k]? = some record ∧ CutOf record fields
  else read = old

section

variable {users : List User} {teams : List Team} {messages : List Message} {disk : Disk}
  {outcome : DataFile → WriteOutcome}

theorem saveInto_notOpened {created : Bool} {file : DataFile}
    (h : (created && outcome file ≠ .notOpened) = false) :
    (saveInto created disk users teams messages outcome).1 file = disk file := by
  cases created with
  | false => rfl
  | true =>
    have hclosed : outcome file = .notOpened := by simpa using h
    show (writeLines (disk file) (serializeData users teams messages 124 file) (outcome file)).1 = disk file
    rw [hclosed, writeLines]

variable (users teams messages disk) in
theorem saveInto_opened {created : Bool} {file : DataFile}
    (h : (created && outcome file ≠ .notOpened) = true) :
    ∃ insertions closing, outcome file = .opened insertions closing ∧
      (saveInto created disk users teams messages outcome).1 file =
        some ((outputFile (serializeData users teams messages 124 file) insertions).close closing) := by
  obtain ⟨rfl, hopened⟩ := Bool.and_eq_true_iff.mp h
  cases houtcome : outcome file with
  | notOpened => simp [houtcome] at hopened
  | opened insertions closing =>
    refine ⟨insertions, closing, rfl, ?_⟩
    show (writeLines (disk file) (serializeData users teams messages 124 file) (outcome file)).1 = _
    rw [houtcome, writeLines]

/-- Of a file that was cut short the loader reads the first records, and what is left of one more. -/
theorem exists_parseLines_take (h : Storable users teams messages) (file : DataFile) (size : Nat) :
    ∃ k, ∃ cut : Option (List Bytes),
      parseLines (Lines.lines 10 ((Lines.unlines 10 (serializeData users teams messages 124 file)).take size))
        file 124 = (records users teams messages file).take k ++ cut.toList ∧
      ∀ fields ∈ cut, ∃ record, (records users teams messages file)[k]? = some record ∧ CutOf record fields := by
  have hdelimits : Delimits 124 := by decide
  have hlf : ∀ line ∈ serializeData users teams messages 124 file, 10 ∉ line := fun _ =>
    lf_notMem_serializeData
  obtain ⟨k, p, hlines, hp⟩ := Lines.exists_lines_take hlf size
  have htake : (serializeData users teams messages 124 file).take k =
      ((records users teams messages file).take k).map fun record => joinEscapedFields record 124 :=
    List.map_take.symm
  have hfirst := parseLines_records h (l := (records users teams messages file).take k) fun _ hrecord =>
    List.mem_of_mem_take hrecord
  rw [hlines, htake, parseLines, List.filterMap_append, ← parseLines, hfirst]
  refine ⟨k, if p = [] then none else parseRecord p (recordFormat file) 124, ?_, ?_⟩
  · congr 1
    by_cases hnil : p = []
    · simp [hnil]
    · cases hparse : parseRecord p (recordFormat file) 124 <;> simp [hnil, hparse]
  · intro fields hfields
    split at hfields
    · cases hfields
    · next hnil =>
      obtain ⟨rfl, haccepted⟩ := parseRecord_eq_some.mp hfields
      obtain ⟨line, hline, hpre⟩ := hp.resolve_left hnil
      rw [serializeData, List.getElem?_map] at hline
      obtain ⟨record, hrecord, rfl⟩ := Option.map_eq_some_iff.mp hline
      have hlength := (h.records (List.mem_of_getElem? hrecord)).2.length
      have hne : record ≠ [] := by
        intro hempty
        have hown := ownField_lt file
        rw [hempty, List.length_nil] at hlength
        omega
      have hsame := haccepted.length.trans hlength.symm
      exact ⟨record, hrecord, cutOf_splitEscapedLine hdelimits.separates hne hpre hsame⟩

end

/-- Users are loaded from the first two of three fields, which a cut leaves. -/
theorem identity_remains {opened : Bool} {old new : List User} {read : List (List Bytes)}
    (h : Remains opened (old.map userFields) (new.map userFields) read) :
    (read.filterMap loadUser).map User.identity = old.map User.identity ∨
      ∃ k, (read.filterMap loadUser).map User.identity = (new.take k).map User.identity := by
  cases opened with
  | false =>
    left
    rw [show read = old.map userFields from h, identity_loadUser]
  | true =>
    right
    obtain ⟨k, cut, rfl, hcut⟩ := h
    have htake : (((new.map userFields).take k).filterMap loadUser).map User.identity =
        (new.take k).map User.identity := by
      rw [← List.map_take, identity_loadUser]
    cases cut with
    | none => exact ⟨k, by simpa using htake⟩
    | some fields =>
      obtain ⟨record, hrecord, front, last, start, hfront, -, hfields⟩ := hcut fields rfl
      rw [List.getElem?_map] at hrecord
      obtain ⟨user, huser, rfl⟩ := Option.map_eq_some_iff.mp hrecord
      have hends : [user.uuid.bytes, user.name.bytes] ++ [if user.isLoggedIn then [49] else [48]] =
          front ++ [last] := hfront
      obtain ⟨rfl, -⟩ := List.append_inj' hends rfl
      have hsame : ∀ flag, (loadUser ([user.uuid.bytes, user.name.bytes] ++ [flag])).map User.identity =
          some user.identity := by
        intro flag
        simp [loadUser, User.new, User.identity]
      have hloaded : (loadUser fields).map User.identity = some user.identity := by
        rcases hfields with rfl | rfl <;> exact hsame _
      refine ⟨k + 1, ?_⟩
      rw [List.filterMap_append, List.map_append, htake, List.take_add_one, huser, List.map_append]
      congr 1
      rw [Option.toList_some, List.map_filterMap, List.filterMap_cons, hloaded]
      rfl

/-- A disk with the records of a state yields the state. -/
theorem yields_of_records {disk : Disk} {s : Server} (h : s.Storable)
    (hexists : ∃ file, (disk file).isSome = true)
    (hrecords : ∀ file, parseLines (readTextFile (disk file)) file 124 = records s.users s.teams s.messages file) :
    Yields disk s :=
  load_records h hexists hrecords

theorem cleanDisk_savedDisk {s : Server} (h : s.Storable) : CleanDisk (savedDisk s.users s.teams s.messages) := by
  intro file content hcontent
  obtain rfl := Option.some.inj hcontent
  have hclean := Storable.cleanContent h file
    (Lines.unlines 10 (serializeData s.users s.teams s.messages 124 file)).length
  rwa [List.take_length] at hclean

theorem leaves_saveInto (created : Bool) (disk : Disk) (s : Server) (outcome : DataFile → WriteOutcome)
    (file : DataFile) :
    Leaves (created && outcome file ≠ .notOpened) (disk file)
      (Lines.unlines 10 (serializeData s.users s.teams s.messages 124 file))
      ((saveInto created disk s.users s.teams s.messages outcome).1 file) := by
  cases hopened : (created && outcome file ≠ .notOpened) with
  | false => exact saveInto_notOpened hopened
  | true =>
    obtain ⟨insertions, closing, -, hcontent⟩ := saveInto_opened s.users s.teams s.messages disk hopened
    obtain ⟨first, start, more, hstart, hclose⟩ :=
      (holds_outputFile (serializeData s.users s.teams s.messages 124 file) insertions).close closing
    exact ⟨first, start, more, hstart, by rw [hcontent, hclose]⟩

/-- What a save over the files of another state leaves to be read in each of them. -/
theorem remains_saveInto {previous new : Server} (hprevious : previous.Storable) (hnew : new.Storable)
    {created : Bool} {outcome : DataFile → WriteOutcome} {file : DataFile}
    (hunrepeated : created = true →
      (outcome file).Unrepeated (serializeData new.users new.teams new.messages 124 file)) :
    Remains (created && outcome file ≠ .notOpened)
      (records previous.users previous.teams previous.messages file)
      (records new.users new.teams new.messages file)
      (parseLines (readTextFile ((saveInto created (savedDisk previous.users previous.teams previous.messages)
        new.users new.teams new.messages outcome).1 file)) file 124) := by
  cases hopened : (created && outcome file ≠ .notOpened) with
  | false =>
    rw [saveInto_notOpened hopened]
    exact parseLines_savedDisk hprevious file
  | true =>
    obtain ⟨insertions, closing, houtcome, hcontent⟩ := saveInto_opened new.users new.teams new.messages
      (savedDisk previous.users previous.teams previous.messages) hopened
    have hfile := hunrepeated (Bool.and_eq_true_iff.mp hopened).1
    rw [houtcome, WriteOutcome.Unrepeated] at hfile
    rw [hcontent, List.prefix_iff_eq_take.mp hfile]
    exact exists_parseLines_take hnew file _

/-- A failed save of one state over another, of which all files had been written: each file has the old text,
or the first part of the new one and perhaps a stretch of it again, and all are loaded. If no write was made
again, what is loaded are the old records of a file or the first new ones. The old state is there as a whole
if no file was opened, and the new one if nothing but line ends at the ends of files is missing. -/
theorem failed_save_leaves {previous new : World} (hprevious : previous.Reachable) (hnew : new.Reachable)
    {old disk : Disk} {complete : DataFile → WriteOutcome}
    (hwritten : WritesAll old previous.server.users previous.server.teams previous.server.messages complete)
    (hsaved : (save old previous.server.users previous.server.teams previous.server.messages complete).1 = disk)
    {created : Bool} {outcome : DataFile → WriteOutcome} {disk' : Disk}
    (hfailed : saveInto created disk new.server.users new.server.teams new.server.messages outcome =
      (disk', false)) :
    let lines := serializeData new.server.users new.server.teams new.server.messages 124
    ((∀ file, (created && outcome file ≠ .notOpened) = false) → Yields disk' previous.server) ∧
    ((∀ file, ∃ size, disk' file = some ((Lines.unlines 10 (lines file)).take size) ∧
      (Lines.unlines 10 (lines file)).length ≤ size + 1) → Yields disk' new.server) ∧
    (∀ file, Leaves (created && outcome file ≠ .notOpened) (disk file) (Lines.unlines 10 (lines file)) (disk' file)) ∧
    (∃ parsed, load disk' = (true, .ofRecords parsed) ∧
      ∀ file, (created = true → (outcome file).Unrepeated (lines file)) →
        Remains (created && outcome file ≠ .notOpened)
          (records previous.server.users previous.server.teams previous.server.messages file)
          (records new.server.users new.server.teams new.server.messages file) (parsed file)) ∧
    ((created = true → (outcome .users).Unrepeated (lines .users)) →
      (load disk').2.users.map User.identity = previous.server.users.map User.identity ∨
        ∃ k, (load disk').2.users.map User.identity = (new.server.users.take k).map User.identity) ∧
    ((created = true → ∀ file, (outcome file).Unrepeated (lines file)) →
      Storable (load disk').2.users (load disk').2.teams (load disk').2.messages) := by
  intro lines
  have hold := hprevious.sound.storable
  have hstate := hnew.sound.storable
  obtain rfl : savedDisk previous.server.users previous.server.teams previous.server.messages = disk :=
    hwritten.disk.symm.trans hsaved
  obtain rfl := congrArg Prod.fst hfailed
  have hremains : ∀ file, (created = true → (outcome file).Unrepeated (lines file)) → _ :=
    fun _ hunrepeated => remains_saveInto hold hstate hunrepeated
  have hexists : ∃ file, ((saveInto created (savedDisk previous.server.users previous.server.teams
      previous.server.messages) new.server.users new.server.teams new.server.messages outcome).1 file).isSome =
        true := by
    refine ⟨.users, ?_⟩
    cases hopened : (created && outcome .users ≠ .notOpened) with
    | false =>
      rw [saveInto_notOpened hopened]
      rfl
    | true =>
      obtain ⟨insertions, closing, -, hcontent⟩ := saveInto_opened new.server.users new.server.teams
        new.server.messages (savedDisk previous.server.users previous.server.teams previous.server.messages) hopened
      rw [hcontent]
      rfl
  have hload := load_eq_ofRecords hexists
  refine ⟨fun hclosed => ?_, fun hall => ?_, fun file => leaves_saveInto created _ new.server outcome file,
    ⟨_, hload, hremains⟩, fun husers => ?_, fun hunrepeated => ?_⟩
  · refine yields_of_records hold hexists fun file => ?_
    rw [saveInto_notOpened (hclosed file)]
    exact parseLines_savedDisk hold file
  · refine yields_of_records hstate hexists fun file => ?_
    obtain ⟨size, hcontent, hsize⟩ := hall file
    rw [hcontent]
    exact parseLines_take_all hstate hsize
  · rw [hload]
    exact identity_remains (hremains .users husers)
  · refine CleanDisk.load ?_
    have hclean := cleanDisk_savedDisk hold
    cases created with
    | false => exact hclean
    | true => exact hclean.save hstate (hunrepeated rfl)

/-- Every file is written but the one of the teams, which cannot be opened. -/
def teamsNotOpened : DataFile → WriteOutcome
  | .teams => .notOpened
  | _ => .opened [] 1000

/-- A complete save into an empty directory. -/
def firstSave (w : World) : Disk × Bool :=
  save (fun _ => none) w.server.users w.server.teams w.server.messages fun _ => .opened [] 1000

def secondSave (previous new : World) : Disk × Bool :=
  saveInto true (firstSave previous).1 new.server.users new.server.teams new.server.messages teamsNotOpened

/-- Two lives of one user, with a team each and, in the second one, a message. -/
def twoLives : Option (World × World) := do
  let previous ← Runs.run World.step (World.boot 3 fun _ => none) oneTeamRun
  let new ← Runs.run World.step (World.boot 3 fun _ => none) World.oneUserRun
  some (previous, new)

/-- The first save writes all files of the first life, and what is loaded after the second one has the team of the
first life and the message of the second. -/
theorem exists_mixture : ∃ previous new : World, previous.Reachable ∧ new.Reachable ∧
    (WritesAll (fun _ => none) previous.server.users previous.server.teams previous.server.messages
      (fun _ => .opened [] 1000) ∧ (teamsNotOpened .users).Unrepeated
        (serializeData new.server.users new.server.teams new.server.messages 124 .users)) ∧
    (firstSave previous).2 = true ∧ (secondSave previous new).2 = false ∧
    previous.server.messages.length = 0 ∧ new.server.teams.map (fun t => t.name.bytes) = [[98]] ∧
    (load (secondSave previous new).1).2.messages.length = 1 ∧
    (load (secondSave previous new).1).2.teams.map (fun t => t.name.bytes) = [[124, 92, 10, 13]] := by
  have hwritten : twoLives.map (fun lives =>
      (decide (WritesAll (fun _ => none) lives.1.server.users lives.1.server.teams lives.1.server.messages
          fun _ => .opened [] 1000), decide ((teamsNotOpened .users).Unrepeated
        (serializeData lives.2.server.users lives.2.server.teams lives.2.server.messages 124 .users)))) =
      some (true, true) := by
    decide +kernel
  have hsaves : twoLives.map (fun lives =>
      ((firstSave lives.1).2, (secondSave lives.1 lives.2).2, lives.1.server.messages.length,
        lives.2.server.teams.map fun t => t.name.bytes)) = some (true, false, 0, [[98]]) := by
    decide +kernel
  have hloaded : twoLives.map (fun lives =>
      ((load (secondSave lives.1 lives.2).1).2.messages.length,
        (load (secondSave lives.1 lives.2).1).2.teams.map fun t => t.name.bytes)) =
      some (1, [[124, 92, 10, 13]]) := by
    decide +kernel
  obtain ⟨lives, hlives, hsaves⟩ := Option.map_eq_some_iff.mp hsaves
  rw [hlives] at hloaded hwritten
  simp only [twoLives, Option.bind_eq_bind, Option.bind_eq_some_iff] at hlives
  obtain ⟨previous, hprevious, new, hnew, ⟨rfl⟩⟩ := hlives
  simp only [Option.map_some, Option.some.injEq, Prod.mk.injEq, decide_eq_true_eq] at hsaves hloaded hwritten
  have hreachable : ∀ {events : List World.Event} {w : World},
      Runs.Always World.step World.Unrepeated (World.boot 3 fun _ => none) events →
      Runs.run World.step (World.boot 3 fun _ => none) events = some w → w.Reachable := fun hunrepeated hrun =>
    ⟨3, fun _ => none, _, fun _ => rfl, hunrepeated, hrun⟩
  exact ⟨previous, new, hreachable (by decide +kernel) hprevious, hreachable (by decide +kernel) hnew, hwritten,
    hsaves.1, hsaves.2.1, hsaves.2.2.1, hsaves.2.2.2, hloaded⟩

theorem failed_save_leaves_mixture : ∃ previous new : World, (secondSave previous new).2 = false ∧
    (secondSave previous new).1 .teams = (firstSave previous).1 .teams ∧
    ((load (secondSave previous new).1).2.users.map User.identity = previous.server.users.map User.identity ∨
      ∃ k, (load (secondSave previous new).1).2.users.map User.identity =
        (new.server.users.take k).map User.identity) := by
  obtain ⟨previous, new, hprevious, hnew, ⟨hwritten, hunrepeated⟩, -, hsecond, -⟩ := exists_mixture
  have hfailed : saveInto true (firstSave previous).1 new.server.users new.server.teams new.server.messages
      teamsNotOpened = ((secondSave previous new).1, false) := Prod.ext rfl hsecond
  obtain ⟨-, -, hleaves, -, husers, -⟩ := failed_save_leaves hprevious hnew hwritten rfl hfailed
  exact ⟨previous, new, hsecond, hleaves .teams, husers fun _ => hunrepeated⟩

/-- The states before and after are both lost when the file of the teams cannot be opened. -/
theorem failed_save_mixes :
    ¬ ∀ (previous new : World), previous.Reachable → new.Reachable →
      ∀ (old disk : Disk) (complete : DataFile → WriteOutcome),
      save old previous.server.users previous.server.teams previous.server.messages complete = (disk, true) →
      WritesAll old previous.server.users previous.server.teams previous.server.messages complete →
      ∀ (created : Bool) (outcome : DataFile → WriteOutcome) (disk' : Disk),
      saveInto created disk new.server.users new.server.teams new.server.messages outcome = (disk', false) →
      Yields disk' previous.server ∨ Yields disk' new.server := by
  intro h
  obtain ⟨previous, new, hprevious, hnew, ⟨hwritten, -⟩, hfirst, hsecond, hmessages, hnames, hloaded, hloadedNames⟩ :=
    exists_mixture
  rcases h previous new hprevious hnew _ _ _ (Prod.ext rfl hfirst) hwritten true teamsNotOpened _
    (Prod.ext rfl hsecond) with ⟨users, hload, -⟩ | ⟨users, hload, -⟩
  · have hload : load (secondSave previous new).1 = _ := hload
    rw [hload] at hloaded
    simp only [hmessages] at hloaded
    cases hloaded
  · have hload : load (secondSave previous new).1 = _ := hload
    rw [hload] at hloadedNames
    simp only [hnames] at hloadedNames
    cases hloadedNames

end TeamsMirror
