import TeamsMirror.Database.Forest

/-!
# What loading leaves behind

The files of a storable state, whole or cut short anywhere, are clean, and what
is loaded from clean files is storable: no matter which of the files a save
managed to replace, uuids stay distinct over the whole forest.
-/

namespace TeamsMirror

open Lists OutputFiles

/-- What `parseRecord` accepts. -/
structure AcceptedRecord (file : DataFile) (fields : List Bytes) : Prop where
  length : fields.length = (recordFormat file).expectedFieldCount
  first : (recordFormat file).requireFirstField = true → fields.getD 0 [] ≠ []
  second : (recordFormat file).requireSecondField = true → fields.getD 1 [] ≠ []

theorem parseRecord_eq_some {file : DataFile} {line : Bytes} {delimiter : UInt8} {fields : List Bytes} :
    parseRecord line (recordFormat file) delimiter = some fields ↔
      fields = splitEscapedLine line delimiter ∧ AcceptedRecord file fields := by
  constructor
  · intro h
    simp only [parseRecord] at h
    split at h
    · cases h
    · next hlength =>
      split at h
      · cases h
      · next hfirst =>
        split at h
        · cases h
        · next hsecond =>
          obtain rfl := Option.some.inj h
          exact ⟨rfl, by simpa using hlength, by simpa using hfirst, by simpa using hsecond⟩
  · rintro ⟨rfl, hlength, hfirst, hsecond⟩
    simp only [parseRecord]
    rw [if_neg (by simpa using hlength), if_neg (by simpa using hfirst), if_neg (by simpa using hsecond)]

theorem mem_parseLines {lines : List Bytes} {file : DataFile} {delimiter : UInt8} {fields : List Bytes}
    (h : fields ∈ parseLines lines file delimiter) :
    ∃ line ∈ lines, fields = splitEscapedLine line delimiter ∧ AcceptedRecord file fields := by
  obtain ⟨line, hline, h⟩ := List.mem_filterMap.mp h
  split at h
  · cases h
  · exact ⟨line, hline, parseRecord_eq_some.mp h⟩

theorem copyBuffer_ne_nil {uuid : Bytes} (hne : uuid ≠ []) (hnul : 0 ∉ uuid) :
    (CString.copyBuffer uuidLength uuid).bytes ≠ [] := by
  have htake : 0 ∉ uuid.take (uuidLength - 1) := fun h => hnul (List.mem_of_mem_take h)
  show beforeNul (uuid.take (uuidLength - 1)) ≠ []
  rw [beforeNul_eq_self htake]
  simpa [uuidLength] using hne

namespace Storable

variable {users : List User} {teams : List Team} {messages : List Message} {fields : List Bytes}

theorem insertTeam (h : Storable users teams messages) (hclean : CleanRecord .teams fields) :
    Storable users (insertTeam teams fields) messages := by
  match fields, hclean with
  | [uuid, name, description], hclean =>
    obtain ⟨hne, hfits⟩ := hclean.own uuid rfl
    have hnul := hclean.noNul uuid (by simp)
    rw [TeamsMirror.insertTeam]
    split
    · exact h
    · next hnone =>
      refine h.addTeam ⟨copyBuffer_ne_nil hne hnul, by simp [Team.new], by simp [Team.new]⟩ ?_ rfl
      intro hmem
      obtain ⟨t, ht, he⟩ := List.mem_map.mp hmem
      have hbytes : t.uuid.bytes = uuid := by
        rw [he]
        exact CString.bytes_copyBuffer hfits hnul
      refine hnone (List.find?_isSome.mpr ⟨t, ht, by simpa using hbytes⟩)
  | [], _ | [_], _ | [_, _], _ | _ :: _ :: _ :: _ :: _, _ => exact h

theorem insertSubscription (h : Storable users teams messages)
    (hclean : CleanRecord .teamSubscriptions fields) (haccepted : AcceptedRecord .teamSubscriptions fields) :
    Storable users (insertSubscription teams fields) messages := by
  match fields, hclean, haccepted with
  | [teamUuid, userUuid], hclean, haccepted =>
    have hne : userUuid ≠ [] := haccepted.second rfl
    have huser := copyBuffer_ne_nil hne (hclean.noNul userUuid (by simp))
    rw [TeamsMirror.insertSubscription, updateTeam]
    cases hfind : findTeamByUuid teams teamUuid with
    | none =>
      rw [modifyFirst_of_find?_eq_none hfind]
      exact h
    | some t =>
      refine h.modifyTeam_same hfind (fun _ => rfl) (fun t ht => ⟨ht.uuid, ?_, ht.channels⟩) rfl rfl
      exact List.forall_mem_append.mpr ⟨ht.subscribers, List.forall_mem_singleton.mpr huser⟩
  | [], _, _ | [_], _, _ | _ :: _ :: _ :: _, _, _ => exact h

theorem insertChannel (h : Storable users teams messages) (hclean : CleanRecord .channels fields) :
    Storable users (insertChannel teams fields) messages := by
  match fields, hclean with
  | [teamUuid, uuid, name, description], hclean =>
    obtain ⟨hne, hfits⟩ := hclean.own uuid rfl
    have hnul := hclean.noNul uuid (by simp)
    rw [TeamsMirror.insertChannel, updateTeam]
    split
    · exact h
    · next hfresh =>
      cases hfind : findTeamByUuid teams teamUuid with
      | none =>
        rw [modifyFirst_of_find?_eq_none hfind]
        exact h
      | some t =>
        have hnamed : (Channel.new uuid name description).Named :=
          ⟨copyBuffer_ne_nil hne hnul, by simp [Channel.new]⟩
        refine h.modifyTeam [(Channel.new uuid name description).uuid] []
          hfind (fun _ => rfl) (fun t ht => ht.addChannel hnamed) ?_ ?_ ?_ ?_
        · simp [Team.addChannel, Team.channelUuids]
        · simp [Team.addChannel, Team.threadUuids, Channel.threadUuids, Channel.new]
        · refine nodup_append_singleton h.channelUuids fun hmem => hfresh ?_
          rw [← CString.bytes_copyBuffer hfits hnul]
          exact isChannelUuidUsed_iff.mpr hmem
        · rw [List.append_nil]
          exact h.threadUuids
  | [], _ | [_], _ | [_, _], _ | [_, _, _], _ | _ :: _ :: _ :: _ :: _ :: _, _ => exact h

theorem insertThread (h : Storable users teams messages) (hclean : CleanRecord .threads fields) :
    Storable users (insertThread teams fields) messages := by
  match fields, hclean with
  | [channelUuid, uuid, authorUuid, createdAt, title, body], hclean =>
    obtain ⟨hne, hfits⟩ := hclean.own uuid rfl
    have hnul := hclean.noNul uuid (by simp)
    rw [TeamsMirror.insertThread]
    split
    · exact h
    · next hfresh =>
      cases htime : parseTimeValue createdAt with
      | none => exact h
      | some createdAt =>
      simp only
      cases hfind : teams.find? fun team => team.hasChannel channelUuid with
      | none =>
        rw [modifyFirst_of_find?_eq_none hfind]
        exact h
      | some t =>
        have hnamed : (Thread.new uuid authorUuid createdAt title body).Named :=
          ⟨copyBuffer_ne_nil hne hnul, by simp [Thread.new]⟩
        have hchannel : t.hasChannel channelUuid = true := by simpa using List.find?_some hfind
        obtain ⟨c, hc⟩ := Option.isSome_iff_exists.mp (List.find?_isSome.mpr (List.any_eq_true.mp hchannel))
        refine h.modifyTeam [] [(Thread.new uuid authorUuid createdAt title body).uuid] hfind (fun _ => rfl)
          (fun t ht => ht.updateChannel fun c hc => hc.addThread hnamed) ?_ ?_ ?_ ?_
        · rw [addThreadTo, channelUuids_updateChannel, List.append_nil]
          exact fun _ => rfl
        · refine perm_threadUuids_updateChannel hc ?_
          simp [Channel.addThread, Channel.threadUuids]
        · rw [List.append_nil]
          exact h.channelUuids
        · refine nodup_append_singleton h.threadUuids fun hmem => hfresh ?_
          rw [← CString.bytes_copyBuffer hfits hnul]
          exact isThreadUuidUsed_iff.mpr hmem
  | [], _ | [_], _ | [_, _], _ | [_, _, _], _ | [_, _, _, _], _ | [_, _, _, _, _], _
  | _ :: _ :: _ :: _ :: _ :: _ :: _ :: _, _ => exact h

theorem insertReply (h : Storable users teams messages) (hclean : CleanRecord .messages fields) :
    Storable users (insertReply teams fields) messages := by
  match fields, hclean with
  | [threadUuid, uuid, authorUuid, createdAt, body], hclean =>
    obtain ⟨hne, hfits⟩ := hclean.own uuid rfl
    have hnul := hclean.noNul uuid (by simp)
    rw [TeamsMirror.insertReply]
    cases htime : parseTimeValue createdAt with
    | none => exact h
    | some createdAt =>
    simp only
    cases hfind : teams.find? fun team => team.hasThread threadUuid with
    | none =>
      rw [modifyFirst_of_find?_eq_none hfind]
      exact h
    | some t =>
      have hreply : (Message.new uuid authorUuid createdAt body).IsReply :=
        ⟨copyBuffer_ne_nil hne hnul, rfl⟩
      refine h.modifyTeam_same hfind (fun _ => rfl) (fun t ht => ⟨ht.uuid, ht.subscribers, ?_⟩) ?_ ?_
      · refine forall_modifyFirst ht.channels fun c hc => ?_
        exact hc.updateThread fun d hd => hd.addReply hreply
      · refine map_modifyFirst ?_ t.channels
        exact fun _ => rfl
      · refine flatMap_modifyFirst (fun c => ?_) t.channels
        exact threadUuids_updateThread fun _ => rfl
  | [], _ | [_], _ | [_, _], _ | [_, _, _], _ | [_, _, _, _], _
  | _ :: _ :: _ :: _ :: _ :: _ :: _, _ => exact h

/-- What holds of one record holds of a file. -/
theorem foldl {insert : List Team → List Bytes → List Team} {C : List Bytes → Prop}
    (hstep : ∀ teams fields, Storable users teams messages → C fields →
      Storable users (insert teams fields) messages) {rs : List (List Bytes)}
    (hC : ∀ fields ∈ rs, C fields) (h : Storable users teams messages) :
    Storable users (rs.foldl insert teams) messages := by
  induction rs generalizing teams with
  | nil => exact h
  | cons r rs ih =>
    obtain ⟨hr, hrs⟩ := List.forall_mem_cons.mp hC
    exact ih hrs (hstep teams r h hr)

theorem insertForest {parsed : DataFile → List (List Bytes)} (h : Storable users [] messages)
    (hclean : ∀ file, ∀ fields ∈ parsed file, CleanRecord file fields ∧ AcceptedRecord file fields) :
    Storable users (insertForest parsed) messages := by
  have hteams := h.foldl (fun _ _ hs hc => hs.insertTeam hc.1) (hclean .teams)
  have hsubscriptions := hteams.foldl (fun _ _ hs hc => hs.insertSubscription hc.1 hc.2)
    (hclean .teamSubscriptions)
  have hchannels := hsubscriptions.foldl (fun _ _ hs hc => hs.insertChannel hc.1) (hclean .channels)
  have hthreads := hchannels.foldl (fun _ _ hs hc => hs.insertThread hc.1) (hclean .threads)
  exact hthreads.foldl (fun _ _ hs hc => hs.insertReply hc.1) (hclean .messages)

end Storable

/-- Every record that the loader accepts from the file is clean. -/
def CleanContent (file : DataFile) (content : Bytes) : Prop :=
  ∀ fields ∈ parseLines (Lines.lines 10 content) file 124, CleanRecord file fields

def CleanDisk (disk : Disk) : Prop := ∀ file content, disk file = some content → CleanContent file content

/-- Every record of a storable state has as many fields as its format, and is clean. -/
theorem Storable.records {users : List User} {teams : List Team} {messages : List Message}
    (h : Storable users teams messages) {file : DataFile} {fields : List Bytes}
    (hfields : fields ∈ records users teams messages file) :
    CleanRecord file fields ∧ AcceptedRecord file fields := by
  have hown : ∀ (u : Uuid) uuid, u.bytes ≠ [] → some u.bytes = some uuid →
      uuid ≠ [] ∧ uuid.length ≤ uuidLength - 1 := by
    rintro u uuid hu ⟨rfl⟩
    exact ⟨hu, u.fits⟩
  cases file with
  | users =>
    obtain ⟨u, hu, rfl⟩ := List.mem_map.mp hfields
    refine ⟨⟨?_, fun uuid => hown u.uuid uuid (h.namedUsers u hu)⟩, ⟨rfl, ?_, ?_⟩⟩
    · simp only [userFields, List.forall_mem_cons, CString.zero_notMem_bytes, not_false_eq_true, true_and]
      split <;> simp
    · simp [recordFormat]
    · simp [recordFormat]
  | privateMessages =>
    obtain ⟨m, hm, rfl⟩ := List.mem_map.mp hfields
    obtain ⟨huuid, hauthor⟩ := h.namedMessages m hm
    exact ⟨⟨by simp [privateMessageFields], fun uuid => hown m.uuid uuid huuid⟩,
      ⟨rfl, fun _ => huuid, fun _ => hauthor⟩⟩
  | teams =>
    obtain ⟨t, ht, rfl⟩ := List.mem_map.mp hfields
    have huuid := (h.namedTeams t ht).uuid
    exact ⟨⟨by simp [teamFields], fun uuid => hown t.uuid uuid huuid⟩,
      ⟨rfl, fun _ => huuid, by simp [recordFormat]⟩⟩
  | teamSubscriptions =>
    obtain ⟨t, ht, hfields⟩ := List.mem_flatMap.mp hfields
    obtain ⟨u, hu, rfl⟩ := List.mem_map.mp hfields
    have huuid := (h.namedTeams t ht).uuid
    exact ⟨⟨by simp [teamSubscriptionFields], fun uuid => hown t.uuid uuid huuid⟩,
      ⟨rfl, fun _ => huuid, fun _ => (h.namedTeams t ht).subscribers u hu⟩⟩
  | channels =>
    obtain ⟨t, ht, hfields⟩ := List.mem_flatMap.mp hfields
    obtain ⟨c, hc, rfl⟩ := List.mem_map.mp hfields
    have huuid := ((h.namedTeams t ht).channels c hc).uuid
    exact ⟨⟨by simp [channelFields], fun uuid => hown c.uuid uuid huuid⟩,
      ⟨rfl, fun _ => (h.namedTeams t ht).uuid, fun _ => huuid⟩⟩
  | threads =>
    obtain ⟨t, ht, hfields⟩ := List.mem_flatMap.mp hfields
    obtain ⟨c, hc, hfields⟩ := List.mem_flatMap.mp hfields
    obtain ⟨d, hd, rfl⟩ := List.mem_map.mp hfields
    have hchannel := (h.namedTeams t ht).channels c hc
    have huuid := (hchannel.threads d hd).uuid
    exact ⟨⟨by simp [threadFields], fun uuid => hown d.uuid uuid huuid⟩,
      ⟨rfl, fun _ => hchannel.uuid, fun _ => huuid⟩⟩
  | messages =>
    obtain ⟨t, ht, hfields⟩ := List.mem_flatMap.mp hfields
    obtain ⟨c, hc, hfields⟩ := List.mem_flatMap.mp hfields
    obtain ⟨d, hd, hfields⟩ := List.mem_flatMap.mp hfields
    obtain ⟨m, hm, rfl⟩ := List.mem_map.mp hfields
    have hthread := ((h.namedTeams t ht).channels c hc).threads d hd
    have huuid := (hthread.replies m hm).uuid
    exact ⟨⟨by simp [messageFields], fun uuid => hown m.uuid uuid huuid⟩,
      ⟨rfl, fun _ => hthread.uuid, fun _ => huuid⟩⟩

theorem ownField_lt (file : DataFile) : ownField file < (recordFormat file).expectedFieldCount - 1 := by
  cases file <;> decide

theorem lf_notMem_serializeData {users : List User} {teams : List Team} {messages : List Message}
    {file : DataFile} {line : Bytes} (hline : line ∈ serializeData users teams messages 124 file) :
    10 ∉ line := by
  have hdelimits : Delimits 124 := by decide
  obtain ⟨record, -, rfl⟩ := List.mem_map.mp hline
  exact lf_notMem_joinEscapedFields hdelimits.separates record

/-- However much of a file has been written, its records are clean. -/
theorem Storable.cleanContent {users : List User} {teams : List Team} {messages : List Message}
    (h : Storable users teams messages) (file : DataFile) (size : Nat) :
    CleanContent file ((Lines.unlines 10 (serializeData users teams messages 124 file)).take size) := by
  have hdelimits : Delimits 124 := by decide
  intro fields hfields
  obtain ⟨p, hp, rfl, haccepted⟩ := mem_parseLines hfields
  obtain ⟨line, hline, hpre⟩ := Lines.exists_prefix_of_mem_lines_take (fun _ => lf_notMem_serializeData) hp
  obtain ⟨record, hrecord, rfl⟩ := List.mem_map.mp hline
  obtain ⟨hclean, hfull⟩ := h.records hrecord
  have hlength : record.length = (recordFormat file).expectedFieldCount := hfull.length
  have hown := ownField_lt file
  have hne : record ≠ [] := fun hnil => by simp [hnil] at hlength; omega
  have hnul : 0 ∉ p := fun hmem =>
    nul_notMem_joinEscapedFields hdelimits hclean.noNul (hpre.subset hmem)
  have hsame : (splitEscapedLine p 124).dropLast = record.dropLast := by
    have hdrop := dropLast_splitEscapedLine_prefix 124 hpre
    rw [splitEscapedLine_joinEscapedFields hdelimits.separates hne] at hdrop
    refine hdrop.eq_of_length ?_
    rw [List.length_dropLast, List.length_dropLast, haccepted.length, hlength]
  refine ⟨nul_notMem_splitEscapedLine hnul, fun uuid huuid => hclean.own uuid ?_⟩
  have hat : ∀ l : List Bytes, l.length = (recordFormat file).expectedFieldCount →
      l.dropLast[ownField file]? = l[ownField file]? := by
    intro l hl
    rw [List.getElem?_dropLast, if_pos (by omega)]
  rw [← hat _ hlength, ← hsame, hat _ haccepted.length]
  exact huuid

theorem unlines_eq_flatten (lines : List Bytes) :
    Lines.unlines 10 lines = (lines.flatMap fun line => [line, [10]]).flatten := by
  induction lines with
  | nil => rfl
  | cons line lines ih => simp [Lines.unlines_cons, ih]

theorem holds_outputFile (lines : List Bytes) (insertions : List Insertion) :
    (outputFile lines insertions).Holds (Lines.unlines 10 lines) := by
  rw [unlines_eq_flatten]
  exact OutputFile.holds_opened.insertAll

/-- The file holds a first part of its lines: no write that failed is made again when the stream is closed. -/
def WriteOutcome.Unrepeated (lines : List Bytes) : WriteOutcome → Prop
  | .notOpened => True
  | .opened insertions closing => (outputFile lines insertions).close closing <+: Lines.unlines 10 lines

instance (lines : List Bytes) : ∀ outcome : WriteOutcome, Decidable (outcome.Unrepeated lines)
  | .notOpened => isTrue trivial
  | .opened insertions closing =>
    inferInstanceAs (Decidable ((outputFile lines insertions).close closing <+: Lines.unlines 10 lines))

/-- A save of a storable state, complete or not, keeps a disk clean if no write is made again. -/
theorem CleanDisk.save {disk : Disk} (hdisk : CleanDisk disk) {users : List User} {teams : List Team}
    {messages : List Message} (h : Storable users teams messages) {outcome : DataFile → WriteOutcome}
    (hunrepeated : ∀ file, (outcome file).Unrepeated (serializeData users teams messages 124 file)) :
    CleanDisk (save disk users teams messages outcome).1 := by
  intro file content hcontent
  have hwrite : (writeLines (disk file) (serializeData users teams messages 124 file) (outcome file)).1 =
      some content := hcontent
  have hfile := hunrepeated file
  cases houtcome : outcome file with
  | notOpened =>
    rw [houtcome] at hwrite
    exact hdisk file content hwrite
  | opened insertions closing =>
    rw [houtcome] at hwrite hfile
    cases hwrite
    rw [List.prefix_iff_eq_take.mp hfile]
    exact h.cleanContent file _

/-- What is loaded from a clean disk is storable. -/
theorem CleanDisk.load {disk : Disk} (hdisk : CleanDisk disk) :
    Storable (load disk).2.users (load disk).2.teams (load disk).2.messages := by
  have hclean : ∀ file, ∀ fields ∈ parseLines (readTextFile (disk file)) file 124,
      CleanRecord file fields ∧ AcceptedRecord file fields := by
    intro file fields hfields
    obtain ⟨line, hline, -, haccepted⟩ := mem_parseLines hfields
    cases hcontent : disk file with
    | none =>
      rw [hcontent] at hline
      cases hline
    | some content =>
      rw [hcontent] at hfields
      exact ⟨hdisk file content hcontent fields hfields, haccepted⟩
  rw [TeamsMirror.load]
  split
  · exact .empty
  · simp only
    rw [materializeTeams_loadTeams fun file fields hf => (hclean file fields hf).1]
    refine Storable.insertForest ⟨?_, ?_, by simp, .nil, .nil, .nil⟩ hclean
    · intro u hu
      obtain ⟨fields, hfields, hu⟩ := List.mem_filterMap.mp hu
      obtain ⟨hrecord, -⟩ := hclean .users fields hfields
      match fields, hrecord, hu with
      | [uuid, name, isLoggedIn], hrecord, hu =>
        obtain rfl := Option.some.inj hu
        exact copyBuffer_ne_nil (hrecord.own uuid rfl).1 (hrecord.noNul uuid (by simp))
    · intro m hm
      obtain ⟨fields, hfields, hm⟩ := List.mem_filterMap.mp hm
      obtain ⟨hrecord, haccepted⟩ := hclean .privateMessages fields hfields
      match fields, hrecord, haccepted, hm with
      | [uuid, authorUuid, createdAt, body, receiverUuid], hrecord, haccepted, hm =>
        obtain ⟨time, -, rfl⟩ := Option.map_eq_some_iff.mp hm
        exact ⟨copyBuffer_ne_nil (haccepted.first rfl) (hrecord.noNul uuid (by simp)),
          copyBuffer_ne_nil (haccepted.second rfl) (hrecord.noNul authorUuid (by simp))⟩

end TeamsMirror
