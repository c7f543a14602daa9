import TeamsMirror.Database.Relational

/-!
# Every position in range

`fields.at(i)`, `loadedTeams.at(i)` and the lookups nested in them throw when the
position is out of range. Here the loader is written with these exceptions, and
none of them is raised: `load` and the relational reading are what it returns.
-/

namespace TeamsMirror

open Tables UnorderedMap

/-- Write through the reference that `at(i)` returns. -/
def writeAt {α : Type} (l : List α) (i : Nat) (write : α → Option α) : Option (List α) := do
  let x ← l[i]?
  let y ← write x
  return l.set i y

def LoadedTeam.writeChannelAt (t : LoadedTeam) (channelIndex : Nat)
    (write : LoadedChannel → Option LoadedChannel) : Option LoadedTeam :=
  (writeAt t.channels channelIndex write).map fun channels => { t with channels := channels }

def LoadedChannel.writeThreadAt (c : LoadedChannel) (threadIndex : Nat)
    (write : LoadedThread → Option LoadedThread) : Option LoadedChannel :=
  (writeAt c.threads threadIndex write).map fun threads => { c with threads := threads }

/-- The outer `none` is an exception, the inner one a malformed line. -/
def parseRecordAt (line : Bytes) (format : RecordFormat) (delimiter : UInt8) :
    Option (Option (List Bytes)) := do
  let fields := splitEscapedLine line delimiter
  if fields.length ≠ format.expectedFieldCount then return none
  if format.requireFirstField then
    if (← fields[0]?) = [] then return none
  if format.requireSecondField then
    if (← fields[1]?) = [] then return none
  return some fields

def loadUserAt (users : List User) (fields : List Bytes) : Option (List User) := do
  return users ++ [.new (← fields[0]?) (← fields[1]?) (parseBoolValue (← fields[2]?))]

def loadPrivateMessageAt (messages : List Message) (fields : List Bytes) : Option (List Message) := do
  match parseTimeValue (← fields[2]?) with
  | none => return messages
  | some createdAt =>
    return messages ++ [.new (← fields[0]?) (← fields[1]?) createdAt (← fields[3]?) (← fields[4]?)]

def loadTeamAt (s : Loading) (fields : List Bytes) : Option Loading := do
  let uuid ← fields[0]?
  if uuid ∈ s.teamIndexes then return s
  let team : LoadedTeam := ⟨.new uuid (← fields[1]?) (← fields[2]?), [], []⟩
  let loadedTeams := s.loadedTeams ++ [team]
  return { s with
    loadedTeams := loadedTeams
    teamIndexes := s.teamIndexes.emplace uuid (loadedTeams.length - 1) }

def loadTeamSubscriptionAt (s : Loading) (fields : List Bytes) : Option Loading := do
  match s.teamIndexes.lookup (← fields[0]?) with
  | none => return s
  | some teamIndex =>
    let userUuid ← fields[1]?
    let loadedTeams ← writeAt s.loadedTeams teamIndex fun team =>
      some { team with subscribedUsers := team.subscribedUsers ++ [userUuid] }
    return { s with loadedTeams := loadedTeams }

def loadChannelAt (s : Loading) (fields : List Bytes) : Option Loading := do
  let uuid ← fields[1]?
  if uuid ∈ s.channelIndexes then return s
  match s.teamIndexes.lookup (← fields[0]?) with
  | none => return s
  | some teamIndex =>
    let channels := (← s.loadedTeams[teamIndex]?).channels
    let channelIndex := channels.length
    let channel := Channel.new uuid (← fields[2]?) (← fields[3]?)
    let loadedTeams ← writeAt s.loadedTeams teamIndex fun team =>
      some { team with channels := team.channels ++ [⟨channel, []⟩] }
    return { s with
      loadedTeams := loadedTeams
      channelIndexes := s.channelIndexes.emplace uuid ⟨teamIndex, channelIndex⟩ }

def loadThreadAt (s : Loading) (fields : List Bytes) : Option Loading := do
  let uuid ← fields[1]?
  if uuid ∈ s.threadIndexes then return s
  match parseTimeValue (← fields[3]?) with
  | none => return s
  | some createdAt =>
    match s.channelIndexes.lookup (← fields[0]?) with
    | none => return s
    | some ⟨teamIndex, channelIndex⟩ =>
      let threads := (← (← s.loadedTeams[teamIndex]?).channels[channelIndex]?).threads
      let threadIndex := threads.length
      let thread := Thread.new uuid (← fields[2]?) createdAt (← fields[4]?) (← fields[5]?)
      let loadedTeams ← writeAt s.loadedTeams teamIndex fun team =>
        team.writeChannelAt channelIndex fun channel =>
          some { channel with threads := channel.threads ++ [⟨thread, []⟩] }
      return { s with
        loadedTeams := loadedTeams
        threadIndexes := s.threadIndexes.emplace uuid ⟨teamIndex, channelIndex, threadIndex⟩ }

def loadMessageAt (s : Loading) (fields : List Bytes) : Option Loading := do
  match parseTimeValue (← fields[3]?) with
  | none => return s
  | some createdAt =>
    match s.threadIndexes.lookup (← fields[0]?) with
    | none => return s
    | some ⟨teamIndex, channelIndex, threadIndex⟩ =>
      let reply := Message.new (← fields[1]?) (← fields[2]?) createdAt (← fields[4]?)
      let loadedTeams ← writeAt s.loadedTeams teamIndex fun team =>
        team.writeChannelAt channelIndex fun channel =>
          channel.writeThreadAt threadIndex fun thread =>
            some { thread with replies := thread.replies ++ [reply] }
      return { s with loadedTeams := loadedTeams }

/-- The loop over the lines of a file. -/
def loadLines {σ : Type} (loadAt : σ → List Bytes → Option σ) (file : DataFile) (delimiter : UInt8) (s : σ)
    (lines : List Bytes) : Option σ :=
  lines.foldlM (fun s line => do
    if line = [] then return s
    match ← parseRecordAt line (recordFormat file) delimiter with
    | none => return s
    | some fields => loadAt s fields) s

def loadAt (disk : Disk) (messages : List Message) (delimiter : UInt8) : Option (Bool × Database) := do
  let lines := fun file => readTextFile (disk file)
  let hasSavedData := [DataFile.users, .teams, .teamSubscriptions, .channels, .threads, .messages,
    .privateMessages].any fun file => (disk file).isSome
  if !hasSavedData then return (false, ⟨[], [], messages⟩)
  let users ← loadLines loadUserAt .users delimiter [] (lines .users)
  let s ← loadLines loadTeamAt .teams delimiter .start (lines .teams)
  let s ← loadLines loadTeamSubscriptionAt .teamSubscriptions delimiter s (lines .teamSubscriptions)
  let s ← loadLines loadChannelAt .channels delimiter s (lines .channels)
  let s ← loadLines loadThreadAt .threads delimiter s (lines .threads)
  let s ← loadLines loadMessageAt .messages delimiter s (lines .messages)
  let messages ← loadLines loadPrivateMessageAt .privateMessages delimiter messages (lines .privateMessages)
  return (true, ⟨users, materializeTeams s.loadedTeams, messages⟩)

theorem writeAt_eq {α : Type} {l : List α} {i : Nat} {x : α} {write : α → Option α} (f : α → α)
    (hx : l[i]? = some x) (hf : write x = some (f x)) : writeAt l i write = some (l.modify i f) := by
  rw [List.modify_eq_set_getElem?, hx]
  simp [writeAt, hx, hf]

theorem writeAt_some {α : Type} {l : List α} {i : Nat} {x : α} (f : α → α) (hx : l[i]? = some x) :
    (writeAt l i fun x => some (f x)) = some (l.modify i f) :=
  writeAt_eq f hx rfl

/-- A write into a channel that exists. -/
theorem writeAt_channel {l : List LoadedTeam} {i j : Nat} {t : LoadedTeam} {c : LoadedChannel}
    (f : LoadedChannel → LoadedChannel) (ht : l[i]? = some t) (hc : t.channels[j]? = some c) :
    (writeAt l i fun t => t.writeChannelAt j fun c => some (f c)) =
      some (l.modify i fun t => t.atChannel j f) := by
  refine writeAt_eq (fun t => t.atChannel j f) ht ?_
  rw [LoadedTeam.writeChannelAt, writeAt_some f hc]
  rfl

/-- A write into a thread that exists. -/
theorem writeAt_thread {l : List LoadedTeam} {i j m : Nat} {t : LoadedTeam} {c : LoadedChannel}
    {d : LoadedThread} (f : LoadedThread → LoadedThread) (ht : l[i]? = some t) (hc : t.channels[j]? = some c)
    (hd : c.threads[m]? = some d) :
    (writeAt l i fun t => t.writeChannelAt j fun c => c.writeThreadAt m fun d => some (f d)) =
      some (l.modify i fun t => t.atChannel j fun c => c.atThread m f) := by
  have hchannel : (c.writeThreadAt m fun d => some (f d)) = some (c.atThread m f) := by
    rw [LoadedChannel.writeThreadAt, writeAt_some f hd]
    rfl
  refine writeAt_eq (fun t => t.atChannel j fun c => c.atThread m f) ht ?_
  rw [LoadedTeam.writeChannelAt, writeAt_eq (fun c => c.atThread m f) hc hchannel]
  rfl

theorem expectedFieldCount_pos (file : DataFile) : 2 ≤ (recordFormat file).expectedFieldCount := by
  cases file <;> decide

/-- The positions that are tested for emptiness exist once the number of fields is right. -/
theorem parseRecordAt_eq (line : Bytes) (file : DataFile) (delimiter : UInt8) :
    parseRecordAt line (recordFormat file) delimiter = some (parseRecord line (recordFormat file) delimiter) := by
  have hcount := expectedFieldCount_pos file
  rw [parseRecordAt, parseRecord]
  generalize splitEscapedLine line delimiter = fields
  by_cases hlength : fields.length = (recordFormat file).expectedFieldCount
  · match fields with
    | [] | [_] => simp at hlength; omega
    | first :: second :: rest =>
      have hfirst : (first :: second :: rest)[0]? = some first := rfl
      have hsecond : (first :: second :: rest)[1]? = some second := rfl
      simp only [hlength, ne_eq, not_true_eq_false, if_false, hfirst, hsecond, List.getD_eq_getElem?_getD,
        Option.getD_some]
      by_cases hfirst : first = [] <;> by_cases hsecond : second = [] <;>
        cases (recordFormat file).requireFirstField <;> cases (recordFormat file).requireSecondField <;>
        simp [hfirst, hsecond]
  · simp [hlength]

theorem length_of_parseRecord {line : Bytes} {format : RecordFormat} {delimiter : UInt8} {fields : List Bytes}
    (h : parseRecord line format delimiter = some fields) : fields.length = format.expectedFieldCount := by
  rw [parseRecord] at h
  split at h
  · cases h
  · next hlength =>
    split at h
    · cases h
    · split at h
      · cases h
      · cases h
        exact not_not.mp hlength

theorem parseLines_cons (line : Bytes) (lines : List Bytes) (file : DataFile) (delimiter : UInt8) :
    parseLines (line :: lines) file delimiter =
      (if line = [] then none else parseRecord line (recordFormat file) delimiter).toList ++
        parseLines lines file delimiter := by
  rw [parseLines, List.filterMap_cons]
  cases (if line = [] then none else parseRecord line (recordFormat file) delimiter) <;> rfl

/-- A loop whose body raises no exception as long as an invariant of the records read so far holds. -/
theorem loadLines_eq {σ : Type} (file : DataFile) (I : σ → List (List Bytes) → Prop)
    {loadAt : σ → List Bytes → Option σ} {load : σ → List Bytes → σ}
    (hI : ∀ s records fields, I s records → I (load s fields) (records ++ [fields]))
    (hload : ∀ s records fields, I s records → fields.length = (recordFormat file).expectedFieldCount →
      loadAt s fields = some (load s fields))
    (delimiter : UInt8) (lines : List Bytes) {s : σ} (h : I s []) :
    loadLines loadAt file delimiter s lines = some ((parseLines lines file delimiter).foldl load s) ∧
      I ((parseLines lines file delimiter).foldl load s) (parseLines lines file delimiter) := by
  suffices hrun : ∀ records s, I s records →
      loadLines loadAt file delimiter s lines = some ((parseLines lines file delimiter).foldl load s) ∧
        I ((parseLines lines file delimiter).foldl load s) (records ++ parseLines lines file delimiter) from
    hrun [] s h
  induction lines with
  | nil =>
    intro records s hs
    rw [parseLines, List.filterMap_nil, List.append_nil]
    exact ⟨rfl, hs⟩
  | cons line lines ih =>
    intro records s hs
    rw [loadLines, List.foldlM_cons, parseLines_cons, List.foldl_append]
    by_cases hline : line = []
    · rw [if_pos hline, if_pos hline]
      exact ih records s hs
    rw [if_neg hline, if_neg hline, parseRecordAt_eq]
    cases hparse : parseRecord line (recordFormat file) delimiter with
    | none => exact ih records s hs
    | some fields =>
      have hstep := hload s records fields hs (length_of_parseRecord hparse)
      have hrest := ih _ _ (hI s records fields hs)
      rw [List.append_assoc] at hrest
      simp only [Option.bind_eq_bind, Option.bind_some, hstep]
      exact hrest

/-- A loop that only appends what it reads. -/
theorem loadLines_eq_filterMap {α : Type} (file : DataFile) {loadAt : List α → List Bytes → Option (List α)}
    {read : List Bytes → Option α}
    (hload : ∀ l fields, fields.length = (recordFormat file).expectedFieldCount →
      loadAt l fields = some (l ++ (read fields).toList))
    (delimiter : UInt8) (lines : List Bytes) (l : List α) :
    loadLines loadAt file delimiter l lines =
      some (l ++ (parseLines lines file delimiter).filterMap read) := by
  have hstep : ∀ l' records fields, l' = l ++ records.filterMap read →
      l' ++ (read fields).toList = l ++ (records ++ [fields]).filterMap read := by
    intro l' records fields hl
    rw [filterMap_concat, hl, List.append_assoc]
  have hloop := loadLines_eq file (fun l' records => l' = l ++ records.filterMap read) hstep
    (fun l' _ fields _ => hload l' fields) delimiter lines (List.append_nil l).symm
  rw [hloop.1, hloop.2]

theorem loadUserAt_eq {users : List User} {fields : List Bytes} (h : fields.length = 3) :
    loadUserAt users fields = some (users ++ (loadUser fields).toList) := by
  match fields with
  | [_, _, _] => rfl

theorem loadPrivateMessageAt_eq {messages : List Message} {fields : List Bytes} (h : fields.length = 5) :
    loadPrivateMessageAt messages fields = some (messages ++ (loadPrivateMessage fields).toList) := by
  match fields with
  | [_, _, createdAt, _, _] =>
    cases hcreated : parseTimeValue createdAt <;> simp [loadPrivateMessageAt, loadPrivateMessage, hcreated]

namespace Loading.Reads

variable {s : Loading} {R : Reading}

theorem loadTeamAt (s : Loading) {fields : List Bytes} (h : fields.length = 3) :
    loadTeamAt s fields = some (TeamsMirror.loadTeam s fields) := by
  match fields with
  | [uuid, _, _] =>
    by_cases hused : uuid ∈ s.teamIndexes <;> simp [TeamsMirror.loadTeamAt, TeamsMirror.loadTeam, hused]

theorem loadTeamSubscriptionAt (h : s.Reads R) {fields : List Bytes} (hlength : fields.length = 2) :
    loadTeamSubscriptionAt s fields = some (TeamsMirror.loadTeamSubscription s fields) := by
  match fields with
  | [teamUuid, userUuid] =>
    cases hk : s.teamIndexes.lookup teamUuid with
    | none => simp [TeamsMirror.loadTeamSubscriptionAt, TeamsMirror.loadTeamSubscription, hk]
    | some i =>
      obtain ⟨t, -, hloaded, -⟩ := h.exists_team hk
      have hwrite := writeAt_some (fun team : LoadedTeam =>
        { team with subscribedUsers := team.subscribedUsers ++ [userUuid] }) hloaded
      simp [TeamsMirror.loadTeamSubscriptionAt, TeamsMirror.loadTeamSubscription, hk, hwrite]

theorem loadChannelAt (h : s.Reads R) {fields : List Bytes} (hlength : fields.length = 4) :
    loadChannelAt s fields = some (TeamsMirror.loadChannel s fields) := by
  match fields with
  | [teamUuid, uuid, name, description] =>
    by_cases hused : uuid ∈ s.channelIndexes
    · simp [TeamsMirror.loadChannelAt, TeamsMirror.loadChannel, hused]
    cases hk : s.teamIndexes.lookup teamUuid with
    | none => simp [TeamsMirror.loadChannelAt, TeamsMirror.loadChannel, hused, hk]
    | some i =>
      obtain ⟨t, -, hloaded, -⟩ := h.exists_team hk
      have hwrite := writeAt_some (fun team : LoadedTeam =>
        { team with channels := team.channels ++ [⟨.new uuid name description, []⟩] }) hloaded
      simp [TeamsMirror.loadChannelAt, TeamsMirror.loadChannel, hused, hk, hwrite, hloaded]

theorem loadThreadAt (h : s.Reads R) {fields : List Bytes} (hlength : fields.length = 6) :
    loadThreadAt s fields = some (TeamsMirror.loadThread s fields) := by
  match fields with
  | [channelUuid, uuid, authorUuid, createdAt, title, body] =>
    by_cases hused : uuid ∈ s.threadIndexes
    · simp [TeamsMirror.loadThreadAt, TeamsMirror.loadThread, hused]
    cases htime : parseTimeValue createdAt with
    | none => simp [TeamsMirror.loadThreadAt, TeamsMirror.loadThread, hused, htime]
    | some time =>
    cases hk : s.channelIndexes.lookup channelUuid with
    | none => simp [TeamsMirror.loadThreadAt, TeamsMirror.loadThread, hused, htime, hk]
    | some p =>
      obtain ⟨i, j⟩ := p
      obtain ⟨t, c, -, hteam, -, hchannel, -⟩ := h.exists_channel hk
      have hwrite := writeAt_channel (fun channel : LoadedChannel =>
        { channel with threads := channel.threads ++ [⟨.new uuid authorUuid time title body, []⟩] }) hteam hchannel
      simp [TeamsMirror.loadThreadAt, TeamsMirror.loadThread, hused, htime, hk, hteam, hchannel, hwrite]

theorem loadMessageAt (h : s.Reads R) {fields : List Bytes} (hlength : fields.length = 5) :
    loadMessageAt s fields = some (TeamsMirror.loadMessage s fields) := by
  match fields with
  | [threadUuid, uuid, authorUuid, createdAt, body] =>
    cases htime : parseTimeValue createdAt with
    | none => simp [TeamsMirror.loadMessageAt, TeamsMirror.loadMessage, htime]
    | some time =>
    cases hk : s.threadIndexes.lookup threadUuid with
    | none => simp [TeamsMirror.loadMessageAt, TeamsMirror.loadMessage, htime, hk]
    | some p =>
      obtain ⟨i, j, m⟩ := p
      obtain ⟨t, c, d, -, hteam, -, hchannel, -, hthread, -⟩ := h.exists_thread hk
      have hwrite := writeAt_thread (fun thread : LoadedThread =>
        { thread with replies := thread.replies ++ [.new uuid authorUuid time body] }) hteam hchannel hthread
      simp [TeamsMirror.loadMessageAt, TeamsMirror.loadMessage, htime, hk, hwrite]

end Loading.Reads

/-- What the seven files say: users and private messages in file order, and the forest of the
accepted records. -/
def relationalReading (disk : Disk) (messages : List Message) (delimiter : UInt8) : Bool × Database :=
  let parsed := fun file => parseLines (readTextFile (disk file)) file delimiter
  let hasSavedData := [DataFile.users, .teams, .teamSubscriptions, .channels, .threads, .messages,
    .privateMessages].any fun file => (disk file).isSome
  if !hasSavedData then (false, ⟨[], [], messages⟩)
  else
    (true,
      { users := (parsed .users).filterMap loadUser
        teams := (Reading.ofFiles parsed).forest
        messages := messages ++ (parsed .privateMessages).filterMap loadPrivateMessage })

theorem load_eq_relationalReading (disk : Disk) (messages : List Message) (delimiter : UInt8) :
    load disk messages delimiter = relationalReading disk messages delimiter := by
  simp only [load, relationalReading, materializeTeams_loadTeams_eq_forest]

theorem loadAt_eq_load (disk : Disk) (messages : List Message) (delimiter : UInt8) :
    loadAt disk messages delimiter = some (load disk messages delimiter) := by
  have husers := loadLines_eq_filterMap .users (fun _ _ => loadUserAt_eq) delimiter
    (readTextFile (disk .users)) []
  have hmessages := loadLines_eq_filterMap .privateMessages (fun _ _ => loadPrivateMessageAt_eq) delimiter
    (readTextFile (disk .privateMessages)) messages
  -- each file of the forest starts from what the files before it have left
  let parsed := fun file => parseLines (readTextFile (disk file)) file delimiter
  let R₁ := Reading.empty.acceptTeams (parsed .teams)
  let R₂ := R₁.acceptSubscriptions (parsed .teamSubscriptions)
  let R₃ := R₂.acceptChannels (parsed .channels)
  let R₄ := R₃.acceptThreads (parsed .threads)
  obtain ⟨hteams, h₁⟩ := loadLines_eq .teams
    (fun (s : Loading) records => s.Reads (Reading.empty.acceptTeams records))
    (fun _ _ fields h => h.loadTeam fields) (fun s _ fields _ h => Loading.Reads.loadTeamAt s h)
    delimiter (readTextFile (disk .teams)) .start
  obtain ⟨hsubscriptions, h₂⟩ := loadLines_eq .teamSubscriptions
    (fun (s : Loading) records => s.Reads (R₁.acceptSubscriptions records))
    (fun _ _ fields h => h.loadTeamSubscription fields) (fun _ _ fields h => h.loadTeamSubscriptionAt)
    delimiter (readTextFile (disk .teamSubscriptions)) h₁
  obtain ⟨hchannels, h₃⟩ := loadLines_eq .channels
    (fun (s : Loading) records => s.Reads (R₂.acceptChannels records))
    (fun _ _ fields h => h.loadChannel fields) (fun _ _ fields h => h.loadChannelAt)
    delimiter (readTextFile (disk .channels)) h₂
  obtain ⟨hthreads, h₄⟩ := loadLines_eq .threads
    (fun (s : Loading) records => s.Reads (R₃.acceptThreads records))
    (fun _ _ fields h => h.loadThread fields) (fun _ _ fields h => h.loadThreadAt)
    delimiter (readTextFile (disk .threads)) h₃
  obtain ⟨hreplies, -⟩ := loadLines_eq .messages
    (fun (s : Loading) records => s.Reads (R₄.acceptReplies records))
    (fun _ _ fields h => h.loadMessage fields) (fun _ _ fields h => h.loadMessageAt)
    delimiter (readTextFile (disk .messages)) h₄
  rw [loadAt, load]
  split
  · rfl
  · simp only [husers, hteams, hsubscriptions, hchannels, hthreads, hreplies, hmessages, Option.bind_eq_bind,
      Option.bind_some, List.nil_append]
    rfl

/-- Whatever the files hold, loading raises no exception and gives their relational reading. -/
theorem load_raises_nothing (disk : Disk) (messages : List Message) (delimiter : UInt8) :
    loadAt disk messages delimiter = some (relationalReading disk messages delimiter) ∧
      load disk messages delimiter = relationalReading disk messages delimiter := by
  have hload := load_eq_relationalReading disk messages delimiter
  constructor
  · rw [loadAt_eq_load, hload]
  · exact hload

end TeamsMirror
