import TeamsMirror.Database.Storage

/-!
# The round trip

Inserting the records of a storable forest, file by file, builds the forest
again: first the teams, then what belongs to each team, channel and thread, in
the order in which it was written.
-/

namespace TeamsMirror

open Lists Numerals

def Thread.bare (d : Thread) : Thread := { d with replies := [] }

def Channel.bare (c : Channel) : Channel := { c with threads := [] }

def Team.bare (t : Team) : Team := { t with subscribedUserUuids := [], channels := [] }

def Team.withoutChannels (t : Team) : Team := { t with channels := [] }

def Team.withoutThreads (t : Team) : Team := { t with channels := t.channels.map Channel.bare }

def Channel.withoutReplies (c : Channel) : Channel := { c with threads := c.threads.map Thread.bare }

def Team.withoutReplies (t : Team) : Team := { t with channels := t.channels.map Channel.withoutReplies }

theorem Thread.new_bytes (d : Thread) :
    Thread.new d.uuid.bytes d.authorUuid.bytes d.createdAt d.title.bytes d.body.bytes = d.bare := by
  simp [Thread.new, Thread.bare]

theorem Channel.new_bytes (c : Channel) :
    Channel.new c.uuid.bytes c.name.bytes c.description.bytes = c.bare := by
  simp [Channel.new, Channel.bare]

theorem Team.new_bytes (t : Team) : Team.new t.uuid.bytes t.name.bytes t.description.bytes = t.bare := by
  simp [Team.new, Team.bare]

theorem Message.new_bytes {m : Message} (h : m.receiverUuid = .empty _) :
    Message.new m.uuid.bytes m.authorUuid.bytes m.createdAt m.body.bytes = m := by
  have hempty : CString.copyBuffer uuidLength [] = .empty _ := rfl
  simp [Message.new, hempty, ← h]

theorem parseTimeValue_toDecimal (t : Int64) : parseTimeValue (toDecimal t.toInt) = some t := by
  have hrange := stoll_toDecimal t.minValue_le_toInt t.toInt_lt
  simp [parseTimeValue, hrange]

theorem foldl_insertTeam (done : List Team) {rest : List Team} (h : ((done ++ rest).map Team.uuid).Nodup) :
    (rest.map teamFields).foldl insertTeam (done.map Team.bare) = (done ++ rest).map Team.bare := by
  induction rest generalizing done with
  | nil => simp
  | cons t rest ih =>
    have hfresh : findTeamByUuid (done.map Team.bare) t.uuid.bytes = none := by
      refine List.find?_eq_none.mpr fun u hu => ?_
      obtain ⟨v, hv, rfl⟩ := List.mem_map.mp hu
      have hne : v.uuid ≠ t.uuid := by
        rw [List.map_append, List.nodup_append] at h
        exact h.2.2 v.uuid (List.mem_map_of_mem hv) t.uuid (by simp)
      simpa [Team.bare, CString.bytes_inj] using hne
    have hstep : insertTeam (done.map Team.bare) (teamFields t) = (done ++ [t]).map Team.bare := by
      simp [insertTeam, teamFields, hfresh, Team.new_bytes]
    rw [List.map_cons, List.foldl_cons, hstep, ih (done ++ [t]) (by simpa using h)]
    simp

theorem nodup_uuids {α : Type} {f : α → Uuid} {l : List α} (h : (l.map f).Nodup) :
    (l.map fun x => (f x).bytes).Nodup := by
  have hbytes := h.map (f := CString.bytes) fun _ _ => CString.ext
  rwa [List.map_map] at hbytes

/-- The records of what belongs to each element, as pairs of its uuid and what belongs to it. -/
def under {α β : Type} (uuid : α → Uuid) (children : α → List β) (l : List α) : List (Bytes × β) :=
  l.flatMap fun x => (children x).map fun c => ((uuid x).bytes, c)

theorem group_under {α β : Type} {uuid : α → Uuid} (children : α → List β) {l : List α}
    (h : (l.map uuid).Nodup) {x : α} (hx : x ∈ l) :
    group (uuid x).bytes (under uuid children l) = children x :=
  group_flatMap (fun x => (uuid x).bytes) (nodup_uuids h) children hx

def subscriptionPairs (teams : List Team) : List (Bytes × Uuid) :=
  under Team.uuid Team.subscribedUserUuids teams

def channelPairs (teams : List Team) : List (Bytes × Channel) := under Team.uuid Team.channels teams

def threadPairs (teams : List Team) : List (Bytes × Thread) :=
  under Channel.uuid Channel.threads (teams.flatMap Team.channels)

def replyPairs (teams : List Team) : List (Bytes × Message) :=
  under Thread.uuid Thread.replies (teams.flatMap fun t => t.channels.flatMap Channel.threads)

theorem foldl_insertSubscription {teams : List Team} (h : (teams.map Team.uuid).Nodup) :
    (records [] teams [] .teamSubscriptions).foldl insertSubscription (teams.map Team.bare) =
      teams.map Team.withoutChannels := by
  have hrecords : records [] teams [] .teamSubscriptions =
      (subscriptionPairs teams).map fun r => [r.1, r.2.bytes] := by
    simp only [records, subscriptionPairs, under, List.map_flatMap, List.map_map]
    rfl
  have hkeys : ((teams.map Team.bare).map fun t => t.uuid.bytes).Nodup := by
    rw [List.map_map]
    exact nodup_uuids h
  have hfold := foldl_modifyFirst_group (fun t (u : Uuid) => t.addSubscribedUser u.bytes)
    (fun _ _ => rfl) (subscriptionPairs teams) hkeys
  rw [hrecords, List.foldl_map]
  refine hfold.trans ?_
  rw [List.map_map]
  refine List.map_congr_left fun t ht => ?_
  have hgroup : group t.uuid.bytes (subscriptionPairs teams) = t.subscribedUserUuids :=
    group_under Team.subscribedUserUuids h ht
  simp [Team.bare, Team.withoutChannels, hgroup, Team.foldl_addSubscribedUser]

/-- Records with distinct uuids, none of them in use: no record is skipped. -/
theorem foldl_fresh {β : Type} (uuid : β → Uuid) (used : List Team → Bytes → Bool)
    {insert : List Team → β → List Team} (update : List Team → β → List Team)
    (hinsert : ∀ teams b, used teams (uuid b).bytes = false → insert teams b = update teams b)
    (hused : ∀ teams b k, used (update teams b) k = true → used teams k = true ∨ k = (uuid b).bytes)
    {rs : List β} (hdistinct : (rs.map uuid).Nodup) {teams : List Team}
    (hfresh : ∀ b ∈ rs, used teams (uuid b).bytes = false) :
    rs.foldl insert teams = rs.foldl update teams := by
  induction rs generalizing teams with
  | nil => rfl
  | cons b rs ih =>
    obtain ⟨hb, hrs⟩ := List.forall_mem_cons.mp hfresh
    obtain ⟨hnot, hdistinct⟩ := List.nodup_cons.mp hdistinct
    rw [List.foldl_cons, List.foldl_cons, hinsert teams b hb]
    refine ih hdistinct fun c hc => ?_
    by_contra hc'
    rcases hused teams b _ (by simpa using hc') with hold | hnew
    · rw [hrs c hc] at hold
      cases hold
    · exact hnot (List.mem_map.mpr ⟨c, hc, CString.ext hnew⟩)

theorem isChannelUuidUsed_addChannel {teams : List Team} {c : Channel} {teamUuid k : Bytes}
    (h : isChannelUuidUsed (updateTeam teams teamUuid fun t => t.addChannel c) k = true) :
    isChannelUuidUsed teams k = true ∨ k = c.uuid.bytes := by
  obtain ⟨t, ht, h⟩ := List.any_eq_true.mp h
  rcases mem_modifyFirst ht with ht | ⟨u, hu, -, rfl⟩
  · exact .inl (List.any_eq_true.mpr ⟨t, ht, h⟩)
  · rcases List.any_append.symm.trans h |> Bool.or_eq_true_iff.mp with h | h
    · exact .inl (List.any_eq_true.mpr ⟨u, hu, h⟩)
    · have he : c.uuid.bytes = k := by simpa using h
      exact .inr he.symm

theorem foldl_insertChannel {teams : List Team} (h : (teams.map Team.uuid).Nodup)
    (hchannels : (teams.flatMap Team.channelUuids).Nodup) :
    (records [] teams [] .channels).foldl insertChannel (teams.map Team.withoutChannels) =
      teams.map Team.withoutThreads := by
  have hrecords : records [] teams [] .channels = (channelPairs teams).map fun r =>
      [r.1, r.2.uuid.bytes, r.2.name.bytes, r.2.description.bytes] := by
    simp only [records, channelPairs, under, List.map_flatMap, List.map_map]
    rfl
  have hdistinct : ((channelPairs teams).map fun r => r.2.uuid).Nodup := by
    simp only [channelPairs, under, List.map_flatMap, List.map_map]
    exact hchannels
  have hkeys : ((teams.map Team.withoutChannels).map fun t => t.uuid.bytes).Nodup := by
    rw [List.map_map]
    exact nodup_uuids h
  have hfresh : ∀ r ∈ channelPairs teams,
      isChannelUuidUsed (teams.map Team.withoutChannels) r.2.uuid.bytes = false := by
    simp [isChannelUuidUsed, Team.withoutChannels]
  have hfold := foldl_modifyFirst_group (fun t (c : Channel) => t.addChannel c.bare)
    (fun _ _ => rfl) (channelPairs teams) hkeys
  rw [hrecords, List.foldl_map]
  refine (foldl_fresh (fun r : Bytes × Channel => r.2.uuid) isChannelUuidUsed
    (fun teams r => updateTeam teams r.1 fun t => t.addChannel r.2.bare)
    (fun teams r hr => ?_) (fun teams r k hk => ?_) hdistinct hfresh).trans (hfold.trans ?_)
  · rw [insertChannel, hr, Channel.new_bytes]
    rfl
  · exact isChannelUuidUsed_addChannel (c := r.2.bare) hk
  · rw [List.map_map]
    refine List.map_congr_left fun t ht => ?_
    have hgroup : group t.uuid.bytes (channelPairs teams) = t.channels := group_under Team.channels h ht
    simp [Team.withoutChannels, Team.withoutThreads, hgroup, Team.foldl_addChannel Channel.bare]

theorem isThreadUuidUsed_addThreadTo {teams : List Team} {d : Thread} {channelUuid k : Bytes}
    {p : Team → Bool} (h : isThreadUuidUsed (modifyFirst p (addThreadTo channelUuid d) teams) k = true) :
    isThreadUuidUsed teams k = true ∨ k = d.uuid.bytes := by
  obtain ⟨t, ht, h⟩ := List.any_eq_true.mp h
  rcases mem_modifyFirst ht with ht | ⟨u, hu, -, rfl⟩
  · exact .inl (List.any_eq_true.mpr ⟨t, ht, h⟩)
  obtain ⟨c, hc, h⟩ := List.any_eq_true.mp h
  rcases mem_modifyFirst hc with hc | ⟨e, he, -, rfl⟩
  · exact .inl (List.any_eq_true.mpr ⟨u, hu, List.any_eq_true.mpr ⟨c, hc, h⟩⟩)
  · rcases List.any_append.symm.trans h |> Bool.or_eq_true_iff.mp with h | h
    · exact .inl (List.any_eq_true.mpr ⟨u, hu, List.any_eq_true.mpr ⟨e, he, h⟩⟩)
    · have he : d.uuid.bytes = k := by simpa using h
      exact .inr he.symm

/-- All records of threads, replayed on one team. -/
theorem foldl_addThreadTo {t : Team} (h : t.channelUuids.Nodup) (rs : List (Bytes × Thread)) :
    rs.foldl (fun t r => addThreadTo r.1 r.2.bare t) t =
      { t with channels := t.channels.map fun c =>
        { c with threads := c.threads ++ (group c.uuid.bytes rs).map Thread.bare } } := by
  have hfold := foldl_modifyFirst_group (fun c (d : Thread) => c.addThread d.bare)
    (fun _ _ => rfl) rs (nodup_uuids h)
  simp only [Channel.foldl_addThread Thread.bare] at hfold
  rw [← hfold]
  clear h hfold
  induction rs generalizing t with
  | nil => rfl
  | cons r rs ih => rw [List.foldl_cons, List.foldl_cons, ih]; rfl

theorem mem_channelUuids_bytes {t : Team} {k : Bytes} :
    t.hasChannel k = true ↔ k ∈ t.channels.map fun c => c.uuid.bytes := by
  simp [Team.hasChannel]

theorem channelUuids_addThreadTo (k : Bytes) (d : Thread) (t : Team) :
    ((addThreadTo k d t).channels.map fun c => c.uuid.bytes) = t.channels.map fun c => c.uuid.bytes := by
  refine map_modifyFirst ?_ t.channels
  exact fun _ => rfl

theorem addThreadTo_of_notMem {t : Team} {k : Bytes} (h : k ∉ t.channels.map fun c => c.uuid.bytes)
    (d : Thread) : addThreadTo k d t = t := by
  rw [addThreadTo, updateChannel, modifyFirst_of_find?_eq_none (find?_key_eq_none.mpr h)]

theorem foldl_insertThread {teams : List Team} (h : (teams.flatMap Team.channelUuids).Nodup)
    (hthreads : (teams.flatMap Team.threadUuids).Nodup) :
    (records [] teams [] .threads).foldl insertThread (teams.map Team.withoutThreads) =
      teams.map Team.withoutReplies := by
  have hrecords : records [] teams [] .threads = (threadPairs teams).map fun r =>
      [r.1, r.2.uuid.bytes, r.2.authorUuid.bytes, toDecimal r.2.createdAt.toInt, r.2.title.bytes,
        r.2.body.bytes] := by
    simp only [records, threadPairs, under, List.map_flatMap, List.map_map, List.flatMap_assoc]
    rfl
  have hdistinct : ((threadPairs teams).map fun r => r.2.uuid).Nodup := by
    simp only [threadPairs, under, List.map_flatMap, List.map_map, List.flatMap_assoc]
    exact hthreads
  have hfresh : ∀ r ∈ threadPairs teams,
      isThreadUuidUsed (teams.map Team.withoutThreads) r.2.uuid.bytes = false := by
    simp [isThreadUuidUsed, Team.withoutThreads, Channel.bare]
  have hkeys : ((teams.map Team.withoutThreads).flatMap
      fun t => t.channels.map fun c => c.uuid.bytes).Nodup := by
    have hbytes := h.map (f := CString.bytes) fun _ _ => CString.ext
    simp only [List.flatMap_map, List.map_flatMap, List.map_map, Team.channelUuids, Team.withoutThreads]
      at hbytes ⊢
    exact hbytes
  have hfold := foldl_modifyFirst_owner (fun t : Team => t.channels.map fun c => c.uuid.bytes) Prod.fst
    (fun (r : Bytes × Thread) t => addThreadTo r.1 r.2.bare t) (fun k t => mem_channelUuids_bytes)
    (fun r t => channelUuids_addThreadTo r.1 r.2.bare t) (fun r t hr => addThreadTo_of_notMem hr r.2.bare)
    (threadPairs teams) hkeys
  rw [hrecords, List.foldl_map]
  refine (foldl_fresh (fun r : Bytes × Thread => r.2.uuid) isThreadUuidUsed
    (fun teams r => modifyFirst (fun t => t.hasChannel r.1) (addThreadTo r.1 r.2.bare) teams)
    (fun teams r hr => ?_) (fun teams r k hk => ?_) hdistinct hfresh).trans (hfold.trans ?_)
  · simp [insertThread, hr, parseTimeValue_toDecimal, Thread.new_bytes]
  · exact isThreadUuidUsed_addThreadTo (d := r.2.bare) hk
  · rw [List.map_map]
    refine List.map_congr_left fun t ht => ?_
    have hnodup : t.channelUuids.Nodup := (List.nodup_flatMap.mp h).1 t ht
    have hbare : t.withoutThreads.channelUuids.Nodup := by
      simpa [Team.channelUuids, Team.withoutThreads, Function.comp_def, Channel.bare] using hnodup
    have hall : ((teams.flatMap Team.channels).map Channel.uuid).Nodup := by
      rw [List.map_flatMap]
      exact h
    have hgroup : ∀ c ∈ t.channels, group c.uuid.bytes (threadPairs teams) = c.threads := fun c hc =>
      group_under Channel.threads hall (List.mem_flatMap.mpr ⟨t, ht, hc⟩)
    rw [Function.comp_apply, foldl_addThreadTo hbare]
    simp only [Team.withoutThreads, Team.withoutReplies, List.map_map, Team.mk.injEq, true_and]
    refine List.map_congr_left fun c hc => ?_
    simp [Channel.bare, Channel.withoutReplies, hgroup c hc]

theorem mem_threadUuids_bytes {c : Channel} {k : Bytes} :
    c.hasThread k = true ↔ k ∈ c.threads.map fun d => d.uuid.bytes := by
  simp [Channel.hasThread]

def addReplyToChannel (threadUuid : Bytes) (m : Message) (c : Channel) : Channel :=
  updateThread c threadUuid fun thread => thread.addReply m

theorem addReplyToChannel_of_notMem {c : Channel} {k : Bytes} (h : k ∉ c.threads.map fun d => d.uuid.bytes)
    (m : Message) : addReplyToChannel k m c = c := by
  rw [addReplyToChannel, updateThread, modifyFirst_of_find?_eq_none (find?_key_eq_none.mpr h)]

/-- All records of replies, replayed on one channel. -/
theorem foldl_addReplyToChannel {c : Channel} (h : c.threadUuids.Nodup) (rs : List (Bytes × Message)) :
    rs.foldl (fun c r => addReplyToChannel r.1 r.2 c) c =
      { c with threads := c.threads.map fun d =>
        { d with replies := d.replies ++ group d.uuid.bytes rs } } := by
  have hfold := foldl_modifyFirst_group (Thread.addReply) (fun _ _ => rfl) rs (nodup_uuids h)
  simp only [Thread.foldl_addReply] at hfold
  rw [← hfold]
  clear h hfold
  induction rs generalizing c with
  | nil => rfl
  | cons r rs ih => rw [List.foldl_cons, List.foldl_cons, ih]; rfl

theorem hasThread_iff {t : Team} {k : Bytes} :
    t.hasThread k = true ↔ k ∈ t.channels.flatMap fun c => c.threads.map fun d => d.uuid.bytes := by
  simp [Team.hasThread, Channel.hasThread]

theorem threadUuids_addReplyToChannel (k : Bytes) (m : Message) (c : Channel) :
    ((addReplyToChannel k m c).threads.map fun d => d.uuid.bytes) = c.threads.map fun d => d.uuid.bytes := by
  refine map_modifyFirst ?_ c.threads
  exact fun _ => rfl

theorem threadUuids_addReplyTo (k : Bytes) (m : Message) (t : Team) :
    ((addReplyTo k m t).channels.flatMap fun c => c.threads.map fun d => d.uuid.bytes) =
      t.channels.flatMap fun c => c.threads.map fun d => d.uuid.bytes :=
  flatMap_modifyFirst (threadUuids_addReplyToChannel k m) t.channels

theorem addReplyTo_of_notMem {t : Team} {k : Bytes}
    (h : k ∉ t.channels.flatMap fun c => c.threads.map fun d => d.uuid.bytes) (m : Message) :
    addReplyTo k m t = t := by
  have hnone : (t.channels.find? fun c => c.hasThread k) = none := by
    refine List.find?_eq_none.mpr fun c hc hk => h ?_
    exact List.mem_flatMap.mpr ⟨c, hc, mem_threadUuids_bytes.mp hk⟩
  rw [addReplyTo, modifyFirst_of_find?_eq_none hnone]

/-- All records of replies, replayed on one team. -/
theorem foldl_addReplyTo {t : Team} (h : t.threadUuids.Nodup) (rs : List (Bytes × Message)) :
    rs.foldl (fun t r => addReplyTo r.1 r.2 t) t =
      { t with channels := t.channels.map fun c =>
        { c with threads := c.threads.map fun d =>
          { d with replies := d.replies ++ group d.uuid.bytes rs } } } := by
  have hkeys : (t.channels.flatMap fun c => c.threads.map fun d => d.uuid.bytes).Nodup := by
    have hbytes := h.map (f := CString.bytes) fun _ _ => CString.ext
    simp only [Team.threadUuids, Channel.threadUuids, List.map_flatMap, List.map_map] at hbytes
    exact hbytes
  have hfold := foldl_modifyFirst_owner (fun c : Channel => c.threads.map fun d => d.uuid.bytes) Prod.fst
    (fun (r : Bytes × Message) c => addReplyToChannel r.1 r.2 c) (fun k c => mem_threadUuids_bytes)
    (fun r c => threadUuids_addReplyToChannel r.1 r.2 c) (fun r c hr => addReplyToChannel_of_notMem hr r.2)
    rs hkeys
  have hchannels : ∀ c ∈ t.channels, rs.foldl (fun c r => addReplyToChannel r.1 r.2 c) c =
      { c with threads := c.threads.map fun d =>
        { d with replies := d.replies ++ group d.uuid.bytes rs } } := fun c hc =>
    foldl_addReplyToChannel ((List.nodup_flatMap.mp h).1 c hc) rs
  rw [List.map_congr_left hchannels] at hfold
  rw [← hfold]
  clear h hkeys hchannels hfold
  induction rs generalizing t with
  | nil => rfl
  | cons r rs ih => rw [List.foldl_cons, List.foldl_cons, ih]; rfl

theorem foldl_insertReply {users : List User} {teams : List Team} {messages : List Message}
    (h : Storable users teams messages) :
    (records [] teams [] .messages).foldl insertReply (teams.map Team.withoutReplies) = teams := by
  have hrecords : records [] teams [] .messages = (replyPairs teams).map fun r =>
      [r.1, r.2.uuid.bytes, r.2.authorUuid.bytes, toDecimal r.2.createdAt.toInt, r.2.body.bytes] := by
    simp only [records, replyPairs, under, List.map_flatMap, List.map_map, List.flatMap_assoc]
    rfl
  have hstep : ∀ teams' : List Team, ∀ r ∈ replyPairs teams,
      insertReply teams' [r.1, r.2.uuid.bytes, r.2.authorUuid.bytes, toDecimal r.2.createdAt.toInt,
        r.2.body.bytes] = modifyFirst (fun t => t.hasThread r.1) (addReplyTo r.1 r.2) teams' := by
    intro teams' r hr
    obtain ⟨d, hd, hr⟩ := List.mem_flatMap.mp hr
    obtain ⟨m, hm, rfl⟩ := List.mem_map.mp hr
    obtain ⟨t, ht, hd⟩ := List.mem_flatMap.mp hd
    obtain ⟨c, hc, hd⟩ := List.mem_flatMap.mp hd
    have hreply := (((h.namedTeams t ht).channels c hc).threads d hd).replies m hm
    simp [insertReply, parseTimeValue_toDecimal, Message.new_bytes hreply.receiver]
  have hkeys : ((teams.map Team.withoutReplies).flatMap
      fun t => t.channels.flatMap fun c => c.threads.map fun d => d.uuid.bytes).Nodup := by
    have hbytes := h.threadUuids.map (f := CString.bytes) fun _ _ => CString.ext
    simp only [List.flatMap_map, List.map_flatMap, List.map_map, Team.threadUuids, Channel.threadUuids,
      Team.withoutReplies, Channel.withoutReplies] at hbytes ⊢
    exact hbytes
  have hfold := foldl_modifyFirst_owner
    (fun t : Team => t.channels.flatMap fun c => c.threads.map fun d => d.uuid.bytes) Prod.fst
    (fun (r : Bytes × Message) t => addReplyTo r.1 r.2 t) (fun k t => hasThread_iff)
    (fun r t => threadUuids_addReplyTo r.1 r.2 t) (fun r t hr => addReplyTo_of_notMem hr r.2)
    (replyPairs teams) hkeys
  rw [hrecords, List.foldl_map, List.foldl_ext _ _ _ hstep]
  refine hfold.trans ?_
  rw [List.map_map]
  refine (List.map_congr_left fun t ht => ?_).trans (List.map_id teams)
  have hnodup : t.threadUuids.Nodup := (List.nodup_flatMap.mp h.threadUuids).1 t ht
  have hbare : t.withoutReplies.threadUuids.Nodup := by
    simp only [Team.threadUuids, Channel.threadUuids, Team.withoutReplies, Channel.withoutReplies,
      List.flatMap_map, List.map_map]
    exact hnodup
  have hall : ((teams.flatMap fun t => t.channels.flatMap Channel.threads).map Thread.uuid).Nodup := by
    simp only [List.map_flatMap]
    exact h.threadUuids
  have hgroup : ∀ c ∈ t.channels, ∀ d ∈ c.threads,
      group d.uuid.bytes (replyPairs teams) = d.replies := fun c hc d hd =>
    group_under Thread.replies hall (List.mem_flatMap.mpr ⟨t, ht, List.mem_flatMap.mpr ⟨c, hc, hd⟩⟩)
  have hthreads : ∀ c ∈ t.channels, (c.threads.map Thread.bare).map (fun d =>
      { d with replies := d.replies ++ group d.uuid.bytes (replyPairs teams) }) = c.threads := by
    intro c hc
    rw [List.map_map]
    refine (List.map_congr_left fun d hd => ?_).trans (List.map_id c.threads)
    simp [Thread.bare, hgroup c hc d hd]
  have hchannels : t.withoutReplies.channels.map (fun c => { c with threads := c.threads.map fun d =>
      { d with replies := d.replies ++ group d.uuid.bytes (replyPairs teams) } }) = t.channels := by
    rw [Team.withoutReplies, List.map_map]
    refine (List.map_congr_left fun c hc => ?_).trans (List.map_id t.channels)
    rw [Function.comp_apply, Channel.withoutReplies, hthreads c hc]
    rfl
  rw [Function.comp_apply, foldl_addReplyTo hbare, hchannels]
  rfl

/-- The records of a storable forest are inserted to the same forest. -/
theorem insertForest_records {users : List User} {teams : List Team} {messages : List Message}
    (h : Storable users teams messages) : insertForest (records users teams messages) = teams := by
  have hteams : (records [] teams [] .teams).foldl insertTeam [] = teams.map Team.bare :=
    foldl_insertTeam [] h.teamUuids
  have hsubscriptions := foldl_insertSubscription h.teamUuids
  have hchannels := foldl_insertChannel h.teamUuids h.channelUuids
  have hthreads := foldl_insertThread h.channelUuids h.threadUuids
  have hreplies := foldl_insertReply h
  show (records [] teams [] .messages).foldl insertReply
    ((records [] teams [] .threads).foldl insertThread
      ((records [] teams [] .channels).foldl insertChannel
        ((records [] teams [] .teamSubscriptions).foldl insertSubscription
          ((records [] teams [] .teams).foldl insertTeam [])))) = teams
  rw [hteams, hsubscriptions, hchannels, hthreads, hreplies]

/-- The seven files that a save writes when nothing goes wrong. -/
def savedDisk (users : List User) (teams : List Team) (messages : List Message) : Disk := fun file =>
  some (Lines.unlines 10 (serializeData users teams messages 124 file))

/-- A save leaves every file with all that was to be written to it. -/
def WritesAll (disk : Disk) (users : List User) (teams : List Team) (messages : List Message)
    (outcome : DataFile → WriteOutcome) : Prop :=
  ∀ file, (save disk users teams messages outcome).1 file = savedDisk users teams messages file

instance (disk : Disk) (users : List User) (teams : List Team) (messages : List Message)
    (outcome : DataFile → WriteOutcome) : Decidable (WritesAll disk users teams messages outcome) :=
  inferInstanceAs (Decidable (∀ file,
    (save disk users teams messages outcome).1 file = savedDisk users teams messages file))

theorem WritesAll.disk {disk : Disk} {users : List User} {teams : List Team} {messages : List Message}
    {outcome : DataFile → WriteOutcome} (h : WritesAll disk users teams messages outcome) :
    (save disk users teams messages outcome).1 = savedDisk users teams messages := funext h

/-- A file that has all its text has none of it twice. -/
theorem WritesAll.unrepeated {disk : Disk} {users : List User} {teams : List Team} {messages : List Message}
    {outcome : DataFile → WriteOutcome} (h : WritesAll disk users teams messages outcome) (file : DataFile) :
    (outcome file).Unrepeated (serializeData users teams messages 124 file) := by
  have hwritten : (writeLines (disk file) (serializeData users teams messages 124 file) (outcome file)).1 =
      savedDisk users teams messages file := h file
  cases houtcome : outcome file with
  | notOpened => trivial
  | opened insertions closing =>
    rw [houtcome] at hwritten
    rw [WriteOutcome.Unrepeated, Option.some.inj hwritten]

/-- The line of a record of a storable state is accepted, as that record. -/
theorem parseRecord_line {users : List User} {teams : List Team} {messages : List Message}
    (h : Storable users teams messages) {file : DataFile} {record : List Bytes}
    (hrecord : record ∈ records users teams messages file) :
    (if joinEscapedFields record 124 = [] then none
      else parseRecord (joinEscapedFields record 124) (recordFormat file) 124) = some record := by
  have hdelimits : Delimits 124 := by decide
  have haccepted := (h.records hrecord).2
  have hlength : 2 ≤ record.length := by
    rw [haccepted.length]
    cases file <;> decide
  match record, hlength with
  | field :: field' :: rest, _ =>
    rw [if_neg (joinEscapedFields_ne_nil field field' rest)]
    have hsplit := splitEscapedLine_joinEscapedFields hdelimits.separates (List.cons_ne_nil field (field' :: rest))
    exact parseRecord_eq_some.mpr ⟨hsplit.symm, haccepted⟩

/-- The lines of records of a storable state are read as these records. -/
theorem parseLines_records {users : List User} {teams : List Team} {messages : List Message}
    (h : Storable users teams messages) {file : DataFile} {l : List (List Bytes)}
    (hl : ∀ record ∈ l, record ∈ records users teams messages file) :
    parseLines (l.map fun record => joinEscapedFields record 124) file 124 = l := by
  rw [parseLines, List.filterMap_map]
  exact (List.filterMap_congr fun record hrecord => parseRecord_line h (hl record hrecord)).trans List.filterMap_some

/-- Without its last line end a file has all its records. -/
theorem parseLines_take_all {users : List User} {teams : List Team} {messages : List Message}
    (h : Storable users teams messages) {file : DataFile} {size : Nat}
    (hsize : (Lines.unlines 10 (serializeData users teams messages 124 file)).length ≤ size + 1) :
    parseLines (Lines.lines 10 ((Lines.unlines 10 (serializeData users teams messages 124 file)).take size))
      file 124 = records users teams messages file := by
  have hne : ∀ line ∈ serializeData users teams messages 124 file, line ≠ [] := by
    intro line hline hnil
    obtain ⟨record, hrecord, rfl⟩ := List.mem_map.mp hline
    have hparse := parseRecord_line h hrecord
    rw [if_pos hnil] at hparse
    cases hparse
  rw [Lines.lines_take_all (fun _ => lf_notMem_serializeData) hne hsize]
  exact parseLines_records h fun _ hrecord => hrecord

/-- Every record that is written is read. -/
theorem parseLines_savedDisk {users : List User} {teams : List Team} {messages : List Message}
    (h : Storable users teams messages) (file : DataFile) :
    parseLines (readTextFile (savedDisk users teams messages file)) file 124 =
      records users teams messages file := by
  have hread : readTextFile (savedDisk users teams messages file) =
      serializeData users teams messages 124 file := Lines.lines_unlines fun _ => lf_notMem_serializeData
  rw [hread]
  exact parseLines_records h fun _ hrecord => hrecord

/-- What identifies a user; only the login counter is not saved as it is. -/
def User.identity (u : User) : Bytes × Bytes := (u.uuid.bytes, u.name.bytes)

theorem identity_loadUser (users : List User) :
    ((users.map userFields).filterMap loadUser).map User.identity = users.map User.identity := by
  have huser : ∀ u : User, (loadUser (userFields u)).map User.identity = some u.identity := by
    intro u
    simp [loadUser, userFields, User.new, User.identity]
  rw [List.filterMap_map, List.map_filterMap, ← List.filterMap_eq_map]
  exact List.filterMap_congr fun u _ => huser u

/-- What the loading functions make of these records. -/
def Database.ofRecords (parsed : DataFile → List (List Bytes)) : Database where
  users := (parsed .users).filterMap loadUser
  teams := materializeTeams (loadTeams parsed).loadedTeams
  messages := (parsed .privateMessages).filterMap loadPrivateMessage

theorem load_eq_ofRecords {disk : Disk} (h : ∃ file, (disk file).isSome = true) :
    load disk = (true, .ofRecords fun file => parseLines (readTextFile (disk file)) file 124) := by
  obtain ⟨file, hfile⟩ := h
  have hany : ([DataFile.users, .teams, .teamSubscriptions, .channels, .threads, .messages,
      .privateMessages].any fun file => (disk file).isSome) = true :=
    List.any_eq_true.mpr ⟨file, by cases file <;> simp, hfile⟩
  rw [load]
  simp only [hany, Bool.not_true, Bool.false_eq_true, if_false]
  rfl

/-- Loading the records of a storable state gives back what was there. -/
theorem load_records {users : List User} {teams : List Team} {messages : List Message}
    (h : Storable users teams messages) {disk : Disk} (hexists : ∃ file, (disk file).isSome = true)
    (hparsed : ∀ file, parseLines (readTextFile (disk file)) file 124 = records users teams messages file) :
    ∃ users', load disk = (true, ⟨users', teams, messages⟩) ∧
      users'.map User.identity = users.map User.identity := by
  have hclean : ∀ file, ∀ fields ∈ records users teams messages file, CleanRecord file fields :=
    fun file fields hf => (h.records hf).1
  have hforest : materializeTeams (loadTeams (records users teams messages)).loadedTeams = teams := by
    rw [materializeTeams_loadTeams hclean, insertForest_records h]
  have hmessages : (records users teams messages .privateMessages).filterMap loadPrivateMessage =
      messages := by
    have hmessage : ∀ m : Message, loadPrivateMessage (privateMessageFields m) = some m := by
      intro m
      simp [loadPrivateMessage, privateMessageFields, parseTimeValue_toDecimal, Message.new]
    rw [records, List.filterMap_map]
    exact (List.filterMap_congr fun m _ => hmessage m).trans List.filterMap_some
  have husers : ((records users teams messages .users).filterMap loadUser).map User.identity =
      users.map User.identity := identity_loadUser users
  refine ⟨(records users teams messages .users).filterMap loadUser, ?_, husers⟩
  rw [load_eq_ofRecords hexists, funext hparsed, Database.ofRecords, hforest, hmessages]

theorem load_savedDisk {users : List User} {teams : List Team} {messages : List Message}
    (h : Storable users teams messages) :
    ∃ users', load (savedDisk users teams messages) = (true, ⟨users', teams, messages⟩) ∧
      users'.map User.identity = users.map User.identity :=
  load_records h ⟨.users, rfl⟩ (parseLines_savedDisk h)

end TeamsMirror
