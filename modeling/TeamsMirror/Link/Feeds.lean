import TeamsMirror.Database.Journals
import TeamsMirror.Server.PresenceEvents

/-!
# What a session is told

A session is told of logins, of new teams, and of what is made in the teams that its user is subscribed to. The
log does not mention sessions. Still it fixes what each of them is told, and in which
order: every session is told what is published from the log for its user, whatever is
queued for others in between.
-/

namespace TeamsMirror

open Lists Logging

/-- What an event packet says, but for descriptions and times. -/
inductive News where
  | loggedIn (userUuid userName : Bytes)
  | loggedOut (userUuid userName : Bytes)
  | teamCreated (teamUuid teamName : Bytes)
  | channelCreated (channelUuid channelName : Bytes)
  | threadCreated (threadUuid userUuid threadTitle threadBody : Bytes)
  | replyCreated (teamUuid threadUuid userUuid replyBody : Bytes)
deriving DecidableEq

/-- The news of a packet; private messages are none. -/
def Packet.news (p : Packet) : Option News :=
  match p.status, p.payload with
  | .evtLoggedIn, .evtUserConnection r => some (.loggedIn r.userUuid.cstr r.userName.cstr)
  | .evtLoggedOut, .evtUserConnection r => some (.loggedOut r.userUuid.cstr r.userName.cstr)
  | .evtTeamCreated, .evtTeamCreated r => some (.teamCreated r.teamUuid.cstr r.teamName.cstr)
  | .evtChannelCreated, .evtChannelCreated r =>
    some (.channelCreated r.channelUuid.cstr r.channelName.cstr)
  | .evtThreadCreated, .evtThreadCreated r =>
    some (.threadCreated r.threadUuid.cstr r.userUuid.cstr r.threadTitle.cstr r.threadBody.cstr)
  | .evtReplyCreated, .evtReplyCreated r =>
    some (.replyCreated r.teamUuid.cstr r.threadUuid.cstr r.userUuid.cstr r.replyBody.cstr)
  | _, _ => none

/-- The news queued for a connection. -/
def told (fd : Fd) (queued : List (Fd × Packet)) : List News :=
  queued.filterMap fun q => if q.1 = fd then q.2.news else none

/-- News for everyone, or for the users of a list. -/
structure Notice where
  news : News
  audience : Option (List Bytes)
deriving DecidableEq

def Notice.reaches (notice : Notice) (userUuid : Bytes) : Bool :=
  notice.audience.all fun audience => audience.any fun uuid => uuid = userUuid

def TeamView.channelUuids (t : TeamView) : List Bytes := t.channels.map ChannelView.uuid

def TeamView.threadUuids (t : TeamView) : List Bytes :=
  t.channels.flatMap fun c => c.threads.map ThreadView.uuid

namespace View

def userOf (v : View) (userUuid : Bytes) : Option UserView := v.users.find? fun u => u.uuid = userUuid

/-- The team in which something with a uuid stands. -/
def teamOf (v : View) (uuids : TeamView → List Bytes) (uuid : Bytes) : Option TeamView :=
  v.teams.find? fun t => (uuids t).any fun u => u = uuid

end View

/-- What is published when a call is made. -/
def LogCall.notice (v : View) : LogCall → Option Notice
  | .userLoggedIn userUuid => (v.userOf userUuid).map fun u => ⟨.loggedIn u.uuid u.name, none⟩
  | .userLoggedOut userUuid => (v.userOf userUuid).map fun u => ⟨.loggedOut u.uuid u.name, none⟩
  | .teamCreated teamUuid teamName _ => some ⟨.teamCreated teamUuid teamName, none⟩
  | .channelCreated teamUuid channelUuid channelName =>
    (v.teamOf (fun t => [t.uuid]) teamUuid).map fun t =>
      ⟨.channelCreated channelUuid channelName, some t.subscribers⟩
  | .threadCreated channelUuid threadUuid userUuid threadTitle threadBody =>
    (v.teamOf TeamView.channelUuids channelUuid).map fun t =>
      ⟨.threadCreated threadUuid userUuid threadTitle threadBody, some t.subscribers⟩
  | .replyCreated threadUuid userUuid replyBody =>
    (v.teamOf TeamView.threadUuids threadUuid).map fun t =>
      ⟨.replyCreated t.uuid threadUuid userUuid replyBody, some t.subscribers⟩
  | .userCreated .. | .userLoaded .. | .userSubscribed .. | .userUnsubscribed ..
  | .privateMessageSended .. => none

/-- What is published by calls, in their order. -/
def published (v : View) : List LogCall → List Notice
  | [] => []
  | call :: calls => (call.notice v).toList ++ published (v.apply call) calls

/-- The part of it that is for a user. -/
def feed (userUuid : Bytes) (notices : List Notice) : List News :=
  (notices.filter fun notice => notice.reaches userUuid).map Notice.news

theorem published_append (v : View) (calls calls' : List LogCall) :
    published v (calls ++ calls') = published v calls ++ published (calls.foldl View.apply v) calls' := by
  induction calls generalizing v with
  | nil => rfl
  | cons call calls ih => rw [List.cons_append, published, published, ih, List.append_assoc, List.foldl_cons]

theorem feed_append (userUuid : Bytes) (notices notices' : List Notice) :
    feed userUuid (notices ++ notices') = feed userUuid notices ++ feed userUuid notices' := by
  simp [feed]

theorem told_append (fd : Fd) (queued queued' : List (Fd × Packet)) :
    told fd (queued ++ queued') = told fd queued ++ told fd queued' := List.filterMap_append

/-- A reply is no news. -/
theorem news_of_isEvent {p : Packet} (h : p.status.isEvent = false) : p.news = none := by
  unfold Packet.news
  split
  all_goals first
    | rfl
    | (next hstatus _ => rw [hstatus] at h; cases h)

theorem told_newsless {fd : Fd} {queued : List (Fd × Packet)} (h : ∀ q ∈ queued, q.2.news = none) :
    told fd queued = [] :=
  List.filterMap_eq_nil_iff.mpr fun q hq => by rw [h q hq, ite_self]

theorem told_others {fd : Fd} {queued : List (Fd × Packet)} (h : ∀ q ∈ queued, q.1 ≠ fd) : told fd queued = [] :=
  List.filterMap_eq_nil_iff.mpr fun q hq => if_neg (h q hq)

theorem told_silent {fd : Fd} {queued : List (Fd × Packet)} (h : ∀ q ∈ queued, q.2.status.isEvent = false) :
    told fd queued = [] :=
  told_newsless fun q hq => news_of_isEvent (h q hq)

theorem told_reply {fd fd' : Fd} {reply : Packet} (queued : List (Fd × Packet))
    (h : reply.status.isEvent = false) : told fd ((fd', reply) :: queued) = told fd queued := by
  have hsilent : told fd [(fd', reply)] = [] := told_silent (List.forall_mem_singleton.mpr h)
  rw [← List.singleton_append, told_append, hsilent, List.nil_append]

/-- One event for several connections is told to each of them once. -/
theorem told_map {fds : List Fd} (hfds : fds.Nodup) (fd : Fd) (event : Packet) :
    told fd (fds.map fun fd => (fd, event)) = if fd ∈ fds then event.news.toList else [] := by
  induction fds with
  | nil => rfl
  | cons fd' fds ih =>
    obtain ⟨hnot, hfds⟩ := List.nodup_cons.mp hfds
    have hrest := ih hfds
    rw [List.map_cons, ← List.singleton_append, told_append, hrest]
    by_cases h : fd' = fd
    · subst h
      rw [if_neg hnot, if_pos List.mem_cons_self, List.append_nil]
      cases hnews : event.news <;> simp [told, hnews]
    · have hother : told fd [(fd', event)] = [] := by simp [told, h]
      have hmem : fd ∈ fd' :: fds ↔ fd ∈ fds := by simp [Ne.symm h]
      rw [hother, List.nil_append]
      exact if_congr hmem.symm rfl rfl

/-- Each of the five events says what it was built from. -/
@[simp] theorem news_loginEvent (user : User) :
    (loginEvent user).news = some (.loggedIn user.uuid.bytes user.name.bytes) :=
  congrArg₂ (fun uuid name => some (News.loggedIn uuid name)) (CString.cstr_copyPadded (by decide) user.uuid)
    (CString.cstr_copyPadded (by decide) user.name)

@[simp] theorem news_logoutEvent (user : User) :
    (logoutEvent user).news = some (.loggedOut user.uuid.bytes user.name.bytes) :=
  congrArg₂ (fun uuid name => some (News.loggedOut uuid name)) (CString.cstr_copyPadded (by decide) user.uuid)
    (CString.cstr_copyPadded (by decide) user.name)

@[simp] theorem news_teamCreatedEvent (team : Team) :
    (teamCreatedEvent team).news = some (.teamCreated team.uuid.bytes team.name.bytes) := by
  simp only [teamCreatedEvent, Packet.news]
  rw [CString.cstr_copyPadded (by decide) team.uuid, CString.cstr_copyPadded (by decide) team.name]

@[simp] theorem news_channelCreatedEvent (channel : Channel) :
    (channelCreatedEvent channel).news = some (.channelCreated channel.uuid.bytes channel.name.bytes) := by
  simp only [channelCreatedEvent, Packet.news]
  rw [CString.cstr_copyPadded (by decide) channel.uuid, CString.cstr_copyPadded (by decide) channel.name]

@[simp] theorem news_threadCreatedEvent (thread : Thread) :
    (threadCreatedEvent thread).news =
      some (.threadCreated thread.uuid.bytes thread.authorUuid.bytes thread.title.bytes thread.body.bytes) := by
  simp only [threadCreatedEvent, Packet.news]
  rw [CString.cstr_copyPadded (by decide) thread.uuid, CString.cstr_copyPadded (by decide) thread.authorUuid,
    CString.cstr_copyPadded (by decide) thread.title, CString.cstr_copyPadded (by decide) thread.body]

@[simp] theorem news_replyCreatedEvent (team : Team) (thread : Thread) (reply : Message) :
    (replyCreatedEvent team thread reply).news =
      some (.replyCreated team.uuid.bytes thread.uuid.bytes reply.authorUuid.bytes reply.body.bytes) := by
  simp only [replyCreatedEvent, Packet.news]
  rw [CString.cstr_copyPadded (by decide) team.uuid, CString.cstr_copyPadded (by decide) thread.uuid,
    CString.cstr_copyPadded (by decide) reply.authorUuid, CString.cstr_copyPadded (by decide) reply.body]

namespace Ledger

variable {l : Ledger}

theorem told_subscribers {fd : Fd} {userUuid : Bytes} (hfd : l.sessions.lookup fd = some userUuid) (team : Team)
    (event : Packet) :
    told fd (l.subscribers team event) = if team.isUserSubscribed userUuid then event.news.toList else [] := by
  have hkeys : ((l.sessions.entries.filter fun entry => team.isUserSubscribed entry.2).map Sigma.fst).Sublist
      l.sessions.keys := List.filter_sublist.map _
  have hlist : l.subscribers team event =
      ((l.sessions.entries.filter fun entry => team.isUserSubscribed entry.2).map Sigma.fst).map
        fun fd => (fd, event) := by
    rw [subscribers, List.map_map]
    rfl
  rw [hlist, told_map (hkeys.nodup l.sessions.keys_nodup)]
  refine if_congr ?_ rfl rfl
  rw [List.mem_map]
  constructor
  · rintro ⟨⟨fd, uuid⟩, hentry, rfl⟩
    obtain ⟨hentry, hsub⟩ := List.mem_filter.mp hentry
    rw [UnorderedMap.mem_entries_iff.mp hentry] at hfd
    cases hfd
    exact hsub
  · intro hsub
    exact ⟨⟨fd, userUuid⟩, List.mem_filter.mpr ⟨UnorderedMap.mem_entries_iff.mpr hfd, hsub⟩, rfl⟩

/-- The team of the view that owns a uuid shows the one that owns it in the store. -/
theorem teamOf_view (uuids : Team → List Bytes) {uuids' : TeamView → List Bytes} {team : Team} {uuid : Bytes}
    (hview : ∀ t : Team, uuids' t.view = uuids t) (hnodup : (l.teams.flatMap uuids).Nodup)
    (hteam : team ∈ l.teams) (huuid : uuid ∈ uuids team) : l.view.teamOf uuids' uuid = some team.view := by
  rw [View.teamOf, Ledger.view, viewOf, List.find?_map]
  have hfind : l.teams.find? ((fun t : TeamView => (uuids' t).any fun u => u = uuid) ∘ Team.view) = some team := by
    cases hfound : l.teams.find? ((fun t : TeamView => (uuids' t).any fun u => u = uuid) ∘ Team.view) with
    | none =>
      have hnone := List.find?_eq_none.mp hfound team hteam
      simp only [Function.comp_apply, hview, List.any_eq_true, decide_eq_true_eq, exists_eq_right] at hnone
      exact absurd huuid hnone
    | some t =>
      have ht := List.find?_some hfound
      simp only [Function.comp_apply, hview, List.any_eq_true, decide_eq_true_eq, exists_eq_right] at ht
      rw [owner_unique hnodup (List.mem_of_find?_eq_some hfound) hteam ht huuid]
  rw [hfind]
  rfl

theorem teamOf_channel (h : l.Coherent) {team : Team} {channel : Channel} (hteam : team ∈ l.teams)
    (hchannel : channel ∈ team.channels) :
    l.view.teamOf TeamView.channelUuids channel.uuid.bytes = some team.view := by
  refine teamOf_view (fun t => t.channelUuids.map CString.bytes) ?_ ?_ hteam ?_
  · intro t
    simp [TeamView.channelUuids, Team.view, Channel.view, Team.channelUuids]
  · rw [← List.map_flatMap]
    exact h.channelUuids.map fun _ _ => CString.ext
  · exact List.mem_map_of_mem (List.mem_map_of_mem hchannel)

theorem teamOf_thread (h : l.Coherent) {team : Team} {channel : Channel} {thread : Thread} (hteam : team ∈ l.teams)
    (hchannel : channel ∈ team.channels) (hthread : thread ∈ channel.threads) :
    l.view.teamOf TeamView.threadUuids thread.uuid.bytes = some team.view := by
  refine teamOf_view (fun t => t.threadUuids.map CString.bytes) ?_ ?_ hteam ?_
  · intro t
    simp only [TeamView.threadUuids, Team.view, Channel.view, Team.threadUuids, Channel.threadUuids,
      List.map_flatMap, List.flatMap_map, List.map_map]
    rfl
  · rw [← List.map_flatMap]
    exact h.threadUuids.map fun _ _ => CString.ext
  · exact List.mem_map_of_mem (List.mem_flatMap.mpr ⟨channel, hchannel, List.mem_map_of_mem hthread⟩)

/-- What is told to the subscribers of a team is in the feeds of its subscribers. -/
theorem told_team {fd : Fd} {userUuid : Bytes} (hfd : l.sessions.lookup fd = some userUuid) (team : Team)
    {event : Packet} {news : News} (hnews : event.news = some news) :
    told fd (l.subscribers team event) = feed userUuid [⟨news, some team.view.subscribers⟩] := by
  have hsub : team.isUserSubscribed userUuid = true ↔ userUuid ∈ team.view.subscribers := by
    simp [Team.isUserSubscribed, Team.view]
  rw [told_subscribers hfd, hnews]
  by_cases h : team.isUserSubscribed userUuid
  · rw [if_pos h]
    simp [feed, Notice.reaches, hsub.mp h]
  · rw [if_neg h]
    simp [feed, Notice.reaches, hsub.not.mp h]

theorem userOf_view (h : l.Coherent) {user : User} (hmem : user ∈ l.users) :
    l.view.userOf user.uuid.bytes = some user.view := by
  rw [View.userOf, Ledger.view, viewOf, List.find?_map]
  have hfind : l.users.find? (fun u => u.uuid.bytes = user.uuid.bytes) = some user :=
    find?_key_of_mem h.userUuids hmem
  exact congrArg (Option.map User.view) hfind

end Ledger

theorem feed_everyone (userUuid : Bytes) (news : News) : feed userUuid [⟨news, none⟩] = [news] := by
  simp [feed, Notice.reaches]

theorem newsless_sent (fd : Fd) (message : Message) (receivers : List Fd) :
    ∀ q ∈ receivers.map (fun fd => (fd, privateMessageEvent message)) ++ [(fd, .ofStatus .ok)],
      q.2.news = none :=
  List.forall_mem_append.mpr ⟨List.forall_mem_map.mpr fun _ _ => rfl, List.forall_mem_singleton.mpr rfl⟩

/-- A session that lasts through a change keeps its user. -/
theorem Journaled.keeps {l l' : Ledger} {fd fd' : Fd} {packets : List (Fd × Packet)} {calls : List LogCall}
    {userUuid : Bytes} (h : Journaled l fd l' packets calls) (hfd : l.sessions.lookup fd' = some userUuid)
    (hfd' : fd' ∈ l'.sessions) : l'.sessions.lookup fd' = some userUuid := by
  have hmem : fd' ∈ l.sessions := UnorderedMap.mem_of_lookup hfd
  cases h with
  | registered hnew | loggedIn hnew =>
    have hne : fd' ≠ fd := fun he => hnew (he ▸ hmem)
    exact (AList.lookup_insert_ne hne).trans hfd
  | loggedOut | forgotten => exact (AList.lookup_erase_ne (AList.mem_erase.mp hfd').1).trans hfd
  | nothing | subscribed | unsubscribed | sent | createdTeam | createdChannel | createdThread | createdReply =>
    exact hfd

/-- What is queued by a change is told to nobody who is not logged in. -/
theorem Journaled.told_none {l l' : Ledger} {fd fd' : Fd} {packets : List (Fd × Packet)} {calls : List LogCall}
    (h : Journaled l fd l' packets calls) (hfd : fd' ∉ l.sessions) (hfd' : fd' ∉ l'.sessions) :
    told fd' packets = [] := by
  have heveryone : ∀ (m : UnorderedMap Fd Bytes) (p : Fd → Bool) (event : Packet), fd' ∉ m →
      TeamsMirror.told fd' ((m.keys.filter p).map fun fd => (fd, event)) = [] := by
    intro m p event hout
    refine told_others (List.forall_mem_map.mpr fun fd hin he => hout ?_)
    exact AList.mem_keys.mpr (he ▸ (List.mem_filter.mp hin).1)
  have hall : ∀ (m : UnorderedMap Fd Bytes) (event : Packet), fd' ∉ m →
      TeamsMirror.told fd' (m.keys.map fun fd => (fd, event)) = [] := by
    intro m event hout
    exact told_others (List.forall_mem_map.mpr fun fd hin he => hout (AList.mem_keys.mpr (he ▸ hin)))
  have hsubscribers : ∀ (team : Team) (event : Packet), TeamsMirror.told fd' (l.subscribers team event) = [] := by
    intro team event
    refine told_others (List.forall_mem_map.mpr fun entry hentry he => hfd ?_)
    have hlookup := UnorderedMap.mem_entries_iff.mp (List.mem_filter.mp hentry).1
    exact he ▸ UnorderedMap.mem_of_lookup hlookup
  cases h with
  | nothing hsilent | forgotten _ _ _ hsilent => exact told_silent hsilent
  | registered | loggedIn => exact (told_reply _ rfl).trans (hall _ _ hfd')
  | @loggedOut uuid user replies excludedClientFd hout huser hreplies hexcluded =>
    have hne : fd ≠ fd' := fun he => hfd (he ▸ UnorderedMap.mem_of_lookup hout)
    rw [told_append, told_others fun q hq => hreplies q hq ▸ hne, heveryone _ _ _ hfd', List.nil_append]
  | subscribed packet huser hteam hsub hsilent | unsubscribed packet huser hteam hsub hsilent =>
    exact told_silent (List.forall_mem_singleton.mpr hsilent)
  | sent message receivers => exact told_newsless (newsless_sent fd message receivers)
  | createdTeam team reply huser hfresh hchannels hsubscribers hreply =>
    exact (told_reply _ hreply).trans (hall _ _ hfd)
  | createdChannel channel reply huser hteam hsub hthreads hreply =>
    exact (told_reply _ hreply).trans (hsubscribers _ _)
  | createdThread thread reply huser hteam hsub hchannel hauthor hreplies hreply =>
    exact (told_reply _ hreply).trans (hsubscribers _ _)
  | createdReply message reply huser hteam hsub hchannel hthread hauthor hreply =>
    exact (told_reply _ hreply).trans (hsubscribers _ _)

/-- Whoever is logged in after a change is told what is published for that user. -/
theorem Journaled.told {l l' : Ledger} {fd : Fd} {packets : List (Fd × Packet)} {calls : List LogCall}
    (h : Journaled l fd l' packets calls) (hl : l.Coherent) (hopen : ∀ fd ∈ l.sessions, fd ≠ -1) {fd' : Fd}
    {userUuid : Bytes} (hfd' : l'.sessions.lookup fd' = some userUuid) :
    told fd' packets = feed userUuid (published l.view calls) := by
  have hmem' : fd' ∈ l'.sessions := UnorderedMap.mem_of_lookup hfd'
  have heveryone : ∀ (m : UnorderedMap Fd Bytes) (event : Packet) (news : News), fd' ∈ m → event.news = some news →
      TeamsMirror.told fd' (m.keys.map fun fd => (fd, event)) = feed userUuid [⟨news, none⟩] := by
    intro m event news hin hnews
    rw [told_map m.keys_nodup, if_pos (AList.mem_keys.mp hin), hnews, feed_everyone]
    rfl
  cases h with
  | nothing hsilent => exact told_silent hsilent
  | @registered draw name user hnew hname hunused huser =>
    have huuid : user.uuid.bytes = generateUuid draw := huser ▸ bytes_copyBuffer_generateUuid draw
    have hnone : (l.users.map User.view).find? (fun u => u.uuid = user.uuid.bytes) = none := by
      rw [List.find?_map, Option.map_eq_none_iff, huuid]
      exact hunused
    have hfound : (l.view.apply (.userCreated user.uuid.bytes user.name.bytes)).userOf user.uuid.bytes =
        some ⟨user.uuid.bytes, user.name.bytes, 0⟩ := by
      simp [View.userOf, View.apply, Ledger.view, viewOf, List.find?_append, hnone]
    rw [told_reply _ rfl, heveryone _ _ _ hmem' (news_loginEvent user)]
    simp only [published, LogCall.notice, hfound]
    rfl
  | @loggedIn name user hnew hname =>
    rw [told_reply _ rfl, heveryone _ _ _ hmem' (news_loginEvent user), published, LogCall.notice,
      Ledger.userOf_view hl (List.mem_of_find?_eq_some hname)]
    rfl
  | @loggedOut uuid user replies excludedClientFd hout huser hreplies hexcluded =>
    obtain ⟨hne, hin⟩ := AList.mem_erase.mp hmem'
    have hothers : TeamsMirror.told fd' replies = [] := told_others fun q hq => hreplies q hq ▸ hne.symm
    have htold : fd' ∈ (l.sessions.erase fd).keys.filter fun fd => fd ≠ excludedClientFd := by
      refine List.mem_filter.mpr ⟨AList.mem_keys.mp hmem', decide_eq_true ?_⟩
      rcases hexcluded with rfl | rfl
      · exact hopen fd' hin
      · exact hne
    rw [told_append, hothers, List.nil_append, told_map ((AList.keys_nodup _).filter _), if_pos htold,
      news_logoutEvent, published, LogCall.notice, Ledger.userOf_view hl (List.mem_of_find?_eq_some huser)]
    exact (feed_everyone userUuid _).symm
  | forgotten packets hout huser hsilent => exact told_silent hsilent
  | subscribed packet huser hteam hsub hsilent | unsubscribed packet huser hteam hsub hsilent =>
    exact told_silent (List.forall_mem_singleton.mpr hsilent)
  | sent message receivers => exact told_newsless (newsless_sent fd message receivers)
  | createdTeam team reply huser hfresh hchannels hsubscribers hreply =>
    rw [told_reply _ hreply, heveryone _ _ _ hmem' (news_teamCreatedEvent team)]
    rfl
  | @createdChannel user team channel reply huser hteam hsub hthreads hreply =>
    have hin := List.mem_of_find?_eq_some hteam
    rw [told_reply _ hreply, Ledger.told_team (l := l) hfd' team (news_channelCreatedEvent channel), published,
      LogCall.notice, Ledger.teamOf_view (fun t => [t.uuid.bytes]) (fun _ => rfl) ?_ hin
        (List.mem_singleton_self _)]
    · rfl
    · rw [← List.map_eq_flatMap]
      exact hl.teamUuids
  | @createdThread user team channel thread reply huser hteam hsub hchannel hauthor hreplies hreply =>
    have hin := List.mem_of_find?_eq_some hteam
    rw [told_reply _ hreply, Ledger.told_team (l := l) hfd' team (news_threadCreatedEvent thread), published,
      LogCall.notice, Ledger.teamOf_channel hl hin (List.mem_of_find?_eq_some hchannel)]
    rfl
  | @createdReply user team channel thread message reply huser hteam hsub hchannel hthread hauthor hreply =>
    rw [told_reply _ hreply, Ledger.told_team (l := l) hfd' team (news_replyCreatedEvent team thread message), published,
      LogCall.notice, Ledger.teamOf_thread hl (List.mem_of_find?_eq_some hteam)
        (List.mem_of_find?_eq_some hchannel) (List.mem_of_find?_eq_some hthread)]
    rfl

namespace Station

variable {lib : LoggingServer} {st st' : Station} {w : Server.Period} {s : Server}

/-- A process that has ended takes no more steps. -/
theorem stopped_of_run {events : List TeamsMirror.Event} (h : st.process = .stopped)
    (hrun : Runs.run (step lib) st (events.map .server) = some st') : st'.process = .stopped := by
  cases events with
  | nil =>
    cases hrun
    exact h
  | cons e events =>
    obtain ⟨middle, hs, -⟩ := Runs.run_cons_eq_some.mp hrun
    simp only [step, h] at hs
    cases hs

/-- The connection is logged in after the event. -/
def Stays (fd : Fd) (w : Server.Period) (e : TeamsMirror.Event) : Prop :=
  ∀ w', w.step e = some w' → fd ∈ w'.server.authenticatedUsersByFd

instance (fd : Fd) (w : Server.Period) (e : TeamsMirror.Event) : Decidable (Stays fd w e) :=
  decidable_of_iff ((w.step e).all fun w' => decide (fd ∈ w'.server.authenticatedUsersByFd)) <| by
    simp [Stays, Option.all_eq_true]

/-- A step of the server after which the process goes on. -/
theorem told_step {e : TeamsMirror.Event} (h : Rebuilt st) (hs : st.process = .running s)
    (hstep : st.step lib (.server e) = some st') (hgoes : st'.process ≠ .stopped) (queued : List (Fd × Packet)) :
    ∃ w calls, Server.Period.step ⟨s, queued⟩ e = some w ∧ st'.process = .running w.server ∧
      (st'.durable = st.durable ∧ st'.life = st.life ++ calls ∧ st'.journal = st.journal ++ calls) ∧
      ∀ fd,
        (∀ userUuid, s.authenticatedUsersByFd.lookup fd = some userUuid →
          fd ∈ w.server.authenticatedUsersByFd → w.server.authenticatedUsersByFd.lookup fd = some userUuid) ∧
        (fd ∉ s.authenticatedUsersByFd → fd ∉ w.server.authenticatedUsersByFd →
          told fd w.queued = told fd queued) ∧
        ∀ userUuid, w.server.authenticatedUsersByFd.lookup fd = some userUuid →
          told fd w.queued =
            told fd queued ++ feed userUuid (published (View.rebuild (st.durable ++ st.life)) calls) := by
  obtain ⟨v, hv, -, hserver⟩ := h.world
  obtain rfl := hserver s hs
  obtain ⟨hcounted, hview⟩ := h.running v.server hs
  cases step_cases hstep with
  | crashed => exact absurd rfl hgoes
  | @server e s s' packets calls hprocess hhandle hjournaled =>
    obtain rfl : v.server = s := Process.running.inj (hs.symm.trans hprocess)
    have hw : Server.Period.step ⟨v.server, queued⟩ e = some ⟨s', queued ++ packets⟩ := by
      rw [Server.Period.step, hhandle]
      rfl
    refine ⟨_, calls, hw, rfl, ⟨rfl, rfl, rfl⟩, fun fd => ⟨fun userUuid => hjournaled.keeps, fun hout hout' => ?_,
      fun userUuid hfd => ?_⟩⟩
    · rw [told_append, hjournaled.told_none hout hout', List.append_nil]
    · have hopen : ∀ fd ∈ v.server.authenticatedUsersByFd, fd ≠ -1 := fun _ => hv.sound.linked.ne_neg_one
      rw [told_append, hjournaled.told (coherent hv rfl hcounted) hopen hfd, hview]

/-- A session that is in at the end and has been in after every step has been told the feed of its user. -/
theorem told_run {events : List TeamsMirror.Event} (queued : List (Fd × Packet)) (h : Rebuilt st)
    (hs : st.process = .running s) (hrun : Runs.run (step lib) st (events.map .server) = some st')
    (hgoes : st'.process ≠ .stopped) :
    ∃ w calls, Runs.run Server.Period.step ⟨s, queued⟩ events = some w ∧ st'.process = .running w.server ∧
      (st'.durable = st.durable ∧ st'.life = st.life ++ calls ∧ st'.journal = st.journal ++ calls) ∧
      ∀ fd userUuid, w.server.authenticatedUsersByFd.lookup fd = some userUuid →
        Runs.Always Server.Period.step (Stays fd) ⟨s, queued⟩ events →
        (fd ∈ s.authenticatedUsersByFd → s.authenticatedUsersByFd.lookup fd = some userUuid) ∧
          told fd w.queued =
            told fd queued ++ feed userUuid (published (View.rebuild (st.durable ++ st.life)) calls) := by
  induction events generalizing st s queued with
  | nil =>
    cases hrun
    exact ⟨⟨s, queued⟩, [], rfl, hs, by simp, fun fd userUuid hfd _ => ⟨fun _ => hfd, by simp [published, feed]⟩⟩
  | cons e events ih =>
    obtain ⟨st₁, hstep, hrun⟩ := Runs.run_cons_eq_some.mp hrun
    obtain ⟨w₁, calls, hw₁, hs₁, ⟨hdurable, hlife, hjournal⟩, htold⟩ :=
      told_step h hs hstep (fun hstopped => hgoes (stopped_of_run hstopped hrun)) queued
    have hwhole : st.Whole (.server e) := trivial
    obtain ⟨w, later, hw, hend, ⟨hdurable', hlife', hjournal'⟩, htold'⟩ := ih _ (h.step hwhole hstep) hs₁ hrun
    refine ⟨w, calls ++ later, Runs.run_cons_eq_some.mpr ⟨w₁, hw₁, hw⟩, hend, ⟨?_, ?_, ?_⟩,
      fun fd userUuid hfd hstays => ?_⟩
    · rw [hdurable', hdurable]
    · rw [hlife', hlife, List.append_assoc]
    · rw [hjournal', hjournal, List.append_assoc]
    obtain ⟨hkeeps, -, hfirst⟩ := htold fd
    obtain ⟨hsame, hrest⟩ := htold' fd userUuid hfd (hstays.2 w₁ hw₁)
    have hin : fd ∈ w₁.server.authenticatedUsersByFd := hstays.1 w₁ hw₁
    refine ⟨fun hbefore => ?_, ?_⟩
    · obtain ⟨uuid, huuid⟩ := UnorderedMap.exists_lookup hbefore
      rw [huuid, ← hkeeps uuid huuid hin, hsame hin]
    have hview : View.rebuild (st₁.durable ++ st₁.life) =
        calls.foldl View.apply (View.rebuild (st.durable ++ st.life)) := by
      rw [hdurable, hlife, ← List.append_assoc, View.rebuild_append]
    rw [hrest, hfirst userUuid (hsame hin), hview, published_append, feed_append, List.append_assoc]

/-- The connection is not logged in after the event. -/
def StaysOut (fd : Fd) (w : Server.Period) (e : TeamsMirror.Event) : Prop :=
  ∀ w', w.step e = some w' → fd ∉ w'.server.authenticatedUsersByFd

instance (fd : Fd) (w : Server.Period) (e : TeamsMirror.Event) : Decidable (StaysOut fd w e) :=
  decidable_of_iff ((w.step e).all fun w' => decide (fd ∉ w'.server.authenticatedUsersByFd)) <| by
    simp [StaysOut, Option.all_eq_true]

/-- A connection that is not logged in is told nothing. -/
theorem told_out {events : List TeamsMirror.Event} {queued : List (Fd × Packet)} (h : Rebuilt st)
    (hs : st.process = .running s) (hrun : Runs.run (step lib) st (events.map .server) = some st')
    (hgoes : st'.process ≠ .stopped) (hw : Runs.run Server.Period.step ⟨s, queued⟩ events = some w) {fd : Fd}
    (hfd : fd ∉ s.authenticatedUsersByFd)
    (hout : Runs.Always Server.Period.step (StaysOut fd) ⟨s, queued⟩ events) : told fd w.queued = told fd queued := by
  induction events generalizing st s queued with
  | nil =>
    cases hw
    rfl
  | cons e events ih =>
    obtain ⟨st₁, hstep, hrun⟩ := Runs.run_cons_eq_some.mp hrun
    obtain ⟨w₁, calls, hw₁, hs₁, -, htold⟩ :=
      told_step h hs hstep (fun hstopped => hgoes (stopped_of_run hstopped hrun)) queued
    obtain ⟨w₁', hw₁', hw⟩ := Runs.run_cons_eq_some.mp hw
    obtain rfl : w₁ = w₁' := Option.some.inj (hw₁.symm.trans hw₁')
    have hwhole : st.Whole (.server e) := trivial
    have hfd₁ := hout.1 w₁ hw₁
    rw [ih (h.step hwhole hstep) hs₁ hrun hw hfd₁ (hout.2 w₁ hw₁), (htold fd).2.1 hfd hfd₁]

/-- A period leaves what is rebuilt as it is. -/
theorem rebuilt_period {events : List TeamsMirror.Event} (h : Rebuilt st)
    (hrun : Runs.run (step lib) st (events.map .server) = some st') : Rebuilt st' := by
  refine Runs.run_invariant_of (fun _ _ _ h hwhole hs => h.step hwhole hs) h ?_ hrun
  induction events generalizing st with
  | nil => trivial
  | cons e events ih =>
    refine ⟨trivial, fun st₁ hstep => ?_⟩
    obtain ⟨st₁', hstep', hrun⟩ := Runs.run_cons_eq_some.mp hrun
    obtain rfl : st₁ = st₁' := Option.some.inj (hstep.symm.trans hstep')
    have hwhole : st.Whole (.server e) := trivial
    exact ih (h.step hwhole hstep) hrun

/-- While a process goes on, the events queued for a session, private messages apart, are those that the log
publishes for its user, in the order of the log: two sessions of one user are told the same, and whatever two
sessions are both told, they are told in the same order. -/
theorem sessions_follow_log {disk : Disk} {before : List Event} {events : List TeamsMirror.Event}
    (hempty : ∀ file, readTextFile (disk file) = [])
    (hwhole : Runs.Always (step lib) Whole (new disk) before)
    (hbefore : Runs.run (step lib) (new disk) before = some st) (hs : st.process = .running s)
    (hrun : Runs.run (step lib) st (events.map .server) = some st') (hgoes : st'.process ≠ .stopped) :
    ∃ w calls, Runs.run Server.Period.step ⟨s, []⟩ events = some w ∧ st'.process = .running w.server ∧
      (st'.life = st.life ++ calls ∧ st'.journal = st.journal ++ calls) ∧
      ∀ fd userUuid, w.server.authenticatedUsersByFd.lookup fd = some userUuid →
        Runs.Always Server.Period.step (Stays fd) ⟨s, []⟩ events →
        told fd w.queued = feed userUuid (published (View.rebuild (st.durable ++ st.life)) calls) := by
  have hrebuilt : Rebuilt st :=
    Runs.run_invariant_of (fun _ _ _ h hwhole hs => h.step hwhole hs) (.new hempty) hwhole hbefore
  obtain ⟨w, calls, hw, hend, ⟨-, hlife⟩, htold⟩ := told_run [] hrebuilt hs hrun hgoes
  exact ⟨w, calls, hw, hend, hlife, fun fd userUuid hfd hstays => (htold fd userUuid hfd hstays).2⟩

/-- Two users, of whom the first has a team. -/
def twoUsersRun : List Event :=
  [.boot 3, .server (.accept 4), .server (.receive 4 (Request.login [97]).packet), .server (.dispatch 4 default),
    .server (.receive 4 (Request.createTeam [98] []).packet), .server (.dispatch 4 default),
    .server (.accept 5), .server (.receive 5 (Request.login [99]).packet),
    .server (.dispatch 5 { (default : Environment) with draw := fun _ => Fin.last 15 })]

/-- The second user joins the team, makes a channel in it, and leaves. -/
def joinedPeriod : List TeamsMirror.Event :=
  let team := generateUuid (default : Environment).draw
  [.receive 5 (Request.subscribe team).packet, .dispatch 5 default,
    .receive 5 (Request.use team [] []).packet, .dispatch 5 default,
    .receive 5 (Request.createChannel [100] []).packet, .dispatch 5 default, .disconnect 5]

theorem sessions_follow_log_joined :
    ∃ st st' s w calls, Runs.run (step fun _ _ => 0) (new fun _ => none) twoUsersRun = some st ∧
      st.process = .running s ∧
      Runs.run (step fun _ _ => 0) st (joinedPeriod.map .server) = some st' ∧
      Runs.run Server.Period.step ⟨s, []⟩ joinedPeriod = some w ∧ st'.journal = st.journal ++ calls ∧
      told 4 w.queued = feed (generateUuid (default : Environment).draw)
        (published (View.rebuild (st.durable ++ st.life)) calls) ∧
      told 4 w.queued = [.channelCreated (generateUuid (default : Environment).draw) [100],
        .loggedOut (generateUuid fun _ => Fin.last 15) [99]] := by
  have hfacts : (Runs.run (step fun _ _ => 0) (new fun _ => none) twoUsersRun).bind (fun st =>
      st.process.server?.bind fun s =>
        (Runs.run (step fun _ _ => 0) st (joinedPeriod.map .server)).bind fun st' =>
          (Runs.run Server.Period.step ⟨s, []⟩ joinedPeriod).map fun w =>
            (st'.process.server?.isSome, w.server.authenticatedUsersByFd.lookup 4,
              decide (Runs.Always Server.Period.step (Stays 4) ⟨s, []⟩ joinedPeriod),
              told 4 w.queued)) =
      some (true, some (generateUuid (default : Environment).draw), true,
        [.channelCreated (generateUuid (default : Environment).draw) [100],
          .loggedOut (generateUuid fun _ => Fin.last 15) [99]]) := by decide +kernel
  obtain ⟨st, hbefore, hfacts⟩ := Option.bind_eq_some_iff.mp hfacts
  obtain ⟨s, hs, hfacts⟩ := Option.bind_eq_some_iff.mp hfacts
  obtain ⟨st', hrun, hfacts⟩ := Option.bind_eq_some_iff.mp hfacts
  obtain ⟨w, hw, hfacts⟩ := Option.map_eq_some_iff.mp hfacts
  obtain ⟨hend, hfacts⟩ := Prod.mk.inj hfacts
  obtain ⟨hfd, hfacts⟩ := Prod.mk.inj hfacts
  obtain ⟨hstays, htold⟩ := Prod.mk.inj hfacts
  have hs := Process.server?_eq_some hs
  have hgoes : st'.process ≠ .stopped := by
    intro hstopped
    rw [hstopped] at hend
    cases hend
  obtain ⟨w', calls, hw', -, ⟨-, hjournal⟩, hall⟩ :=
    sessions_follow_log (fun _ => rfl) (by decide +kernel) hbefore hs hrun hgoes
  obtain rfl : w = w' := Option.some.inj (hw.symm.trans hw')
  exact ⟨st, st', s, w, calls, hbefore, hs, hrun, hw, hjournal, hall 4 _ hfd (of_decide_eq_true hstays), htold⟩

end Station

end TeamsMirror
