import TeamsMirror.Server.Journal

/-!
# Replaying the journal

The calls of the log name each channel, thread and reply by the uuid of its parent
alone. Since no uuid occurs twice in the whole forest, replaying the calls on an empty
store finds every parent, and rebuilds what the server holds but for descriptions and
times.
-/

namespace TeamsMirror

open Lists

structure UserView where
  uuid : Bytes
  name : Bytes
  /-- How many connections are logged in. -/
  online : Int
deriving DecidableEq

structure ThreadView where
  uuid : Bytes
  authorUuid : Bytes
  title : Bytes
  body : Bytes
  /-- Author and body. -/
  replies : List (Bytes × Bytes)
deriving DecidableEq

structure ChannelView where
  uuid : Bytes
  name : Bytes
  threads : List ThreadView
deriving DecidableEq

structure TeamView where
  uuid : Bytes
  name : Bytes
  subscribers : List Bytes
  channels : List ChannelView
deriving DecidableEq

structure View where
  users : List UserView
  teams : List TeamView
  /-- Author, receiver and body. -/
  messages : List (Bytes × Bytes × Bytes)
deriving DecidableEq

/-- Change the elements with a key, wherever they are. -/
def adjust {α : Type} (key : α → Bytes) (k : Bytes) (f : α → α) (l : List α) : List α :=
  l.map fun x => if key x = k then f x else x

namespace View

def empty : View := ⟨[], [], []⟩

def adjustChannels (v : View) (f : List ChannelView → List ChannelView) : View :=
  { v with teams := v.teams.map fun t => { t with channels := f t.channels } }

def adjustThreads (v : View) (f : List ThreadView → List ThreadView) : View :=
  v.adjustChannels fun channels => channels.map fun c => { c with threads := f c.threads }

/-- Replay a call. A parent is looked for in the whole forest. -/
def apply (v : View) : LogCall → View
  | .userCreated userUuid userName => { v with users := v.users ++ [⟨userUuid, userName, 0⟩] }
  | .userLoaded userUuid userName =>
    if v.users.any fun u => u.uuid = userUuid then
      { v with users := adjust UserView.uuid userUuid (fun u => { u with online := 0 }) v.users }
    else { v with users := v.users ++ [⟨userUuid, userName, 0⟩] }
  | .userLoggedIn userUuid =>
    { v with users := adjust UserView.uuid userUuid (fun u => { u with online := u.online + 1 }) v.users }
  | .userLoggedOut userUuid =>
    { v with users := adjust UserView.uuid userUuid (fun u => { u with online := u.online - 1 }) v.users }
  | .userSubscribed teamUuid userUuid =>
    { v with
      teams := adjust TeamView.uuid teamUuid
        (fun t => { t with subscribers := t.subscribers ++ [userUuid] }) v.teams }
  | .userUnsubscribed teamUuid userUuid =>
    { v with
      teams := adjust TeamView.uuid teamUuid
        (fun t => { t with subscribers := t.subscribers.filter fun stored => stored ≠ userUuid }) v.teams }
  | .privateMessageSended senderUuid receiverUuid messageBody =>
    { v with messages := v.messages ++ [(senderUuid, receiverUuid, messageBody)] }
  | .teamCreated teamUuid teamName userUuid =>
    { v with teams := v.teams ++ [⟨teamUuid, teamName, [userUuid], []⟩] }
  | .channelCreated teamUuid channelUuid channelName =>
    { v with
      teams := adjust TeamView.uuid teamUuid
        (fun t => { t with channels := t.channels ++ [⟨channelUuid, channelName, []⟩] }) v.teams }
  | .threadCreated channelUuid threadUuid userUuid threadTitle threadBody =>
    v.adjustChannels <| adjust ChannelView.uuid channelUuid fun c =>
      { c with threads := c.threads ++ [⟨threadUuid, userUuid, threadTitle, threadBody, []⟩] }
  | .replyCreated threadUuid userUuid replyBody =>
    v.adjustThreads <| adjust ThreadView.uuid threadUuid fun d =>
      { d with replies := d.replies ++ [(userUuid, replyBody)] }

/-- Replay a journal from the beginning. -/
def rebuild (journal : List LogCall) : View := journal.foldl apply empty

theorem rebuild_append (journal calls : List LogCall) :
    rebuild (journal ++ calls) = calls.foldl apply (rebuild journal) := by
  rw [rebuild, rebuild, List.foldl_append]

end View

def User.view (u : User) : UserView := ⟨u.uuid.bytes, u.name.bytes, u.isLoggedInCount⟩

def Thread.view (d : Thread) : ThreadView :=
  ⟨d.uuid.bytes, d.authorUuid.bytes, d.title.bytes, d.body.bytes,
    d.replies.map fun m => (m.authorUuid.bytes, m.body.bytes)⟩

def Channel.view (c : Channel) : ChannelView := ⟨c.uuid.bytes, c.name.bytes, c.threads.map Thread.view⟩

def Team.view (t : Team) : TeamView :=
  ⟨t.uuid.bytes, t.name.bytes, t.subscribedUserUuids.map CString.bytes, t.channels.map Channel.view⟩

def Message.view (m : Message) : Bytes × Bytes × Bytes :=
  (m.authorUuid.bytes, m.receiverUuid.bytes, m.body.bytes)

def viewOf (users : List User) (teams : List Team) (messages : List Message) : View :=
  ⟨users.map User.view, teams.map Team.view, messages.map Message.view⟩

def Ledger.view (l : Ledger) : View := viewOf l.users l.teams l.messages

/-- A view that shows the key shows an update of what has the key. -/
theorem map_ite_view {α β : Type} {key : α → Bytes} {key' : β → Bytes} {view : α → β} {f : α → α} {f' : β → β}
    {k : Bytes} {l : List α} (hkey : ∀ x, key' (view x) = key x)
    (hf : ∀ x ∈ l, key x = k → view (f x) = f' (view x)) :
    (l.map fun x => if key x = k then f x else x).map view = adjust key' k f' (l.map view) := by
  rw [adjust, List.map_map, List.map_map]
  refine List.map_congr_left fun x hx => ?_
  simp only [Function.comp_apply, hkey]
  split
  · next hk => exact hf x hx hk
  · rfl

theorem map_ite_of_ne {α : Type} {key : α → Bytes} {k : Bytes} {f : α → α} {l : List α}
    (h : ∀ x ∈ l, key x ≠ k) : (l.map fun x => if key x = k then f x else x) = l :=
  (List.map_congr_left fun x hx => if_neg (h x hx)).trans (List.map_id l)

/-- The update of the element found is one of all elements with its key. -/
theorem map_modifyFirst_view {α β : Type} {key : α → Bytes} {key' : β → Bytes} {view : α → β} {p : α → Bool}
    {f : α → α} {f' : β → β} {l : List α} {x : α} (hl : (l.map key).Nodup) (hfind : l.find? p = some x)
    (hkey : ∀ y, key' (view y) = key y) (hf : view (f x) = f' (view x)) :
    (modifyFirst p f l).map view = adjust key' (key x) f' (l.map view) := by
  have hparts : (l.flatMap fun y => [key y]).Nodup := by
    rwa [← List.map_eq_flatMap]
  have hall : modifyFirst p f l = l.map fun y => if key y = key x then f y else y := by
    refine modifyFirst_eq_map_of_owner hparts hfind (List.mem_singleton_self (key x)) (by rw [if_pos rfl]) ?_
    intro y hy
    exact if_neg fun he => hy (List.mem_singleton.mpr he.symm)
  rw [hall, map_ite_view hkey]
  intro y hy hk
  rw [List.inj_on_of_nodup_map hl hy (List.mem_of_find?_eq_some hfind) hk, hf]

/-- What the replay relies on: uuids are unique, those who are logged in are users, and their counters
count connections. -/
structure Ledger.Coherent (l : Ledger) : Prop where
  userUuids : (l.users.map fun u => u.uuid.bytes).Nodup
  teamUuids : (l.teams.map fun t => t.uuid.bytes).Nodup
  channelUuids : (l.teams.flatMap Team.channelUuids).Nodup
  threadUuids : (l.teams.flatMap Team.threadUuids).Nodup
  counted : ∀ fd uuid, l.sessions.lookup fd = some uuid →
    ∃ u ∈ l.users, u.uuid.bytes = uuid ∧ 0 < u.isLoggedInCount

namespace Ledger

variable {l : Ledger}

theorem view_updateTeam (h : l.Coherent) {team : Team} (f : Team → Team) (f' : TeamView → TeamView)
    (hfind : findTeamByUuid l.teams team.uuid.bytes = some team) (hf : ∀ t, (f t).view = f' t.view) :
    (updateTeam l.teams team.uuid.bytes f).map Team.view =
      adjust TeamView.uuid team.uuid.bytes f' (l.teams.map Team.view) :=
  map_modifyFirst_view h.teamUuids hfind (fun _ => rfl) (hf team)

theorem nodup_channelUuids (h : l.Coherent) {team : Team} (hteam : team ∈ l.teams) :
    (team.channels.map fun c => c.uuid.bytes).Nodup :=
  CString.nodup_bytes ((List.nodup_flatMap.mp h.channelUuids).1 team hteam)

theorem nodup_threadUuids (h : l.Coherent) {team : Team} {channel : Channel} (hteam : team ∈ l.teams)
    (hchannel : channel ∈ team.channels) : (channel.threads.map fun d => d.uuid.bytes).Nodup := by
  have hthreads := (List.nodup_flatMap.mp h.threadUuids).1 team hteam
  exact CString.nodup_bytes ((List.nodup_flatMap.mp hthreads).1 channel hchannel)

/-- A channel changed in its team is changed wherever its uuid is found. -/
theorem view_updateChannel (h : l.Coherent) {team : Team} {channel : Channel} (f : Channel → Channel)
    (f' : ChannelView → ChannelView) (hteam : findTeamByUuid l.teams team.uuid.bytes = some team)
    (hchannel : findChannelByUuid team channel.uuid.bytes = some channel) (hf : ∀ c, (f c).view = f' c.view) :
    (updateTeam l.teams team.uuid.bytes fun team => updateChannel team channel.uuid.bytes f).map Team.view =
      (l.view.adjustChannels (adjust ChannelView.uuid channel.uuid.bytes f')).teams := by
  have hmem := List.mem_of_find?_eq_some hteam
  let g : Team → Team := fun t =>
    { t with channels := t.channels.map fun c => if c.uuid.bytes = channel.uuid.bytes then f c else c }
  have hsame : ∀ t : Team, channel.uuid ∉ t.channelUuids → g t = t := by
    intro t ht
    simp only [g]
    rw [map_ite_of_ne fun c hc he => ht (List.mem_map.mpr ⟨c, hc, CString.ext he⟩)]
  have hall : (updateTeam l.teams team.uuid.bytes fun team => updateChannel team channel.uuid.bytes f) =
      l.teams.map g := by
    refine modifyFirst_eq_map_of_owner h.channelUuids hteam
      (List.mem_map_of_mem (List.mem_of_find?_eq_some hchannel)) ?_ hsame
    simp only [updateChannel, modifyFirst_key (nodup_channelUuids h hmem), g]
  rw [hall, List.map_map]
  simp only [View.adjustChannels, Ledger.view, viewOf, List.map_map]
  refine List.map_congr_left fun t _ => ?_
  simp only [Function.comp_apply, Team.view, g, TeamView.mk.injEq, true_and]
  have hkey : ∀ c : Channel, ChannelView.uuid c.view = c.uuid.bytes := fun _ => rfl
  exact map_ite_view hkey fun c _ _ => hf c

/-- And so is a thread that is changed in its channel. -/
theorem view_updateThread (h : l.Coherent) {team : Team} {channel : Channel} {thread : Thread}
    (f : Thread → Thread) (f' : ThreadView → ThreadView)
    (hteam : findTeamByUuid l.teams team.uuid.bytes = some team)
    (hchannel : findChannelByUuid team channel.uuid.bytes = some channel)
    (hthread : findThreadByUuid channel thread.uuid.bytes = some thread) (hf : ∀ d, (f d).view = f' d.view) :
    (updateTeam l.teams team.uuid.bytes fun team =>
      updateChannel team channel.uuid.bytes fun channel =>
        updateThread channel thread.uuid.bytes f).map Team.view =
      (l.view.adjustThreads (adjust ThreadView.uuid thread.uuid.bytes f')).teams := by
  have hmem := List.mem_of_find?_eq_some hteam
  have hmemc := List.mem_of_find?_eq_some hchannel
  have hmemd : thread.uuid ∈ channel.threadUuids :=
    List.mem_map_of_mem (List.mem_of_find?_eq_some hthread)
  let g : Channel → Channel := fun c =>
    { c with threads := c.threads.map fun d => if d.uuid.bytes = thread.uuid.bytes then f d else d }
  have hsame : ∀ c : Channel, thread.uuid ∉ c.threadUuids → g c = c := by
    intro c hc
    simp only [g]
    rw [map_ite_of_ne fun d hd he => hc (List.mem_map.mpr ⟨d, hd, CString.ext he⟩)]
  -- first within the team, then over the forest
  have hchannels : modifyFirst (fun c => c.uuid.bytes = channel.uuid.bytes)
      (fun channel => updateThread channel thread.uuid.bytes f) team.channels = team.channels.map g := by
    refine modifyFirst_eq_map_of_owner ((List.nodup_flatMap.mp h.threadUuids).1 team hmem) hchannel hmemd
      ?_ hsame
    simp only [updateThread, modifyFirst_key (nodup_threadUuids h hmem hmemc), g]
  have hall : (updateTeam l.teams team.uuid.bytes fun team =>
      updateChannel team channel.uuid.bytes fun channel =>
        updateThread channel thread.uuid.bytes f) =
      l.teams.map fun t => { t with channels := t.channels.map g } := by
    refine modifyFirst_eq_map_of_owner h.threadUuids hteam (List.mem_flatMap.mpr ⟨channel, hmemc, hmemd⟩) ?_
      fun t ht => ?_
    · simp only [updateChannel, hchannels]
    · have hts : t.channels.map g = t.channels := by
        refine (List.map_congr_left fun c hc => hsame c fun hd => ht ?_).trans (List.map_id t.channels)
        exact List.mem_flatMap.mpr ⟨c, hc, hd⟩
      simp only [hts]
  rw [hall, List.map_map]
  simp only [View.adjustThreads, View.adjustChannels, Ledger.view, viewOf, List.map_map]
  refine List.map_congr_left fun t _ => ?_
  simp only [Function.comp_apply, Team.view, List.map_map, TeamView.mk.injEq, true_and]
  refine List.map_congr_left fun c _ => ?_
  simp only [Function.comp_apply, Channel.view, g, ChannelView.mk.injEq, true_and]
  have hkey : ∀ d : Thread, ThreadView.uuid d.view = d.uuid.bytes := fun _ => rfl
  exact map_ite_view hkey fun d _ _ => hf d

end Ledger

/-- A user found is changed wherever its uuid is found. -/
theorem Ledger.view_updateUser {l : Ledger} (h : l.Coherent) {p : User → Bool} {user : User} (f : User → User)
    (f' : UserView → UserView) (hfind : l.users.find? p = some user) (hf : (f user).view = f' user.view) :
    (modifyFirst p f l.users).map User.view =
      adjust UserView.uuid user.uuid.bytes f' (l.users.map User.view) :=
  map_modifyFirst_view h.userUuids hfind (fun _ => rfl) hf

/-- What a step changes is what replaying its calls changes. -/
theorem Journaled.view {l l' : Ledger} {fd : Fd} {packets : List (Fd × Packet)} {calls : List LogCall}
    (h : Journaled l fd l' packets calls) (hl : l.Coherent) : l'.view = calls.foldl View.apply l.view := by
  cases h with
  | nothing => rfl
  | forgotten => rfl
  | @registered draw name user hfd hname hunused huser =>
    have huuid : user.uuid.bytes = generateUuid draw := huser ▸ bytes_copyBuffer_generateUuid draw
    have hfresh : ∀ u ∈ l.users.map User.view, u.uuid ≠ user.uuid.bytes := by
      intro u hu he
      obtain ⟨v, hv, rfl⟩ := List.mem_map.mp hu
      refine find?_key_eq_none.mp hunused (List.mem_map.mpr ⟨v, hv, ?_⟩)
      rw [← huuid]
      exact he
    have honline : user.view = ⟨user.uuid.bytes, user.name.bytes, 0 + 1⟩ := by
      rw [huser]
      rfl
    simp only [Ledger.view, viewOf, List.foldl_cons, List.foldl_nil, View.apply, adjust, List.map_append,
      List.map_singleton, honline, if_true]
    rw [map_ite_of_ne hfresh]
  | @loggedIn name user hfd hname =>
    have husers := Ledger.view_updateUser hl User.addLoggedIn
      (fun u => { u with online := u.online + 1 }) hname rfl
    simp only [Ledger.view, viewOf, husers, List.foldl_cons, List.foldl_nil, View.apply]
  | @loggedOut uuid user replies excludedClientFd hfd huser =>
    obtain ⟨u, hu, huuid, hpos⟩ := hl.counted fd uuid hfd
    have hsame : user.uuid.bytes = uuid := by simpa using List.find?_some huser
    obtain rfl : u = user :=
      List.inj_on_of_nodup_map hl.userUuids hu (List.mem_of_find?_eq_some huser) (huuid.trans hsame.symm)
    have hremoved : u.removeLoggedIn.view = { u.view with online := u.view.online - 1 } := by
      rw [User.removeLoggedIn, if_neg (by omega)]
      rfl
    have husers := Ledger.view_updateUser hl User.removeLoggedIn
      (fun u => { u with online := u.online - 1 }) huser hremoved
    simp only [Ledger.view, viewOf, updateUser, husers, List.foldl_cons, List.foldl_nil, View.apply]
  | @subscribed user team packet huser hteam =>
    have hteams := Ledger.view_updateTeam hl (fun team => team.addSubscribedUser user.uuid.bytes)
      (fun t => { t with subscribers := t.subscribers ++ [user.uuid.bytes] }) hteam fun t => by
        simp [Team.view, Team.addSubscribedUser]
    simp only [Ledger.view, viewOf, hteams, List.foldl_cons, List.foldl_nil, View.apply]
  | @unsubscribed user team packet huser hteam =>
    have hteams := Ledger.view_updateTeam hl (fun team => (team.removeSubscribedUser user.uuid.bytes).2)
      (fun t => { t with subscribers := t.subscribers.filter fun stored => stored ≠ user.uuid.bytes }) hteam
      fun t => by simp [Team.view, Team.removeSubscribedUser, List.filter_map, Function.comp_def]
    simp only [Ledger.view, viewOf, hteams, List.foldl_cons, List.foldl_nil, View.apply]
  | @sent author message receivers =>
    simp only [Ledger.view, viewOf, List.map_append, List.foldl_cons, List.foldl_nil, View.apply]
    rfl
  | @createdTeam user team reply huser hfresh hchannels hsubscribers =>
    simp [Ledger.view, viewOf, View.apply, Team.view, hchannels, hsubscribers]
  | @createdChannel user team channel reply huser hteam hsub hthreads =>
    have hteams := Ledger.view_updateTeam hl (fun team => team.addChannel channel)
      (fun t => { t with channels := t.channels ++ [⟨channel.uuid.bytes, channel.name.bytes, []⟩] }) hteam
      fun t => by simp [Team.view, Team.addChannel, Channel.view, hthreads]
    simp only [Ledger.view, viewOf, hteams, List.foldl_cons, List.foldl_nil, View.apply]
  | @createdThread user team channel thread reply huser hteam hsub hchannel hauthor hreplies =>
    have hteams := Ledger.view_updateChannel hl (fun channel => channel.addThread thread)
      (fun c => { c with threads := c.threads ++ [⟨thread.uuid.bytes, thread.authorUuid.bytes,
        thread.title.bytes, thread.body.bytes, []⟩] }) hteam hchannel fun c => by
        simp [Channel.view, Channel.addThread, Thread.view, hreplies]
    exact congrArg (fun teams => ({ l.view with teams := teams } : View)) hteams
  | @createdReply user team channel thread message reply huser hteam hsub hchannel hthread hauthor =>
    have hteams := Ledger.view_updateThread hl (fun thread => thread.addReply message)
      (fun d => { d with replies := d.replies ++ [(message.authorUuid.bytes, message.body.bytes)] }) hteam
      hchannel hthread fun d => by simp [Thread.view, Thread.addReply]
    exact congrArg (fun teams => ({ l.view with teams := teams } : View)) hteams

namespace Server

/-- States with unique uuids whose sessions are known and counted. -/
theorem coherent {s : Server} (hstorable : Storable s) (hdistinct : Distinct s) (hknown : Known s)
    (hcounted : Counted s) : s.ledger.Coherent where
  userUuids := CString.nodup_bytes hdistinct.userUuids
  teamUuids := CString.nodup_bytes hstorable.teamUuids
  channelUuids := hstorable.channelUuids
  threadUuids := hstorable.threadUuids
  counted fd uuid hfd := by
    obtain ⟨u, hu, huuid⟩ := List.mem_map.mp (hknown fd uuid hfd)
    refine ⟨u, hu, huuid, ?_⟩
    have hpos := online_pos.mpr ⟨fd, hfd⟩
    rw [hcounted.count u hu, huuid]
    omega

end Server

end TeamsMirror
