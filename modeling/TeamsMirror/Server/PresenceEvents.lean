import TeamsMirror.Server.Delivery
import TeamsMirror.Server.Presence
import TeamsMirror.Server.Recipients
import TeamsMirror.Server.References

/-!
# Presence events

A connection can follow who is online in two ways: it can ask, and is shown the
login counters; or it can listen to the events of logins and logouts. Counters
count sessions and events are sent for each session, so that the two agree as long
as nobody ends one of several sessions.
-/

namespace TeamsMirror

open Lists Server UnorderedMap

/-- Whether a packet announces that the user is online, or that it is not. -/
def presenceNews (uuid : Bytes) (p : Packet) : Option Bool :=
  match p.payload with
  | .evtUserConnection r =>
    if r.userUuid.cstr ≠ uuid then none
    else if p.status = .evtLoggedIn then some true
    else if p.status = .evtLoggedOut then some false
    else none
  | _ => none

/-- The last such announcement to a connection. -/
def lastNews (fd : Fd) (uuid : Bytes) (queued : List (Fd × Packet)) : Option Bool :=
  (queued.filterMap fun q => if q.1 = fd then presenceNews uuid q.2 else none).getLast?

theorem presenceNews_loginEvent (user : User) (uuid : Bytes) :
    presenceNews uuid (loginEvent user) = if user.uuid.bytes = uuid then some true else none := by
  have hcstr : (CharArray.copyPadded uuidLength user.uuid.bytes).cstr = user.uuid.bytes :=
    CString.cstr_copyPadded (by decide) _
  simp [presenceNews, loginEvent, buildUserConnectionEventPacket, hcstr]

theorem presenceNews_logoutEvent (user : User) (uuid : Bytes) :
    presenceNews uuid (logoutEvent user) = if user.uuid.bytes = uuid then some false else none := by
  have hcstr : (CharArray.copyPadded uuidLength user.uuid.bytes).cstr = user.uuid.bytes :=
    CString.cstr_copyPadded (by decide) _
  simp [presenceNews, logoutEvent, buildUserConnectionEventPacket, hcstr]

/-- A reply is no announcement. -/
theorem presenceNews_of_isEvent {p : Packet} (h : p.status.isEvent = false) (uuid : Bytes) :
    presenceNews uuid p = none := by
  have hin : p.status ≠ .evtLoggedIn := by
    intro he
    rw [he] at h
    cases h
  have hout : p.status ≠ .evtLoggedOut := by
    intro he
    rw [he] at h
    cases h
  unfold presenceNews
  split
  · simp [hin, hout]
  · rfl

theorem lastNews_append (fd : Fd) (uuid : Bytes) (queued queued' : List (Fd × Packet)) :
    lastNews fd uuid (queued ++ queued') = (lastNews fd uuid queued').or (lastNews fd uuid queued) := by
  rw [lastNews, List.filterMap_append, List.getLast?_append]
  rfl

theorem lastNews_eq_none {fd : Fd} {uuid : Bytes} {queued : List (Fd × Packet)}
    (h : ∀ q ∈ queued, presenceNews uuid q.2 = none) : lastNews fd uuid queued = none := by
  have hnil : (queued.filterMap fun q => if q.1 = fd then presenceNews uuid q.2 else none) = [] := by
    refine List.filterMap_eq_nil_iff.mpr fun q hq => ?_
    rw [h q hq]
    split <;> rfl
  rw [lastNews, hnil]
  rfl

/-- A connection that is told, and told nothing else, was told last. -/
theorem lastNews_eq_some {fd : Fd} {uuid : Bytes} {queued : List (Fd × Packet)} {b : Bool}
    (htold : ∃ p, (fd, p) ∈ queued ∧ presenceNews uuid p = some b)
    (hall : ∀ q ∈ queued, ∀ b', presenceNews uuid q.2 = some b' → b' = b) :
    lastNews fd uuid queued = some b := by
  obtain ⟨p, hp, hnews⟩ := htold
  have hmem : b ∈ queued.filterMap fun q => if q.1 = fd then presenceNews uuid q.2 else none :=
    List.mem_filterMap.mpr ⟨(fd, p), hp, by rw [if_pos rfl, hnews]⟩
  have hlast := List.getLast?_eq_some_getLast (List.ne_nil_of_mem hmem)
  obtain ⟨q, hq, he⟩ := List.mem_filterMap.mp (List.getLast_mem (List.ne_nil_of_mem hmem))
  split at he
  · rw [lastNews, hlast, hall q hq _ he]
  · cases he

theorem Tells.event {packets : List (Fd × Packet)} {event : Packet} {P : Fd → Prop}
    (h : Tells packets event P) : ∀ q ∈ packets, q.2 = event := by
  obtain ⟨fds, -, -, rfl⟩ := h
  intro q hq
  obtain ⟨fd, -, rfl⟩ := List.mem_map.mp hq
  rfl

theorem Tells.mem {packets : List (Fd × Packet)} {event : Packet} {P : Fd → Prop} {fd : Fd}
    (h : Tells packets event P) (hfd : P fd) : (fd, event) ∈ packets := by
  obtain ⟨fds, -, hmem, rfl⟩ := h
  exact List.mem_map_of_mem ((hmem fd).mpr hfd)

/-- Every session of the server is told of the event, and of no other login or logout. -/
structure Broadcast (queued : List (Fd × Packet)) (event : Packet) (s : Server) : Prop where
  told : ∀ fd ∈ s.authenticatedUsersByFd, (fd, event) ∈ queued
  only : ∀ q ∈ queued, q.2 = event ∨ ∀ uuid, presenceNews uuid q.2 = none

/-- A reply before a fan-out. -/
theorem Broadcast.of_tells {queued : List (Fd × Packet)} {event : Packet} {s : Server} {P : Fd → Prop}
    {replies : List (Fd × Packet)} (h : Tells queued event P) (hall : ∀ fd ∈ s.authenticatedUsersByFd, P fd)
    (hreplies : ∀ q ∈ replies, q.2 = event ∨ ∀ uuid, presenceNews uuid q.2 = none) :
    Broadcast (replies ++ queued) event s where
  told fd hfd := List.mem_append_right _ (h.mem (hall fd hfd))
  only q hq := by
    rcases List.mem_append.mp hq with hq | hq
    · exact hreplies q hq
    · exact .inl (h.event q hq)

/-- What a session hears last of a fan-out. -/
theorem Broadcast.lastNews {queued : List (Fd × Packet)} {event : Packet} {s : Server} {user : User} {b : Bool}
    (h : Broadcast queued event s)
    (hevent : ∀ uuid, presenceNews uuid event = if user.uuid.bytes = uuid then some b else none) {fd : Fd}
    (hfd : fd ∈ s.authenticatedUsersByFd) (uuid : Bytes) :
    lastNews fd uuid queued = if user.uuid.bytes = uuid then some b else none := by
  split
  · next huuid =>
    refine lastNews_eq_some ⟨event, h.told fd hfd, by rw [hevent, if_pos huuid]⟩ fun q hq b' hb' => ?_
    rcases h.only q hq with he | hnone
    · rw [he, hevent, if_pos huuid] at hb'
      exact (Option.some.inj hb').symm
    · rw [hnone] at hb'
      cases hb'
  · next huuid =>
    refine lastNews_eq_none fun q hq => ?_
    rcases h.only q hq with he | hnone
    · rw [he, hevent, if_neg huuid]
    · exact hnone uuid

namespace Effect

variable {context : CommandContext} {command : CommandID} {s : Server} {packets : List (Fd × Packet)}

/-- Commands other than login and logout change no session and announce none. -/
theorem newsless (h : Effect context command s packets) (hlogin : command ≠ .login) (hlogout : command ≠ .logout) :
    s.authenticatedUsersByFd = context.authenticatedUsersByFd ∧
      ∀ q ∈ packets, ∀ uuid, presenceNews uuid q.2 = none := by
  have hquiet : command ∉ [CommandID.login, .logout, .create, .send] →
      ∀ q ∈ packets, ∀ uuid, presenceNews uuid q.2 = none :=
    fun hcommand q hq => presenceNews_of_isEvent (h.silent hcommand q hq)
  have hcreated : ∀ {reply event : Packet} {events : List (Fd × Packet)} {P : Fd → Prop},
      Tells events event P → (∀ uuid, presenceNews uuid reply = none) → (∀ uuid, presenceNews uuid event = none) →
      ∀ q ∈ toClient context [reply] ++ events, ∀ uuid, presenceNews uuid q.2 = none := by
    intro reply event events P htells hreply hevent
    refine List.forall_mem_append.mpr ⟨List.forall_mem_singleton.mpr hreply, fun q hq => ?_⟩
    rw [htells.event q hq]
    exact hevent
  cases h with
  | refused => exact ⟨rfl, List.forall_mem_singleton.mpr fun _ => rfl⟩
  | registered | loggedIn => exact absurd rfl hlogin
  | loggedOut | loggedOutUnknown => exact absurd rfl hlogout
  | sent =>
    refine ⟨rfl, List.forall_mem_append.mpr ⟨?_, List.forall_mem_singleton.mpr fun _ => rfl⟩⟩
    exact List.forall_mem_map.mpr fun _ _ _ => rfl
  | createdTeam => exact ⟨rfl, hcreated (tells_toEveryone _ _) (fun _ => rfl) fun _ => rfl⟩
  | createdChannel | createdThread | createdReply =>
    exact ⟨rfl, hcreated (tells_toSubscribers _ _ _) (fun _ => rfl) fun _ => rfl⟩
  | answered hanswer =>
    refine ⟨rfl, hquiet ?_⟩
    cases hanswer <;> decide
  | unknownUser | subscribed | unsubscribed | used => exact ⟨rfl, hquiet (by decide)⟩

end Effect

namespace Server

variable {s s' : Server} {queued : List (Fd × Packet)}

/-- The user of the session that an event ends: a logout without arguments, or a disconnection. -/
def endsSession (s : Server) : Event → Option Bytes
  | .disconnect fd => s.authenticatedUsersByFd.lookup fd
  | .dispatch fd _ =>
    (peekPacket (s.clientManager.getIncomingBuffer fd)).bind fun (header, payload) =>
      if header.code = CommandID.logout.code ∧ payload.length = 0 then s.authenticatedUsersByFd.lookup fd
      else none
  | _ => none

/-- What a step does to sessions, with what it announces. -/
inductive PresenceStep (s : Server) (e : Event) (s' : Server) (queued : List (Fd × Packet)) : Prop where
  | quiet : s.endsSession e = none → (∀ uuid, s'.online uuid = s.online uuid) →
      (∀ q ∈ queued, ∀ uuid, presenceNews uuid q.2 = none) → PresenceStep s e s' queued
  | login (user : User) : s.endsSession e = none →
      (∀ uuid, s'.online uuid = if uuid = user.uuid.bytes then s.online user.uuid.bytes + 1 else s.online uuid) →
      Broadcast queued (loginEvent user) s' → PresenceStep s e s' queued
  | logout (user : User) : s.endsSession e = some user.uuid.bytes → 0 < s.online user.uuid.bytes →
      (∀ uuid, s'.online uuid = if uuid = user.uuid.bytes then s.online user.uuid.bytes - 1 else s.online uuid) →
      Broadcast queued (logoutEvent user) s' → PresenceStep s e s' queued

theorem online_congr (h : s'.authenticatedUsersByFd = s.authenticatedUsersByFd) (uuid : Bytes) :
    s'.online uuid = s.online uuid := by
  rw [online, online, h]

/-- A successful login. -/
theorem PresenceStep.of_added {e : Event} {fd : Fd} {user : User} (hends : s.endsSession e = none)
    (hfd : fd ∉ s.authenticatedUsersByFd)
    (hmap : s'.authenticatedUsersByFd = s.authenticatedUsersByFd.insert fd user.uuid.bytes)
    {listener : Server} (hlistener : listener.authenticatedUsersByFd = s'.authenticatedUsersByFd) :
    PresenceStep s e s' ((fd, .ofStatus .ok) :: toEveryone listener (loginEvent user)) := by
  refine .login user hends (fun uuid => ?_) ?_
  · rw [online_insert hfd hmap]
  show Broadcast ([(fd, .ofStatus .ok)] ++ toEveryone listener (loginEvent user)) (loginEvent user) s'
  refine .of_tells (tells_toEveryone listener _) ?_ ?_
  · intro fd' hfd'
    rw [hlistener]
    exact hfd'
  · exact List.forall_mem_singleton.mpr (.inr fun _ => rfl)

/-- The end of a session, with the replies to the connection and the fan-out to the others. -/
theorem PresenceStep.of_removed {e : Event} {fd excludedClientFd : Fd} {user : User}
    (hends : s.endsSession e = some user.uuid.bytes)
    (huuid : s.authenticatedUsersByFd.lookup fd = some user.uuid.bytes)
    (hmap : s'.authenticatedUsersByFd = s.authenticatedUsersByFd.erase fd)
    {listener : Server} (hlistener : listener.authenticatedUsersByFd = s'.authenticatedUsersByFd)
    (hexcluded : ∀ fd' ∈ s'.authenticatedUsersByFd, fd' ≠ excludedClientFd) {replies : List (Fd × Packet)}
    (hreplies : ∀ q ∈ replies, q.2 = logoutEvent user ∨ ∀ uuid, presenceNews uuid q.2 = none) :
    PresenceStep s e s' (replies ++ toOthers listener excludedClientFd (logoutEvent user)) := by
  refine .logout user hends (online_pos.mpr ⟨fd, huuid⟩) (fun uuid => ?_) ?_
  · rw [online_erase huuid hmap]
  refine .of_tells (tells_toOthers listener _ _) (fun fd' hfd' => ⟨?_, hexcluded fd' hfd'⟩) hreplies
  rw [hlistener]
  exact hfd'

theorem PresenceStep.of_unchanged {e : Event} (hends : s.endsSession e = none)
    (hmap : s'.authenticatedUsersByFd = s.authenticatedUsersByFd)
    (hqueued : ∀ q ∈ queued, ∀ uuid, presenceNews uuid q.2 = none) : PresenceStep s e s' queued :=
  .quiet hends (online_congr hmap) hqueued

/-- A logout ends the session of its connection, if there is one and the request is well formed. -/
theorem presenceStep_logout (hlinked : Linked s) (hknown : Known s) {fd : Fd} {environment : Environment}
    {header : PacketHeader} {payload : Bytes}
    (hpeek : peekPacket (s.clientManager.getIncomingBuffer fd) = some (header, payload))
    (hcode : header.code = CommandID.logout.code)
    (hmap : s'.authenticatedUsersByFd =
      (handleLogoutCommand (s.context fd payload environment)).authenticatedUsersByFd) :
    PresenceStep s (.dispatch fd environment) s'
      (handleLogoutCommand (s.context fd payload environment)).queued := by
  have hstatus : ∀ status, ∀ q ∈ (queueStatus (s.context fd payload environment) status).queued,
      ∀ uuid, presenceNews uuid q.2 = none := fun status => List.forall_mem_singleton.mpr fun _ => rfl
  have hends : s.endsSession (.dispatch fd environment) =
      if payload.length = 0 then s.authenticatedUsersByFd.lookup fd else none := by
    simp only [endsSession, hpeek, Option.bind_some, hcode, true_and]
  by_cases hsize : payload.length = 0
  · rw [if_pos hsize] at hends
    cases huuid : s.authenticatedUsersByFd.lookup fd with
    | none =>
      have hresult : handleLogoutCommand (s.context fd payload environment) =
          queueStatus (s.context fd payload environment) .unauthorized := by
        have hsize' : (s.context fd payload environment).payloadSize = 0 := hsize
        have huuid' : (s.context fd payload environment).authenticatedUsersByFd.lookup
            (s.context fd payload environment).clientFd = none := huuid
        simp only [handleLogoutCommand, hsize', huuid']
        rfl
      rw [hresult] at hmap ⊢
      exact .of_unchanged (hends.trans huuid) hmap (hstatus _)
    | some uuid =>
      have hsession : (s.context fd payload environment).authenticatedUsersByFd.lookup
          (s.context fd payload environment).clientFd = some uuid := huuid
      obtain ⟨user, hresolves⟩ := Known.resolves hknown hsession
      obtain rfl := hresolves.own
      rw [hresolves.logout hsize] at hmap ⊢
      rw [toServer_perform] at hmap
      rw [queued_perform]
      refine .of_removed (hends.trans huuid) huuid hmap hmap.symm ?_ ?_
      · intro fd' hfd'
        rw [hmap] at hfd'
        exact hlinked.ne_neg_one (AList.mem_erase.mp hfd').2
      · intro q hq
        rcases List.mem_cons.mp hq with rfl | hq
        · exact .inr fun _ => rfl
        · exact .inl (List.mem_singleton.mp hq ▸ rfl)
  · rw [if_neg hsize] at hends
    have hresult : handleLogoutCommand (s.context fd payload environment) =
        queueStatus (s.context fd payload environment) .badRequest := by
      have hsize' : (s.context fd payload environment).payloadSize ≠ 0 := hsize
      rw [handleLogoutCommand, if_pos hsize']
    rw [hresult] at hmap ⊢
    exact .of_unchanged hends hmap (hstatus _)

theorem presenceStep_dispatch (hlinked : Linked s) (hknown : Known s) {fd : Fd} {environment : Environment}
    (h : s.handle (.dispatch fd environment) = some (s', queued)) :
    PresenceStep s (.dispatch fd environment) s' queued := by
  obtain ⟨header, payload, context', hpeek, hd, rfl, rfl⟩ := handle_dispatch_context h
  by_cases hcode : header.code = CommandID.logout.code
  · rw [hcode] at hd
    obtain rfl := Option.some.inj hd
    exact presenceStep_logout hlinked hknown hpeek hcode rfl
  have hends : s.endsSession (.dispatch fd environment) = none := by
    simp [endsSession, hpeek, hcode]
  by_cases hcommand : ∃ command : CommandID, header.code = command.code
  · obtain ⟨command, he⟩ := hcommand
    rw [he] at hd hcode
    obtain ⟨middle, packets, heffect, rfl⟩ := dispatch_command hd
    rw [queued_perform, toServer_perform]
    have hlogout : command ≠ .logout := fun h => hcode (h ▸ rfl)
    by_cases hlogin : command = .login
    · subst hlogin
      cases heffect with
      | refused => exact .of_unchanged hends rfl (List.forall_mem_singleton.mpr fun _ => rfl)
      | answered hanswer => cases hanswer
      | registered hfd => exact .of_added hends hfd rfl rfl
      | loggedIn hfd => exact .of_added hends hfd rfl rfl
    · obtain ⟨hmap, hquiet⟩ := heffect.newsless hlogin hlogout
      exact .of_unchanged hends hmap hquiet
  · rw [dispatch_unknown fun command he => hcommand ⟨command, he⟩] at hd
    cases hd
    exact .of_unchanged hends rfl (List.forall_mem_singleton.mpr fun _ => rfl)

theorem presenceStep (hlinked : Linked s) (hknown : Known s) {e : Event} (h : s.handle e = some (s', queued)) :
    PresenceStep s e s' queued := by
  cases e with
  | accept fd =>
    obtain ⟨-, rfl, rfl⟩ := handle_accept h
    exact .of_unchanged rfl rfl (by simp)
  | receive fd chunk =>
    obtain ⟨-, rfl, rfl⟩ := handle_receive h
    exact .of_unchanged rfl rfl (by simp)
  | dispatch fd environment => exact presenceStep_dispatch hlinked hknown h
  | flush fd n =>
    obtain ⟨-, -, rfl, rfl⟩ := handle_flush h
    exact .of_unchanged rfl rfl (by simp)
  | disconnect fd =>
    obtain ⟨-, middle, hd, rfl⟩ := handle_disconnect h
    cases hd with
    | anonymous hnone => exact .of_unchanged hnone rfl (by simp)
    | unknown huuid hnone =>
      obtain ⟨user, huser, -, -⟩ := hknown.exists_user huuid
      rw [hnone] at huser
      cases huser
    | @known uuid user huuid hfind =>
      obtain rfl : user.uuid.bytes = uuid := by simpa using List.find?_some hfind
      have hends : s.endsSession (.disconnect fd) = some user.uuid.bytes := huuid
      show PresenceStep s (.disconnect fd) _
        ([] ++ toOthers (s.dropSessions fd user.uuid.bytes) fd (logoutEvent user))
      refine .of_removed hends huuid rfl rfl (fun fd' hfd' => ?_) (by simp)
      exact (AList.mem_erase.mp hfd').1

/-- The status that a reply shows for a user; who is not registered is not online. -/
def shownOnline (s : Server) (uuid : Bytes) : Bool :=
  match (findUserByUuid s.users uuid).map buildUserPayload with
  | some (.rplUser r) => r.userStatus = 1
  | _ => false

theorem shownOnline_eq (hcounted : Counted s) (hknown : Known s) (uuid : Bytes) :
    s.shownOnline uuid = decide (0 < s.online uuid) := by
  unfold shownOnline
  cases hfind : findUserByUuid s.users uuid with
  | none =>
    have hnone : ¬0 < s.online uuid := by
      intro hpos
      obtain ⟨fd, hl⟩ := online_pos.mp hpos
      exact find?_key_eq_none.mp hfind (hknown fd uuid hl)
    simp [hnone]
  | some user =>
    have huuid : user.uuid.bytes = uuid := by simpa using List.find?_some hfind
    have hcount := hcounted.count user (List.mem_of_find?_eq_some hfind)
    rw [huuid] at hcount
    have hlogged : user.isLoggedIn = decide (0 < s.online uuid) := by
      simp only [User.isLoggedIn, hcount, decide_eq_decide]
      omega
    simp only [Option.map_some, buildUserPayload, hlogged]
    by_cases hpos : 0 < s.online uuid
    · simp [hpos]
    · simp [hpos]

/-- A period of a run: the server, and what it has queued since the period began. -/
structure Period where
  server : Server
  queued : List (Fd × Packet)

namespace Period

def step (w : Period) (e : Event) : Option Period :=
  (w.server.handle e).map fun r => ⟨r.1, w.queued ++ r.2⟩

/-- The connection is logged in before and after the event. -/
def Follows (fd : Fd) (w : Period) (e : Event) : Prop :=
  fd ∈ w.server.authenticatedUsersByFd ∧ ∀ w', w.step e = some w' → fd ∈ w'.server.authenticatedUsersByFd

/-- A session that ends, if any, is the last one of its user. -/
def EndsLastSession (w : Period) (e : Event) : Prop :=
  ∀ uuid, w.server.endsSession e = some uuid → w.server.online uuid = 1

/-- Whoever is shown online was announced so last, and whoever is not was not; who was not
announced is shown as in the beginning. -/
def Agrees (s : Server) (fd : Fd) (w : Period) : Prop :=
  ∀ uuid, w.server.shownOnline uuid = (lastNews fd uuid w.queued).getD (s.shownOnline uuid)

variable {fd : Fd} {w w' : Period} {e : Event}

/-- What holds of the server in every state of the run. -/
structure Regular (w : Period) : Prop where
  counted : Counted w.server
  known : Known w.server
  linked : Linked w.server

theorem Regular.step (h : w.Regular) (hs : w.step e = some w') : w'.Regular := by
  obtain ⟨⟨s', queued⟩, hhandle, rfl⟩ := Option.map_eq_some_iff.mp hs
  exact ⟨h.counted.step h.known hhandle, h.known.step hhandle, h.linked.step hhandle⟩

theorem Agrees.start (s : Server) (fd : Fd) : Agrees s fd ⟨s, []⟩ := fun _ => rfl

/-- One event keeps both in agreement, unless it ends one of several sessions. -/
theorem Agrees.step_iff (hregular : w.Regular) (h : Agrees s fd w) (hfollows : w.Follows fd e)
    (hs : w.step e = some w') : Agrees s fd w' ↔ w.EndsLastSession e := by
  have hregular' := hregular.step hs
  have hfd := hfollows.2 w' hs
  obtain ⟨⟨s', queued⟩, hhandle, rfl⟩ := Option.map_eq_some_iff.mp hs
  have hshown : ∀ uuid, w.server.shownOnline uuid = decide (0 < w.server.online uuid) :=
    shownOnline_eq hregular.counted hregular.known
  have hshown' : ∀ uuid, s'.shownOnline uuid = decide (0 < s'.online uuid) :=
    shownOnline_eq hregular'.counted hregular'.known
  have hunchanged : ∀ uuid, s'.online uuid = w.server.online uuid → lastNews fd uuid queued = none →
      s'.shownOnline uuid = (lastNews fd uuid (w.queued ++ queued)).getD (s.shownOnline uuid) := by
    intro uuid honline hnews
    rw [lastNews_append, hnews, Option.none_or, hshown', honline, ← hshown]
    exact h uuid
  cases presenceStep hregular.linked hregular.known hhandle with
  | quiet hends honline hnews =>
    refine iff_of_true (fun uuid => ?_) fun uuid he => ?_
    · exact hunchanged uuid (honline uuid) (lastNews_eq_none fun q hq => hnews q hq uuid)
    · rw [hends] at he
      cases he
  | login user hends honline hbroadcast =>
    refine iff_of_true (fun uuid => ?_) fun uuid he => ?_
    · have hnews := hbroadcast.lastNews (presenceNews_loginEvent user) hfd uuid
      by_cases huuid : user.uuid.bytes = uuid
      · rw [if_pos huuid] at hnews
        rw [lastNews_append, hnews, hshown', honline, if_pos huuid.symm]
        simp
      · rw [if_neg huuid] at hnews
        exact hunchanged uuid (by rw [honline, if_neg (Ne.symm huuid)]) hnews
    · rw [hends] at he
      cases he
  | logout user hends hpos honline hbroadcast =>
    have hnews := hbroadcast.lastNews (presenceNews_logoutEvent user) hfd
    have hothers : ∀ uuid, user.uuid.bytes ≠ uuid →
        s'.shownOnline uuid = (lastNews fd uuid (w.queued ++ queued)).getD (s.shownOnline uuid) := by
      intro uuid hne
      refine hunchanged uuid ?_ ?_
      · rw [honline, if_neg (Ne.symm hne)]
      · rw [hnews, if_neg hne]
    have hleft : s'.shownOnline user.uuid.bytes = decide (w.server.online user.uuid.bytes ≠ 1) := by
      rw [hshown', honline, if_pos rfl, decide_eq_decide]
      omega
    have hannounced : (lastNews fd user.uuid.bytes (w.queued ++ queued)).getD
        (s.shownOnline user.uuid.bytes) = false := by
      rw [lastNews_append, hnews, if_pos rfl]
      rfl
    constructor
    · intro hagrees uuid he
      obtain rfl := Option.some.inj (hends.symm.trans he)
      have hoffline := (hagrees user.uuid.bytes).trans hannounced
      simpa [hleft] using hoffline
    · intro hlast uuid
      by_cases huuid : user.uuid.bytes = uuid
      · subst huuid
        refine Eq.trans ?_ hannounced.symm
        rw [hleft, hlast _ hends]
        rfl
      · exact hothers uuid huuid

theorem regular_of_run {listenFd : Fd} {users : List User} {teams : List Team} {messages : List Message}
    {before : List Event} (hdistinct : (users.map fun u => u.uuid.bytes).Nodup)
    (hbefore : Runs.run Server.step (Server.start listenFd users teams messages) before = some s) :
    Regular ⟨s, []⟩ := by
  refine Runs.run_invariant (P := fun s => Regular ⟨s, []⟩) ?_
    ⟨.start hdistinct, fun _ _ h => by simp at h, .start _ _ _ _⟩ hbefore
  intro s e s' h hs
  obtain ⟨queued, hhandle⟩ := step_eq_some.mp hs
  exact ⟨h.counted.step h.known hhandle, h.known.step hhandle, h.linked.step hhandle⟩

/-- A connection that is logged in for a period sees events and statuses agree all along exactly
when, in this period, no logout and no disconnection ends one of several sessions of a user. -/
theorem agrees_iff_endsLastSession {listenFd : Fd} {users : List User} {teams : List Team} {messages : List Message}
    {before events : List Event} (hdistinct : (users.map fun u => u.uuid.bytes).Nodup)
    (hbefore : Runs.run Server.step (Server.start listenFd users teams messages) before = some s)
    (hfollows : Runs.Always step (Follows fd) ⟨s, []⟩ events) (hrun : Runs.run step ⟨s, []⟩ events = some w) :
    (∀ period later w', events = period ++ later → Runs.run step ⟨s, []⟩ period = some w' → Agrees s fd w') ↔
      Runs.Always step EndsLastSession ⟨s, []⟩ events :=
  Runs.forall_prefix_iff_always
    (fun _ _ _ hregular h hfollows hs => ⟨hregular.step hs, h.step_iff hregular hfollows hs⟩)
    (regular_of_run hdistinct hbefore) (.start s fd) hfollows hrun

instance (fd : Fd) (w : Period) (e : Event) : Decidable (w.Follows fd e) :=
  decidable_of_iff (fd ∈ w.server.authenticatedUsersByFd ∧
      (w.step e).all fun w' => decide (fd ∈ w'.server.authenticatedUsersByFd)) <| by
    simp [Follows, Option.all_eq_true]

instance (w : Period) (e : Event) : Decidable (w.EndsLastSession e) :=
  decidable_of_iff ((w.server.endsSession e).all fun uuid => decide (w.server.online uuid = 1)) <| by
    simp [EndsLastSession, Option.all_eq_true]

/-- Connection 4 is one user, 5 and 6 are another. -/
def threeSessionsRun : List Event := secondSessionRun.dropLast

/-- Both sessions of a user end, the second of them by itself. -/
theorem agrees_iff_endsLastSession_last :
    ∃ s w, Runs.run Server.step (Server.start 3 [] [] []) (threeSessionsRun ++ [.disconnect 6]) = some s ∧
      Runs.run step ⟨s, []⟩ [.receive 5 Request.logout.packet, .dispatch 5 default] = some w ∧
      Agrees s 4 w ∧ lastNews 4 secondUserUuid w.queued = some false := by
  have hfacts : ((Runs.run Server.step (Server.start 3 [] [] []) (threeSessionsRun ++ [.disconnect 6])).map fun s =>
      (decide (Runs.Always step (Follows 4) ⟨s, []⟩ [.receive 5 Request.logout.packet, .dispatch 5 default]),
        decide (Runs.Always step EndsLastSession ⟨s, []⟩ [.receive 5 Request.logout.packet, .dispatch 5 default]),
        (Runs.run step ⟨s, []⟩ [.receive 5 Request.logout.packet, .dispatch 5 default]).map fun w =>
          lastNews 4 secondUserUuid w.queued)) = some (true, true, some (some false)) := by decide +kernel
  obtain ⟨s, hs, hfacts⟩ := Option.map_eq_some_iff.mp hfacts
  obtain ⟨hfollows, hfacts⟩ := Prod.mk.inj hfacts
  obtain ⟨hlast, hfacts⟩ := Prod.mk.inj hfacts
  obtain ⟨w, hw, hnews⟩ := Option.map_eq_some_iff.mp hfacts
  have hagrees := (agrees_iff_endsLastSession (by simp) hs (of_decide_eq_true hfollows) hw).mpr
    (of_decide_eq_true hlast)
  exact ⟨s, w, hs, hw, hagrees _ [] w (List.append_nil _).symm hw, hnews⟩

/-- One of two sessions logs out: its user is announced to be offline, and is shown online. -/
theorem not_agrees : ¬∀ (listenFd : Fd) (users : List User) (teams : List Team) (messages : List Message)
    (before events : List Event) (s : Server) (fd : Fd) (w : Period), (users.map fun u => u.uuid.bytes).Nodup →
    Runs.run Server.step (Server.start listenFd users teams messages) before = some s →
    Runs.Always step (Follows fd) ⟨s, []⟩ events → Runs.run step ⟨s, []⟩ events = some w → Agrees s fd w := by
  intro hall
  have hfacts : ((Runs.run Server.step (Server.start 3 [] [] []) threeSessionsRun).map fun s =>
      (decide (Runs.Always step (Follows 4) ⟨s, []⟩ [.receive 5 Request.logout.packet, .dispatch 5 default]),
        (Runs.run step ⟨s, []⟩ [.receive 5 Request.logout.packet, .dispatch 5 default]).map fun w =>
          (lastNews 4 secondUserUuid w.queued, w.server.shownOnline secondUserUuid))) =
        some (true, some (some false, true)) := by decide +kernel
  obtain ⟨s, hs, hfacts⟩ := Option.map_eq_some_iff.mp hfacts
  obtain ⟨hfollows, hfacts⟩ := Prod.mk.inj hfacts
  obtain ⟨w, hw, hfacts⟩ := Option.map_eq_some_iff.mp hfacts
  obtain ⟨hnews, hshown⟩ := Prod.mk.inj hfacts
  have hagrees := hall 3 [] [] [] threeSessionsRun _ s 4 w (by simp) hs (of_decide_eq_true hfollows) hw secondUserUuid
  rw [hnews, hshown] at hagrees
  cases hagrees

end Period

end Server

end TeamsMirror
