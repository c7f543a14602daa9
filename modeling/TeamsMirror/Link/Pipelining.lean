import TeamsMirror.Lib.Cuts
import TeamsMirror.Link.Agreement
import TeamsMirror.Server.Transactions

/-!
# Requests in flight

A client need not wait: whatever it has sent, and whatever the others do, its requests
are answered in their order, each by one reply. A reply is over with its first packet
that is not an entry of a list, so that a client that remembers its requests finds
out which packets answer which.
-/

namespace TeamsMirror

open Server

/-- The entries with which the lists of a reply go on. -/
def CommandID.entries : CommandID → List StatusCode
  | .users => [.usersList]
  | .messages => [.messagesList]
  | .subscribedList => [.subscribedList, .usersList]
  | .list => [.teamsList, .channelsList, .threadsList, .repliesList]
  | .login | .logout | .userInfo | .send | .subscribe | .unsubscribe | .use | .create | .info => []

/-- The reply to a request with this code is over. -/
def endsReply (code : UInt16) (p : Packet) : Bool :=
  !([CommandID.users, .messages, .subscribedList, .list].any fun command =>
    command.code = code && command.entries.any fun status => status = p.status)

/-- A reply to a request with this code. -/
inductive ReplyTo (code : UInt16) : List Packet → Prop where
  | command {context : CommandContext} {command : CommandID} {ps : List Packet} : code = command.code →
      Replies context command ps → ReplyTo code ps
  | unknown : (∀ command : CommandID, code ≠ command.code) → ReplyTo code [.ofStatus .badRequest]

theorem endsReply_code (command : CommandID) (p : Packet) :
    endsReply command.code p = !command.entries.any fun status => status = p.status := by
  cases command <;> simp [endsReply, CommandID.code, CommandID.entries]

theorem word_single {command : CommandID} {status : StatusCode} (h : status ∉ command.entries)
    (payload : Payload) : Cuts.Word endsReply command.code [⟨status, payload⟩] := by
  refine .last ?_
  rw [endsReply_code, Bool.not_eq_true', List.any_eq_false]
  intro entry hentry he
  have he : entry = status := of_decide_eq_true he
  exact h (he ▸ hentry)

theorem word_list {command : CommandID} {status : StatusCode} (h : status ∈ command.entries)
    (hok : .ok ∉ command.entries) (payloads : List Payload) :
    Cuts.Word endsReply command.code (listReply status payloads) := by
  induction payloads with
  | nil => exact word_single hok _
  | cons payload payloads ih =>
    refine .cons ?_ ih
    rw [endsReply_code, Bool.not_eq_false', List.any_eq_true]
    exact ⟨status, h, decide_eq_true rfl⟩

theorem ok_notMem_entries (command : CommandID) : .ok ∉ command.entries := by
  cases command <;> decide

theorem refusals_notMem_entries {command : CommandID} {status : StatusCode} (h : status ∈ refusals command) :
    status ∉ command.entries := by
  revert h
  cases command <;> cases status <;> decide

theorem Answer.word {context : CommandContext} {command : CommandID} {ps : List Packet}
    (h : Answer context command ps) : Cuts.Word endsReply command.code ps := by
  cases h with
  | user | alreadySubscribed | userInfo | teamInfo | channelInfo | threadInfo => exact word_single (by decide) _
  | users | messages | subscribedTeams | subscribedUsers | teams | channels | threads | replies =>
    exact word_list (by decide) (ok_notMem_entries _) _

theorem ReplyTo.word {code : UInt16} {ps : List Packet} (h : ReplyTo code ps) : Cuts.Word endsReply code ps := by
  cases h with
  | @command context command ps hcode hreplies =>
    rw [hcode]
    cases hreplies with
    | refused hrefuses => exact word_single (refusals_notMem_entries hrefuses.1) _
    | answered hanswer => exact hanswer.word
    | unknownUser | loggedIn | loggedOut | sent | subscribed | unsubscribed | notSubscribed | used | createdTeam
    | createdChannel | createdThread | createdReply => exact word_single (by decide) _
  | unknown hcode =>
    refine .last ?_
    rw [endsReply, Bool.not_eq_true', List.any_eq_false]
    intro command _ he
    exact hcode command (of_decide_eq_true ((Bool.and_eq_true _ _).mp he).1).symm

variable {s s' u : Server} {fd : Fd}

/-- The code of the request of the connection that an event takes off. -/
def Server.requestsAt (fd : Fd) (s : Server) : Event → List UInt16
  | .dispatch fd' _ =>
    if fd' = fd then (peekPacket (s.clientManager.getIncomingBuffer fd)).toList.map fun p => p.1.code else []
  | _ => []

/-- What is queued for the connection. -/
def Server.sentAt (fd : Fd) (s : Server) (e : Event) : List Packet :=
  packetsFor fd (s.queuedBy e)

/-- The answer to the request. -/
def Server.repliesAt (fd : Fd) (s : Server) (e : Event) : List (List Packet) :=
  (s.requestsAt fd e).map fun _ => Cli.repliesOf (s.sentAt fd e)

namespace Server

/-- A request is answered at once. -/
theorem replyTo_dispatch {environment : Environment} {queued : List (Fd × Packet)}
    (hs : s.handle (.dispatch fd environment) = some (s', queued)) :
    ∃ code, s.requestsAt fd (.dispatch fd environment) = [code] ∧ ReplyTo code (answersTo fd queued) := by
  obtain ⟨-, header, payload, middle, hpeek, hends, -⟩ := handle_dispatch_ends hs
  refine ⟨header.code, ?_, ?_⟩
  · rw [requestsAt, if_pos rfl, hpeek]
    rfl
  · cases hends with
    | command hcode heffect => exact .command hcode heffect.replies
    | unknown hcode =>
      have hone : answersTo fd (toClient (s.context fd payload environment) [.ofStatus .badRequest]) =
          [.ofStatus .badRequest] := answersTo_toClient (s.context fd payload environment) [.ofStatus .badRequest]
      rw [hone]
      exact .unknown hcode

/-- Nothing else answers a connection, as long as it is there. -/
theorem no_reply {e : Event} {queued : List (Fd × Packet)} (hlinked : s.Linked) (hfd : fd ∈ s.clientSockets)
    (hother : ∀ environment, e ≠ .dispatch fd environment) (hstays : e ≠ .disconnect fd)
    (hs : s.handle e = some (s', queued)) :
    s.requestsAt fd e = [] ∧ answersTo fd queued = [] ∧ fd ∈ s'.clientSockets := by
  have helsewhere : ∀ sent', e.unsent fd [] = some sent' → answersTo fd queued = [] ∧ fd ∈ s'.clientSockets :=
    fun sent' hsent =>
      have h := elsewhere hlinked hfd hother hsent hs
      ⟨h.answers, h.live⟩
  cases e with
  | receive fd' chunk =>
    obtain ⟨-, rfl, rfl⟩ := handle_receive hs
    exact ⟨rfl, rfl, hfd⟩
  | accept fd' => exact ⟨rfl, helsewhere [] rfl⟩
  | flush fd' n => exact ⟨rfl, helsewhere [] rfl⟩
  | disconnect fd' => exact ⟨rfl, helsewhere [] (if_neg fun he : fd' = fd => hstays (he ▸ rfl))⟩
  | dispatch fd' environment =>
    have hne : fd' ≠ fd := fun he => hother environment (he ▸ rfl)
    exact ⟨if_neg hne, helsewhere [] rfl⟩

/-- In one event a connection gets a reply for each request that is taken off, and none besides. -/
theorem replies_step {e : Event} (hlinked : s.Linked) (hfd : fd ∈ s.clientSockets) (hstays : e ≠ .disconnect fd)
    (hs : s.step e = some s') :
    List.Forall₂ ReplyTo (s.requestsAt fd e) (s.repliesAt fd e) ∧
      Cli.repliesOf (s.sentAt fd e) = (s.repliesAt fd e).flatten ∧ fd ∈ s'.clientSockets := by
  obtain ⟨queued, hhandle⟩ := step_eq_some.mp hs
  have hsent : Cli.repliesOf (s.sentAt fd e) = answersTo fd queued := by
    rw [sentAt, queuedBy, hhandle]
    rfl
  rw [repliesAt, hsent]
  by_cases hown : ∃ environment, e = .dispatch fd environment
  · obtain ⟨environment, rfl⟩ := hown
    obtain ⟨code, hcode, hreply⟩ := replyTo_dispatch hhandle
    obtain ⟨-, command, payload, middle, size, heffect, rfl⟩ := handle_dispatch hhandle
    have hsame : middle.clientSockets = s.clientSockets := heffect.sameConnections.clientSockets
    rw [hcode]
    exact ⟨.cons hreply .nil, (List.append_nil _).symm, hsame ▸ hfd⟩
  · obtain ⟨hnone, hempty, hlive⟩ :=
      no_reply hlinked hfd (fun environment he => hown ⟨environment, he⟩) hstays hhandle
    rw [hnone, hempty]
    exact ⟨.nil, rfl, hlive⟩

/-- The replies to a connection are those to its requests, in their order. -/
theorem replies_run {events : List Event} (hlinked : s.Linked) (hfd : fd ∈ s.clientSockets)
    (hstays : ∀ e ∈ events, e ≠ .disconnect fd) (hrun : Runs.run step s events = some u) :
    List.Forall₂ ReplyTo (Runs.collect step (requestsAt fd) s events) (Runs.collect step (repliesAt fd) s events) ∧
      Cli.repliesOf (Runs.collect step (sentAt fd) s events) =
        (Runs.collect step (repliesAt fd) s events).flatten := by
  induction events generalizing s with
  | nil => exact ⟨.nil, rfl⟩
  | cons e events ih =>
    obtain ⟨t, ht, hrun⟩ := Runs.run_cons_eq_some.mp hrun
    obtain ⟨queued, hhandle⟩ := step_eq_some.mp ht
    obtain ⟨hstays, hrest⟩ := List.forall_mem_cons.mp hstays
    obtain ⟨hreplies, hsent, hlive⟩ := replies_step hlinked hfd hstays ht
    obtain ⟨hlater, hsentLater⟩ := ih (hlinked.step hhandle) hlive hrest hrun
    simp only [Runs.collect_cons ht, Cli.repliesOf_append, List.flatten_append, hsent, hsentLater, and_true]
    exact List.rel_append hreplies hlater

/-- Over any period in which a connection stays open, it gets one reply to each of its requests, in their
order; and of any first part of what is sent to it, its requests alone tell which packets are the replies
that it has, all of them and no others. -/
theorem replies_cut {listenFd : Fd} {users : List User} {teams : List Team} {messages : List Message}
    {before events : List Event} {received : List Packet}
    (hbefore : Runs.run step (start listenFd users teams messages) before = some s)
    (hfd : fd ∈ s.clientSockets) (hstays : ∀ e ∈ events, e ≠ .disconnect fd)
    (hrun : Runs.run step s events = some u) (hreceived : received <+: Runs.collect step (sentAt fd) s events) :
    let requests := Runs.collect step (requestsAt fd) s events
    let replies := Runs.collect step (repliesAt fd) s events
    List.Forall₂ ReplyTo requests replies ∧
      Cuts.cut endsReply requests (Cli.repliesOf received) <+: replies ∧
      ∀ k, (replies.take k).flatten <+: Cli.repliesOf received →
        replies.take k <+: Cuts.cut endsReply requests (Cli.repliesOf received) := by
  intro requests replies
  have hlinked : s.Linked := Runs.run_invariant (fun _ _ _ h hs => by
    obtain ⟨queued, hhandle⟩ := step_eq_some.mp hs
    exact h.step hhandle) (Linked.start listenFd users teams messages) hbefore
  obtain ⟨hreplies, hsent⟩ := replies_run hlinked hfd hstays hrun
  have hwords : List.Forall₂ (Cuts.Word endsReply) requests replies := hreplies.imp fun _ _ h => h.word
  have hprefix : Cli.repliesOf received <+: replies.flatten := by
    obtain ⟨more, hmore⟩ := hreceived
    rw [← hsent, ← hmore, Cli.repliesOf_append]
    exact List.prefix_append _ _
  exact ⟨hreplies, Cuts.cut_isPrefix hwords hprefix, fun k hk => Cuts.take_prefix_cut hwords hk⟩

/-- A login, a list of users and an unknown request, sent without waiting. -/
def threeInFlight : List Event :=
  [.receive 4 ((Request.login [97]).packet ++ Request.users.packet ++ [255, 255, 0, 0]), .dispatch 4 default,
    .dispatch 4 default, .dispatch 4 default]

theorem replies_cut_three : ∃ s, Runs.run step (start 3 [] [] []) [.accept 4] = some s ∧
    Runs.collect step (requestsAt 4) s threeInFlight = [10, 20, 65535] ∧
    (Runs.collect step (sentAt 4) s threeInFlight).map Packet.status =
      [.ok, .evtLoggedIn, .usersList, .ok, .badRequest] ∧
    Cuts.cut endsReply [10, 20, 65535] (Cli.repliesOf (Runs.collect step (sentAt 4) s threeInFlight)) =
      Runs.collect step (repliesAt 4) s threeInFlight := by
  have hfacts : ((Runs.run step (start 3 [] [] []) [.accept 4]).bind fun s =>
      (Runs.run step s threeInFlight).map fun _ => decide (4 ∈ s.clientSockets) &&
        decide (Runs.collect step (requestsAt 4) s threeInFlight = [10, 20, 65535]) &&
        decide ((Runs.collect step (sentAt 4) s threeInFlight).map Packet.status =
          [.ok, .evtLoggedIn, .usersList, .ok, .badRequest]) &&
        decide (Cli.repliesOf (Runs.collect step (sentAt 4) s threeInFlight) =
          (Runs.collect step (repliesAt 4) s threeInFlight).flatten)) = some true := by decide +kernel
  obtain ⟨s, hs, hfacts⟩ := Option.bind_eq_some_iff.mp hfacts
  obtain ⟨u, hu, hfacts⟩ := Option.map_eq_some_iff.mp hfacts
  simp only [Bool.and_eq_true, decide_eq_true_eq] at hfacts
  obtain ⟨⟨⟨hfd, hrequests⟩, hstatuses⟩, hsent⟩ := hfacts
  have hstays : ∀ e ∈ threeInFlight, e ≠ .disconnect 4 := by simp [threeInFlight]
  obtain ⟨-, hcut, hall⟩ := replies_cut hs hfd hstays hu List.prefix_rfl
  rw [hrequests] at hcut hall
  have hwhole := hall (Runs.collect step (repliesAt 4) s threeInFlight).length (by rw [List.take_length, hsent])
  rw [List.take_length] at hwhole
  exact ⟨s, hs, hrequests, hstatuses, hcut.eq_of_length_le hwhole.length_le⟩

end Server

end TeamsMirror
