import TeamsMirror.Client.Replies
import TeamsMirror.Link.Leakage

/-!
# Requests and their replies

Each command has its own grammar of replies, written once in a handler of the server
and once in a handler of the client. Here the two are put together: whatever a request
makes the server do, the client's loop reads exactly the replies to it, however many
events arrive among them.
-/

namespace TeamsMirror

open Cli

/-- The replies, events left out, that a list of packets holds for a connection. -/
def answersTo (fd : Fd) (packets : List (Fd × Packet)) : List Packet := repliesOf (packetsFor fd packets)

theorem packetsFor_append (fd : Fd) (ps qs : List (Fd × Packet)) :
    packetsFor fd (ps ++ qs) = packetsFor fd ps ++ packetsFor fd qs := by
  simp [packetsFor]

theorem answersTo_append (fd : Fd) (ps qs : List (Fd × Packet)) :
    answersTo fd (ps ++ qs) = answersTo fd ps ++ answersTo fd qs := by
  rw [answersTo, packetsFor_append, repliesOf_append]
  rfl

theorem packetsFor_toClient (context : CommandContext) (ps : List Packet) :
    packetsFor context.clientFd (toClient context ps) = ps := by
  simp [packetsFor, toClient, List.filter_map, Function.comp_def]

theorem answersTo_toClient (context : CommandContext) (ps : List Packet) :
    answersTo context.clientFd (toClient context ps) = repliesOf ps := by
  rw [answersTo, packetsFor_toClient]

/-- A broadcast of an event answers nobody. -/
theorem answersTo_map {α : Type*} {event : Packet} (hevent : event.status.isEvent = true) (fd : Fd)
    (f : α → Fd) (xs : List α) : answersTo fd (xs.map fun x => (f x, event)) = [] := by
  rw [answersTo, repliesOf, List.filter_eq_nil_iff]
  intro p hp
  obtain ⟨q, hq, rfl⟩ := List.mem_map.mp hp
  obtain ⟨x, -, rfl⟩ := List.mem_map.mp (List.mem_filter.mp hq).1
  simp [hevent]

/-- The grammar of the replies to a command. -/
inductive Replies (context : CommandContext) : CommandID → List Packet → Prop where
  | refused {command : CommandID} {status : StatusCode} : Refuses context command status →
      Replies context command [.ofStatus status]
  | unknownUser (p : PayloadErrUnknown) : Replies context .userInfo [⟨.notFound, .errUnknown p⟩]
  | answered {command : CommandID} {ps : List Packet} : Answer context command ps →
      Replies context command ps
  | loggedIn : context.clientFd ∉ context.authenticatedUsersByFd → Replies context .login [.ofStatus .ok]
  | loggedOut : Replies context .logout [.ofStatus .ok]
  | sent : Replies context .send [.ofStatus .ok]
  | subscribed (user : User) : Replies context .subscribe [⟨.usersList, buildUserPayload user⟩]
  | unsubscribed (user : User) : Replies context .unsubscribe [⟨.usersList, buildUserPayload user⟩]
  | notSubscribed : Replies context .unsubscribe [.ofStatus .ok]
  | used : Replies context .use [.ofStatus .ok]
  | createdTeam (team : Team) : context.payloadSize = sizeof PayloadReqCreateTeam →
      Replies context .create [⟨.created, buildTeamPayload team⟩]
  | createdChannel (channel : Channel) : context.payloadSize = sizeof PayloadReqCreateChannel →
      Replies context .create [⟨.created, buildChannelPayload channel⟩]
  | createdThread (thread : Thread) : context.payloadSize = sizeof PayloadReqCreateThread →
      Replies context .create [⟨.created, buildThreadPayload thread⟩]
  | createdReply (thread : Thread) (reply : Message) :
      context.payloadSize = sizeof PayloadReqCreateReply →
      Replies context .create [⟨.created, buildReplyPayload thread reply⟩]

theorem repliesOf_listReply {status : StatusCode} (h : status.isEvent = false) (payloads : List Payload) :
    repliesOf (listReply status payloads) = listReply status payloads := by
  rw [repliesOf, List.filter_eq_self]
  intro p hp
  rcases List.mem_append.mp hp with hp | hp
  · obtain ⟨payload, -, rfl⟩ := List.mem_map.mp hp
    simp [h]
  · rw [List.mem_singleton.mp hp]
    rfl

section

variable {context : CommandContext} {command : CommandID} {s : Server} {packets : List (Fd × Packet)}

theorem Answer.repliesOf {ps : List Packet} (h : Answer context command ps) : Cli.repliesOf ps = ps := by
  cases h with
  | user | alreadySubscribed | userInfo | teamInfo | channelInfo | threadInfo => rfl
  | _ => exact repliesOf_listReply rfl _

theorem refusals_isEvent {status : StatusCode} (h : status ∈ refusals command) : status.isEvent = false := by
  revert h
  cases command <;> cases status <;> decide

/-- Every effect answers its sender in the grammar of its command. -/
theorem Effect.replies (h : Effect context command s packets) :
    Replies context command (answersTo context.clientFd packets) := by
  cases h with
  | refused hrefuses =>
    have hstatus := refusals_isEvent hrefuses.1
    rw [answersTo_toClient, repliesOf, List.filter_singleton]
    simp only [Packet.ofStatus, hstatus]
    exact .refused hrefuses
  | unknownUser =>
    rw [answersTo_toClient]
    exact .unknownUser _
  | answered hanswer =>
    rw [answersTo_toClient, hanswer.repliesOf]
    exact .answered hanswer
  | registered hfd | loggedIn hfd =>
    rw [answersTo_append, answersTo_toClient, toEveryone, answersTo_map rfl, List.append_nil]
    exact .loggedIn hfd
  | loggedOut =>
    rw [answersTo_append, answersTo_toClient, toOthers, answersTo_map rfl, List.append_nil]
    exact .loggedOut
  | loggedOutUnknown =>
    rw [answersTo_toClient]
    exact .refused ⟨by decide, trivial⟩
  | sent =>
    rw [answersTo_append, answersTo_toClient, answersTo_map rfl, List.nil_append]
    exact .sent
  | subscribed =>
    rw [answersTo_toClient]
    exact .subscribed _
  | unsubscribed _ _ hreply =>
    rw [answersTo_toClient, hreply]
    split
    · exact .unsubscribed _
    · exact .notSubscribed
  | used =>
    rw [answersTo_toClient]
    exact .used
  | createdTeam _ _ _ _ _ hsize =>
    rw [answersTo_append, answersTo_toClient, toEveryone, answersTo_map rfl, List.append_nil]
    exact .createdTeam _ hsize
  | createdChannel _ _ _ _ _ hsize =>
    rw [answersTo_append, answersTo_toClient, toSubscribers, answersTo_map rfl, List.append_nil]
    exact .createdChannel _ hsize
  | createdThread _ _ _ _ _ _ hsize =>
    rw [answersTo_append, answersTo_toClient, toSubscribers, answersTo_map rfl, List.append_nil]
    exact .createdThread _ hsize
  | createdReply _ _ _ hsize =>
    rw [answersTo_append, answersTo_toClient, toSubscribers, answersTo_map rfl, List.append_nil]
    exact .createdReply _ _ hsize

theorem isEvent_of_repliesOf {ps : List Packet} (h : Cli.repliesOf ps = ps) :
    ∀ p ∈ ps, p.status.isEvent = true → IsEvent p := by
  intro p hp hevent
  have hfalse := List.filter_eq_self.mp h p hp
  simp [hevent] at hfalse

/-- Every packet with the code of an event carries the payload of that event. -/
theorem Effect.isEvent (h : Effect context command s packets) :
    ∀ q ∈ packets, q.2.status.isEvent = true → IsEvent q.2 := by
  have hclient : ∀ {ps : List Packet}, (∀ p ∈ ps, p.status.isEvent = true → IsEvent p) →
      ∀ q ∈ toClient context ps, q.2.status.isEvent = true → IsEvent q.2 := by
    intro ps hps q hq
    obtain ⟨p, hp, rfl⟩ := List.mem_map.mp hq
    exact hps p hp
  have hmap : ∀ {α : Type} {f : α → Fd} {xs : List α} {event : Packet}, IsEvent event →
      ∀ q ∈ xs.map fun x => (f x, event), q.2.status.isEvent = true → IsEvent q.2 := by
    intro α f xs event hevent q hq _
    obtain ⟨x, -, rfl⟩ := List.mem_map.mp hq
    exact hevent
  have happend : ∀ {ps qs : List (Fd × Packet)},
      (∀ q ∈ ps, q.2.status.isEvent = true → IsEvent q.2) →
      (∀ q ∈ qs, q.2.status.isEvent = true → IsEvent q.2) →
      ∀ q ∈ ps ++ qs, q.2.status.isEvent = true → IsEvent q.2 := by
    intro ps qs hps hqs q hq
    exact (List.mem_append.mp hq).elim (hps q) (hqs q)
  cases h with
  | refused hrefuses =>
    refine hclient fun p hp hevent => ?_
    rw [List.mem_singleton.mp hp] at hevent
    exact absurd ((refusals_isEvent hrefuses.1).symm.trans hevent) (by decide)
  | answered hanswer => exact hclient (isEvent_of_repliesOf hanswer.repliesOf)
  | unknownUser | loggedOutUnknown | subscribed | used => exact hclient (isEvent_of_repliesOf rfl)
  | unsubscribed _ _ hreply =>
    rw [hreply]
    split <;> exact hclient (isEvent_of_repliesOf rfl)
  | registered | loggedIn =>
    exact happend (hclient (isEvent_of_repliesOf rfl)) (hmap (.loggedIn _))
  | loggedOut =>
    refine happend (hclient fun p hp hevent => ?_) (hmap (.loggedOut _))
    rcases List.mem_cons.mp hp with rfl | hp
    · exact absurd hevent (by decide)
    · rw [List.mem_singleton.mp hp]
      exact .loggedOut _
  | sent => exact happend (hmap (.privateMessage _)) (hclient (isEvent_of_repliesOf rfl))
  | createdTeam => exact happend (hclient (isEvent_of_repliesOf rfl)) (hmap (.teamCreated _))
  | createdChannel => exact happend (hclient (isEvent_of_repliesOf rfl)) (hmap (.channelCreated _))
  | createdThread => exact happend (hclient (isEvent_of_repliesOf rfl)) (hmap (.threadCreated _))
  | createdReply => exact happend (hclient (isEvent_of_repliesOf rfl)) (hmap (.replyCreated _))

end

/-- So does every packet that any event of the server queues. -/
theorem Server.handle_isEvent {s s' : Server} {e : Event} {queued : List (Fd × Packet)}
    (hs : s.handle e = some (s', queued)) :
    ∀ q ∈ queued, q.2.status.isEvent = true → IsEvent q.2 := by
  intro q hq
  cases e with
  | accept fd =>
    obtain ⟨-, -, rfl⟩ := handle_accept hs
    cases hq
  | receive fd chunk =>
    obtain ⟨-, rfl, -⟩ := handle_receive hs
    cases hq
  | flush fd n =>
    obtain ⟨-, -, rfl, -⟩ := handle_flush hs
    cases hq
  | dispatch fd environment =>
    obtain ⟨-, command, payload, middle, size, heffect, -⟩ := handle_dispatch hs
    exact heffect.isEvent q hq
  | disconnect fd =>
    obtain ⟨-, middle, hd, -⟩ := handle_disconnect hs
    cases hd with
    | known =>
      obtain ⟨fd', -, rfl⟩ := List.mem_map.mp hq
      exact fun _ => .loggedOut _
    | _ => cases hq

namespace Cli

/-- The client after a handler: an exception leaves it as it was. -/
def Ended.after (client : Client) : Ended → Client
  | .returned client' => client'
  | .threw _ => client

def Ended.kind : Ended → Kind
  | .returned _ => .plain
  | .threw error => error.kind

/-- A body takes exactly these replies, complains of none of them, and leaves `client'`. -/
def Settles (client : Client) (body : Body) (replies : List Packet) (client' : Client) : Prop :=
  ∃ shown ended, Consumes body 0 replies shown ended ∧ (∀ x ∈ shown, x.kind = .plain) ∧
    ended.kind = .plain ∧ ended.after client = client'

theorem settles_one {client client' : Client} {body : Body} {p : Packet} {shown : List Shown}
    {ended : Ended} (hbody : body 0 p.status.code p.payload.bytes = .done shown ended)
    (hshown : ∀ x ∈ shown, x.kind = .plain) (hended : ended.kind = .plain)
    (hclient : ended.after client = client') : Settles client body [p] client' :=
  ⟨shown, ended, .last hbody, hshown, hended, hclient⟩

/-- A list reply: the body shows each entry, and ends at the closing status. -/
theorem settles_list {α : Type} {client : Client} {body : Body} {status : StatusCode}
    {build : α → Payload} {xs : List α}
    (hentry : ∀ x, ∀ expectedListCode, expectedListCode = 0 ∨ expectedListCode = status.code →
      ∃ entry expectedListCode',
        body expectedListCode status.code (build x).bytes = .again [entry] expectedListCode' ∧
        (expectedListCode' = 0 ∨ expectedListCode' = status.code) ∧ entry.kind = .plain)
    (hok : ∀ expectedListCode, body expectedListCode StatusCode.ok.code [] = .done [] (.returned client)) :
    Settles client body (listReply status (xs.map build)) client := by
  have hloop : ∀ expectedListCode, expectedListCode = 0 ∨ expectedListCode = status.code →
      ∃ shown, Consumes body expectedListCode (listReply status (xs.map build)) shown (.returned client) ∧
        ∀ entry ∈ shown, entry.kind = .plain := by
    induction xs with
    | nil => exact fun expectedListCode _ => ⟨[], .last (hok expectedListCode), by simp⟩
    | cons x xs ih =>
      intro expectedListCode hcode
      obtain ⟨entry, next, hbody, hnext, hentry⟩ := hentry x expectedListCode hcode
      obtain ⟨shown, hconsumes, hshown⟩ := ih next hnext
      refine ⟨[entry] ++ shown, .more hbody hconsumes, fun y hy => ?_⟩
      rcases List.mem_append.mp hy with hy | hy
      · exact List.mem_singleton.mp hy ▸ hentry
      · exact hshown y hy
  obtain ⟨shown, hconsumes, hshown⟩ := hloop 0 (.inl rfl)
  exact ⟨shown, .returned client, hconsumes, hshown, rfl, rfl⟩

end Cli

end TeamsMirror
