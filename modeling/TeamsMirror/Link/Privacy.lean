import TeamsMirror.Common.Requests
import TeamsMirror.Link.Outbound
import TeamsMirror.Server.Recipients

/-!
# Who reads a private message

A message leaves the server in two kinds of packets: the event of its delivery,
routed by the reverse index, and the entries of a listing, picked by a filter over
all messages. Every such packet is for a connection that is logged in, when the
packet is queued, as one of the two users concerned. What waits for a connection
is forgotten with it, so that the next one on the same descriptor starts empty.
-/

namespace TeamsMirror

open Server

/-- The packet has the code or the payload of one of the kinds that carry a private message. -/
def Packet.isPrivate (p : Packet) : Bool :=
  p.status = .evtPrivateMsgRcvd || p.status = .messagesList ||
    match p.payload with
    | .evtPrivateMsg _ | .rplMessage _ => true
    | _ => false

/-- In a step from `before` to `s`, `fd` may be sent the packet: when it is private it carries the message that
this step has stored, and `fd` is logged in as the receiver, or it is the entry of a listing, of a message that was
stored before, and `fd` is logged in as the author or the receiver. -/
inductive Server.MayReceive (before s : Server) (fd : Fd) : Packet → Prop where
  | other {p : Packet} : p.isPrivate = false → MayReceive before s fd p
  | delivered {m : Message} : s.messages = before.messages ++ [m] →
      s.authenticatedUsersByFd.lookup fd = some m.receiverUuid.bytes →
      MayReceive before s fd (privateMessageEvent m)
  | listed {m : Message} : m ∈ before.messages →
      (s.authenticatedUsersByFd.lookup fd = some m.authorUuid.bytes ∨
        s.authenticatedUsersByFd.lookup fd = some m.receiverUuid.bytes) →
      MayReceive before s fd ⟨.messagesList, buildMessagePayload m⟩

section

variable {context : CommandContext} {command : CommandID} {before s : Server} {packets : List (Fd × Packet)}

theorem mayReceive_toClient {ps : List Packet} (h : ∀ p ∈ ps, p.isPrivate = false) :
    ∀ q ∈ toClient context ps, before.MayReceive s q.1 q.2 :=
  List.forall_mem_map.mpr fun p hp => .other (h p hp)

theorem mayReceive_one {p : Packet} (h : p.isPrivate = false) :
    ∀ q ∈ toClient context [p], before.MayReceive s q.1 q.2 :=
  mayReceive_toClient (List.forall_mem_singleton.mpr h)

theorem mayReceive_tells {event : Packet} {recipients : Fd → Prop} (h : Tells packets event recipients)
    (hevent : event.isPrivate = false) : ∀ q ∈ packets, before.MayReceive s q.1 q.2 := by
  obtain ⟨fds, -, -, rfl⟩ := h
  exact List.forall_mem_map.mpr fun fd _ => .other hevent

theorem isPrivate_listReply {status : StatusCode} {payloads : List Payload}
    (h : ∀ payload ∈ payloads, (Packet.mk status payload).isPrivate = false) :
    ∀ p ∈ listReply status payloads, p.isPrivate = false :=
  List.forall_mem_append.mpr ⟨List.forall_mem_map.mpr h, List.forall_mem_singleton.mpr rfl⟩

theorem isPrivate_refusal {status : StatusCode} (h : Refuses context command status) :
    (Packet.ofStatus status).isPrivate = false := by
  have hall : ∀ status ∈ refusals command, (Packet.ofStatus status).isPrivate = false := by
    cases command <;> decide
  exact hall status h.1

theorem mem_filterMessages {messages : List Message} {clientUuid targetUuid : Bytes} {m : Message}
    (h : m ∈ filterMessages messages clientUuid targetUuid) :
    m ∈ messages ∧ (m.authorUuid.bytes = clientUuid ∨ m.receiverUuid.bytes = clientUuid) := by
  obtain ⟨hm, hpair⟩ := List.mem_filter.mp h
  simp only [Bool.or_eq_true, Bool.and_eq_true, decide_eq_true_eq] at hpair
  exact ⟨hm, hpair.symm.imp And.left And.right⟩

theorem Answer.mayReceive {ps : List Packet} (h : Answer context command ps) :
    ∀ q ∈ toClient context ps, context.toServer.MayReceive context.toServer q.1 q.2 := by
  cases h with
  | @messages clientUuid targetUuid hclient =>
    -- the one answer with messages: a sorted list has no others than those that were sorted
    refine List.forall_mem_map.mpr (List.forall_mem_append.mpr ⟨?_, List.forall_mem_singleton.mpr (.other rfl)⟩)
    refine List.forall_mem_map.mpr (List.forall_mem_map.mpr fun m hm => ?_)
    obtain ⟨hmem, hconcerned⟩ := mem_filterMessages
      ((context.environment.sorter.perm _).mem_iff.mp hm)
    refine .listed hmem ?_
    simp only [hclient]
    exact hconcerned.imp (fun he => congrArg some he.symm) (fun he => congrArg some he.symm)
  | users | subscribedTeams | subscribedUsers | teams | channels | threads | replies =>
    exact mayReceive_toClient (isPrivate_listReply (List.forall_mem_map.mpr fun _ _ => rfl))
  | user | alreadySubscribed | userInfo | teamInfo | channelInfo | threadInfo =>
    exact mayReceive_one rfl

theorem Effect.mayReceive (h : Effect context command s packets) (hlinked : Linked context.toServer) :
    ∀ q ∈ packets, context.toServer.MayReceive s q.1 q.2 := by
  cases h with
  | refused hrefuses => exact mayReceive_one (isPrivate_refusal hrefuses)
  | answered hanswer => exact hanswer.mayReceive
  | unknownUser | loggedOutUnknown | subscribed | used => exact mayReceive_one rfl
  | unsubscribed _ _ hreply =>
    refine mayReceive_one ?_
    rw [hreply]
    split <;> rfl
  | registered | loggedIn | createdTeam =>
    exact List.forall_mem_append.mpr ⟨mayReceive_one rfl, mayReceive_tells (tells_toEveryone _ _) rfl⟩
  | loggedOut =>
    refine List.forall_mem_append.mpr ⟨mayReceive_toClient ?_, mayReceive_tells (tells_toOthers _ _ _) rfl⟩
    exact List.forall_mem_cons.mpr ⟨rfl, List.forall_mem_singleton.mpr rfl⟩
  | createdChannel | createdThread | createdReply =>
    exact List.forall_mem_append.mpr ⟨mayReceive_one rfl, mayReceive_tells (tells_toSubscribers _ _ _) rfl⟩
  | @sent _ target _ message _ _ hvalid _ _ hmessage =>
    refine List.forall_mem_append.mpr ⟨List.forall_mem_map.mpr fun fd hfd => ?_, mayReceive_one rfl⟩
    have hreceiver : message.receiverUuid.bytes = target := by
      rw [hmessage]
      exact bytes_copyBuffer_uuid hvalid
    -- the index lists nobody who is not logged in as the receiver
    have hlookup := hlinked.owned target fd hfd
    exact .delivered rfl (hreceiver ▸ hlookup)

end

theorem Server.MayReceive.congr {before s s' : Server} {fd : Fd} {p : Packet} (h : before.MayReceive s fd p)
    (hmessages : s'.messages = s.messages) (hmap : s'.authenticatedUsersByFd = s.authenticatedUsersByFd) :
    before.MayReceive s' fd p := by
  cases h with
  | other hp => exact .other hp
  | delivered hm hfd => exact .delivered (hmessages.trans hm) (hmap ▸ hfd)
  | listed hm hfd => exact .listed hm (hmap ▸ hfd)

theorem Server.mayReceive_step {s s' : Server} (hs : Linked s) {e : Event} {queued : List (Fd × Packet)}
    (h : s.handle e = some (s', queued)) : ∀ q ∈ queued, s.MayReceive s' q.1 q.2 := by
  cases e with
  | accept fd =>
    obtain ⟨-, -, rfl⟩ := handle_accept h
    exact fun q hq => by cases hq
  | receive fd chunk =>
    obtain ⟨-, rfl, -⟩ := handle_receive h
    exact fun q hq => by cases hq
  | flush fd n =>
    obtain ⟨-, -, rfl, -⟩ := handle_flush h
    exact fun q hq => by cases hq
  | dispatch fd environment =>
    obtain ⟨-, command, payload, middle, size, heffect, rfl⟩ := handle_dispatch h
    exact fun q hq => (heffect.mayReceive hs q hq).congr rfl rfl
  | disconnect fd =>
    obtain ⟨-, middle, hd, rfl⟩ := handle_disconnect h
    cases hd with
    | anonymous | unknown => exact fun q hq => by cases hq
    | known => exact mayReceive_tells (tells_toOthers _ _ _) rfl

/-- A packet, and the states from which and to which the step led that queued it. -/
structure Audit.Entry where
  before : Server
  after : Server
  packet : Packet

/-- For each connection since it was accepted: its packets with the steps that queued them, and the bytes
that its socket took. -/
structure Audit where
  server : Server
  log : Fd → List Audit.Entry
  written : Fd → Bytes

namespace Audit

def start (listenFd : Fd) (users : List User) (teams : List Team) (messages : List Message) : Audit :=
  ⟨.start listenFd users teams messages, fun _ => [], fun _ => []⟩

/-- A step of the server, recorded. -/
def after (x : Audit) (e : Event) (s : Server) (queued : List (Fd × Packet)) : Audit where
  server := s
  log fd := if e.opens = some fd then [] else x.log fd ++ (packetsFor fd queued).map fun p => ⟨x.server, s, p⟩
  written fd := if e.opens = some fd then [] else x.written fd ++ e.written x.server fd

def step (x : Audit) (e : Event) : Option Audit :=
  (x.server.handle e).map fun r => x.after e r.1 r.2

/-- The record is complete, and everything in it was for the connection to receive. -/
structure Clean (x : Audit) : Prop where
  linked : x.server.Linked
  account : ∀ fd ∈ x.server.clientSockets,
    x.written fd ++ x.server.clientManager.getQueuedData fd = (x.log fd).flatMap fun r => r.packet.bytes
  rightful : ∀ fd, ∀ r ∈ x.log fd, r.before.MayReceive r.after fd r.packet

theorem Clean.step {x y : Audit} {e : Event} (h : Clean x) (hs : x.step e = some y) : Clean y := by
  obtain ⟨⟨s, queued⟩, hhandle, rfl⟩ := Option.map_eq_some_iff.mp hs
  refine ⟨h.linked.step hhandle, fun fd hfd => ?_, fun fd r hr => ?_⟩
  · simp only [after]
    split
    · next hopens =>
      obtain ⟨rfl⟩ : e = .accept fd := by
        cases e <;> simp_all [Event.opens]
      obtain ⟨hnew, rfl, -⟩ := handle_accept hhandle
      have hfresh : fd ∉ x.server.clientManager.clients := fun hmem =>
        hnew.2.2.2 ((h.linked.clients fd).mp hmem)
      rw [accepted, ClientManager.getQueuedData_addClient hfresh, if_pos rfl]
      rfl
    · next hopens =>
      have hbefore := (open_before hhandle hfd).resolve_left hopens
      have hstep := written_step h.linked hhandle hbefore hfd
      rw [List.append_assoc, hstep, ← List.append_assoc, h.account fd hbefore, List.flatMap_append,
        List.flatMap_map, bytes_packetsFor]
  · simp only [after] at hr
    split at hr
    · cases hr
    · rcases List.mem_append.mp hr with hr | hr
      · exact h.rightful fd r hr
      · obtain ⟨p, hp, rfl⟩ := List.mem_map.mp hr
        obtain ⟨q, hq, rfl⟩ := List.mem_map.mp hp
        obtain ⟨hmem, hfd⟩ := List.mem_filter.mp hq
        rw [← of_decide_eq_true hfd]
        exact mayReceive_step h.linked hhandle q hmem

theorem Clean.start (listenFd : Fd) (users : List User) (teams : List Team) (messages : List Message) :
    Clean (start listenFd users teams messages) where
  linked := .start _ _ _ _
  account fd hfd := by simp [Audit.start, Server.start] at hfd
  rightful fd r hr := by cases hr

/-- After any run, for every open connection: the bytes that its socket took and those that wait for
it are the packets of its record, and each of these that carries a private message was queued when
the connection was logged in as its receiver and by the step that stored it, or for a listing as the author or
the receiver. -/
theorem private_messages_confidential {listenFd : Fd} {users : List User} {teams : List Team}
    {messages : List Message} {events : List Event} {x : Audit}
    (hrun : Runs.run step (Audit.start listenFd users teams messages) events = some x) :
    ∀ fd ∈ x.server.clientSockets,
      x.written fd ++ x.server.clientManager.getQueuedData fd =
          (x.log fd).flatMap (fun r => r.packet.bytes) ∧
        ∀ r ∈ x.log fd, r.before.MayReceive r.after fd r.packet := by
  have hclean : Clean x := Runs.run_invariant (fun _ _ _ h hs => h.step hs) (.start _ _ _ _) hrun
  intro fd hfd
  exact ⟨hclean.account fd hfd, hclean.rightful fd⟩

/-- The user of connection 4 writes to the user of connection 5. -/
def oneMessageRun : List Event :=
  let other : Environment := { (default : Environment) with draw := fun _ => Fin.last 15 }
  [.accept 4, .accept 5, .receive 4 (Request.login [97]).packet, .dispatch 4 default,
    .receive 5 (Request.login [98]).packet, .dispatch 5 other,
    .receive 4 (Request.send (generateUuid other.draw) [104, 105]).packet, .dispatch 4 default]

theorem private_messages_confidential_one_message :
    ∃ x, Runs.run step (Audit.start 3 [] [] []) oneMessageRun = some x ∧
      (x.log 5).map (fun r => r.packet.status) = [.ok, .evtLoggedIn, .evtPrivateMsgRcvd] ∧
      ∀ r ∈ x.log 5, r.before.MayReceive r.after 5 r.packet := by
  have hfacts : (Runs.run step (Audit.start 3 [] [] []) oneMessageRun).map (fun x =>
      (decide ((5 : Fd) ∈ x.server.clientSockets), (x.log 5).map fun r => r.packet.status)) =
        some (true, [.ok, .evtLoggedIn, .evtPrivateMsgRcvd]) := by decide +kernel
  obtain ⟨x, hx, hfacts⟩ := Option.map_eq_some_iff.mp hfacts
  obtain ⟨hopen, hlog⟩ := Prod.mk.inj hfacts
  exact ⟨x, hx, hlog, (private_messages_confidential hx 5 (of_decide_eq_true hopen)).2⟩

end Audit

end TeamsMirror
