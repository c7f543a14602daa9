import TeamsMirror.Link.Answers
import TeamsMirror.Link.Isolation
import TeamsMirror.Server.Mentions
import TeamsMirror.Server.Recipients
import TeamsMirror.Server.Resolution

/-!
# Replies and the protocol document

`protocol_documentation.md` lists, in sections 5.1 and 7, how a server answers a
command that it does not refuse. Its table is written here row by row, and the
handlers keep to it but for one reply: a subscription that changes is answered
with the code of a list entry and no end of list.
-/

namespace TeamsMirror

open Cli

/-- Section 5.1 and 6.2: the payload that goes with a success code. -/
def StatusCode.Entry : StatusCode → Payload → Prop
  | .usersList, .rplUser _ | .userInfo, .rplUser _ => True
  | .messagesList, .rplMessage _ => True
  | .teamsList, .rplTeam _ | .subscribedList, .rplTeam _ => True
  | .channelsList, .rplChannel _ => True
  | .threadsList, .rplThread _ => True
  | .repliesList, .rplReply _ => True
  | _, _ => False

/-- The note of section 5.1: entries of one code, closed by an empty `RPL_OK`. -/
def ListOf (status : StatusCode) (replies : List Packet) : Prop :=
  ∃ payloads : List Payload, (∀ p ∈ payloads, status.Entry p) ∧ replies = listReply status payloads

/-- What `/list` lists in the context of a connection. -/
def CommandContext.listCode (context : CommandContext) : StatusCode :=
  if context.contextTeamUuid = [] then .teamsList
  else if context.contextChannelUuid = [] then .channelsList
  else if context.contextThreadUuid = [] then .threadsList
  else .repliesList

/-- The code of the one entry that is the info about the context of a connection. -/
def CommandContext.infoCode (context : CommandContext) : StatusCode :=
  if context.contextTeamUuid = [] then .userInfo
  else if context.contextChannelUuid = [] then .teamsList
  else if context.contextThreadUuid = [] then .channelsList
  else .threadsList

/-- The uuid that a client finds first in a payload. -/
def Payload.subject (p : Payload) : Option Bytes := p.mentions.head?.map Mention.uuid

/-- The uuid of what the context designates, which is the user where it is empty. -/
def CommandContext.infoUuid (context : CommandContext) : Option Bytes :=
  if context.contextTeamUuid = [] then context.authenticatedUsersByFd.lookup context.clientFd
  else if context.contextChannelUuid = [] then some context.contextTeamUuid
  else if context.contextThreadUuid = [] then some context.contextChannelUuid
  else some context.contextThreadUuid

/-- The success responses of section 7. The table has no row for the users of a team and for the
replies of a thread; these are lists of section 5.1. The reply to `/info` is context-dependent there, and
about the current context in section 4: it is one entry, of what the context designates. -/
def Documented (context : CommandContext) : CommandID → List Packet → Prop
  | .login, replies | .logout, replies | .send, replies | .use, replies => replies = [.ofStatus .ok]
  | .users, replies => ListOf .usersList replies
  | .userInfo, replies => ∃ p, StatusCode.userInfo.Entry p ∧ replies = [⟨.userInfo, p⟩]
  | .messages, replies => ListOf .messagesList replies
  | .subscribe, replies | .unsubscribe, replies =>
    replies = [.ofStatus .ok] ∨ ∃ p, StatusCode.userInfo.Entry p ∧ replies = [⟨.userInfo, p⟩]
  | .subscribedList, replies =>
    if context.payloadSize = 0 then ListOf .subscribedList replies else ListOf .usersList replies
  | .create, replies => ∃ p, replies = [⟨.created, p⟩]
  | .list, replies => ListOf context.listCode replies
  | .info, replies => ∃ p, context.infoCode.Entry p ∧
    p.subject = context.infoUuid ∧ replies = [⟨context.infoCode, p⟩]

/-- The replies are those of a documented command. -/
def Conforms (context : CommandContext) (code : UInt16) (replies : List Packet) : Prop :=
  ∃ command : CommandID, code = command.code ∧ Documented context command replies

def Refused (replies : List Packet) : Prop := ∃ p ∈ replies, p.status.isError = true

/-- The request subscribes a user who is not subscribed, or unsubscribes one who is. -/
def ChangesSubscription (context : CommandContext) (code : UInt16) : Prop :=
  ∃ user uuid team, getAuthenticatedUser context = some user ∧
    parseTeamUuidFromPayload context = some uuid ∧ findTeamByUuid context.teams uuid = some team ∧
    ((code = CommandID.subscribe.code ∧ team.isUserSubscribed user.uuid.bytes = false) ∨
      (code = CommandID.unsubscribe.code ∧ team.isUserSubscribed user.uuid.bytes = true))

variable {context context' : CommandContext} {command : CommandID}

theorem entry_user (u : User) : StatusCode.usersList.Entry (buildUserPayload u) := trivial
theorem entry_userInfo (u : User) : StatusCode.userInfo.Entry (buildUserPayload u) := trivial
theorem entry_message (m : Message) : StatusCode.messagesList.Entry (buildMessagePayload m) := trivial
theorem entry_team (t : Team) : StatusCode.teamsList.Entry (buildTeamPayload t) := trivial
theorem entry_subscribed (t : Team) : StatusCode.subscribedList.Entry (buildTeamPayload t) := trivial
theorem entry_channel (c : Channel) : StatusCode.channelsList.Entry (buildChannelPayload c) := trivial
theorem entry_thread (d : Thread) : StatusCode.threadsList.Entry (buildThreadPayload d) := trivial
theorem entry_reply (d : Thread) (m : Message) : StatusCode.repliesList.Entry (buildReplyPayload d m) := trivial

theorem listOf_map {α : Type} {status : StatusCode} {build : α → Payload} (h : ∀ x, status.Entry (build x))
    (xs : List α) : ListOf status (listReply status (xs.map build)) := by
  refine ⟨xs.map build, fun p hp => ?_, rfl⟩
  obtain ⟨x, -, rfl⟩ := List.mem_map.mp hp
  exact h x

theorem refusals_isError {status : StatusCode} (h : status ∈ refusals command) : status.isError = true := by
  revert h
  cases command <;> cases status <;> decide

/-- The replies of every other command are those of the document, read off the effects. -/
theorem documented_of_replies {replies : List Packet} (h : Replies context command replies)
    (hsubscribe : command ≠ .subscribe) (hunsubscribe : command ≠ .unsubscribe) (hlist : command ≠ .list)
    (hinfo : command ≠ .info) (hrefused : ¬Refused replies) : Documented context command replies := by
  cases h with
  | refused hrefuses =>
    exact absurd ⟨_, List.mem_singleton_self _, refusals_isError hrefuses.1⟩ hrefused
  | unknownUser => exact absurd ⟨_, List.mem_singleton_self _, rfl⟩ hrefused
  | answered hanswer =>
    cases hanswer with
    | users => exact listOf_map entry_user _
    | @user u => exact ⟨_, entry_userInfo u, rfl⟩
    | messages => exact listOf_map entry_message _
    | alreadySubscribed => exact absurd rfl hsubscribe
    | subscribedTeams _ hsize =>
      rw [Documented, if_pos hsize]
      exact listOf_map entry_subscribed _
    | subscribedUsers _ hsize =>
      rw [Documented, if_neg hsize]
      exact listOf_map entry_user _
    | teams | channels | threads | replies => exact absurd rfl hlist
    | userInfo | teamInfo | channelInfo | threadInfo => exact absurd rfl hinfo
  | loggedIn | loggedOut | sent | used => rfl
  | subscribed => exact absurd rfl hsubscribe
  | unsubscribed | notSubscribed => exact absurd rfl hunsubscribe
  | createdTeam | createdChannel | createdThread | createdReply => exact ⟨_, rfl⟩

theorem answersTo_queuePackets (hqueued : context.queued = []) (ps : List Packet) :
    answersTo context.clientFd (queuePackets context (toClient context ps)).queued = repliesOf ps := by
  rw [queuePackets_eq, hqueued, List.nil_append, answersTo_toClient]

/-- One status or one entry is the whole answer. -/
theorem answersTo_queuePacket (fd : Fd) (hqueued : context.queued = []) {p : Packet}
    (hp : p.status.isEvent = false) : answersTo fd (queuePacket context fd p).queued = [p] := by
  have hone : (queuePacket context fd p).queued = [(fd, p)] := by
    rw [queuePacket, hqueued, List.nil_append]
  simp [hone, answersTo, packetsFor, repliesOf, hp]

theorem answersTo_perform (hqueued : context.queued = []) (s : Server) {p : Packet}
    (hp : p.status.isEvent = false) :
    answersTo context.clientFd (perform context s (toClient context [p])).queued = [p] := by
  rw [queued_perform, hqueued, List.nil_append, answersTo_toClient]
  simp [repliesOf, hp]

/-- A handler that does not refuse has not queued the status of an error. -/
theorem ne_queueStatus {context' : CommandContext} {status : StatusCode} (hqueued : context.queued = [])
    (hrefused : ¬Refused (answersTo context.clientFd context'.queued)) (herror : status.isError = true)
    (hevent : status.isEvent = false) : context' ≠ queueStatus context status := by
  rintro rfl
  rw [queueStatus, answersTo_queuePacket _ hqueued hevent] at hrefused
  exact hrefused ⟨_, List.mem_singleton_self _, herror⟩

/-- `/list` lists what the context designates. -/
theorem documented_list (hqueued : context.queued = []) (hcontext : context.Hierarchical)
    (hrefused : ¬Refused (answersTo context.clientFd (handleListCommand context).queued)) :
    Documented context .list (answersTo context.clientFd (handleListCommand context).queued) := by
  have hstatus : ∀ status : StatusCode, status.isError = true → status.isEvent = false →
      handleListCommand context ≠ queueStatus context status := fun _ => ne_queueStatus hqueued hrefused
  by_cases hempty : context.payloadSize = 0
  · cases huser : getAuthenticatedUser context with
    | none => exact (hstatus .unauthorized rfl rfl (by simp [handleListCommand, hempty, huser])).elim
    | some user =>
      have hlist := handleList_resolve hempty huser hcontext
      have hwalk := resolve_walk huser
      have hanswers : ∀ place, resolve context user = .ok place →
          answersTo context.clientFd (handleListCommand context).queued =
            repliesOf (place.listing context.teams) := by
        intro place hplace
        rw [hlist, hplace]
        exact answersTo_queuePackets hqueued _
      rw [Documented, CommandContext.listCode]
      generalize hresult : resolve context user = result at hwalk hlist hanswers
      cases hwalk with
      | unknownTeam | unknownChannel | unknownThread => exact (hstatus .notFound rfl rfl hlist).elim
      | notSubscribed => exact (hstatus .unauthorized rfl rfl hlist).elim
      | root hteam =>
        rw [if_pos hteam, hanswers _ rfl, Place.listing, repliesOf_listReply rfl]
        exact listOf_map entry_team _
      | team hteam _ hchannel =>
        rw [if_neg hteam, if_pos hchannel, hanswers _ rfl, Place.listing, repliesOf_listReply rfl]
        exact listOf_map entry_channel _
      | channel hteam _ hchannel hthread =>
        rw [if_neg hteam, if_neg hchannel, if_pos hthread, hanswers _ rfl, Place.listing,
          repliesOf_listReply rfl]
        exact listOf_map entry_thread _
      | @thread _ _ d hteam _ hchannel hthread =>
        rw [if_neg hteam, if_neg hchannel, if_neg hthread, hanswers _ rfl, Place.listing,
          repliesOf_listReply rfl]
        exact listOf_map (entry_reply d) _
  · exact (hstatus .badRequest rfl rfl (by simp [handleListCommand, hempty])).elim

/-- `/info` tells of what the context designates. -/
theorem documented_info (hqueued : context.queued = []) (hcontext : context.Hierarchical)
    (hrefused : ¬Refused (answersTo context.clientFd (handleInfoCommand context).queued)) :
    Documented context .info (answersTo context.clientFd (handleInfoCommand context).queued) := by
  have hstatus : ∀ status : StatusCode, status.isError = true → status.isEvent = false →
      handleInfoCommand context ≠ queueStatus context status := fun _ => ne_queueStatus hqueued hrefused
  by_cases hempty : context.payloadSize = 0
  · cases huser : getAuthenticatedUser context with
    | none => exact (hstatus .unauthorized rfl rfl (by simp [handleInfoCommand, hempty, huser])).elim
    | some user =>
      have hinfo := handleInfo_resolve hempty huser hcontext
      have hwalk := resolve_walk huser
      have hanswers : ∀ place, resolve context user = .ok place → (place.info user).status.isEvent = false →
          answersTo context.clientFd (handleInfoCommand context).queued = [place.info user] := by
        intro place hplace hevent
        rw [hinfo, hplace]
        exact answersTo_queuePacket _ hqueued hevent
      rw [Documented, CommandContext.infoCode, CommandContext.infoUuid]
      generalize hresult : resolve context user = result at hwalk hinfo hanswers
      cases hwalk with
      | unknownTeam | unknownChannel | unknownThread => exact (hstatus .notFound rfl rfl hinfo).elim
      | notSubscribed => exact (hstatus .unauthorized rfl rfl hinfo).elim
      | root hteam =>
        rw [if_pos hteam, if_pos hteam, hanswers _ rfl rfl]
        refine ⟨_, entry_userInfo user, ?_, rfl⟩
        simp [Payload.subject, buildUserPayload, Payload.mentions, lookup_of_authenticated huser]
      | @team t hteam hin hchannel =>
        rw [if_neg hteam, if_neg hteam, if_pos hchannel, if_pos hchannel, hanswers _ rfl rfl]
        refine ⟨_, entry_team t, ?_, rfl⟩
        have huuid : t.uuid.bytes = context.contextTeamUuid := by simpa using List.find?_some hin.found
        simp [Payload.subject, buildTeamPayload, Payload.mentions, ← huuid]
      | @channel _ c hteam hin hchannel hthread =>
        rw [if_neg hteam, if_neg hteam, if_neg hchannel, if_neg hchannel, if_pos hthread, if_pos hthread,
          hanswers _ rfl rfl]
        refine ⟨_, entry_channel c, ?_, rfl⟩
        have huuid : c.uuid.bytes = context.contextChannelUuid := by simpa using List.find?_some hin.foundChannel
        simp [Payload.subject, buildChannelPayload, Payload.mentions, ← huuid]
      | @thread _ _ d hteam hin hchannel hthread =>
        rw [if_neg hteam, if_neg hteam, if_neg hchannel, if_neg hchannel, if_neg hthread, if_neg hthread,
          hanswers _ rfl rfl]
        refine ⟨_, entry_thread d, ?_, rfl⟩
        have huuid : d.uuid.bytes = context.contextThreadUuid := by simpa using List.find?_some hin.foundThread
        simp [Payload.subject, buildThreadPayload, Payload.mentions, ← huuid]
  · exact (hstatus .badRequest rfl rfl (by simp [handleInfoCommand, hempty])).elim

theorem ChangesSubscription.iff_of_targets {user : User} {uuid : Bytes} {team : Team} {code : UInt16}
    (h : Targets context user uuid team) :
    ChangesSubscription context code ↔
      (code = CommandID.subscribe.code ∧ team.isUserSubscribed user.uuid.bytes = false) ∨
        (code = CommandID.unsubscribe.code ∧ team.isUserSubscribed user.uuid.bytes = true) := by
  constructor
  · rintro ⟨user', uuid', team', huser', huuid', hteam', hchange⟩
    cases h.authenticated.symm.trans huser'
    cases h.parsed.symm.trans huuid'
    cases h.found.symm.trans hteam'
    exact hchange
  · intro hchange
    exact ⟨user, uuid, team, h.authenticated, h.parsed, h.found, hchange⟩

/-- Without a team there is no subscription to change. -/
theorem Untargeted.not_changes {status : StatusCode} (h : Untargeted context status) (code : UInt16) :
    ¬ChangesSubscription context code := by
  rintro ⟨_, _, _, huser, huuid, hteam, -⟩
  exact h.not_targets ⟨huser, huuid, hteam⟩

/-- How the two commands end: refused, changing nothing, or changing the subscription. -/
inductive SubscriptionReply (context : CommandContext) (code : UInt16) : List Packet → Prop where
  | refused {status : StatusCode} : status.isError = true → ¬ChangesSubscription context code →
      SubscriptionReply context code [.ofStatus status]
  | unchanged : ¬ChangesSubscription context code → SubscriptionReply context code [.ofStatus .ok]
  | changed (user : User) : ChangesSubscription context code →
      SubscriptionReply context code [⟨.usersList, buildUserPayload user⟩]

theorem handleSubscribe_reply (hqueued : context.queued = []) :
    SubscriptionReply context CommandID.subscribe.code
      (answersTo context.clientFd (handleSubscribeCommand context).queued) := by
  rcases targets_or_refused context with ⟨user, uuid, team, htarget⟩ | ⟨status, huntargeted, hrefused, -⟩
  · have hchanges : ChangesSubscription context CommandID.subscribe.code ↔
        team.isUserSubscribed user.uuid.bytes = false := by
      rw [ChangesSubscription.iff_of_targets htarget]
      have hcode : CommandID.subscribe.code ≠ CommandID.unsubscribe.code := by decide
      simp [hcode]
    rw [htarget.subscribe_eq]
    split
    · next hsub =>
      rw [queueStatus, answersTo_queuePacket _ hqueued rfl]
      refine .unchanged ?_
      rw [hchanges, hsub]
      decide
    · next hsub =>
      have hchanged := hchanges.mpr (Bool.eq_false_of_not_eq_true hsub)
      rw [answersTo_perform hqueued _ rfl]
      exact .changed user hchanged
  · rw [hrefused, queueStatus, answersTo_queuePacket _ hqueued huntargeted.not_isEvent]
    exact .refused huntargeted.isError (huntargeted.not_changes _)

theorem handleUnsubscribe_reply (hqueued : context.queued = []) :
    SubscriptionReply context CommandID.unsubscribe.code
      (answersTo context.clientFd (handleUnsubscribeCommand context).queued) := by
  rcases targets_or_refused context with ⟨user, uuid, team, htarget⟩ | ⟨status, huntargeted, -, hrefused⟩
  · have hchanges : ChangesSubscription context CommandID.unsubscribe.code ↔
        team.isUserSubscribed user.uuid.bytes = true := by
      rw [ChangesSubscription.iff_of_targets htarget]
      have hcode : CommandID.unsubscribe.code ≠ CommandID.subscribe.code := by decide
      simp [hcode]
    rw [htarget.unsubscribe_eq, answersTo_perform hqueued _ (by split <;> rfl), Team.fst_removeSubscribedUser]
    split
    · next hsub => exact .changed user (hchanges.mpr hsub)
    · next hnot => exact .unchanged (mt hchanges.mp hnot)
  · rw [hrefused, queueStatus, answersTo_queuePacket _ hqueued huntargeted.not_isEvent]
    exact .refused huntargeted.isError (huntargeted.not_changes _)

/-- A subscription that changes is answered by one entry of a list, which the table does not have. -/
theorem SubscriptionReply.documented_iff {replies : List Packet}
    (hcommand : command = .subscribe ∨ command = .unsubscribe)
    (h : SubscriptionReply context command.code replies) :
    (¬Refused replies → Conforms context command.code replies) ↔
      ¬ChangesSubscription context command.code := by
  have hdocumented : ∀ status p, Conforms context command.code [⟨status, p⟩] →
      status = .ok ∨ status = .userInfo := by
    rintro status p ⟨command', hcode, hrow⟩
    cases CommandID.code_injective hcode
    rcases hcommand with rfl | rfl <;> rcases hrow with hrow | ⟨_, -, hrow⟩ <;> cases hrow <;> simp
  cases h with
  | refused hstatus hnot =>
    exact iff_of_true (fun hall => absurd ⟨_, List.mem_singleton_self _, hstatus⟩ hall) hnot
  | unchanged hnot =>
    refine iff_of_true (fun _ => ⟨command, rfl, ?_⟩) hnot
    rcases hcommand with rfl | rfl <;> exact .inl rfl
  | changed user hchange =>
    refine iff_of_false (fun hall => ?_) (not_not_intro hchange)
    have hnot : ¬Refused [⟨.usersList, buildUserPayload user⟩] := by
      rintro ⟨p, hp, herror⟩
      rw [List.mem_singleton.mp hp] at herror
      cases herror
    rcases hdocumented _ _ (hall hnot) with h | h <;> cases h

namespace Server

/-- The replies to a dispatched request are those of the document, except when a subscription
changes. -/
theorem conforms_iff {s s' : Server} {fd : Fd} {environment : Environment} {queued : List (Fd × Packet)}
    {header : PacketHeader} {payload : Bytes} (hs : s.Reachable)
    (hpeek : peekPacket (s.clientManager.getIncomingBuffer fd) = some (header, payload))
    (h : s.handle (.dispatch fd environment) = some (s', queued)) :
    (¬Refused (answersTo fd queued) →
        Conforms (s.context fd payload environment) header.code (answersTo fd queued)) ↔
      ¬ChangesSubscription (s.context fd payload environment) header.code := by
  obtain ⟨header', payload', context', hpeek', hdispatch, rfl, -⟩ := handle_dispatch_context h
  cases hpeek.symm.trans hpeek'
  by_cases hcode : ∃ command : CommandID, header.code = command.code
  · obtain ⟨command, hcode⟩ := hcode
    rw [hcode] at hdispatch ⊢
    have hother : command ≠ .subscribe → command ≠ .unsubscribe →
        ¬ChangesSubscription (s.context fd payload environment) command.code := by
      rintro hsubscribe hunsubscribe ⟨_, _, _, _, _, _, ⟨hc, -⟩ | ⟨hc, -⟩⟩
      · exact hsubscribe (CommandID.code_injective hc)
      · exact hunsubscribe (CommandID.code_injective hc)
    by_cases hsubscribe : command = .subscribe
    · subst hsubscribe
      cases hdispatch
      exact SubscriptionReply.documented_iff (.inl rfl) (handleSubscribe_reply rfl)
    by_cases hunsubscribe : command = .unsubscribe
    · subst hunsubscribe
      cases hdispatch
      exact SubscriptionReply.documented_iff (.inr rfl) (handleUnsubscribe_reply rfl)
    refine iff_of_true (fun hrefused => ⟨command, rfl, ?_⟩) (hother hsubscribe hunsubscribe)
    by_cases hlist : command = .list
    · subst hlist
      cases hdispatch
      exact documented_list rfl (hs.hierarchical fd) hrefused
    by_cases hinfo : command = .info
    · subst hinfo
      cases hdispatch
      exact documented_info rfl (hs.hierarchical fd) hrefused
    · obtain ⟨s, packets, heffect, rfl⟩ := dispatch_command hdispatch
      rw [queued_perform] at hrefused ⊢
      exact documented_of_replies heffect.replies hsubscribe hunsubscribe hlist hinfo hrefused
  · have hunknown : ∀ command : CommandID, header.code ≠ command.code := fun command he => hcode ⟨command, he⟩
    rw [dispatch_unknown hunknown] at hdispatch
    cases hdispatch
    refine iff_of_true (fun hrefused => absurd ?_ hrefused) ?_
    · have hone : answersTo fd (queueStatus (s.context fd payload environment) .badRequest).queued =
          [.ofStatus .badRequest] := answersTo_queuePacket fd rfl rfl
      rw [hone]
      exact ⟨_, List.mem_singleton_self _, rfl⟩
    · rintro ⟨_, _, _, _, _, _, ⟨hc, -⟩ | ⟨hc, -⟩⟩
      · exact hunknown _ hc
      · exact hunknown _ hc

/-- Connection 4 asks for the users when it is the only one. -/
def usersRun : List Event :=
  [.accept 4, .receive 4 (Request.login [97]).packet, .dispatch 4 default, .receive 4 Request.users.packet]

theorem conforms_users :
    ∃ (s s' : Server) (queued : List (Fd × Packet)) (header : PacketHeader) (payload : Bytes),
      Runs.run step (start 3 [] [] []) usersRun = some s ∧
      s.handle (.dispatch 4 default) = some (s', queued) ∧ queued.length = 2 ∧
      Conforms (s.context 4 payload default) header.code (answersTo 4 queued) := by
  have hfacts : ((Runs.run step (start 3 [] [] []) usersRun).bind fun s =>
      (s.handle (.dispatch 4 default)).bind fun r =>
        (peekPacket (s.clientManager.getIncomingBuffer 4)).map fun p =>
          (p.1.code, r.2.length, (answersTo 4 r.2).map fun q => q.status.isError)) =
        some (CommandID.users.code, 2, [false, false]) := by decide +kernel
  obtain ⟨s, hs, hfacts⟩ := Option.bind_eq_some_iff.mp hfacts
  obtain ⟨r, hr, hfacts⟩ := Option.bind_eq_some_iff.mp hfacts
  obtain ⟨p, hp, hfacts⟩ := Option.map_eq_some_iff.mp hfacts
  simp only [Prod.mk.injEq] at hfacts
  obtain ⟨hcode, hlength, herrors⟩ := hfacts
  have hiff := conforms_iff ⟨3, [], [], [], usersRun, hs⟩ hp hr
  have hnot : ¬ChangesSubscription (s.context 4 p.2 default) p.1.code := by
    rintro ⟨_, _, _, _, _, _, ⟨hc, -⟩ | ⟨hc, -⟩⟩ <;> rw [hcode] at hc <;> exact absurd hc (by decide)
  have hrefused : ¬Refused (answersTo 4 r.2) := by
    rintro ⟨q, hq, herror⟩
    have hfalse : true ∈ [false, false] := by
      rw [← herrors, ← herror]
      exact List.mem_map.mpr ⟨q, hq, rfl⟩
    simp at hfalse
  exact ⟨s, r.1, r.2, p.1, p.2, hs, hr, hlength, hiff.mpr hnot hrefused⟩

/-- Connection 5 subscribes to the team that connection 4 has created. -/
def subscribeRun : List Event :=
  oneTeamTwoClientsRun ++
    [.dispatch 4 default, .receive 5 (Request.subscribe (generateUuid (default : Environment).draw)).packet]

/-- The reply is an entry of a list of users, with no end of list. -/
theorem subscribe_deviates :
    ¬∀ (s s' : Server) (fd : Fd) (environment : Environment) (queued : List (Fd × Packet))
      (header : PacketHeader) (payload : Bytes), s.Reachable →
      peekPacket (s.clientManager.getIncomingBuffer fd) = some (header, payload) →
      s.handle (.dispatch fd environment) = some (s', queued) → ¬Refused (answersTo fd queued) →
      Conforms (s.context fd payload environment) header.code (answersTo fd queued) := by
  intro hall
  have hfacts : ((Runs.run step (start 3 [] [] []) subscribeRun).bind fun s =>
      (s.handle (.dispatch 5 default)).bind fun r =>
        (peekPacket (s.clientManager.getIncomingBuffer 5)).map fun p =>
          (p.1.code, (answersTo 5 r.2).map Packet.status)) =
        some (CommandID.subscribe.code, [.usersList]) := by decide +kernel
  obtain ⟨s, hs, hfacts⟩ := Option.bind_eq_some_iff.mp hfacts
  obtain ⟨r, hr, hfacts⟩ := Option.bind_eq_some_iff.mp hfacts
  obtain ⟨p, hp, hfacts⟩ := Option.map_eq_some_iff.mp hfacts
  obtain ⟨hcode, hstatus⟩ := Prod.mk.inj hfacts
  obtain ⟨q, hq, hqstatus⟩ := List.map_eq_singleton_iff.mp hstatus
  have hrefused : ¬Refused (answersTo 5 r.2) := by
    rintro ⟨q', hq', herror⟩
    rw [hq, List.mem_singleton] at hq'
    rw [hq', hqstatus] at herror
    cases herror
  obtain ⟨command, hcommand, hrow⟩ := hall s r.1 5 default r.2 p.1 p.2
    ⟨3, [], [], [], subscribeRun, hs⟩ hp hr hrefused
  cases CommandID.code_injective (hcode.symm.trans hcommand)
  rw [hq] at hrow
  rcases hrow with hrow | ⟨_, -, hrow⟩
  · rw [List.singleton_inj.mp hrow] at hqstatus
    cases hqstatus
  · rw [List.singleton_inj.mp hrow] at hqstatus
    cases hqstatus

end Server

end TeamsMirror
