import TeamsMirror.Client.Bounds
import TeamsMirror.Server.Contents

/-!
# What a client shows of a packet

The loops of all handlers and the handler of events, on any packet: a name, a title
or another text that is handed to the library is the one that the payload carries,
whatever kind of payload the loop takes it for.
-/

namespace TeamsMirror

/-- The texts among the arguments of a call that are no uuids. -/
def Cli.LibCall.texts : Cli.LibCall → Option (List Bytes)
  | .eventLoggedIn _ name | .eventLoggedOut _ name | .printUsers _ name _ | .printUser _ name _ => some [name]
  | .eventPrivateMessageReceived _ body | .printPrivateMessages _ _ body => some [body]
  | .eventThreadReplyReceived _ _ _ body | .printThreadReplies _ _ _ body | .printReplyCreated _ _ _ body =>
    some [body]
  | .eventTeamCreated _ name description | .eventChannelCreated _ name description
  | .printTeams _ name description | .printTeamChannels _ name description
  | .printTeam _ name description | .printChannel _ name description
  | .printTeamCreated _ name description | .printChannelCreated _ name description => some [name, description]
  | .eventThreadCreated _ _ _ title body | .printChannelThreads _ _ _ title body
  | .printThread _ _ _ title body | .printThreadCreated _ _ _ title body => some [title, body]
  | .printSubscribed _ _ | .printUnsubscribed _ _ | .errorUnknownTeam _ | .errorUnknownChannel _
  | .errorUnknownThread _ | .errorUnknownUser _ | .errorUnauthorized | .errorAlreadyExist => none

def Cli.Turn.shown : Cli.Turn → List Cli.Shown
  | .again shown _ => shown
  | .done shown _ => shown

/-- Some loop, or the handler of events, makes this call for the packet. -/
inductive Packet.ShownBy (p : Packet) (call : Cli.LibCall) : Prop where
  | event : Cli.handleAsyncEventPacket p.status.code p.payload.bytes = some (.lib call) → ShownBy p call
  | reply (reader : Cli.Reader) (client : Cli.Client) (expectedListCode : UInt16) :
      .lib call ∈ (reader.body client expectedListCode p.status.code p.payload.bytes).shown → ShownBy p call

/-- Whatever payload has the size of `α`, its texts are where `α` has them. -/
def Decodes (α : Type) [Packed α] (content : α → List Bytes) : Prop :=
  ∀ p : Payload, p.bytes.length = sizeof α → ∃ a : α, p.bytes = Packed.toBytes a ∧ p.texts = some (content a)

/-- The sizes of two kinds of payload differ. -/
theorem ne_of_sizes {α β : Type} [Packed α] [Packed β] (hne : sizeof α ≠ sizeof β) {a : α} :
    (Packed.toBytes a).length ≠ sizeof β := by
  rw [Packed.length_toBytes]
  exact hne

/-- Two kinds of one layout are decoded alike. -/
theorem Decodes.relabel {α β : Type} [Packed α] [Packed β] {content : α → List Bytes} {content' : β → List Bytes}
    (h : Decodes α content) (f : α → β) (hbytes : ∀ a, Packed.toBytes (f a) = Packed.toBytes a)
    (hcontent : ∀ a, content' (f a) = content a) (hsize : sizeof β = sizeof α) : Decodes β content' := by
  intro p hlen
  obtain ⟨a, hp, htexts⟩ := h p (hlen.trans hsize)
  exact ⟨f a, hp.trans (hbytes a).symm, htexts.trans (congrArg some (hcontent a).symm)⟩

theorem decodes_user : Decodes PayloadRplUser fun q => [q.userName.cstr] := by
  intro p h
  cases p with
  | rplUser q => exact ⟨q, rfl, rfl⟩
  | none => exact absurd h (by decide)
  | _ => exact absurd h (ne_of_sizes (by decide))

theorem decodes_userConnection : Decodes PayloadEvtUserConnection fun q => [q.userName.cstr] := by
  intro p h
  cases p with
  | evtUserConnection q => exact ⟨q, rfl, rfl⟩
  | none => exact absurd h (by decide)
  | _ => exact absurd h (ne_of_sizes (by decide))

theorem decodes_message : Decodes PayloadRplMessage fun q => [q.messageBody.cstr] := by
  intro p h
  cases p with
  | rplMessage q => exact ⟨q, rfl, rfl⟩
  | none => exact absurd h (by decide)
  | _ => exact absurd h (ne_of_sizes (by decide))

theorem decodes_privateMsg : Decodes PayloadEvtPrivateMsg fun q => [q.messageBody.cstr] := by
  intro p h
  cases p with
  | evtPrivateMsg q => exact ⟨q, rfl, rfl⟩
  | none => exact absurd h (by decide)
  | _ => exact absurd h (ne_of_sizes (by decide))

theorem decodes_reply : Decodes PayloadRplReply fun q => [q.replyBody.cstr] := by
  intro p h
  cases p with
  | rplReply q => exact ⟨q, rfl, rfl⟩
  | none => exact absurd h (by decide)
  | _ => exact absurd h (ne_of_sizes (by decide))

theorem decodes_replyCreated : Decodes PayloadEvtReplyCreated fun q => [q.replyBody.cstr] := by
  intro p h
  cases p with
  | evtReplyCreated q => exact ⟨q, rfl, rfl⟩
  | none => exact absurd h (by decide)
  | _ => exact absurd h (ne_of_sizes (by decide))

/-- Teams and channels, in replies and events, share one layout. -/
theorem decodes_team : Decodes PayloadRplTeam fun q => [q.teamName.cstr, q.teamDescription.cstr] := by
  intro p h
  cases p with
  | rplTeam q | evtTeamCreated q => exact ⟨⟨q.teamUuid, q.teamName, q.teamDescription⟩, rfl, rfl⟩
  | rplChannel q | evtChannelCreated q =>
    exact ⟨⟨q.channelUuid, q.channelName, q.channelDescription⟩, rfl, rfl⟩
  | none => exact absurd h (by decide)
  | _ => exact absurd h (ne_of_sizes (by decide))

theorem decodes_teamCreated : Decodes PayloadEvtTeamCreated fun q => [q.teamName.cstr, q.teamDescription.cstr] :=
  decodes_team.relabel (fun q => ⟨q.teamUuid, q.teamName, q.teamDescription⟩) (fun _ => rfl) (fun _ => rfl) rfl

theorem decodes_channel : Decodes PayloadRplChannel fun q => [q.channelName.cstr, q.channelDescription.cstr] :=
  decodes_team.relabel (fun q => ⟨q.teamUuid, q.teamName, q.teamDescription⟩) (fun _ => rfl) (fun _ => rfl) rfl

theorem decodes_channelCreated :
    Decodes PayloadEvtChannelCreated fun q => [q.channelName.cstr, q.channelDescription.cstr] :=
  decodes_team.relabel (fun q => ⟨q.teamUuid, q.teamName, q.teamDescription⟩) (fun _ => rfl) (fun _ => rfl) rfl

/-- So do threads. -/
theorem decodes_thread : Decodes PayloadRplThread fun q => [q.threadTitle.cstr, q.threadBody.cstr] := by
  intro p h
  cases p with
  | rplThread q | evtThreadCreated q =>
    exact ⟨⟨q.threadUuid, q.userUuid, q.threadTimestamp, q.threadTitle, q.threadBody⟩, rfl, rfl⟩
  | none => exact absurd h (by decide)
  | _ => exact absurd h (ne_of_sizes (by decide))

theorem decodes_threadCreated :
    Decodes PayloadEvtThreadCreated fun q => [q.threadTitle.cstr, q.threadBody.cstr] :=
  decodes_thread.relabel (fun q => ⟨q.threadUuid, q.userUuid, q.threadTimestamp, q.threadTitle, q.threadBody⟩)
    (fun _ => rfl) (fun _ => rfl) rfl

namespace Cli

/-- Calls with texts have those of the payload. -/
def Faithful (p : Payload) (shown : List Shown) : Prop :=
  ∀ call, .lib call ∈ shown → ∀ texts ∈ call.texts, p.texts = some texts

variable {p : Payload}

theorem faithful_nil : Faithful p [] := by simp [Faithful]

theorem faithful_line (kind : Kind) (text : String) : Faithful p [.line kind text] := by simp [Faithful]

theorem faithful_call {call : LibCall} (h : call.texts = none) : Faithful p [.lib call] := by
  simp [Faithful, h]

theorem faithful_decoded {α : Type} [Packed α] {content : α → List Bytes} (hdecodes : Decodes α content)
    {f : α → LibCall} (hf : ∀ a, (f a).texts = some (content a)) (hlen : p.bytes.length = sizeof α) :
    Faithful p [.lib (f (Packed.ofBytes p.bytes))] := by
  obtain ⟨a, hbytes, htexts⟩ := hdecodes p hlen
  rw [hbytes, Packed.ofBytes_toBytes]
  simp [Faithful, hf, htexts]

theorem faithful_showPayload {α : Type} [Packed α] {content : α → List Bytes} (hdecodes : Decodes α content)
    {f : α → LibCall} (hf : ∀ a, (f a).texts = some (content a)) (malformed : String) :
    Faithful p [showPayload α f (malformedLine malformed) p.bytes] := by
  unfold showPayload
  split
  · exact faithful_line _ _
  · next hlen => exact faithful_decoded hdecodes hf (not_not.mp hlen)

theorem faithful_showOrThrow {α : Type} [Packed α] {content : α → List Bytes} (hdecodes : Decodes α content)
    {f : α → LibCall} (hf : ∀ a, (f a).texts = some (content a)) (malformed : String)
    {next : List Shown → Turn} (hnext : ∀ shown, (next shown).shown = shown) :
    Faithful p (showOrThrow α f malformed p.bytes next).shown := by
  unfold showOrThrow
  split
  · exact faithful_nil
  · next hlen =>
    rw [hnext]
    exact faithful_decoded hdecodes hf (not_not.mp hlen)

variable (client : Client) (expectedListCode code : UInt16)

theorem loginBody_faithful (username : Bytes) :
    Faithful p (loginBody client username expectedListCode code p.bytes).shown := by
  unfold loginBody
  split
  · exact faithful_nil
  split
  · exact faithful_line _ _
  · exact faithful_line _ _

theorem logoutBody_faithful : Faithful p (logoutBody client expectedListCode code p.bytes).shown := by
  unfold logoutBody
  split
  · exact faithful_nil
  split
  · exact faithful_call rfl
  split
  · exact faithful_line _ _
  · exact faithful_line _ _

theorem usersBody_faithful : Faithful p (usersBody client expectedListCode code p.bytes).shown := by
  unfold usersBody
  split
  · exact faithful_nil
  split
  · exact faithful_showOrThrow decodes_user (fun _ => rfl) _ fun _ => rfl
  split
  · exact faithful_call rfl
  split
  · exact faithful_nil
  · exact faithful_nil

theorem userBody_faithful : Faithful p (userBody client expectedListCode code p.bytes).shown := by
  unfold userBody
  split
  · exact faithful_nil
  split
  · exact faithful_showOrThrow decodes_user (fun _ => rfl) _ fun _ => rfl
  split
  · unfold showOrThrow
    split
    · exact faithful_nil
    · exact faithful_call rfl
  split
  · exact faithful_call rfl
  split
  · exact faithful_nil
  · exact faithful_nil

theorem sendBody_faithful (targetUuid : Bytes) :
    Faithful p (sendBody client targetUuid expectedListCode code p.bytes).shown := by
  unfold sendBody
  split
  · exact faithful_nil
  split
  · exact faithful_call rfl
  split
  · exact faithful_call rfl
  split
  · exact faithful_line _ _
  · exact faithful_line _ _

theorem messagesBody_faithful (targetUuid : Bytes) :
    Faithful p (messagesBody client targetUuid expectedListCode code p.bytes).shown := by
  unfold messagesBody
  split
  · exact faithful_nil
  split
  · exact faithful_showPayload decodes_message (fun _ => rfl) _
  split
  · exact faithful_call rfl
  split
  · exact faithful_call rfl
  split
  · exact faithful_line _ _
  · exact faithful_line _ _

theorem handleCommonError_faithful (teamUuid : Bytes) :
    Faithful p (handleCommonError client code teamUuid).shown := by
  unfold handleCommonError
  split
  · exact faithful_call rfl
  split
  · exact faithful_call rfl
  split
  · exact faithful_call rfl
  split
  · exact faithful_line _ _
  · exact faithful_line _ _

/-- Of the payload, only the uuid is shown. -/
theorem subscribeBody_faithful (teamUuid : Bytes) :
    Faithful p (subscribeBody client teamUuid expectedListCode code p.bytes).shown := by
  unfold subscribeBody
  split
  · exact faithful_nil
  split
  · exact faithful_call rfl
  · exact handleCommonError_faithful client code teamUuid

theorem unsubscribeBody_faithful (teamUuid : Bytes) :
    Faithful p (unsubscribeBody client teamUuid expectedListCode code p.bytes).shown := by
  unfold unsubscribeBody
  split
  · exact faithful_nil
  split
  · exact faithful_call rfl
  split
  · exact faithful_line _ _
  · exact handleCommonError_faithful client code teamUuid

theorem subscribedListBody_faithful (hasTeamFilter : Bool) (teamUuid : Bytes) :
    Faithful p (subscribedListBody client hasTeamFilter teamUuid expectedListCode code p.bytes).shown := by
  unfold subscribedListBody
  split
  · exact faithful_nil
  split
  · exact faithful_call rfl
  split
  · exact faithful_call rfl
  split
  · exact faithful_line _ _
  split
  · exact faithful_showPayload decodes_team (fun _ => rfl) _
  split
  · exact faithful_showPayload decodes_user (fun _ => rfl) _
  split
  · exact faithful_line _ _
  · exact faithful_line _ _

theorem useBody_faithful (teamUuid channelUuid threadUuid : Bytes) :
    Faithful p (useBody client teamUuid channelUuid threadUuid expectedListCode code p.bytes).shown := by
  unfold useBody
  split
  · exact faithful_line _ _
  split
  · exact faithful_line _ _
  split
  · exact faithful_line _ _
  · exact faithful_nil

theorem handleNotFound_faithful : Faithful p (handleNotFound client) := by
  unfold handleNotFound
  split
  · exact faithful_call rfl
  split
  · exact faithful_call rfl
  split
  · exact faithful_call rfl
  · exact faithful_nil

theorem handleListError_faithful : Faithful p (handleListError client code).shown := by
  unfold handleListError
  split
  · exact faithful_call rfl
  split
  · exact faithful_line _ _
  split
  · exact handleNotFound_faithful client
  split
  · exact faithful_line _ _
  · exact faithful_line _ _

theorem listBody_faithful : Faithful p (listBody client expectedListCode code p.bytes).shown := by
  unfold listBody
  split
  · exact faithful_nil
  split
  · exact handleListError_faithful client code
  simp only
  -- the code that the list goes on with does not matter to what is shown
  generalize (if expectedListCode = 0 then code else expectedListCode) = expectedListCode
  split
  · exact faithful_line _ _
  split
  · exact faithful_showPayload decodes_team (fun _ => rfl) _
  split
  · exact faithful_showPayload decodes_channel (fun _ => rfl) _
  split
  · exact faithful_showPayload decodes_thread (fun _ => rfl) _
  split
  · exact faithful_showPayload decodes_reply (fun _ => rfl) _
  · exact handleListError_faithful client code

theorem infoBody_faithful : Faithful p (infoBody client expectedListCode code p.bytes).shown := by
  unfold infoBody
  split
  · exact faithful_showPayload decodes_user (fun _ => rfl) _
  split
  · exact faithful_showPayload decodes_team (fun _ => rfl) _
  split
  · exact faithful_showPayload decodes_channel (fun _ => rfl) _
  split
  · exact faithful_showPayload decodes_thread (fun _ => rfl) _
  unfold handleInfoError
  split
  · exact faithful_call rfl
  split
  · exact handleNotFound_faithful client
  split
  · exact faithful_line _ _
  · exact faithful_line _ _

theorem handleCreatedReply_faithful (target : CreateTarget) : Faithful p [handleCreatedReply target p.bytes] := by
  unfold handleCreatedReply
  cases target with
  | team => exact faithful_showPayload decodes_team (fun _ => rfl) _
  | channel => exact faithful_showPayload decodes_channel (fun _ => rfl) _
  | thread => exact faithful_showPayload decodes_thread (fun _ => rfl) _
  | reply => exact faithful_showPayload decodes_reply (fun _ => rfl) _

theorem createBody_faithful (target : CreateTarget) :
    Faithful p (createBody client target expectedListCode code p.bytes).shown := by
  unfold createBody
  split
  · exact handleCreatedReply_faithful target
  unfold handleCreateError
  split
  · exact faithful_call rfl
  split
  · exact faithful_call rfl
  split
  · exact handleNotFound_faithful client
  split
  · exact faithful_line _ _
  · exact faithful_line _ _

theorem body_faithful (reader : Reader) :
    Faithful p (reader.body client expectedListCode code p.bytes).shown := by
  cases reader with
  | login username => exact loginBody_faithful client expectedListCode code username
  | logout => exact logoutBody_faithful client expectedListCode code
  | users => exact usersBody_faithful client expectedListCode code
  | user => exact userBody_faithful client expectedListCode code
  | send targetUuid => exact sendBody_faithful client expectedListCode code targetUuid
  | messages targetUuid => exact messagesBody_faithful client expectedListCode code targetUuid
  | subscribe teamUuid => exact subscribeBody_faithful client expectedListCode code teamUuid
  | unsubscribe teamUuid => exact unsubscribeBody_faithful client expectedListCode code teamUuid
  | subscribedList hasTeamFilter teamUuid =>
    exact subscribedListBody_faithful client expectedListCode code hasTeamFilter teamUuid
  | use teamUuid channelUuid threadUuid =>
    exact useBody_faithful client expectedListCode code teamUuid channelUuid threadUuid
  | list => exact listBody_faithful client expectedListCode code
  | info => exact infoBody_faithful client expectedListCode code
  | create target => exact createBody_faithful client expectedListCode code target

theorem event_faithful {shown : Shown} (h : handleAsyncEventPacket code p.bytes = some shown) :
    Faithful p [shown] := by
  unfold handleAsyncEventPacket at h
  split at h
  · exact Option.some.inj h ▸ faithful_showPayload decodes_userConnection (fun _ => rfl) _
  split at h
  · exact Option.some.inj h ▸ faithful_showPayload decodes_userConnection (fun _ => rfl) _
  split at h
  · exact Option.some.inj h ▸ faithful_showPayload decodes_privateMsg (fun _ => rfl) _
  split at h
  · exact Option.some.inj h ▸ faithful_showPayload decodes_teamCreated (fun _ => rfl) _
  split at h
  · exact Option.some.inj h ▸ faithful_showPayload decodes_channelCreated (fun _ => rfl) _
  split at h
  · exact Option.some.inj h ▸ faithful_showPayload decodes_threadCreated (fun _ => rfl) _
  split at h
  · exact Option.some.inj h ▸ faithful_showPayload decodes_replyCreated (fun _ => rfl) _
  · cases h

end Cli

/-- Texts reach the library as the packet carries them. -/
theorem Packet.ShownBy.shows {p : Packet} {call : Cli.LibCall} (h : p.ShownBy call) :
    ∀ texts ∈ call.texts, Shows texts p := by
  cases h with
  | event hevent => exact Cli.event_faithful _ hevent call List.mem_cons_self
  | reply reader client expectedListCode hmem =>
    exact Cli.body_faithful client expectedListCode _ reader call hmem

end TeamsMirror
