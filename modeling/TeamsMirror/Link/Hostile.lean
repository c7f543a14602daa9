import TeamsMirror.Client.Bounds
import TeamsMirror.Link.Synchrony

/-!
# A server that sends anything

Which packets of a server make the client read outside of what it has received, for
every line that is typed and for the events that come on their own.
-/

namespace TeamsMirror.Cli

open Reads

variable {client : Client}

/-- The loop that follows a request is one of the readers. -/
theorem Exchanges.exists_reader {request : Request} {body : Body} {clientAfterOk : Client}
    (h : Exchanges client request body clientAfterOk) : ∃ reader : Reader, body = reader.body client := by
  cases h with
  | login => exact ⟨.login _, rfl⟩
  | logout => exact ⟨.logout, rfl⟩
  | users => exact ⟨.users, rfl⟩
  | user => exact ⟨.user, rfl⟩
  | send => exact ⟨.send _, rfl⟩
  | messages => exact ⟨.messages _, rfl⟩
  | subscribe => exact ⟨.subscribe _, rfl⟩
  | unsubscribe => exact ⟨.unsubscribe _, rfl⟩
  | subscribedTeams => exact ⟨.subscribedList false [], rfl⟩
  | subscribedUsers => exact ⟨.subscribedList true _, rfl⟩
  | use => exact ⟨.use _ _ _, rfl⟩
  | createTeam => exact ⟨.create .team, rfl⟩
  | createChannel => exact ⟨.create .channel, rfl⟩
  | createThread => exact ⟨.create .thread, rfl⟩
  | createReply => exact ⟨.create .reply, rfl⟩
  | list => exact ⟨.list, rfl⟩
  | info => exact ⟨.info, rfl⟩

/-- The handler of an event reads inside exactly when the texts of an event of the expected size
end in their fields. Every exchange that a line starts is read by one of the readers, and a reader
takes a reply inside exactly under its condition; its loop reads inside as long as every packet
meets both conditions. -/
theorem reads_inside_iff (client : Client) :
    (∀ code payload, (handleAsyncEventPacketAt code payload ≠ none ↔ EventInside code payload) ∧
      (EventInside code payload →
        handleAsyncEventPacketAt code payload = some (handleAsyncEventPacket code payload))) ∧
    (∀ line request body, handlingInput client line = .exchange request body →
      ∃ reader : Reader, body = reader.body client) ∧
    ∀ reader : Reader,
      (∀ expectedListCode code payload,
        (reader.bodyAt client expectedListCode code payload ≠ none ↔
          reader.Inside expectedListCode code payload) ∧
        (reader.Inside expectedListCode code payload → reader.bodyAt client expectedListCode code payload =
          some (reader.body client expectedListCode code payload))) ∧
      ∀ lib expectedListCode inbox, (∀ packet ∈ inbox, reader.Accepts packet) →
        readRepliesAt lib (reader.bodyAt client) expectedListCode inbox =
          some (readReplies lib (reader.body client) expectedListCode inbox) := by
  refine ⟨fun code payload => ?_, fun line request body hline => ?_, fun reader => ⟨?_, ?_⟩⟩
  · have hevent := handleAsyncEventPacketAt_inside code payload
    exact ⟨hevent.ne_none_iff, hevent.1⟩
  · have hhandled := handled client line
    rw [hline] at hhandled
    obtain ⟨-, _, hsent⟩ := hhandled.exchanges
    exact hsent.exists_reader
  · intro expectedListCode code payload
    have hreply := reader.bodyAt_inside client expectedListCode code payload
    exact ⟨hreply.ne_none_iff, hreply.1⟩
  · intro lib expectedListCode inbox h
    exact readRepliesAt_eq client lib reader expectedListCode h

/-- A user in a list, and the event of a login. -/
def shortEntry : PayloadRplUser where
  userUuid := .copyPadded _ (bytesOf "00000000-0000-0000-0000-000000000000")
  userName := .copyPadded _ [97, 98]
  userStatus := 1

def shortEvent : PayloadEvtUserConnection where
  userUuid := .copyPadded _ (bytesOf "00000000-0000-0000-0000-000000000000")
  userName := .copyPadded _ [97, 98]

/-- Texts that end before their fields do. -/
theorem reads_inside_iff_short :
    Reader.users.bodyAt .start 0 StatusCode.usersList.code (Packed.toBytes shortEntry) =
        some (Reader.users.body .start 0 StatusCode.usersList.code (Packed.toBytes shortEntry)) ∧
      handleAsyncEventPacketAt StatusCode.evtLoggedIn.code (Packed.toBytes shortEvent) =
        some (handleAsyncEventPacket StatusCode.evtLoggedIn.code (Packed.toBytes shortEvent)) := by
  obtain ⟨hevents, -, hreaders⟩ := reads_inside_iff .start
  obtain ⟨hreply, -⟩ := hreaders .users
  have hentry : Reader.users.Inside 0 StatusCode.usersList.code (Packed.toBytes shortEntry) := by
    rw [Reader.Inside, if_pos rfl]
    intro _
    decide +kernel
  have hevent : EventInside StatusCode.evtLoggedIn.code (Packed.toBytes shortEvent) := by
    rw [EventInside, if_pos rfl]
    intro _
    decide +kernel
  exact ⟨(hreply 0 _ _).2 hentry, (hevents _ _).2 hevent⟩

/-- A subscription is answered by an entry without a payload, and a login event comes whose texts
fill their fields: the first is copied from bytes that are not there, and the second is read on
behind its fields. -/
theorem reads_outside :
    handlingInput .start (bytesOf "/subscribe \"00000000-0000-0000-0000-000000000000\"") =
        .exchange (.subscribe (bytesOf "00000000-0000-0000-0000-000000000000"))
          ((Reader.subscribe (bytesOf "00000000-0000-0000-0000-000000000000")).body .start) ∧
      (Reader.subscribe (bytesOf "00000000-0000-0000-0000-000000000000")).bodyAt .start 0
        StatusCode.usersList.code [] = none ∧
      handleAsyncEventPacketAt StatusCode.evtLoggedIn.code (List.replicate 69 97) = none := by
  exact ⟨rfl, rfl, rfl⟩

end TeamsMirror.Cli
