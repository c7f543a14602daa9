import TeamsMirror.Common.Protocol

/-!
# Server models

Users, private messages, and the tree of teams, channels, threads and replies.
Members that the classes copy into fixed buffers are `CString`s.
-/

namespace TeamsMirror

abbrev Uuid := CString uuidLength

/-- A user and how many connections are logged in as that user. -/
structure User where
  uuid : Uuid
  name : CString maxNameLength
  isLoggedInCount : Int
deriving DecidableEq

def User.new (uuid name : Bytes) (isLoggedIn : Bool) : User where
  uuid := .copyBuffer _ uuid
  name := .copyBuffer _ name
  isLoggedInCount := if isLoggedIn then 1 else 0

def User.isLoggedIn (u : User) : Bool := 1 ≤ u.isLoggedInCount

def User.resetLoggedIn (u : User) : User := { u with isLoggedInCount := 0 }

def User.addLoggedIn (u : User) : User := { u with isLoggedInCount := u.isLoggedInCount + 1 }

def User.removeLoggedIn (u : User) : User :=
  if u.isLoggedInCount ≤ 0 then { u with isLoggedInCount := 0 }
  else { u with isLoggedInCount := u.isLoggedInCount - 1 }

@[simp] theorem User.uuid_resetLoggedIn (u : User) : u.resetLoggedIn.uuid = u.uuid := rfl
@[simp] theorem User.name_resetLoggedIn (u : User) : u.resetLoggedIn.name = u.name := rfl
@[simp] theorem User.uuid_addLoggedIn (u : User) : u.addLoggedIn.uuid = u.uuid := rfl
@[simp] theorem User.name_addLoggedIn (u : User) : u.addLoggedIn.name = u.name := rfl
@[simp] theorem User.uuid_removeLoggedIn (u : User) : u.removeLoggedIn.uuid = u.uuid := by
  unfold User.removeLoggedIn
  split <;> rfl
@[simp] theorem User.name_removeLoggedIn (u : User) : u.removeLoggedIn.name = u.name := by
  unfold User.removeLoggedIn
  split <;> rfl

/-- A private message, or a reply in a thread when it has no receiver. -/
structure Message where
  uuid : Uuid
  authorUuid : Uuid
  receiverUuid : Uuid
  createdAt : Int64
  body : CString maxBodyLength
deriving DecidableEq

def Message.new (uuid authorUuid : Bytes) (createdAt : Int64) (body : Bytes)
    (receiverUuid : Bytes := []) : Message where
  uuid := .copyBuffer _ uuid
  authorUuid := .copyBuffer _ authorUuid
  receiverUuid := .copyBuffer _ receiverUuid
  createdAt := createdAt
  body := .copyBuffer _ body

structure Thread where
  uuid : Uuid
  authorUuid : Uuid
  createdAt : Int64
  title : CString maxNameLength
  body : CString maxBodyLength
  replies : List Message
deriving DecidableEq

def Thread.new (uuid authorUuid : Bytes) (createdAt : Int64) (title body : Bytes) : Thread where
  uuid := .copyBuffer _ uuid
  authorUuid := .copyBuffer _ authorUuid
  createdAt := createdAt
  title := .copyBuffer _ title
  body := .copyBuffer _ body
  replies := []

def Thread.addReply (t : Thread) (reply : Message) : Thread :=
  { t with replies := t.replies ++ [reply] }

structure Channel where
  uuid : Uuid
  name : CString maxNameLength
  description : CString maxDescriptionLength
  threads : List Thread
deriving DecidableEq

def Channel.new (uuid name description : Bytes) : Channel where
  uuid := .copyBuffer _ uuid
  name := .copyBuffer _ name
  description := .copyBuffer _ description
  threads := []

def Channel.addThread (c : Channel) (thread : Thread) : Channel :=
  { c with threads := c.threads ++ [thread] }

structure Team where
  uuid : Uuid
  name : CString maxNameLength
  description : CString maxDescriptionLength
  subscribedUserUuids : List Uuid
  channels : List Channel
deriving DecidableEq

def Team.new (uuid name description : Bytes) : Team where
  uuid := .copyBuffer _ uuid
  name := .copyBuffer _ name
  description := .copyBuffer _ description
  subscribedUserUuids := []
  channels := []

def Team.addSubscribedUser (t : Team) (userUuid : Bytes) : Team :=
  { t with subscribedUserUuids := t.subscribedUserUuids ++ [.copyBuffer _ userUuid] }

def Team.isUserSubscribed (t : Team) (userUuid : Bytes) : Bool :=
  t.subscribedUserUuids.any fun stored => stored.bytes = userUuid

/-- Remove every copy of a subscriber, and report whether there was one. -/
def Team.removeSubscribedUser (t : Team) (userUuid : Bytes) : Bool × Team :=
  let remaining := t.subscribedUserUuids.filter fun stored => stored.bytes ≠ userUuid
  (remaining.length ≠ t.subscribedUserUuids.length, { t with subscribedUserUuids := remaining })

def Team.addChannel (t : Team) (channel : Channel) : Team :=
  { t with channels := t.channels ++ [channel] }

@[simp] theorem Thread.uuid_addReply (t : Thread) (m : Message) : (t.addReply m).uuid = t.uuid := rfl
@[simp] theorem Channel.uuid_addThread (c : Channel) (t : Thread) : (c.addThread t).uuid = c.uuid := rfl
@[simp] theorem Team.uuid_addChannel (t : Team) (c : Channel) : (t.addChannel c).uuid = t.uuid := rfl
@[simp] theorem Team.uuid_addSubscribedUser (t : Team) (u : Bytes) :
    (t.addSubscribedUser u).uuid = t.uuid := rfl
@[simp] theorem Team.uuid_removeSubscribedUser (t : Team) (u : Bytes) :
    (t.removeSubscribedUser u).2.uuid = t.uuid := rfl

theorem Team.isUserSubscribed_iff {t : Team} {u : Uuid} :
    t.isUserSubscribed u.bytes = true ↔ u ∈ t.subscribedUserUuids := by
  simp only [Team.isUserSubscribed, List.any_eq_true, decide_eq_true_eq]
  constructor
  · rintro ⟨v, hv, he⟩
    exact CString.ext he ▸ hv
  · intro h
    exact ⟨u, h, rfl⟩

/-- A removal reports exactly whether the user was subscribed. -/
theorem Team.fst_removeSubscribedUser (t : Team) (userUuid : Bytes) :
    (t.removeSubscribedUser userUuid).1 = t.isUserSubscribed userUuid := by
  rw [Team.removeSubscribedUser, Team.isUserSubscribed, Bool.eq_iff_iff, decide_eq_true_eq, ne_eq,
    List.length_filter_eq_length_iff, List.any_eq_true]
  push Not
  simp

end TeamsMirror
