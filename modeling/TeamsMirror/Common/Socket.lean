import TeamsMirror.Lib.Numerals

/-!
# The socket layer

`utils::Socket` and `utils::System`, with the answers of the system calls as data.
A failing call throws, and which exception it throws depends on who made it: the
socket itself, or the reading and writing below it. A socket whose peer is gone
throws a third one.
-/

namespace TeamsMirror

/-- A socket descriptor (`std::int32_t`). -/
abbrev Fd := Int

/-- The flags of a `pollfd` that the loop sets or tests. -/
structure PollEvents where
  pollIn : Bool
  pollOut : Bool
  pollErr : Bool
  pollHup : Bool
  pollNval : Bool
deriving DecidableEq

namespace PollEvents

def none : PollEvents := ⟨false, false, false, false, false⟩

def input : PollEvents := { none with pollIn := true }

def inputOutput : PollEvents := { none with pollIn := true, pollOut := true }

end PollEvents

abbrev Errno := Nat

def ebadf : Errno := 9

def enotsock : Errno := 88

/-- The calls of `Socket(int fd)`: whether `fstat` sees a socket, and the copy that `dup` makes. -/
structure DescriptorCalls where
  fstat : Except Errno Bool
  dup : Except Errno Fd

/-- The calls of `Socket::accept`. -/
structure AcceptCalls extends DescriptorCalls where
  accept : Except Errno Fd

/-- The calls of `Socket::read`. A read returns no more than it was asked for. -/
structure ReadCalls (size : Nat) where
  poll : Except Errno PollEvents
  read : Except Errno { data : Bytes // data.length ≤ size }

/-- The calls of `Socket::write`. A write takes what there is room for. -/
structure WriteCalls where
  poll : Except Errno PollEvents
  write : Except Errno Nat

inductive Thrown where
  | socketException (message : String) (errorNumber : Errno)
  | socketClosed
  | systemException (operation : String) (errorNumber : Errno)
deriving DecidableEq

namespace System

def write (data : Bytes) (write : Except Errno Nat) : Except Thrown (Fin (data.length + 1)) :=
  match write with
  | .error errno => .error (.systemException "write() failed" errno)
  | .ok room => .ok ⟨min data.length room, by omega⟩

def read {size : Nat} (read : Except Errno { data : Bytes // data.length ≤ size }) :
    Except Thrown { data : Bytes // data.length ≤ size } :=
  match read with
  | .error errno => .error (.systemException "read() failed" errno)
  | .ok data => .ok data

end System

namespace Socket

/-- The constructor `Socket(int fd)`. -/
def ofFd (fd : Fd) (calls : DescriptorCalls) : Except Thrown Fd :=
  if fd < 0 then .error (.socketException "socket fd is invalid" ebadf)
  else
    match calls.fstat with
    | .error errno => .error (.socketException "fstat() failed for socket fd" errno)
    | .ok false => .error (.socketException "fd is not a socket" enotsock)
    | .ok true =>
      match calls.dup with
      | .error errno => .error (.socketException "dup() failed for socket fd" errno)
      | .ok fd => .ok fd

def accept (calls : AcceptCalls) : Except Thrown Fd :=
  match calls.accept with
  | .error errno => .error (.socketException "accept() failed" errno)
  | .ok fd => ofFd fd calls.toDescriptorCalls

def poll (poll : Except Errno PollEvents) : Except Thrown PollEvents :=
  match poll with
  | .error errno => .error (.socketException "poll() failed" errno)
  | .ok revents => .ok revents

def write (data : Bytes) (calls : WriteCalls) : Except Thrown (Fin (data.length + 1)) :=
  match poll calls.poll with
  | .error thrown => .error thrown
  | .ok pollRes =>
    if pollRes.pollErr || pollRes.pollHup then .error .socketClosed
    else if pollRes.pollOut then System.write data calls.write
    else .ok ⟨0, Nat.succ_pos _⟩

def read {size : Nat} (calls : ReadCalls size) : Except Thrown { data : Bytes // data.length ≤ size } :=
  match poll calls.poll with
  | .error thrown => .error thrown
  | .ok pollRes =>
    if pollRes.pollErr || pollRes.pollHup then
      if pollRes.pollIn then
        match System.read calls.read with
        | .error thrown => .error thrown
        | .ok data => if data.val = [] then .error .socketClosed else .ok data
      else .error .socketClosed
    else if pollRes.pollIn then System.read calls.read
    else .ok ⟨[], Nat.zero_le _⟩

end Socket

/-- Both calls find a socket in order. -/
structure DescriptorCalls.Succeed (calls : DescriptorCalls) : Prop where
  fstat : calls.fstat = .ok true
  dup : ∃ fd, calls.dup = .ok fd

/-- Every call of an `accept` succeeds. -/
structure AcceptCalls.Succeed (calls : AcceptCalls) : Prop extends
    DescriptorCalls.Succeed calls.toDescriptorCalls where
  accept : ∃ fd, calls.accept = .ok fd ∧ 0 ≤ fd

/-- Whatever `poll` reports, a peer that is gone has left bytes to read, and the read that follows
brings them. -/
structure ReadCalls.Served {size : Nat} (calls : ReadCalls size) : Prop where
  hasInput : ∀ revents, calls.poll = .ok revents → (revents.pollErr || revents.pollHup) →
    revents.pollIn
  brings : ∀ revents, calls.poll = .ok revents → revents.pollIn →
    ∃ data, calls.read = .ok data ∧ ((revents.pollErr || revents.pollHup) → data.val ≠ [])

/-- `poll` does not report that the peer is gone, and a write that follows does not fail. -/
structure WriteCalls.Served (calls : WriteCalls) : Prop where
  hasPeer : ∀ revents, calls.poll = .ok revents → (revents.pollErr || revents.pollHup) = false
  takes : ∀ revents, calls.poll = .ok revents → revents.pollOut → ∃ room, calls.write = .ok room

/-- The only exception that the callers of the socket layer translate. -/
def Thrown.IsSocketException : Thrown → Prop
  | .socketException _ _ => True
  | .socketClosed | .systemException _ _ => False

namespace Socket

variable {fd : Fd} {thrown : Thrown}

theorem isSocketException_ofFd {calls : DescriptorCalls} (h : ofFd fd calls = .error thrown) :
    thrown.IsSocketException := by
  simp only [ofFd] at h
  repeat' split at h
  all_goals cases h
  all_goals trivial

theorem succeed_ofFd_iff {calls : DescriptorCalls} (hfd : 0 ≤ fd) :
    calls.Succeed ↔ ∃ socketFd, ofFd fd calls = .ok socketFd := by
  rw [ofFd, if_neg (Int.not_lt.mpr hfd)]
  constructor
  · rintro ⟨hfstat, socketFd, hdup⟩
    exact ⟨socketFd, by rw [hfstat, hdup]⟩
  · rintro ⟨socketFd, h⟩
    split at h
    · cases h
    · cases h
    · next hfstat =>
      split at h
      · cases h
      · next fd' hdup => exact ⟨hfstat, fd', hdup⟩

/-- An accepted connection becomes a socket when every call succeeds. -/
theorem succeed_accept_iff {calls : AcceptCalls} :
    calls.Succeed ↔ ∃ clientFd, accept calls = .ok clientFd := by
  constructor
  · rintro ⟨hsucceed, fd, haccept, hfd⟩
    simp only [accept, haccept]
    exact (succeed_ofFd_iff hfd).mp hsucceed
  · rintro ⟨clientFd, h⟩
    simp only [accept] at h
    split at h
    · cases h
    · next fd haccept =>
      have hfd : 0 ≤ fd := by
        by_contra hneg
        rw [ofFd, if_pos (Int.not_le.mp hneg)] at h
        cases h
      exact ⟨(succeed_ofFd_iff hfd).mpr ⟨clientFd, h⟩, fd, haccept, hfd⟩

/-- A read throws nothing but a socket exception exactly when its calls leave nothing else to throw. -/
theorem served_read_iff {size : Nat} {calls : ReadCalls size} :
    calls.Served ↔ ∀ thrown, read calls = .error thrown → thrown.IsSocketException := by
  cases hpoll : calls.poll with
  | error errno =>
    constructor
    · intro _ thrown h
      simp only [read, poll, hpoll] at h
      cases h
      trivial
    · intro _
      exact ⟨by simp [hpoll], by simp [hpoll]⟩
  | ok revents =>
    simp only [read, poll, hpoll]
    constructor
    · rintro ⟨hinput, hbrings⟩ thrown h
      have hinput := hinput revents hpoll
      have hbrings := hbrings revents hpoll
      split at h
      · next hgone =>
        obtain ⟨data, hread, hdata⟩ := hbrings (hinput hgone)
        rw [if_pos (hinput hgone), hread] at h
        simp only [System.read, if_neg (hdata hgone)] at h
        cases h
      · split at h
        · next hin =>
          obtain ⟨data, hread, -⟩ := hbrings hin
          rw [hread] at h
          cases h
        · cases h
    · intro hthrown
      refine ⟨fun revents' hrevents hgone => ?_, fun revents' hrevents hin => ?_⟩
      · cases hpoll.symm.trans hrevents
        by_contra hin
        rw [if_pos hgone, if_neg hin] at hthrown
        exact hthrown _ rfl
      · cases hpoll.symm.trans hrevents
        rw [if_pos hin, if_pos hin] at hthrown
        cases hread : calls.read with
        | error errno =>
          rw [hread] at hthrown
          split at hthrown
          · exact (hthrown _ rfl).elim
          · exact (hthrown _ rfl).elim
        | ok data =>
          refine ⟨data, rfl, fun hgone hnil => ?_⟩
          rw [if_pos hgone, hread] at hthrown
          simp only [System.read, if_pos hnil] at hthrown
          exact hthrown _ rfl

theorem served_write_iff {data : Bytes} {calls : WriteCalls} :
    calls.Served ↔ ∀ thrown, write data calls = .error thrown → thrown.IsSocketException := by
  cases hpoll : calls.poll with
  | error errno =>
    constructor
    · intro _ thrown h
      simp only [write, poll, hpoll] at h
      cases h
      trivial
    · intro _
      exact ⟨by simp [hpoll], by simp [hpoll]⟩
  | ok revents =>
    simp only [write, poll, hpoll]
    constructor
    · rintro ⟨hpeer, htakes⟩ thrown h
      rw [if_neg (by simp [hpeer revents hpoll])] at h
      split at h
      · next hout =>
        obtain ⟨room, hwrite⟩ := htakes revents hpoll hout
        rw [hwrite] at h
        cases h
      · cases h
    · intro hthrown
      have hpeer : (revents.pollErr || revents.pollHup) = false := by
        by_contra hgone
        rw [if_pos (Bool.eq_true_of_not_eq_false hgone)] at hthrown
        exact hthrown _ rfl
      refine ⟨fun revents' hrevents => ?_, fun revents' hrevents hout => ?_⟩
      · cases hpoll.symm.trans hrevents
        exact hpeer
      · cases hpoll.symm.trans hrevents
        rw [if_neg (by simp [hpeer]), if_pos hout] at hthrown
        cases hwrite : calls.write with
        | error errno =>
          rw [hwrite] at hthrown
          exact (hthrown _ rfl).elim
        | ok room => exact ⟨room, rfl⟩

end Socket

end TeamsMirror
