import TeamsMirror.Common.Socket

/-!
# The command line of the server

What `server::run` does before the poll loop: the port is parsed, a listening socket
is made out of four system calls, and the signal handlers are installed. Every call
that fails becomes an exception with its own text.
-/

namespace TeamsMirror

open Numerals

/-- `ServerException` and what is derived from it, by how the text is made. -/
inductive ServerException where
  | server (message : String)
  | socket (message : String)
  | syscall (operation : String) (errorNumber : Errno)
deriving DecidableEq

namespace ServerException

/-- The text of an exception; the generic category has a text for each error number. -/
def what (genericCategory : Errno → String) : ServerException → String
  | server message => "[Server] " ++ message
  | socket message => "[Server] " ++ ("[Socket] " ++ message)
  | syscall operation errorNumber =>
    "[Server] " ++ ("[Socket] " ++ (operation ++ ": " ++ genericCategory errorNumber))

end ServerException

def socketCreationException (errorNumber : Errno) : ServerException := .syscall "socket() failed" errorNumber

def socketOptionException (errorNumber : Errno) : ServerException :=
  .syscall "setsockopt(SO_REUSEADDR) failed" errorNumber

def socketBindException (errorNumber : Errno) : ServerException := .syscall "bind() failed" errorNumber

def socketListenException (errorNumber : Errno) : ServerException := .syscall "listen() failed" errorNumber

def socketPollException (errorNumber : Errno) : ServerException := .syscall "poll() failed" errorNumber

def socketAcceptException (errorNumber : Errno) : ServerException := .syscall "accept() failed" errorNumber

def socketNotInitializedException : ServerException := .socket "listening socket is not initialized"

def socketAlreadyInitializedException : ServerException := .socket "listening socket is already initialized"

/-- What a function throws: `run` catches the first kind only. -/
inductive Escaped where
  | serverException (exception : ServerException)
  | other
deriving DecidableEq

/-- The `catch` for a `SocketException` that throws another exception in its place. -/
def caughtAs (exception : Errno → ServerException) : Except Thrown α → Except Escaped α
  | .ok a => .ok a
  | .error (.socketException _ errorNumber) => .error (.serverException (exception errorNumber))
  | .error .socketClosed => .error .other
  | .error (.systemException _ _) => .error .other

inductive FromCharsError where
  | invalidArgument
  | resultOutOfRange
deriving DecidableEq

/-- `std::from_chars` for an `unsigned long`: the number, and what follows its digits. -/
def fromChars (arg : Bytes) : Except FromCharsError Nat × Bytes :=
  let digits := arg.takeWhile isDigit
  if digits = [] then (.error .invalidArgument, arg)
  else if 2 ^ 64 ≤ digitsValue digits then (.error .resultOutOfRange, arg.dropWhile isDigit)
  else (.ok (digitsValue digits), arg.dropWhile isDigit)

def parsePort (arg : Bytes) : Option UInt16 :=
  if arg = [] then none
  else
    match fromChars arg with
    | (.ok parsedPort, []) => if parsedPort = 0 ∨ 65535 < parsedPort then none else some (.ofNat parsedPort)
    | _ => none

/-- An argument is a port when it is nothing but digits, zeros in front included, of a number from 1 to
65535, and then it is that number. -/
theorem parsePort_eq_some {arg : Bytes} {port : UInt16} : parsePort arg = some port ↔
    (∀ b ∈ arg, isDigit b = true) ∧ digitsValue arg = port.toNat ∧ 0 < port.toNat := by
  have hport := port.toNat_lt
  have hempty : digitsValue [] = 0 := rfl
  constructor
  · intro h
    simp only [parsePort] at h
    split at h
    · cases h
    · split at h
      · next parsedPort hparsed =>
        simp only [fromChars] at hparsed
        split at hparsed
        · cases hparsed
        · split at hparsed
          · cases hparsed
          · obtain ⟨hvalue, hrest⟩ := Prod.mk.inj hparsed
            have hall : ∀ b ∈ arg, isDigit b = true := List.dropWhile_eq_nil_iff.mp hrest
            rw [List.takeWhile_eq_self_iff.mpr hall] at hvalue
            obtain ⟨hrange, hsome⟩ := Option.ite_none_left_eq_some.mp h
            cases hvalue
            cases hsome
            rw [UInt16.toNat_ofNat', Nat.mod_eq_of_lt (by omega)]
            exact ⟨hall, rfl, by omega⟩
      · cases h
  · rintro ⟨hall, hvalue, hpos⟩
    have hne : arg ≠ [] := by
      rintro rfl
      omega
    have hparsed : fromChars arg = (.ok port.toNat, []) := by
      simp only [fromChars, List.takeWhile_eq_self_iff.mpr hall, List.dropWhile_eq_nil_iff.mpr hall, hvalue]
      rw [if_neg hne, if_neg (by omega)]
    simp only [parsePort, if_neg hne, hparsed]
    rw [if_neg (by omega), UInt16.ofNat_toNat]

/-- The calls of `initializeTcpListener`; an address is a port of this host. -/
structure ListenerCalls where
  socket : Except Errno Fd
  setsockopt : Except Errno Unit
  bind : UInt16 → Except Errno Unit
  listen : Except Errno Unit

namespace Socket

/-- A call of which nothing but its failure matters. -/
def checked (message : String) (call : Except Errno α) : Except Thrown α :=
  match call with
  | .error errno => .error (.socketException message errno)
  | .ok a => .ok a

/-- The constructor `Socket(int domain, int type, int protocol)`. -/
def create (socket : Except Errno Fd) : Except Thrown Fd := checked "socket() failed" socket

def setReuseAddress (setsockopt : Except Errno Unit) : Except Thrown Unit :=
  checked "setsockopt(SO_REUSEADDR) failed" setsockopt

def bind (bind : Except Errno Unit) : Except Thrown Unit := checked "bind() failed" bind

def listen (listen : Except Errno Unit) : Except Thrown Unit := checked "listen() failed" listen

end Socket

/-- The listening socket of a `ServerManager` that has `listenSocket`, if any. -/
def initializeTcpListener (listenSocket : Option Fd) (port : UInt16) (calls : ListenerCalls) :
    Except Escaped Fd :=
  match listenSocket with
  | some _ => .error (.serverException socketAlreadyInitializedException)
  | none => do
    let listenSocket ← caughtAs socketCreationException (Socket.create calls.socket)
    caughtAs socketOptionException (Socket.setReuseAddress calls.setsockopt)
    caughtAs socketBindException (Socket.bind (calls.bind port))
    caughtAs socketListenException (Socket.listen calls.listen)
    return listenSocket

theorem caughtAs_checked (exception : Errno → ServerException) (message : String) (call : Except Errno α) :
    caughtAs exception (Socket.checked message call) =
      call.mapError fun errorNumber => .serverException (exception errorNumber) := by
  cases call <;> rfl

/-- A listener is there when all calls succeed, and what is thrown otherwise tells which one did not. -/
theorem initializeTcpListener_eq {port : UInt16} {calls : ListenerCalls} :
    initializeTcpListener none port calls =
      match calls.socket, calls.setsockopt, calls.bind port, calls.listen with
      | .error errorNumber, _, _, _ => .error (.serverException (socketCreationException errorNumber))
      | _, .error errorNumber, _, _ => .error (.serverException (socketOptionException errorNumber))
      | _, _, .error errorNumber, _ => .error (.serverException (socketBindException errorNumber))
      | _, _, _, .error errorNumber => .error (.serverException (socketListenException errorNumber))
      | .ok listenSocket, .ok _, .ok _, .ok _ => .ok listenSocket := by
  simp only [initializeTcpListener, Socket.create, Socket.setReuseAddress, Socket.bind, Socket.listen,
    caughtAs_checked]
  cases calls.socket <;> cases calls.setsockopt <;> cases calls.bind port <;> cases calls.listen <;> rfl

/-- Whether `std::signal` registers a handler for each of the two signals. -/
structure SignalCalls where
  sigint : Bool
  sigterm : Bool

def installSignalHandler (calls : SignalCalls) : Except Escaped Unit :=
  if calls.sigint = false then .error (.serverException (.server "signal(SIGINT) registration failed"))
  else if calls.sigterm = false then
    .error (.serverException (.server "signal(SIGTERM) registration failed"))
  else .ok ()

end TeamsMirror
