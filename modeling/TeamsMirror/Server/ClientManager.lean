import TeamsMirror.Lib.Maps
import TeamsMirror.Common.Socket
import TeamsMirror.Server.Models

/-!
# The client manager

Per-connection buffers and context, keyed by the socket descriptor. Every
operation is a change of the client found under one descriptor.
-/

namespace TeamsMirror

structure Client where
  incomingBuffer : Bytes
  outgoingBuffer : Bytes
  ctxTeamUuid : Uuid
  ctxChannelUuid : Uuid
  ctxThreadUuid : Uuid
deriving DecidableEq

def Client.new : Client := ⟨[], [], .empty _, .empty _, .empty _⟩

def Client.setContext (c : Client) (teamUuid channelUuid threadUuid : Bytes) : Client :=
  { c with
    ctxTeamUuid := .copyBuffer _ teamUuid
    ctxChannelUuid := .copyBuffer _ channelUuid
    ctxThreadUuid := .copyBuffer _ threadUuid }

structure ClientManager where
  clients : UnorderedMap Fd Client

namespace ClientManager

variable (m : ClientManager) (socketFd : Fd)

def empty : ClientManager := ⟨∅⟩

def addClient : ClientManager := ⟨UnorderedMap.emplace socketFd Client.new m.clients⟩

def removeClient : ClientManager := ⟨m.clients.erase socketFd⟩

def find (f : Client → β) : Option β := (m.clients.lookup socketFd).map f

def hasPendingWrite : Bool := (m.clients.lookup socketFd).any fun c => c.outgoingBuffer ≠ []

/-- Change the client found under a descriptor; nothing happens when there is none. -/
def update (f : Client → Client) : ClientManager := ⟨UnorderedMap.modify socketFd f m.clients⟩

def appendToIncomingBuffer (data : Bytes) : ClientManager :=
  if data = [] then m
  else m.update socketFd fun c => { c with incomingBuffer := c.incomingBuffer ++ data }

def getIncomingBuffer : Bytes := (m.find socketFd Client.incomingBuffer).getD []

/-- `clear` when everything is consumed, `erase` of a prefix otherwise. -/
def consumed (buffer : Bytes) (consumedBytes : Nat) : Bytes :=
  if buffer.length ≤ consumedBytes then [] else buffer.drop consumedBytes

def consumeIncomingBuffer (consumedBytes : Nat) : ClientManager :=
  m.update socketFd fun c => { c with incomingBuffer := consumed c.incomingBuffer consumedBytes }

def queueDataToSend (data : Bytes) : ClientManager :=
  if data = [] then m
  else m.update socketFd fun c => { c with outgoingBuffer := c.outgoingBuffer ++ data }

def getQueuedData : Bytes := (m.find socketFd Client.outgoingBuffer).getD []

def consumeQueuedData (consumedBytes : Nat) : ClientManager :=
  m.update socketFd fun c => { c with outgoingBuffer := consumed c.outgoingBuffer consumedBytes }

def setContext (teamUuid channelUuid threadUuid : Bytes) : ClientManager :=
  m.update socketFd fun c => c.setContext teamUuid channelUuid threadUuid

def getContextTeamUuid : Bytes := (m.find socketFd fun c => c.ctxTeamUuid.bytes).getD []

def getContextChannelUuid : Bytes := (m.find socketFd fun c => c.ctxChannelUuid.bytes).getD []

def getContextThreadUuid : Bytes := (m.find socketFd fun c => c.ctxThreadUuid.bytes).getD []

theorem consumed_eq_drop (buffer : Bytes) (n : Nat) : consumed buffer n = buffer.drop n := by
  unfold consumed
  split
  · next h => rw [List.drop_eq_nil_of_le h]
  · rfl

variable {m socketFd}

theorem lookup_update {fd : Fd} {f : Client → Client} :
    (m.update socketFd f).clients.lookup fd =
      (m.clients.lookup fd).map fun c => if fd = socketFd then f c else c :=
  UnorderedMap.lookup_modify socketFd fd f m.clients

@[simp] theorem keys_update (f : Client → Client) :
    (m.update socketFd f).clients.keys = m.clients.keys :=
  UnorderedMap.keys_modify socketFd f m.clients

/-- The test for empty data changes nothing. -/
theorem queueDataToSend_eq (m : ClientManager) (fd : Fd) (data : Bytes) :
    m.queueDataToSend fd data =
      m.update fd fun c => { c with outgoingBuffer := c.outgoingBuffer ++ data } := by
  unfold queueDataToSend
  split
  · next h => rw [update, UnorderedMap.modify_eq_self (by simp [h])]
  · rfl

theorem appendToIncomingBuffer_eq (m : ClientManager) (fd : Fd) (data : Bytes) :
    m.appendToIncomingBuffer fd data =
      m.update fd fun c => { c with incomingBuffer := c.incomingBuffer ++ data } := by
  unfold appendToIncomingBuffer
  split
  · next h => rw [update, UnorderedMap.modify_eq_self (by simp [h])]
  · rfl

end ClientManager

end TeamsMirror
