import TeamsMirror.Client.Wire
import TeamsMirror.Common.Socket

/-!
# Packets call by call

`readServerPacket` as it goes from one read of the socket to the next, with the local
variables that hold what it has of the packet. On the same chunks it does what the
loops of the client's end of the wire do; but here a read may also throw, and what the
variables held is then visible.
-/

namespace TeamsMirror

/-- The local variables of `readExact`. -/
structure ReadExact where
  wantedSize : Nat
  buffer : Bytes
  consecutiveEmptyReads : Nat
deriving DecidableEq

namespace ReadExact

def start (wantedSize : Nat) : ReadExact := ⟨wantedSize, [], 0⟩

/-- The body of the loop with what the socket has returned; `none` when it gives up. -/
def turn (r : ReadExact) (chunk : Bytes) : Option ReadExact :=
  if chunk = [] then
    if maxConsecutiveEmptyReads ≤ r.consecutiveEmptyReads + 1 then none
    else some { r with consecutiveEmptyReads := r.consecutiveEmptyReads + 1 }
  else some { r with buffer := r.buffer ++ chunk, consecutiveEmptyReads := 0 }

/-- What the loop makes of further reads. -/
def finish (r : ReadExact) (arrivals : Arrivals) : Read Bytes :=
  readExactLoop r.wantedSize r.buffer r.consecutiveEmptyReads arrivals

/-- One turn of the loop, on a chunk of at most the size that it asks for. -/
theorem finish_cons {r : ReadExact} {chunk : Bytes} (arrivals : Arrivals)
    (hmore : r.buffer.length < r.wantedSize) (hchunk : chunk.length ≤ r.wantedSize - r.buffer.length) :
    r.finish (chunk :: arrivals) =
      match r.turn chunk with
      | none => .timedOut
      | some r => r.finish arrivals := by
  rw [finish, readExactLoop, if_pos hmore]
  by_cases hnil : chunk = []
  · rw [if_pos hnil, turn, if_pos hnil]
    split <;> rfl
  · rw [if_neg hnil, turn, if_neg hnil]
    simp only
    rw [if_neg (by omega)]
    rfl

/-- A loop that has what it wants takes no further read. -/
theorem finish_of_le {r : ReadExact} (arrivals : Arrivals) (hdone : r.wantedSize ≤ r.buffer.length) :
    r.finish arrivals = .done r.buffer arrivals := by
  cases arrivals with
  | nil => rw [finish, readExactLoop, if_neg (by omega)]
  | cons chunk arrivals => rw [finish, readExactLoop, if_neg (by omega)]

end ReadExact

/-- The local variables of `readServerPacket`; `headerBuffer` once it has been read. -/
structure PacketRead where
  headerBuffer : Option Bytes
  readExact : ReadExact
deriving DecidableEq

/-- What comes of a read of the socket. -/
inductive PacketTurn where
  | threw
  | reading (read : PacketRead)
  | returned (frame : Framing.Frame UInt8)

namespace PacketRead

def start : PacketRead := ⟨none, .start (sizeof PacketHeader)⟩

/-- The bytes that the next read asks for. -/
def asked (read : PacketRead) : Nat := read.readExact.wantedSize - read.readExact.buffer.length

def turn (read : PacketRead) (chunk : Bytes) : PacketTurn :=
  match read.readExact.turn chunk with
  | none => .threw
  | some readExact =>
    if readExact.buffer.length < readExact.wantedSize then .reading { read with readExact := readExact }
    else
      match read.headerBuffer with
      | some headerBuffer => .returned (headerBuffer, readExact.buffer)
      | none =>
        let outHeader : PacketHeader := Packed.ofBytes readExact.buffer
        if outHeader.payloadSize = 0 then .returned (readExact.buffer, [])
        else .reading ⟨some readExact.buffer, .start outHeader.payloadSize.toNat⟩

/-- What `readServerPacket` makes of further reads. -/
def finish (read : PacketRead) (arrivals : Arrivals) : Read (PacketHeader × Bytes) :=
  match read.headerBuffer with
  | some headerBuffer =>
    (read.readExact.finish arrivals).bind fun outPayload rest =>
      .done (receivedFrame (headerBuffer, outPayload)) rest
  | none =>
    (read.readExact.finish arrivals).bind fun headerBuffer rest =>
      let outHeader : PacketHeader := Packed.ofBytes headerBuffer
      if outHeader.payloadSize = 0 then .done (outHeader, []) rest
      else (ReadExact.start outHeader.payloadSize.toNat |>.finish rest).bind fun outPayload rest =>
        .done (outHeader, outPayload) rest

theorem finish_start (arrivals : Arrivals) : start.finish arrivals = readServerPacket arrivals := rfl

/-- The bytes of the packet that the variables hold. -/
def taken (read : PacketRead) : Bytes := read.headerBuffer.getD [] ++ read.readExact.buffer

/-- The variables between two reads: more is wanted, of the header or of the payload it announces. -/
structure Wanting (read : PacketRead) : Prop where
  more : read.readExact.buffer.length < read.readExact.wantedSize
  ofHeader : read.headerBuffer = none → read.readExact.wantedSize = sizeof PacketHeader
  ofPayload : ∀ headerBuffer, read.headerBuffer = some headerBuffer →
    headerBuffer.length = sizeof PacketHeader ∧
      read.readExact.wantedSize = packetFraming.payloadSize headerBuffer

theorem wanting_start : start.Wanting := by
  refine ⟨by decide, fun _ => rfl, fun headerBuffer h => ?_⟩
  cases h

variable {read : PacketRead} {chunk : Bytes}

/-- Call by call, the client reads what `readServerPacket` reads. -/
theorem finish_cons (hmore : read.readExact.buffer.length < read.readExact.wantedSize)
    (hchunk : chunk.length ≤ read.asked) (arrivals : Arrivals) :
    read.finish (chunk :: arrivals) =
      match read.turn chunk with
      | .threw => .timedOut
      | .reading read => read.finish arrivals
      | .returned frame => .done (receivedFrame frame) arrivals := by
  obtain ⟨headerBuffer, readExact⟩ := read
  cases headerBuffer with
  | some headerBuffer =>
    simp only [finish, turn, ReadExact.finish_cons arrivals hmore hchunk]
    cases readExact.turn chunk with
    | none => rfl
    | some next =>
      by_cases hwant : next.buffer.length < next.wantedSize
      · simp only [if_pos hwant]
      · simp only [if_neg hwant, ReadExact.finish_of_le arrivals (Nat.le_of_not_lt hwant)]
        rfl
  | none =>
    simp only [finish, turn, ReadExact.finish_cons arrivals hmore hchunk]
    cases readExact.turn chunk with
    | none => rfl
    | some next =>
      by_cases hwant : next.buffer.length < next.wantedSize
      · simp only [if_pos hwant]
      · simp only [if_neg hwant, ReadExact.finish_of_le arrivals (Nat.le_of_not_lt hwant), Read.bind]
        split
        · rfl
        · rfl

/-- What a read of the socket does to the variables: they give up, move along the packet, or hold
all of it. -/
theorem Wanting.turn_cases (h : read.Wanting) (hchunk : chunk.length ≤ read.asked) :
    (read.turn chunk = .threw ∧ chunk = [] ∧
      maxConsecutiveEmptyReads ≤ read.readExact.consecutiveEmptyReads + 1) ∨
    (∃ read', read.turn chunk = .reading read' ∧ read'.Wanting ∧ read'.taken = read.taken ++ chunk ∧
      (chunk = [] → read.readExact.consecutiveEmptyReads + 1 < maxConsecutiveEmptyReads)) ∨
    (∃ frame, read.turn chunk = .returned frame ∧ packetFraming.WellFormed frame ∧
      frame.1 ++ frame.2 = read.taken ++ chunk ∧ chunk ≠ []) := by
  obtain ⟨headerBuffer, wantedSize, buffer, consecutiveEmptyReads⟩ := read
  obtain ⟨hmore, hheader, hpayload⟩ := h
  simp only [asked] at hmore hheader hpayload hchunk
  by_cases hnil : chunk = []
  · by_cases hpatient : maxConsecutiveEmptyReads ≤ consecutiveEmptyReads + 1
    · refine .inl ⟨?_, hnil, hpatient⟩
      simp only [PacketRead.turn, ReadExact.turn, if_pos hnil, if_pos hpatient]
    · refine .inr (.inl ⟨⟨headerBuffer, wantedSize, buffer, consecutiveEmptyReads + 1⟩, ?_,
        ⟨hmore, hheader, hpayload⟩, ?_, fun _ => Nat.lt_of_not_le hpatient⟩)
      · simp only [PacketRead.turn, ReadExact.turn, if_pos hnil, if_neg hpatient, if_pos hmore]
      · simp [taken, hnil]
  · have hlength : (buffer ++ chunk).length ≤ wantedSize := by
      rw [List.length_append]
      omega
    by_cases hwant : (buffer ++ chunk).length < wantedSize
    · refine .inr (.inl ⟨⟨headerBuffer, wantedSize, buffer ++ chunk, 0⟩, ?_, ⟨hwant, hheader, hpayload⟩, ?_,
        fun h => absurd h hnil⟩)
      · simp only [PacketRead.turn, ReadExact.turn, if_neg hnil, if_pos hwant]
      · simp [taken]
    · have hfull : (buffer ++ chunk).length = wantedSize := by omega
      cases headerBuffer with
      | some headerBuffer =>
        obtain ⟨hlen, hsize⟩ := hpayload headerBuffer rfl
        refine .inr (.inr ⟨(headerBuffer, buffer ++ chunk), ?_, ⟨hlen, hfull.trans hsize⟩, ?_, hnil⟩)
        · simp only [PacketRead.turn, ReadExact.turn, if_neg hnil, if_neg hwant]
        · simp [taken]
      | none =>
        have hlen : (buffer ++ chunk).length = sizeof PacketHeader := hfull.trans (hheader rfl)
        by_cases hzero : (Packed.ofBytes (α := PacketHeader) (buffer ++ chunk)).payloadSize = 0
        · refine .inr (.inr ⟨(buffer ++ chunk, []), ?_, ⟨hlen, ?_⟩, ?_, hnil⟩)
          · simp only [PacketRead.turn, ReadExact.turn, if_neg hnil, if_neg hwant, if_pos hzero]
          · simp only [packetFraming, hzero]
            rfl
          · simp [taken]
        · refine .inr (.inl ⟨⟨some (buffer ++ chunk), .start (packetFraming.payloadSize (buffer ++ chunk))⟩, ?_,
            ⟨?_, ?_, ?_⟩, ?_, fun h => absurd h hnil⟩)
          · simp only [PacketRead.turn, ReadExact.turn, if_neg hnil, if_neg hwant, if_neg hzero]
            rfl
          · refine Nat.pos_of_ne_zero fun hsize => hzero ?_
            exact UInt16.toNat_inj.mp hsize
          · intro h
            cases h
          · intro header hheader
            cases hheader
            exact ⟨hlen, rfl⟩
          · simp [taken, ReadExact.start]

end PacketRead

end TeamsMirror
