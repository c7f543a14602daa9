import TeamsMirror.Common.Protocol

/-!
# The client's end of the wire

A read of the socket takes what is there, possibly nothing and possibly the half
of a packet. `readExact` asks again until it has what it wants, and gives up after
too many empty reads in a row; a packet is read with two such loops.
-/

namespace TeamsMirror

/-- What the successive reads of a socket find, a chunk for each; an empty one for an empty read. -/
abbrev Arrivals := List Bytes

/-- How a reader of the socket ends; `waiting` when it still asks for what has not arrived. -/
inductive Read (α : Type) where
  | done (value : α) (rest : Arrivals)
  | timedOut
  | waiting
deriving DecidableEq

def Read.bind (r : Read α) (f : α → Arrivals → Read β) : Read β :=
  match r with
  | .done value rest => f value rest
  | .timedOut => .timedOut
  | .waiting => .waiting

/-- `MAX_CONSECUTIVE_EMPTY_READS`. -/
def maxConsecutiveEmptyReads : Nat := 2500

/-- The `while` loop of `readExact`. -/
def readExactLoop (wantedSize : Nat) (buffer : Bytes) (consecutiveEmptyReads : Nat) : Arrivals → Read Bytes
  | [] => if buffer.length < wantedSize then .waiting else .done buffer []
  | chunk :: rest =>
    if buffer.length < wantedSize then
      if chunk = [] then
        if maxConsecutiveEmptyReads ≤ consecutiveEmptyReads + 1 then .timedOut
        else readExactLoop wantedSize buffer (consecutiveEmptyReads + 1) rest
      else
        -- A read returns no more than it is asked for; when something is left, the loop is over.
        let size := wantedSize - buffer.length
        if size < chunk.length then .done (buffer ++ chunk.take size) (chunk.drop size :: rest)
        else readExactLoop wantedSize (buffer ++ chunk) 0 rest
    else .done buffer (chunk :: rest)

def readExact (wantedSize : Nat) (arrivals : Arrivals) : Read Bytes :=
  readExactLoop wantedSize [] 0 arrivals

def readServerPacket (arrivals : Arrivals) : Read (PacketHeader × Bytes) :=
  (readExact (sizeof PacketHeader) arrivals).bind fun headerBuffer rest =>
    let outHeader : PacketHeader := Packed.ofBytes headerBuffer
    if outHeader.payloadSize = 0 then .done (outHeader, []) rest
    else (readExact outHeader.payloadSize.toNat rest).bind fun outPayload rest =>
      .done (outHeader, outPayload) rest

/-- Successive calls of `readServerPacket`. -/
def readServerPackets : Nat → Arrivals → Read (List (PacketHeader × Bytes))
  | 0, arrivals => .done [] arrivals
  | count + 1, arrivals =>
    (readServerPacket arrivals).bind fun packet rest =>
      (readServerPackets count rest).bind fun packets rest => .done (packet :: packets) rest

/-- Nowhere do so many empty reads follow each other that a loop gives up. -/
def Patient (arrivals : Arrivals) : Prop := ¬ List.replicate maxConsecutiveEmptyReads [] <:+: arrivals

namespace Patient

theorem of_append {before arrivals : Arrivals} (h : Patient (before ++ arrivals)) : Patient arrivals :=
  fun hmem => h (hmem.trans (List.suffix_append before arrivals).isInfix)

theorem tail {chunk : Bytes} {rest : Arrivals} (h : Patient (chunk :: rest)) : Patient rest := by
  have hsplit : Patient ([chunk] ++ rest) := h
  exact hsplit.of_append

/-- What is left of a chunk does not count as an empty read. -/
theorem cons {chunk : Bytes} {rest : Arrivals} (h : Patient rest) (hchunk : chunk ≠ []) :
    Patient (chunk :: rest) := by
  intro hmem
  rcases List.infix_cons_iff.mp hmem with hpre | hinfix
  · rw [maxConsecutiveEmptyReads, List.replicate_succ, List.cons_prefix_cons] at hpre
    exact hchunk hpre.1.symm
  · exact h hinfix

/-- The empty reads that a loop has counted are too few for it to give up. -/
theorem lt {k : Nat} {arrivals : Arrivals} (h : Patient (List.replicate k [] ++ arrivals)) :
    k < maxConsecutiveEmptyReads := by
  by_contra hk
  refine h (List.IsPrefix.isInfix ?_)
  have hsplit : k = maxConsecutiveEmptyReads + (k - maxConsecutiveEmptyReads) := by omega
  rw [hsplit, List.replicate_add, List.append_assoc]
  exact List.prefix_append _ _

end Patient

/-- The loop ends with exactly what it wants, however this was cut, or it needs more. -/
theorem readExactLoop_spec {wantedSize k : Nat} {buffer : Bytes} {arrivals : Arrivals}
    (hpatient : Patient (List.replicate k [] ++ arrivals)) (hbuffer : buffer.length ≤ wantedSize) :
    (∃ read rest, readExactLoop wantedSize buffer k arrivals = .done read rest ∧
        read.length = wantedSize ∧ buffer ++ arrivals.flatten = read ++ rest.flatten ∧ Patient rest) ∨
      (readExactLoop wantedSize buffer k arrivals = .waiting ∧
        (buffer ++ arrivals.flatten).length < wantedSize) := by
  induction arrivals generalizing buffer k with
  | nil =>
    rw [readExactLoop]
    split
    · next hlt => exact .inr ⟨rfl, by simpa using hlt⟩
    · exact .inl ⟨buffer, [], rfl, by omega, rfl, hpatient.of_append⟩
  | cons chunk rest ih =>
    rw [readExactLoop]
    split
    · next hlt =>
      split
      · next hchunk =>
        -- An empty read is counted, and the chunks of the loop stay as they are.
        have hcounted : Patient (List.replicate (k + 1) [] ++ rest) := by
          rw [List.replicate_succ', List.append_assoc]
          exact hchunk ▸ hpatient
        rw [if_neg (by have := hcounted.lt; omega), hchunk]
        exact ih hcounted hbuffer
      · next hchunk =>
        have hrest : Patient rest := hpatient.of_append.tail
        simp only
        split
        · next hmore =>
          refine .inl ⟨_, _, rfl, ?_, ?_, hrest.cons ?_⟩
          · rw [List.length_append, List.length_take]
            omega
          · rw [List.flatten_cons, List.flatten_cons, List.append_assoc, ← List.append_assoc (chunk.take _),
              List.take_append_drop]
          · intro hnil
            have hlen := congrArg List.length hnil
            rw [List.length_drop, List.length_nil] at hlen
            omega
        · next hall =>
          have hfits : (buffer ++ chunk).length ≤ wantedSize := by
            rw [List.length_append]
            omega
          have hnext := ih (k := 0) hrest hfits
          rwa [List.append_assoc, ← List.flatten_cons] at hnext
    · exact .inl ⟨buffer, chunk :: rest, rfl, by omega, rfl, hpatient.of_append⟩

theorem readExact_spec (wantedSize : Nat) {arrivals : Arrivals} (hpatient : Patient arrivals) :
    (∃ read rest, readExact wantedSize arrivals = .done read rest ∧ read.length = wantedSize ∧
        arrivals.flatten = read ++ rest.flatten ∧ Patient rest) ∨
      (readExact wantedSize arrivals = .waiting ∧ arrivals.flatten.length < wantedSize) :=
  readExactLoop_spec (k := 0) hpatient (Nat.zero_le _)

/-- How a frame of the stream is handed on. -/
def receivedFrame (f : Framing.Frame UInt8) : PacketHeader × Bytes := (Packed.ofBytes f.1, f.2)

/-- A packet of the server as `readServerPacket` returns it. -/
def Packet.received (p : Packet) : PacketHeader × Bytes := (p.header, p.payload.bytes)

theorem receivedFrame_frame (p : Packet) : receivedFrame p.frame = p.received := by
  simp [receivedFrame, Packet.frame, Packet.received]

/-- A call returns the frame at the head of what has arrived, and waits as long as there is none. -/
theorem readServerPacket_spec {arrivals : Arrivals} (hpatient : Patient arrivals) :
    (∃ f rest, readServerPacket arrivals = .done (receivedFrame f) rest ∧
        packetFraming.next arrivals.flatten = some (f, rest.flatten) ∧ Patient rest) ∨
      (readServerPacket arrivals = .waiting ∧ packetFraming.next arrivals.flatten = none) := by
  unfold readServerPacket
  rcases readExact_spec (sizeof PacketHeader) hpatient with
    ⟨header, rest, hread, hlen, hflat, hrest⟩ | ⟨hread, hshort⟩
  · rw [hread]
    simp only [Read.bind]
    split
    · next hzero =>
      refine .inl ⟨(header, []), rest, rfl, ?_, hrest⟩
      refine packetFraming.next_eq_some.mpr ⟨by simpa using hflat, hlen, ?_⟩
      simp only [packetFraming, hzero]
      rfl
    · rcases readExact_spec (Packed.ofBytes (α := PacketHeader) header).payloadSize.toNat hrest
        with ⟨payload, rest', hread', hlen', hflat', hrest'⟩ | ⟨hread', hshort'⟩
      · rw [hread']
        refine .inl ⟨(header, payload), rest', rfl, ?_, hrest'⟩
        refine packetFraming.next_eq_some.mpr ⟨?_, hlen, hlen'⟩
        rw [hflat, hflat', List.append_assoc]
      · rw [hread']
        refine .inr ⟨rfl, ?_⟩
        have hhead : arrivals.flatten.take (sizeof PacketHeader) = header := by
          rw [hflat, ← hlen, List.take_left]
        rw [packetFraming_next, hhead, hflat, List.length_append, hlen]
        simp only
        rw [if_neg (by omega), if_pos (by omega)]
  · rw [hread]
    refine .inr ⟨rfl, ?_⟩
    rw [packetFraming_next]
    simp only
    rw [if_pos hshort]

/-- Successive calls return the frames of what has arrived, then the next call waits. -/
theorem readServerPackets_spec {stream left : Bytes} {frames : List (Framing.Frame UInt8)}
    (h : packetFraming.Splits stream frames left) {arrivals : Arrivals} (harrivals : arrivals.flatten = stream)
    (hpatient : Patient arrivals) :
    ∃ rest, readServerPackets frames.length arrivals = .done (frames.map receivedFrame) rest ∧
      rest.flatten = left ∧ readServerPacket rest = .waiting := by
  induction h generalizing arrivals with
  | done hnone =>
    rcases readServerPacket_spec hpatient with ⟨f, rest, -, hnext, -⟩ | ⟨hread, -⟩
    · rw [harrivals, hnone] at hnext
      cases hnext
    · exact ⟨arrivals, rfl, harrivals, hread⟩
  | frame hsome _ ih =>
    rcases readServerPacket_spec hpatient with ⟨f, rest, hread, hnext, hrest⟩ | ⟨-, hnext⟩
    · rw [harrivals, hsome] at hnext
      obtain ⟨rfl, hstream⟩ := Prod.mk.inj (Option.some.inj hnext)
      obtain ⟨rest', hreads, hleft, hwaiting⟩ := ih hstream.symm hrest
      refine ⟨rest', ?_, hleft, hwaiting⟩
      rw [List.length_cons, readServerPackets, hread]
      simp only [Read.bind, hreads, List.map_cons]
    · rw [harrivals, hsome] at hnext
      cases hnext

end TeamsMirror
