import TeamsMirror.Common.Requests
import TeamsMirror.Server.Atomicity

/-!
# Inbound framing

The bytes of a connection arrive in chunks, between those of other connections.
After each chunk the loop of the dispatcher takes off every complete packet. No
handler touches an incoming buffer, so what is dispatched over a whole run is the
maximal split of what was received, wherever the cuts fell.
-/

namespace TeamsMirror

/-- The generator comes up with an unused uuid of each kind. -/
structure Environment.Finds (environment : Environment) (s : Server) : Prop where
  user : (generateUnused environment fun uuid => (findUserByUuid s.users uuid).isSome).isSome = true
  team : (generateUnused environment fun uuid => (findTeamByUuid s.teams uuid).isSome).isSome = true
  channel : (generateUnused environment (isChannelUuidUsed s.teams)).isSome = true
  thread : (generateUnused environment (isThreadUuidUsed s.teams)).isSome = true

variable {context : CommandContext}

theorem handleLoginCommand_isSome (h : context.environment.Finds context.toServer) :
    (handleLoginCommand context).isSome = true := by
  obtain ⟨uuid, huuid⟩ := Option.isSome_iff_exists.mp h.user
  unfold handleLoginCommand
  split
  · rfl
  · split
    · rfl
    · simp only
      split
      · rfl
      · split
        · rfl
        · split
          · simp [huuid]
          · rfl

theorem handleCreateCommand_isSome (h : context.environment.Finds context.toServer) :
    (handleCreateCommand context).isSome = true := by
  have hteam : ∀ user, (handleCreateTeam context user).isSome = true := by
    intro user
    obtain ⟨uuid, huuid⟩ := Option.isSome_iff_exists.mp h.team
    unfold handleCreateTeam
    split
    · rfl
    · split
      · rfl
      · simp [generateUniqueTeamUuid, huuid]
  have hchannel : ∀ user, (handleCreateChannel context user).isSome = true := by
    intro user
    obtain ⟨uuid, huuid⟩ := Option.isSome_iff_exists.mp h.channel
    unfold handleCreateChannel
    split
    · rfl
    · simp only
      split
      · rfl
      · split
        · rfl
        · split
          · rfl
          · simp [generateUniqueChannelUuid, huuid]
  have hthread : ∀ user, (handleCreateThread context user).isSome = true := by
    intro user
    obtain ⟨uuid, huuid⟩ := Option.isSome_iff_exists.mp h.thread
    unfold handleCreateThread
    split
    · rfl
    · split
      · rfl
      · split
        · rfl
        · simp [generateUniqueThreadUuid, huuid]
  unfold handleCreateCommand
  split
  · rfl
  · simp only
    split
    · rfl
    · split
      · rfl
      · split
        · exact hteam _
        · split
          · exact hchannel _
          · split
            · exact hthread _
            · rfl

theorem dispatchCommand_isSome (h : context.environment.Finds context.toServer) (code : UInt16) :
    (dispatchCommand context code).isSome = true := by
  unfold dispatchCommand
  split
  · rfl
  · next entry hentry =>
    have hmem := List.mem_of_find?_eq_some hentry
    simp only [commandHandlers, List.mem_cons, List.not_mem_nil, or_false] at hmem
    rcases hmem with rfl | rfl | rfl | rfl | rfl | rfl | rfl | rfl | rfl | rfl | rfl | rfl | rfl
    case inl => exact handleLoginCommand_isSome h
    case inr.inr.inr.inr.inr.inr.inl => exact handleCreateCommand_isSome h
    all_goals rfl

/-- What is dispatched for a frame. -/
def frameCommand (f : Framing.Frame UInt8) : UInt16 × Bytes :=
  ((Packed.ofBytes (α := PacketHeader) f.1).code, f.2)

/-- The loop sees a packet exactly when the buffer starts with a complete frame. -/
theorem peekPacket_eq_none {buffer : Bytes} (h : peekPacket buffer = none) :
    packetFraming.next buffer = none := by
  rw [packetFraming_next]
  simp only [peekPacket] at h ⊢
  split at h
  · next hhead => rw [if_pos hhead]
  · next hhead =>
    split at h
    · next hsize => rw [if_neg hhead, if_pos hsize]
    · cases h

theorem next_of_peekPacket {buffer payload : Bytes} {header : PacketHeader}
    (h : peekPacket buffer = some (header, payload)) :
    ∃ f, packetFraming.next buffer =
        some (f, buffer.drop (sizeof PacketHeader + header.payloadSize.toNat)) ∧
      frameCommand f = (header.code, payload) := by
  simp only [peekPacket] at h
  split at h
  · cases h
  · next hhead =>
    split at h
    · cases h
    · next hsize =>
      obtain ⟨rfl, rfl⟩ := Prod.mk.inj (Option.some.inj h)
      refine ⟨(buffer.take (sizeof PacketHeader), _), ?_, rfl⟩
      rw [packetFraming_next, if_neg hhead, if_neg hsize]

theorem ClientManager.getIncomingBuffer_consume (m : ClientManager) (fd fd' : Fd) (n : Nat) :
    (m.consumeIncomingBuffer fd n).getIncomingBuffer fd' =
      if fd' = fd then (m.getIncomingBuffer fd').drop n else m.getIncomingBuffer fd' := by
  rw [consumeIncomingBuffer, getIncomingBuffer, getIncomingBuffer, find, find, lookup_update]
  by_cases h : fd' = fd <;> cases m.clients.lookup fd' <;> simp [h, consumed_eq_drop]

theorem ClientManager.getIncomingBuffer_append {m : ClientManager} {fd : Fd} (hfd : fd ∈ m.clients)
    (fd' : Fd) (data : Bytes) :
    (m.appendToIncomingBuffer fd data).getIncomingBuffer fd' =
      if fd' = fd then m.getIncomingBuffer fd ++ data else m.getIncomingBuffer fd' := by
  rw [appendToIncomingBuffer_eq, getIncomingBuffer, getIncomingBuffer, getIncomingBuffer, find, find, find,
    lookup_update]
  by_cases h : fd' = fd
  · subst h
    obtain ⟨c, hc⟩ := UnorderedMap.exists_lookup hfd
    simp [hc]
  · simp [h]

namespace Server

variable {s s' : Server} {fd : Fd}

/-- Incoming buffers change under the loop of one connection only. -/
structure Untouched (fd : Fd) (s s' : Server) : Prop where
  clientSockets : s'.clientSockets = s.clientSockets
  keys : s'.clientManager.clients.keys = s.clientManager.clients.keys
  incoming : ∀ fd', fd' ≠ fd →
    s'.clientManager.getIncomingBuffer fd' = s.clientManager.getIncomingBuffer fd'

theorem Untouched.refl (fd : Fd) (s : Server) : Untouched fd s s := ⟨rfl, rfl, fun _ _ => rfl⟩

theorem Untouched.trans {s'' : Server} (h : Untouched fd s s') (h' : Untouched fd s' s'') :
    Untouched fd s s'' where
  clientSockets := h'.clientSockets.trans h.clientSockets
  keys := h'.keys.trans h.keys
  incoming fd' hne := (h'.incoming fd' hne).trans (h.incoming fd' hne)

/-- A handler leaves its own packet, and what follows it, where it was. -/
theorem processPacket_spec {environment : Environment} {header : PacketHeader} {payload : Bytes}
    {dispatched : Dispatched}
    (h : processPacket s fd environment header payload = some (s', dispatched)) :
    dispatched.code = header.code ∧ dispatched.payload = payload ∧ Untouched fd s s' ∧
      s'.clientManager.getIncomingBuffer fd =
        (s.clientManager.getIncomingBuffer fd).drop (sizeof PacketHeader + header.payloadSize.toNat) := by
  obtain ⟨command, middle, heffect, hcode, hpayload, rfl⟩ := processPacket_eq_some h
  have hsame : SameConnections s middle := heffect.sameConnections
  have hincoming : ∀ fd', (middle.deliver dispatched.queued).clientManager.getIncomingBuffer fd' =
      s.clientManager.getIncomingBuffer fd' := fun fd' =>
    (ClientManager.getIncomingBuffer_sendAll _ _ _).trans (hsame.incoming fd')
  refine ⟨hcode, hpayload, ⟨hsame.clientSockets, ?_, fun fd' hne => ?_⟩, ?_⟩
  · rw [ClientManager.consumeIncomingBuffer, ClientManager.keys_update]
    exact (ClientManager.keys_sendAll _ _).trans hsame.keys
  · rw [ClientManager.getIncomingBuffer_consume, if_neg hne, hincoming]
  · rw [ClientManager.getIncomingBuffer_consume, if_pos rfl, hincoming]

/-- The loop dispatches the maximal split of the buffer and leaves the rest. -/
theorem processClientIncomingPackets_splits {oracle : Server → Environment} {fuel : Nat}
    {dispatched : List Dispatched}
    (h : processClientIncomingPackets oracle fd fuel s = .ok (s', dispatched)) :
    Untouched fd s s' ∧ ∃ frames, packetFraming.Splits (s.clientManager.getIncomingBuffer fd) frames
        (s'.clientManager.getIncomingBuffer fd) ∧
      dispatched.map (fun d => (d.code, d.payload)) = frames.map frameCommand := by
  induction fuel generalizing s dispatched with
  | zero => cases h
  | succ fuel ih =>
    rw [processClientIncomingPackets] at h
    split at h
    · next hpeek =>
      cases h
      exact ⟨.refl fd _, [], .done (peekPacket_eq_none hpeek), rfl⟩
    · next header payload hpeek =>
      obtain ⟨f, hnext, hf⟩ := next_of_peekPacket hpeek
      split at h
      · cases h
      · next s₁ d hprocess =>
        obtain ⟨hcode, hpayload, huntouched, hrest⟩ := processPacket_spec hprocess
        split at h
        · cases h
        · next s₂ later hloop =>
          cases h
          obtain ⟨huntouched', frames, hsplits, hdispatched⟩ := ih hloop
          rw [hrest] at hsplits
          refine ⟨huntouched.trans huntouched', f :: frames, .frame hnext hsplits, ?_⟩
          rw [List.map_cons, List.map_cons, hdispatched, hf, hcode, hpayload]

/-- The states through which the loop of a connection passes. -/
inductive Passes (oracle : Server → Environment) (fd : Fd) : Server → Server → Prop where
  | here (s : Server) : Passes oracle fd s s
  | turn {s s₁ s₂ : Server} {header : PacketHeader} {payload : Bytes} {dispatched : Dispatched} :
      peekPacket (s.clientManager.getIncomingBuffer fd) = some (header, payload) →
      processPacket s fd (oracle s) header payload = some (s₁, dispatched) →
      Passes oracle fd s₁ s₂ → Passes oracle fd s s₂

/-- With fuel for every byte of the buffer the loop ends, unless the generator fails it. -/
theorem processClientIncomingPackets_ok {oracle : Server → Environment} (fd : Fd) (s : Server)
    (horacle : ∀ t, Passes oracle fd s t → (oracle t).Finds t) :
    ∃ s' dispatched, ∀ fuel, (s.clientManager.getIncomingBuffer fd).length < fuel →
      processClientIncomingPackets oracle fd fuel s = .ok (s', dispatched) := by
  generalize hn : (s.clientManager.getIncomingBuffer fd).length = n
  induction n using Nat.strongRecOn generalizing s with
  | ind n ih =>
    cases hpeek : peekPacket (s.clientManager.getIncomingBuffer fd) with
    | none =>
      refine ⟨s, [], fun fuel hfuel => ?_⟩
      obtain ⟨fuel, rfl⟩ : ∃ k, fuel = k + 1 := ⟨fuel - 1, by omega⟩
      rw [processClientIncomingPackets, hpeek]
    | some p =>
      obtain ⟨header, payload⟩ := p
      have hfinds : (s.context fd payload (oracle s)).environment.Finds s := horacle s (.here s)
      obtain ⟨context', hcontext⟩ := Option.isSome_iff_exists.mp
        (dispatchCommand_isSome hfinds header.code)
      obtain ⟨⟨s₁, d⟩, hprocess⟩ : ∃ r, processPacket s fd (oracle s) header payload = some r :=
        ⟨_, by rw [processPacket, hcontext]; rfl⟩
      obtain ⟨f, hnext, -⟩ := next_of_peekPacket hpeek
      obtain ⟨-, -, -, hrest⟩ := processPacket_spec hprocess
      have hless := packetFraming.next_length_lt hnext
      rw [← hrest, hn] at hless
      obtain ⟨s₂, later, hloop⟩ := ih _ hless s₁ (fun t ht => horacle t (.turn hpeek hprocess ht)) rfl
      refine ⟨s₂, d :: later, fun fuel hfuel => ?_⟩
      obtain ⟨fuel, rfl⟩ : ∃ k, fuel = k + 1 := ⟨fuel - 1, by omega⟩
      rw [processClientIncomingPackets, hpeek]
      simp only
      rw [hprocess]
      simp only
      rw [hloop fuel (by omega)]

/-- What every dispatch preserves, with the packets queued so far, the loop preserves. -/
theorem processClientIncomingPackets_induction {P : Server → List (Fd × Packet) → Prop}
    (hstep : ∀ s queued environment s' packets, P s queued →
      s.handle (.dispatch fd environment) = some (s', packets) → P s' (queued ++ packets))
    {oracle : Server → Environment} {fuel : Nat} {dispatched : List Dispatched}
    (hfd : fd ∈ s.clientSockets) (queued : List (Fd × Packet)) (hs : P s queued)
    (h : processClientIncomingPackets oracle fd fuel s = .ok (s', dispatched)) :
    P s' (queued ++ dispatched.flatMap Dispatched.queued) := by
  induction fuel generalizing s queued dispatched with
  | zero => cases h
  | succ fuel ih =>
    rw [processClientIncomingPackets] at h
    split at h
    · cases h
      simpa using hs
    · next header payload hpeek =>
      split at h
      · cases h
      · next s₁ d hprocess =>
        split at h
        · cases h
        · next s₂ later hloop =>
          cases h
          obtain ⟨-, -, huntouched, -⟩ := processPacket_spec hprocess
          have hhandle : s.handle (.dispatch fd (oracle s)) = some (s₁, d.queued) := by
            simp only [handle, if_pos hfd, hpeek, hprocess]
            rfl
          have hrest := ih (by rw [huntouched.clientSockets]; exact hfd) _ (hstep _ _ _ _ _ hs hhandle) hloop
          rwa [List.append_assoc, ← List.flatMap_cons] at hrest

theorem getIncomingBuffer_accepted (s : Server) {fd : Fd} (hfd : fd ∉ s.clientManager.clients) (fd' : Fd) :
    (s.accepted fd).clientManager.getIncomingBuffer fd' =
      if fd' = fd then [] else s.clientManager.getIncomingBuffer fd' := by
  rw [accepted, ClientManager.addClient, ClientManager.getIncomingBuffer, ClientManager.getIncomingBuffer,
    ClientManager.find, ClientManager.find, UnorderedMap.lookup_emplace_of_notMem hfd]
  split <;> rfl

theorem getIncomingBuffer_flush (m : ClientManager) (fd fd' : Fd) (n : Nat) :
    (m.consumeQueuedData fd n).getIncomingBuffer fd' = m.getIncomingBuffer fd' := by
  rw [ClientManager.consumeQueuedData, ClientManager.getIncomingBuffer, ClientManager.getIncomingBuffer,
    ClientManager.find, ClientManager.find, ClientManager.lookup_update, Option.map_map]
  congr 2
  funext c
  by_cases h : fd' = fd <;> simp [h]

theorem getIncomingBuffer_removeClient (m : ClientManager) {fd fd' : Fd} (hne : fd' ≠ fd) :
    (m.removeClient fd).getIncomingBuffer fd' = m.getIncomingBuffer fd' := by
  rw [ClientManager.removeClient, ClientManager.getIncomingBuffer, ClientManager.getIncomingBuffer,
    ClientManager.find, ClientManager.find, AList.lookup_erase_ne hne]

end Server

/-- What a connection has sent since it was accepted, and what was dispatched for it. -/
structure Stream where
  received : Bytes
  dispatched : List (UInt16 × Bytes)

/-- A server and the history of each connection. -/
structure Inbound where
  server : Server
  streams : Fd → Stream

namespace Inbound

/-- A chunk is read and the loop runs; or a connection is accepted, written to or closed. -/
inductive Event where
  | chunk (fd : Fd) (bytes : Bytes) (oracle : Server → Environment)
  | accept (fd : Fd)
  | flush (fd : Fd) (bytesSent : Nat)
  | disconnect (fd : Fd)

def start (listenFd : Fd) (users : List User) (teams : List Team) (messages : List Message) : Inbound :=
  ⟨.start listenFd users teams messages, fun _ => ⟨[], []⟩⟩

def receive (x : Inbound) (fd : Fd) (bytes : Bytes) : Server :=
  { x.server with clientManager := x.server.clientManager.appendToIncomingBuffer fd bytes }

def step (x : Inbound) : Event → Option Inbound
  | .chunk fd bytes oracle =>
    if fd ∈ x.server.clientSockets ∧ bytes ≠ [] ∧ bytes.length ≤ readBufferSize then
      let s := x.receive fd bytes
      match processClientIncomingPackets oracle fd ((s.clientManager.getIncomingBuffer fd).length + 1) s with
      | .error _ => none
      | .ok (s', dispatched) =>
        let stream : Stream :=
          { received := (x.streams fd).received ++ bytes
            dispatched := (x.streams fd).dispatched ++ dispatched.map fun d => (d.code, d.payload) }
        some ⟨s', Function.update x.streams fd stream⟩
    else none
  | .accept fd =>
    (x.server.step (.accept fd)).map fun s => ⟨s, Function.update x.streams fd ⟨[], []⟩⟩
  | .flush fd bytesSent => (x.server.step (.flush fd bytesSent)).map fun s => ⟨s, x.streams⟩
  | .disconnect fd => (x.server.step (.disconnect fd)).map fun s => ⟨s, x.streams⟩

/-- What was dispatched for a connection, and what its buffer holds, is the split of what it sent. -/
structure Framed (x : Inbound) : Prop where
  linked : x.server.Linked
  split : ∀ fd ∈ x.server.clientSockets, ∃ frames,
    packetFraming.Splits (x.streams fd).received frames (x.server.clientManager.getIncomingBuffer fd) ∧
      (x.streams fd).dispatched = frames.map frameCommand

namespace Framed

variable {x : Inbound}

theorem chunk (h : Framed x) {fd : Fd} {bytes : Bytes} {s : Server} {dispatched : List Dispatched}
    {oracle : Server → Environment} {fuel : Nat} (hfd : fd ∈ x.server.clientSockets)
    (hloop : processClientIncomingPackets oracle fd fuel (x.receive fd bytes) = .ok (s, dispatched)) :
    Framed ⟨s, Function.update x.streams fd
      { received := (x.streams fd).received ++ bytes
        dispatched := (x.streams fd).dispatched ++ dispatched.map fun d => (d.code, d.payload) }⟩ := by
  obtain ⟨huntouched, frames', hsplits', hdispatched⟩ := Server.processClientIncomingPackets_splits hloop
  have hreceive := ClientManager.getIncomingBuffer_append ((h.linked.clients fd).mpr hfd)
  have hlinked : Server.Linked (x.receive fd bytes) := by
    rw [receive, ClientManager.appendToIncomingBuffer_eq]
    exact h.linked.setManager (ClientManager.keys_update _)
  refine ⟨?_, fun fd' hfd' => ?_⟩
  · have hopen : fd ∈ (x.receive fd bytes).clientSockets := hfd
    exact Server.processClientIncomingPackets_induction (P := fun s _ => s.Linked)
      (fun _ _ _ _ _ hs hhandle => hs.step hhandle) hopen [] hlinked hloop
  · have hopen : fd' ∈ x.server.clientSockets := by
      have hsockets : s.clientSockets = x.server.clientSockets := huntouched.clientSockets
      exact hsockets ▸ hfd'
    obtain ⟨frames, hsplits, hframes⟩ := h.split fd' hopen
    by_cases hne : fd' = fd
    · subst hne
      rw [receive, hreceive, if_pos rfl] at hsplits'
      refine ⟨frames ++ frames', ?_, ?_⟩
      · simp only [Function.update_self]
        exact hsplits.append hsplits'
      · simp only [Function.update_self]
        rw [hframes, hdispatched, List.map_append]
    · have hbuffer : s.clientManager.getIncomingBuffer fd' =
          x.server.clientManager.getIncomingBuffer fd' := by
        rw [huntouched.incoming fd' hne, receive, hreceive, if_neg hne]
      simp only [Function.update_of_ne hne]
      rw [hbuffer]
      exact ⟨frames, hsplits, hframes⟩

theorem accept (h : Framed x) {fd : Fd} (hfd : x.server.CanAccept fd) :
    Framed ⟨x.server.accepted fd, Function.update x.streams fd ⟨[], []⟩⟩ := by
  have hnew : fd ∉ x.server.clientManager.clients := fun hmem => hfd.2.2.2 ((h.linked.clients fd).mp hmem)
  refine ⟨h.linked.accepted hfd, fun fd' hfd' => ?_⟩
  rw [Server.getIncomingBuffer_accepted _ hnew]
  by_cases hne : fd' = fd
  · subst hne
    simp only [Function.update_self, if_true]
    exact ⟨[], .done rfl, rfl⟩
  · simp only [Function.update_of_ne hne, if_neg hne]
    exact h.split fd' (Finset.mem_of_mem_insert_of_ne hfd' hne)

theorem disconnect (h : Framed x) {fd : Fd} {s middle : Server} {queued : List (Fd × Packet)}
    (hd : Server.Disconnection x.server fd middle queued)
    (hs : s = { middle.deliver queued with
      clientSockets := x.server.clientSockets.erase fd
      clientManager := (middle.deliver queued).clientManager.removeClient fd })
    (hlinked : s.Linked) : Framed ⟨s, x.streams⟩ := by
  refine ⟨hlinked, fun fd' hfd' => ?_⟩
  subst hs
  have hne : fd' ≠ fd := Finset.ne_of_mem_erase hfd'
  have hsame := (h.linked.disconnection hd).2.2
  have hbuffer : ((middle.deliver queued).clientManager.removeClient fd).getIncomingBuffer fd' =
      x.server.clientManager.getIncomingBuffer fd' := by
    rw [Server.getIncomingBuffer_removeClient _ hne]
    exact (ClientManager.getIncomingBuffer_sendAll _ _ _).trans (hsame.incoming fd')
  simp only
  rw [hbuffer]
  exact h.split fd' (Finset.mem_of_mem_erase hfd')

theorem step {y : Inbound} {e : Event} (h : Framed x) (hs : x.step e = some y) : Framed y := by
  cases e with
  | chunk fd bytes oracle =>
    simp only [Inbound.step] at hs
    split at hs
    · next hfd =>
      split at hs
      · cases hs
      · next s dispatched hloop =>
        cases hs
        exact h.chunk hfd.1 hloop
    · cases hs
  | accept fd =>
    obtain ⟨s, hstep, rfl⟩ := Option.map_eq_some_iff.mp hs
    obtain ⟨queued, hhandle⟩ := Server.step_eq_some.mp hstep
    obtain ⟨hfd, rfl, -⟩ := Server.handle_accept hhandle
    exact h.accept hfd
  | flush fd n =>
    obtain ⟨s, hstep, rfl⟩ := Option.map_eq_some_iff.mp hs
    obtain ⟨queued, hhandle⟩ := Server.step_eq_some.mp hstep
    have hlinked := h.linked.step hhandle
    obtain ⟨-, -, -, rfl⟩ := Server.handle_flush hhandle
    refine ⟨hlinked, fun fd' hfd' => ?_⟩
    simp only
    rw [Server.getIncomingBuffer_flush]
    exact h.split fd' hfd'
  | disconnect fd =>
    obtain ⟨s, hstep, rfl⟩ := Option.map_eq_some_iff.mp hs
    obtain ⟨queued, hhandle⟩ := Server.step_eq_some.mp hstep
    have hlinked := h.linked.step hhandle
    obtain ⟨-, middle, hd, heq⟩ := Server.handle_disconnect hhandle
    exact h.disconnect hd heq hlinked

end Framed

/-- After any run, whatever the cuts and the interleaving: what was dispatched for an open
connection are the frames of what it sent, and its buffer is the rest, without a complete frame;
and the loop ends on every further chunk, as long as the generator brings unused uuids. -/
theorem framing {listenFd : Fd} {users : List User} {teams : List Team} {messages : List Message}
    {events : List Event} {x : Inbound}
    (hrun : Runs.run step (start listenFd users teams messages) events = some x) :
    ∀ fd ∈ x.server.clientSockets,
      (∃ frames, (x.streams fd).received =
          Framing.join frames ++ x.server.clientManager.getIncomingBuffer fd ∧
        (∀ f ∈ frames, packetFraming.WellFormed f) ∧
        packetFraming.next (x.server.clientManager.getIncomingBuffer fd) = none ∧
        (x.streams fd).dispatched = frames.map frameCommand) ∧
      ∀ bytes oracle, bytes ≠ [] → bytes.length ≤ readBufferSize →
        (∀ s, Server.Passes oracle fd (x.receive fd bytes) s → (oracle s).Finds s) →
        ∃ s dispatched, ∀ fuel,
          ((x.receive fd bytes).clientManager.getIncomingBuffer fd).length < fuel →
            processClientIncomingPackets oracle fd fuel (x.receive fd bytes) = .ok (s, dispatched) := by
  have hframed : Framed x := by
    refine Runs.run_invariant (fun _ _ _ hs he => hs.step he) ⟨.start _ _ _ _, fun fd hfd => ?_⟩ hrun
    simp [start, Server.start] at hfd
  intro fd hfd
  obtain ⟨frames, hsplits, hdispatched⟩ := hframed.split fd hfd
  obtain ⟨hjoin, hwellFormed, hnone⟩ := Framing.splits_iff.mp hsplits
  exact ⟨⟨frames, hjoin, hwellFormed, hnone, hdispatched⟩, fun bytes oracle _ _ horacle =>
    Server.processClientIncomingPackets_ok fd (x.receive fd bytes) horacle⟩

/-- Two connections; the first sends a login cut in its header, and a frame with an unknown code. -/
def twoClientsRun : List Event :=
  let login := (Request.login [97]).packet
  [.accept 4, .accept 5, .chunk 4 (login.take 3) fun _ => default, .chunk 5 [1] fun _ => default,
    .chunk 4 (login.drop 3 ++ [255, 255, 0, 0, 7]) fun _ => default]

theorem framing_two_clients :
    ∃ x, Runs.run step (start 3 [] [] []) twoClientsRun = some x ∧
      (x.streams 4).dispatched.map Prod.fst = [CommandID.login.code, 65535] ∧
      ∃ frames, (x.streams 4).received =
          Framing.join frames ++ x.server.clientManager.getIncomingBuffer 4 ∧
        (x.streams 4).dispatched = frames.map frameCommand := by
  have hfacts : (Runs.run step (start 3 [] [] []) twoClientsRun).map (fun x =>
      (decide ((4 : Fd) ∈ x.server.clientSockets), (x.streams 4).dispatched.map Prod.fst)) =
        some (true, [CommandID.login.code, 65535]) := by decide +kernel
  obtain ⟨x, hx, hfacts⟩ := Option.map_eq_some_iff.mp hfacts
  obtain ⟨hopen, hcodes⟩ := Prod.mk.inj hfacts
  obtain ⟨⟨frames, hjoin, -, -, hdispatched⟩, -⟩ := framing hx 4 (by simpa using hopen)
  exact ⟨x, hx, hcodes, frames, hjoin, hdispatched⟩

end Inbound

end TeamsMirror
