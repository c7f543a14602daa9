import TeamsMirror.Server.Alike
import TeamsMirror.Server.Inbound

/-!
# Transactions

The wire taken away: a request comes as a whole, and is answered before the next one.
The server that reads and writes bytes does the same as this one: what it dispatches
and queues is what the whole requests, one after the other, bring about. No schedule of
chunks and partial writes can be told from the outside, and none is needed for any
behaviour.
-/

namespace TeamsMirror

/-- What the server does in one piece. -/
inductive Transaction where
  | accept (fd : Fd)
  | request (fd : Fd) (code : UInt16) (payload : Bytes) (environment : Environment)
  | disconnect (fd : Fd)

namespace Server

/-- One transaction, with the packets that it queues. -/
def transact (s : Server) : Transaction → Option (Server × List (Fd × Packet))
  | .accept fd => if s.CanAccept fd then some (s.accepted fd, []) else none
  | .request fd code payload environment =>
    if fd ∈ s.clientSockets ∧ payload.length < 65536 then
      (dispatchCommand (s.context fd payload environment) code).map fun context =>
        (context.toServer, context.queued)
    else none
  | .disconnect fd =>
    if fd ∈ s.clientSockets then
      let context := handleClientDisconnection (s.context fd [] default)
      some (s.removed context fd, context.queued)
    else none

def transactStep (s : Server) (transaction : Transaction) : Option Server :=
  (s.transact transaction).map Prod.fst

/-- What an event of the wire means: bytes that come or go mean nothing by themselves. -/
def transactions (s : Server) : Event → List Transaction
  | .accept fd => [.accept fd]
  | .receive _ _ => []
  | .dispatch fd environment =>
    (peekPacket (s.clientManager.getIncomingBuffer fd)).toList.map fun p =>
      .request fd p.1.code p.2 environment
  | .flush _ _ => []
  | .disconnect fd => [.disconnect fd]

/-- The packets that an event queues. -/
def queuedBy (s : Server) (e : Event) : List (Fd × Packet) := ((s.handle e).map Prod.snd).getD []

/-- The transactions of an event, each with what is queued for it. -/
def traced (s : Server) (e : Event) : List (Transaction × List (Fd × Packet)) :=
  (s.transactions e).map fun transaction => (transaction, s.queuedBy e)

def tracedWhole (s : Server) (transaction : Transaction) : List (Transaction × List (Fd × Packet)) :=
  [(transaction, ((s.transact transaction).map Prod.snd).getD [])]

/-- The events by which a transaction can come about. -/
def wire : Transaction → List Event
  | .accept fd => [.accept fd]
  | .request fd code payload environment =>
    (Packed.toBytes (PacketHeader.mk code (UInt16.ofNat payload.length)) ++ payload).map
      (fun byte => .receive fd [byte]) ++ [.dispatch fd environment]
  | .disconnect fd => [.disconnect fd]

/-- What is asked for may be seen, and no uuid that is hidden from either server is drawn. -/
def Answerable (view : Visibility) (s t : Server) : Transaction → Prop
  | .request fd code payload environment =>
    TeamsMirror.Answerable view (s.context fd payload environment) code ∧
      (code = CommandID.create.code → view.Undrawn t.teams environment)
  | .accept _ | .disconnect _ => True

variable {view : Visibility} {s s' t : Server}

/-- Servers that are alike do a transaction alike, if its user looks at nothing that is hidden. -/
theorem Alike.transact (h : s.Alike view t) {transaction : Transaction} {queued : List (Fd × Packet)}
    (hanswerable : s.Answerable view t transaction) (hs : s.transact transaction = some (s', queued)) :
    ∃ t', t.transact transaction = some (t', queued) ∧ s'.Alike view t' := by
  obtain ⟨hlisten, -, hsockets, -⟩ := h.fields
  cases transaction with
  | accept fd =>
    obtain ⟨hcan, hsome⟩ := Option.ite_none_right_eq_some.mp hs
    cases hsome
    have hcan' : t.CanAccept fd := by
      rw [CanAccept, hlisten, hsockets]
      exact hcan
    exact ⟨t.accepted fd, if_pos hcan', h.accepted fd⟩
  | request fd code payload environment =>
    obtain ⟨hfd, hsome⟩ := Option.ite_none_right_eq_some.mp hs
    obtain ⟨c, hc, he⟩ := Option.map_eq_some_iff.mp hsome
    cases he
    have hrel : Option.Rel (Twins view) (dispatchCommand (s.context fd payload environment) code)
        (dispatchCommand (t.context fd payload environment) code) :=
      twins_dispatchCommand (h.context fd payload environment) hanswerable.1 hanswerable.2
    rw [hc] at hrel
    generalize hd : dispatchCommand (t.context fd payload environment) code = ended at hrel
    cases hrel with
    | @some _ d htwins =>
      refine ⟨d.toServer, ?_, htwins.alike⟩
      have hqueued : d.queued = c.queued := by rw [htwins.rest]
      rw [Server.transact, hsockets, if_pos hfd, hd, Option.map_some, hqueued]
  | disconnect fd =>
    obtain ⟨hfd, hsome⟩ := Option.ite_none_right_eq_some.mp hs
    cases hsome
    have htwins := twins_handleClientDisconnection (h.context fd [] default)
    refine ⟨_, ?_, h.removed htwins fd⟩
    have hqueued : (handleClientDisconnection (t.context fd [] default)).queued =
        (handleClientDisconnection (s.context fd [] default)).queued := by rw [htwins.rest]
    simp only [Server.transact, hsockets, if_pos hfd, hqueued]

/-- Where all is seen, nothing keeps a transaction from being done alike. -/
theorem Answerable.all (s t : Server) (transaction : Transaction) : s.Answerable .all t transaction := by
  cases transaction with
  | accept | disconnect => trivial
  | request => exact ⟨.all _ _, fun _ => Visibility.undrawn_of_sees fun _ => rfl⟩

theorem queuedBy_eq {e : Event} {queued : List (Fd × Packet)} (h : s.handle e = some (s', queued)) :
    s.queuedBy e = queued := by
  rw [queuedBy, h]
  rfl

theorem tracedWhole_eq {transaction : Transaction} {queued : List (Fd × Packet)}
    (h : s.transact transaction = some (s', queued)) : s.tracedWhole transaction = [(transaction, queued)] := by
  rw [tracedWhole, h]
  rfl

theorem transactStep_eq {transaction : Transaction} {queued : List (Fd × Packet)}
    (h : s.transact transaction = some (s', queued)) : s.transactStep transaction = some s' := by
  rw [transactStep, h]
  rfl

/-- A transaction that is done alike is a run of its own. -/
theorem Alike.run_transact (h : s.Alike view t) {transaction : Transaction} {queued : List (Fd × Packet)}
    (hanswerable : s.Answerable view t transaction) (hs : s.transact transaction = some (s', queued)) :
    ∃ t', Runs.run transactStep t [transaction] = some t' ∧ s'.Alike view t' ∧
      t.transact transaction = some (t', queued) ∧
      Runs.collect transactStep tracedWhole t [transaction] = [(transaction, queued)] := by
  obtain ⟨t', ht', halike⟩ := h.transact hanswerable hs
  have hstep := transactStep_eq ht'
  refine ⟨t', (Runs.run_singleton t transaction).trans hstep, halike, ht', ?_⟩
  rw [Runs.collect_singleton hstep, tracedWhole_eq ht']

theorem length_lt_of_peekPacket {buffer payload : Bytes} {header : PacketHeader}
    (h : peekPacket buffer = some (header, payload)) : payload.length < 65536 := by
  obtain ⟨f, hnext, hf⟩ := next_of_peekPacket h
  obtain ⟨-, -, hsize⟩ := packetFraming.next_eq_some.mp hnext
  have hpayload : f.2 = payload := congrArg Prod.snd hf
  rw [← hpayload, hsize]
  exact UInt16.toNat_lt _

/-- An event of the wire is no transaction and changes buffers only, or it is one transaction. -/
theorem handle_transacts (view : Visibility) {e : Event} {queued : List (Fd × Packet)}
    (hs : s.handle e = some (s', queued)) :
    (s.transactions e = [] ∧ queued = [] ∧ s.Alike view s') ∨
      ∃ transaction t, s.transactions e = [transaction] ∧ s.transact transaction = some (t, queued) ∧
        t.Alike view s' := by
  cases e with
  | accept fd =>
    obtain ⟨hcan, rfl, rfl⟩ := handle_accept hs
    exact .inr ⟨.accept fd, s.accepted fd, rfl, if_pos hcan, .refl view _⟩
  | receive fd chunk =>
    obtain ⟨-, rfl, rfl⟩ := handle_receive hs
    exact .inl ⟨rfl, rfl, .setManager (ClientManager.place_appendToIncomingBuffer _ fd chunk)⟩
  | dispatch fd environment =>
    obtain ⟨hfd, -⟩ := handle_dispatch hs
    obtain ⟨header, payload, c, hpeek, hdispatch, rfl, rfl⟩ := handle_dispatch_context hs
    refine .inr ⟨.request fd header.code payload environment, c.toServer, ?_, ?_,
      .setManager (ClientManager.place_consumeIncomingBuffer _ fd _)⟩
    · rw [transactions, hpeek]
      rfl
    · rw [transact, if_pos ⟨hfd, length_lt_of_peekPacket hpeek⟩, hdispatch]
      rfl
  | flush fd n =>
    obtain ⟨-, -, rfl, rfl⟩ := handle_flush hs
    exact .inl ⟨rfl, rfl, .setManager (ClientManager.place_consumeQueuedData _ fd n)⟩
  | disconnect fd => exact .inr ⟨.disconnect fd, s', rfl, hs, .refl view _⟩

/-- Every run of the wire is a run of transactions that queues the same packets for each. -/
theorem run_transactions {u : Server} {events : List Event} (hrun : Runs.run step s events = some u) :
    ∃ v, Runs.run transactStep s (Runs.collect step transactions s events) = some v ∧
      u.Alike .all v ∧
      Runs.collect transactStep tracedWhole s (Runs.collect step transactions s events) =
        Runs.collect step traced s events := by
  refine Runs.run_simulates (R := fun s t => s.Alike .all t) (fun s e s' t hR hs => ?_)
    (.refl _ s) hrun
  obtain ⟨queued, hhandle⟩ := step_eq_some.mp hs
  rcases handle_transacts .all hhandle with
    ⟨hnone, -, halike⟩ | ⟨transaction, t₁, hone, htransact, halike⟩
  · rw [traced, hnone]
    exact ⟨t, rfl, halike.symm.trans hR, rfl⟩
  · obtain ⟨t', ht', hR', -, hshown⟩ := hR.run_transact (.all _ _ _) htransact
    rw [traced, hone, queuedBy_eq hhandle]
    exact ⟨t', ht', halike.symm.trans hR', hshown⟩

/-- Nothing that was received waits. -/
def Drained (s : Server) : Prop := ∀ fd, s.clientManager.getIncomingBuffer fd = []

theorem appendToIncomingBuffer_append (m : ClientManager) (fd : Fd) (data more : Bytes) :
    (m.appendToIncomingBuffer fd data).appendToIncomingBuffer fd more =
      m.appendToIncomingBuffer fd (data ++ more) := by
  simp only [ClientManager.appendToIncomingBuffer_eq, ClientManager.update, UnorderedMap.modify_modify,
    List.append_assoc]

/-- A request can come byte by byte. -/
theorem run_receive {fd : Fd} (hfd : fd ∈ s.clientSockets) (data : Bytes) :
    Runs.run step s (data.map fun byte => .receive fd [byte]) =
        some { s with clientManager := s.clientManager.appendToIncomingBuffer fd data } ∧
      Runs.collect step traced s (data.map fun byte => .receive fd [byte]) = [] := by
  induction data generalizing s with
  | nil => exact ⟨rfl, rfl⟩
  | cons byte data ih =>
    have hstep : s.step (.receive fd [byte]) =
        some { s with clientManager := s.clientManager.appendToIncomingBuffer fd [byte] } := by
      simp [step, handle, hfd, readBufferSize]
    obtain ⟨hrun, hshown⟩ :=
      ih (s := { s with clientManager := s.clientManager.appendToIncomingBuffer fd [byte] }) hfd
    rw [appendToIncomingBuffer_append] at hrun
    refine ⟨Runs.run_cons_eq_some.mpr ⟨_, hstep, hrun⟩, ?_⟩
    rw [List.map_cons, Runs.collect_cons hstep, hshown]
    rfl

theorem length_frame {code : UInt16} {payload : Bytes} (hlen : payload.length < 65536) :
    (Packed.toBytes (PacketHeader.mk code (UInt16.ofNat payload.length)) ++ payload).length =
      sizeof PacketHeader + (UInt16.ofNat payload.length).toNat := by
  rw [List.length_append, Packed.length_toBytes, UInt16.toNat_ofNat', Nat.mod_eq_of_lt hlen]
  rfl

theorem peekPacket_frame {code : UInt16} {payload : Bytes} (hlen : payload.length < 65536) :
    peekPacket (Packed.toBytes (PacketHeader.mk code (UInt16.ofNat payload.length)) ++ payload) =
      some (⟨code, UInt16.ofNat payload.length⟩, payload) := by
  have hsize : (UInt16.ofNat payload.length).toNat = payload.length := by
    rw [UInt16.toNat_ofNat', Nat.mod_eq_of_lt hlen]
  have hhead : (Packed.toBytes (PacketHeader.mk code (UInt16.ofNat payload.length))).length =
      sizeof PacketHeader := Packed.length_toBytes _
  simp only [peekPacket, List.take_left' hhead, List.drop_left' hhead, Packed.ofBytes_toBytes, hsize,
    List.length_append, hhead]
  rw [if_neg (by omega), if_neg (by omega), List.take_length]

/-- A request that comes byte by byte when nothing else waits is dispatched, and nothing is left of it. -/
theorem run_request (hlinked : s.Linked) (hdrained : s.Drained) {fd : Fd} {code : UInt16} {payload : Bytes}
    {environment : Environment} {queued : List (Fd × Packet)}
    (hs : s.transact (.request fd code payload environment) = some (s', queued)) :
    ∃ u, Runs.run step s (wire (.request fd code payload environment)) = some u ∧
      Runs.collect step traced s (wire (.request fd code payload environment)) =
        [(.request fd code payload environment, queued)] ∧
      s'.Alike .all u ∧ u.Linked ∧ u.Drained := by
  obtain ⟨⟨hfd, hlen⟩, -⟩ := Option.ite_none_right_eq_some.mp hs
  let data := Packed.toBytes (PacketHeader.mk code (UInt16.ofNat payload.length)) ++ payload
  let s₁ : Server := { s with clientManager := s.clientManager.appendToIncomingBuffer fd data }
  have hlinked₁ : s₁.Linked := by
    simp only [s₁, ClientManager.appendToIncomingBuffer_eq]
    exact hlinked.setManager (ClientManager.keys_update _)
  have halike₁ : s.Alike .all s₁ :=
    .setManager (ClientManager.place_appendToIncomingBuffer _ fd data)
  obtain ⟨s₂, hs₁, halike⟩ := halike₁.transact (.all _ _ _) hs
  obtain ⟨-, hsome⟩ := Option.ite_none_right_eq_some.mp hs₁
  obtain ⟨c, hc, he⟩ := Option.map_eq_some_iff.mp hsome
  obtain ⟨rfl, rfl⟩ := Prod.mk.inj he
  have hbuffer : ∀ fd', s₁.clientManager.getIncomingBuffer fd' = if fd' = fd then data else [] := by
    intro fd'
    rw [ClientManager.getIncomingBuffer_append ((hlinked.clients fd).mpr hfd), hdrained, hdrained]
    rfl
  have hpeek : peekPacket (s₁.clientManager.getIncomingBuffer fd) =
      some (⟨code, UInt16.ofNat payload.length⟩, payload) := by
    rw [hbuffer, if_pos rfl]
    exact peekPacket_frame hlen
  obtain ⟨u, hprocess, halike'⟩ : ∃ u,
      processPacket s₁ fd environment ⟨code, UInt16.ofNat payload.length⟩ payload =
        some (u, ⟨code, payload, c.queued⟩) ∧ c.toServer.Alike .all u := by
    refine ⟨_, by rw [processPacket, hc]; rfl, .setManager ?_⟩
    exact ClientManager.place_consumeIncomingBuffer _ fd _
  have hhandle : s₁.handle (.dispatch fd environment) = some (u, c.queued) := by
    rw [handle, if_pos (show fd ∈ s₁.clientSockets from hfd), hpeek]
    simp only [hprocess, Option.map_some]
  obtain ⟨hreceived, hshown⟩ := run_receive hfd data
  have hstep : s₁.step (.dispatch fd environment) = some u := step_eq_some.mpr ⟨_, hhandle⟩
  refine ⟨u, Runs.run_snoc hreceived hstep, ?_, halike.trans halike', hlinked₁.step hhandle, fun fd' => ?_⟩
  · rw [wire, Runs.collect_append hreceived, hshown, Runs.collect_cons hstep, traced, transactions, hpeek,
      queuedBy, hhandle]
    rfl
  · obtain ⟨-, -, huntouched, hrest⟩ := processPacket_spec hprocess
    by_cases he : fd' = fd
    · rw [he, hrest, hbuffer, if_pos rfl]
      exact List.drop_eq_nil_of_le (Nat.le_of_eq (length_frame hlen))
    · rw [huntouched.incoming fd' he, hbuffer, if_neg he]

/-- What happens with a transaction when its bytes come undivided, and nothing else waits. -/
theorem run_wire (hlinked : s.Linked) (hdrained : s.Drained) {transaction : Transaction}
    {queued : List (Fd × Packet)} (hs : s.transact transaction = some (s', queued)) :
    ∃ u, Runs.run step s (wire transaction) = some u ∧
      Runs.collect step traced s (wire transaction) = [(transaction, queued)] ∧
      s'.Alike .all u ∧ u.Linked ∧ u.Drained := by
  have hone : ∀ e, s.handle e = some (s', queued) → s.transactions e = [transaction] →
      wire transaction = [e] → s'.Drained → ∃ u, Runs.run step s (wire transaction) = some u ∧
        Runs.collect step traced s (wire transaction) = [(transaction, queued)] ∧
        s'.Alike .all u ∧ u.Linked ∧ u.Drained := by
    intro e hhandle htransactions hwire hdrained'
    have hstep : s.step e = some s' := step_eq_some.mpr ⟨queued, hhandle⟩
    rw [hwire]
    refine ⟨s', by rw [Runs.run_singleton, hstep], ?_, .refl _ s', hlinked.step hhandle, hdrained'⟩
    rw [Runs.collect_singleton hstep, traced, htransactions, queuedBy_eq hhandle, List.map_singleton]
  cases transaction with
  | accept fd =>
    obtain ⟨hcan, hsome⟩ := Option.ite_none_right_eq_some.mp hs
    cases hsome
    have hnew : fd ∉ s.clientManager.clients := fun hmem => hcan.2.2.2 ((hlinked.clients fd).mp hmem)
    refine hone (.accept fd) hs rfl rfl fun fd' => ?_
    rw [getIncomingBuffer_accepted _ hnew, hdrained, ite_self]
  | request fd code payload environment => exact run_request hlinked hdrained hs
  | disconnect fd =>
    refine hone (.disconnect fd) hs rfl rfl fun fd' => ?_
    have hhandle : s.handle (.disconnect fd) = some (s', queued) := hs
    obtain ⟨-, middle, hd, rfl⟩ := handle_disconnect hhandle
    by_cases he : fd' = fd
    · rw [he, ClientManager.removeClient, ClientManager.getIncomingBuffer, ClientManager.find,
        AList.lookup_erase]
      rfl
    · have hsame := (hlinked.disconnection hd).2.2
      rw [getIncomingBuffer_removeClient _ he, deliver, ClientManager.getIncomingBuffer_sendAll, hsame.incoming,
        hdrained]

/-- Every run of transactions is a run of the wire that queues the same packets for each. -/
theorem run_undivided {u : Server} {transactions : List Transaction} (hlinked : s.Linked) (hdrained : s.Drained)
    (hrun : Runs.run transactStep s transactions = some u) :
    ∃ events v, Runs.run step s events = some v ∧ u.Alike .all v ∧
      Runs.collect step traced s events = Runs.collect transactStep tracedWhole s transactions := by
  have hstep : ∀ (s : Server) transaction s' t, (s.Alike .all t ∧ t.Linked ∧ t.Drained) →
      s.transactStep transaction = some s' → ∃ t', Runs.run step t (wire transaction) = some t' ∧
        (s'.Alike .all t' ∧ t'.Linked ∧ t'.Drained) ∧
        Runs.collect step traced t (wire transaction) = s.tracedWhole transaction := by
    rintro s transaction s' t ⟨halike, hlinked, hdrained⟩ hs
    obtain ⟨⟨s'', queued⟩, htransact, rfl⟩ := Option.map_eq_some_iff.mp hs
    obtain ⟨t', ht', halike'⟩ := halike.transact (.all _ _ _) htransact
    obtain ⟨v, hv, hshown, halike'', hrest⟩ := run_wire hlinked hdrained ht'
    refine ⟨v, hv, ⟨halike'.trans halike'', hrest⟩, ?_⟩
    rw [hshown, tracedWhole_eq htransact]
  obtain ⟨v, hv, ⟨halike, -, -⟩, hshown⟩ := Runs.run_simulates hstep ⟨.refl _ s, hlinked, hdrained⟩ hrun
  exact ⟨_, v, hv, halike, hshown⟩

/-- The server that reads and writes bytes gets from `s` to `u` with this history. -/
def OverWire (s : Server) (history : List (Transaction × List (Fd × Packet))) (u : Server) : Prop :=
  ∃ events, Runs.run step s events = some u ∧ Runs.collect step traced s events = history

/-- The server that gets whole requests does. -/
def Whole (s : Server) (history : List (Transaction × List (Fd × Packet))) (u : Server) : Prop :=
  ∃ transactions, Runs.run transactStep s transactions = some u ∧
    Runs.collect transactStep tracedWhole s transactions = history

/-- From a start, both have the same histories, and a history leads both to the same state but for what is
in the buffers. -/
theorem overWire_whole (listenFd : Fd) (users : List User) (teams : List Team) (messages : List Message)
    (history : List (Transaction × List (Fd × Packet))) :
    (∀ s, (start listenFd users teams messages).OverWire history s →
        ∃ t, (start listenFd users teams messages).Whole history t ∧ s.Alike .all t) ∧
      ∀ t, (start listenFd users teams messages).Whole history t →
        ∃ s, (start listenFd users teams messages).OverWire history s ∧ t.Alike .all s := by
  constructor
  · rintro s ⟨events, hrun, rfl⟩
    obtain ⟨t, ht, halike, hshown⟩ := run_transactions hrun
    exact ⟨t, ⟨_, ht, hshown⟩, halike⟩
  · rintro t ⟨transactions, hrun, rfl⟩
    have hdrained : (start listenFd users teams messages).Drained := fun _ => rfl
    obtain ⟨events, s, hs, halike, hshown⟩ := run_undivided (.start _ _ _ _) hdrained hrun
    exact ⟨s, ⟨events, hs, hshown⟩, halike⟩

end Server

end TeamsMirror
