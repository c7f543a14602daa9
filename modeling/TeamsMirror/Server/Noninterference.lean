import TeamsMirror.Server.Transactions

/-!
# What a user cannot tell

A user sees what is queued for its connections, and for those that are not logged in.
Transactions of others are secret from it, if they show it nothing and change nothing
that it may see. Two runs that differ in secrets only then look the same to the user.

Private conversations are such secrets: what other users write to each other, and when
they read it. Not only do the contents of a conversation stay between its users: that
there is one does as well.
-/

namespace TeamsMirror

/-- What a transaction is but for its environment. -/
def Transaction.key : Transaction → Nat × Fd × UInt16 × Bytes
  | .accept fd => (0, fd, 0, [])
  | .request fd code payload _ => (1, fd, code, payload)
  | .disconnect fd => (2, fd, 0, [])

def Transaction.ofKey : Nat × Fd × UInt16 × Bytes → Transaction
  | (0, fd, _, _) => .accept fd
  | (1, fd, code, payload) => .request fd code payload default
  | (_, fd, _, _) => .disconnect fd

namespace Server

/-- What happens but for the secrets. -/
def publicOf (secret : Server → Transaction → Bool) (s : Server) (e : Event) : List Transaction :=
  (s.transactions e).filter fun transaction => !secret s transaction

/-- The connection is not logged in, or is the user's. -/
def observes (userUuid : Bytes) (s : Server) (fd : Fd) : Bool :=
  (s.authenticatedUsersByFd.lookup fd).all fun uuid => uuid = userUuid

/-- What is queued for the connections of the user and for those that are not logged in. -/
def observed (userUuid : Bytes) (s : Server) (queued : List (Fd × Packet)) : List (Fd × Packet) :=
  queued.filter fun q => s.observes userUuid q.1

def observedAt (userUuid : Bytes) (s : Server) (e : Event) : List (Fd × Packet) :=
  s.observed userUuid (s.queuedBy e)

def observedOf (userUuid : Bytes) (s : Server) (transaction : Transaction) : List (Fd × Packet) :=
  s.observed userUuid (((s.transact transaction).map Prod.snd).getD [])

/-- In steps that meet `C`, from states that meet `P`, the secrets show the user nothing and change nothing
that is seen, and everything else is done alike on a server that meets `Q`. -/
structure Unseen (userUuid : Bytes) (view : Visibility) (secret : Server → Transaction → Bool) (P Q : Server → Prop)
    (C : Server → Event → Prop) : Prop where
  hidden : ∀ {s s' : Server} {e : Event} {transaction : Transaction} {queued : List (Fd × Packet)}, P s → C s e →
    transaction ∈ s.transactions e → secret s transaction = true → s.transact transaction = some (s', queued) →
    s.Alike view s' ∧ s.observed userUuid queued = []
  answerable : ∀ {s t : Server} {e : Event} {transaction : Transaction}, P s → C s e → Q t →
    transaction ∈ s.transactions e → secret s transaction = false → s.Answerable view t transaction
  stays : ∀ {s t t' : Server} {e : Event} {transaction : Transaction} {queued : List (Fd × Packet)}, P s → C s e →
    s.Alike view t → Q t → transaction ∈ s.transactions e → secret s transaction = false →
    t.transact transaction = some (t', queued) → Q t'
  kept : ∀ {s s' : Server} {e : Event}, P s → s.step e = some s' → P s'

variable {userUuid : Bytes} {s s' t : Server} {queued : List (Fd × Packet)} {view : Visibility}

theorem observed_eq_nil (h : ∀ q ∈ queued, s.observes userUuid q.1 = false) :
    s.observed userUuid queued = [] := by
  rw [observed, List.filter_eq_nil_iff]
  intro q hq
  rw [h q hq]
  exact Bool.false_ne_true

theorem Alike.observed_eq (h : s.Alike view t) (queued : List (Fd × Packet)) :
    t.observed userUuid queued = s.observed userUuid queued := by
  obtain ⟨-, -, -, hsessions⟩ := h.fields
  simp only [observed, observes, hsessions]

/-- A connection of somebody else. -/
theorem observes_eq_false {fd : Fd} {uuid : Bytes} (hfd : s.authenticatedUsersByFd.lookup fd = some uuid)
    (hne : uuid ≠ userUuid) : s.observes userUuid fd = false := by
  rw [observes, hfd]
  exact decide_eq_false hne

theorem observes_toClient {fd : Fd} (hfd : s.observes userUuid fd = false) (payload : Bytes)
    (environment : Environment) (packets : List Packet) :
    ∀ q ∈ toClient (s.context fd payload environment) packets, s.observes userUuid q.1 = false := by
  intro q hq
  obtain ⟨packet, -, rfl⟩ := List.mem_map.mp hq
  exact hfd

/-- A change that is not seen, and packets to others. -/
theorem unseen_perform {fd : Fd} {payload : Bytes} {environment : Environment} {middle : Server}
    {packets : List (Fd × Packet)} (halike : s.Alike view middle)
    (hpackets : ∀ q ∈ packets, s.observes userUuid q.1 = false) :
    s.Alike view (perform (s.context fd payload environment) middle packets).toServer ∧
      s.observed userUuid (perform (s.context fd payload environment) middle packets).queued = [] := by
  rw [toServer_perform, queued_perform]
  exact ⟨halike.trans (.deliver middle packets), observed_eq_nil hpackets⟩

namespace Unseen

variable {secret : Server → Transaction → Bool} {P Q : Server → Prop} {C : Server → Event → Prop}

/-- An event is public and shows what it shows by itself, or it is secret and shows nothing. -/
theorem step (h : Unseen userUuid view secret P Q C) (hP : P s) (hQ : Q t) (halike : s.Alike view t) {e : Event}
    (hC : C s e) (hs : s.step e = some s') :
    ∃ t', Runs.run transactStep t (s.publicOf secret e) = some t' ∧ (P s' ∧ Q t' ∧ s'.Alike view t') ∧
      Runs.collect transactStep (observedOf userUuid) t (s.publicOf secret e) = s.observedAt userUuid e := by
  have hP' : P s' := h.kept hP hs
  obtain ⟨queued, hhandle⟩ := step_eq_some.mp hs
  have hqueued : s.queuedBy e = queued := queuedBy_eq hhandle
  rcases handle_transacts view hhandle with ⟨hnone, hempty, hsame⟩ | ⟨transaction, s₁, hone, htransact, hsame⟩
  · rw [publicOf, hnone, observedAt, hqueued, hempty]
    exact ⟨t, rfl, ⟨hP', hQ, hsame.symm.trans halike⟩, rfl⟩
  · have hmem : transaction ∈ s.transactions e := by
      rw [hone]
      exact List.mem_singleton_self transaction
    rw [publicOf, hone, observedAt, hqueued, List.filter_singleton]
    cases hsecret : secret s transaction with
    | true =>
      obtain ⟨hunseen, hnothing⟩ := h.hidden hP hC hmem hsecret htransact
      rw [hnothing]
      exact ⟨t, rfl, ⟨hP', hQ, (hunseen.trans hsame).symm.trans halike⟩, rfl⟩
    | false =>
      obtain ⟨t', ht', halike'⟩ := halike.transact (h.answerable hP hC hQ hmem hsecret) htransact
      have hQ' : Q t' := h.stays hP hC halike hQ hmem hsecret ht'
      have hstep : t.transactStep transaction = some t' := transactStep_eq ht'
      refine ⟨t', (Runs.run_singleton t transaction).trans hstep, ⟨hP', hQ', hsame.symm.trans halike'⟩, ?_⟩
      simp only [Bool.not_false, Bool.cond_true]
      rw [Runs.collect_singleton hstep, observedOf, ht', halike.observed_eq]
      rfl

/-- Two runs with the same public transactions, from states that look the same as a third one, show the user
the same packets, and end in states that look the same. -/
theorem runs_alike (h : Unseen userUuid view secret P Q C) {u u' : Server} {events events' : List Event}
    (hP : P s) (hP' : P s') (hQ : Q t) (halike : s.Alike view t) (halike' : s'.Alike view t)
    (hC : Runs.Always Server.step C s events) (hC' : Runs.Always Server.step C s' events')
    (hrun : Runs.run Server.step s events = some u) (hrun' : Runs.run Server.step s' events' = some u')
    (hpublic : Runs.collect Server.step (publicOf secret) s' events' =
      Runs.collect Server.step (publicOf secret) s events) :
    Runs.collect Server.step (observedAt userUuid) s' events' =
      Runs.collect Server.step (observedAt userUuid) s events ∧ u.Alike view u' := by
  obtain ⟨hshown, v, ⟨-, -, hv⟩, -, -, hv'⟩ :=
    Runs.collect_eq_of_simulates (R := fun s t => P s ∧ Q t ∧ s.Alike view t)
      (fun s e s' t hR hC hs => h.step hR.1 hR.2.1 hR.2.2 hC hs) ⟨hP, hQ, halike⟩ ⟨hP', hQ, halike'⟩ hC hC' hrun
      hrun' hpublic
  exact ⟨hshown, hv.trans hv'.symm⟩

end Unseen

/-- The message is from the user or for it. -/
def concerns (userUuid : Bytes) (m : Message) : Bool :=
  m.authorUuid.bytes = userUuid || m.receiverUuid.bytes = userUuid

/-- All but the conversations of others. -/
def ownConversations (userUuid : Bytes) : Visibility := ⟨concerns userUuid, fun _ => true⟩

/-- Somebody else reads a conversation, or writes to somebody else. -/
def secret (userUuid : Bytes) (s : Server) : Transaction → Bool
  | .request fd code payload _ =>
    ((s.authenticatedUsersByFd.lookup fd).any fun uuid => uuid ≠ userUuid) &&
      (code = CommandID.messages.code || (code = CommandID.send.code &&
        extractFixedString (Packed.ofBytes (α := PayloadReqSendMsg) payload).targetUuid.bytes ≠ some userUuid))
  | .accept _ | .disconnect _ => false

/-- A secret that is stored does not concern the user. -/
theorem alike_addMessage (m : Message) (target : Bytes) (hm : concerns userUuid m = false) :
    s.Alike (ownConversations userUuid)
      { s with
        messages := s.messages ++ [m]
        authenticatedUsersByUUID := (UnorderedMap.getOrInsert target [] s.authenticatedUsersByUUID).2 } where
  rest := rfl
  teams := rfl
  messages := by
    simp only [ownConversations]
    rw [List.filter_append, List.filter_singleton, hm]
    exact List.append_nil _
  sessions uuid := UnorderedMap.getD_lookup_getOrInsert target uuid [] s.authenticatedUsersByUUID
  places _ := rfl

theorem not_concerns {author target uuid body : Bytes} {now : Int64} (hknown : s.Known) {fd : Fd}
    (hauthor : s.authenticatedUsersByFd.lookup fd = some author) (hvalid : isUuidFormatValid target = true)
    (hne : author ≠ userUuid) (htarget : target ≠ userUuid) :
    concerns userUuid (Message.new uuid author now body target) = false := by
  have hreceiver : (CString.copyBuffer uuidLength target).bytes = target := bytes_copyBuffer_uuid hvalid
  have hsender : (CString.copyBuffer uuidLength author).bytes = author := by
    obtain ⟨user, -, -, rfl⟩ := hknown.exists_user hauthor
    rw [CString.copyBuffer_bytes]
  simp [concerns, Message.new, hreceiver, hsender, hne, htarget]

/-- A secret request changes nothing that the user sees, and is answered to others. -/
theorem secret_step (hlinked : s.Linked) (hknown : s.Known) {transaction : Transaction}
    (hsecret : s.secret userUuid transaction = true) (hs : s.transact transaction = some (s', queued)) :
    s.Alike (ownConversations userUuid) s' ∧ s.observed userUuid queued = [] := by
  cases transaction with
  | accept | disconnect => cases hsecret
  | request fd code payload environment =>
  obtain ⟨-, hsome⟩ := Option.ite_none_right_eq_some.mp hs
  obtain ⟨c, hdispatch, he⟩ := Option.map_eq_some_iff.mp hsome
  obtain ⟨rfl, rfl⟩ := Prod.mk.inj he
  obtain ⟨hother, hcode⟩ := (Bool.and_eq_true _ _).mp hsecret
  obtain ⟨uuid, huuid, hne⟩ := (Option.any_eq_true _ _).mp hother
  have hne : uuid ≠ userUuid := of_decide_eq_true hne
  have hfd : s.observes userUuid fd = false := observes_eq_false huuid hne
  rcases (Bool.or_eq_true _ _).mp hcode with hmessages | hsend
  · rw [of_decide_eq_true hmessages] at hdispatch
    obtain ⟨middle, packets, heffect, rfl⟩ := dispatch_command hdispatch
    cases heffect with
    | refused | answered => exact unseen_perform (.refl _ s) (observes_toClient hfd _ _ _)
  · obtain ⟨hsend, htarget⟩ := (Bool.and_eq_true _ _).mp hsend
    rw [of_decide_eq_true hsend] at hdispatch
    obtain ⟨middle, packets, heffect, rfl⟩ := dispatch_command hdispatch
    cases heffect with
    | refused | answered => exact unseen_perform (.refl _ s) (observes_toClient hfd _ _ _)
    | @sent author target body message hauthor hfield hvalid _ _ hmessage =>
      obtain rfl : uuid = author := Option.some.inj (huuid.symm.trans hauthor)
      have htarget : target ≠ userUuid := fun he => of_decide_eq_true htarget (he ▸ hfield)
      have hmessage : concerns userUuid message = false :=
        hmessage ▸ not_concerns hknown hauthor hvalid hne htarget
      refine unseen_perform (alike_addMessage message target hmessage) fun q hq => ?_
      rcases List.mem_append.mp hq with hq | hq
      · obtain ⟨fd', hfd', rfl⟩ := List.mem_map.mp hq
        exact observes_eq_false (hlinked.owned target fd' hfd') htarget
      · exact observes_toClient hfd _ _ _ q hq

/-- The user and those who are not logged in read what they see. -/
theorem answerable_public {transaction : Transaction} (hpublic : s.secret userUuid transaction = false) :
    s.Answerable (ownConversations userUuid) t transaction := by
  cases transaction with
  | accept | disconnect => trivial
  | request fd code payload environment =>
    refine ⟨⟨?_, fun _ _ _ _ _ _ => rfl, fun _ => Visibility.undrawn_of_sees fun _ => rfl⟩,
      fun _ => Visibility.undrawn_of_sees fun _ => rfl⟩
    rintro rfl uuid huuid message hmessage
    have huuid : s.authenticatedUsersByFd.lookup fd = some uuid := huuid
    have he : uuid = userUuid := by simpa [secret, huuid] using hpublic
    simpa [ownConversations, concerns, he] using hmessage

theorem conversations_unseen (userUuid : Bytes) :
    Unseen userUuid (ownConversations userUuid) (secret userUuid) (fun s => s.Linked ∧ s.Known) (fun _ => True)
      (fun _ _ => True) where
  hidden hP _ _ hsecret hs := secret_step hP.1 hP.2 hsecret hs
  answerable _ _ _ _ hpublic := answerable_public hpublic
  stays _ _ _ _ _ _ _ := trivial
  kept hP hs := by
    obtain ⟨queued, hhandle⟩ := step_eq_some.mp hs
    exact ⟨hP.1.step hhandle, hP.2.step hhandle⟩

theorem Known.start (listenFd : Fd) (users : List User) (teams : List Team) (messages : List Message) :
    (Server.start listenFd users teams messages).Known := by
  intro fd uuid hl
  simp [Server.start] at hl

/-- Two runs with the same public transactions, from stores that differ in the messages of others, show a
user the same packets, and leave it the same messages. -/
theorem conversations_unobserved (userUuid : Bytes) {listenFd : Fd} {users : List User} {teams : List Team}
    {messages messages' : List Message} {events events' : List Event}
    (hmessages : messages'.filter (concerns userUuid) = messages.filter (concerns userUuid))
    (hrun : Runs.run step (start listenFd users teams messages) events = some s)
    (hrun' : Runs.run step (start listenFd users teams messages') events' = some s')
    (hpublic : Runs.collect step (publicOf (secret userUuid)) (start listenFd users teams messages') events' =
      Runs.collect step (publicOf (secret userUuid)) (start listenFd users teams messages) events) :
    Runs.collect step (observedAt userUuid) (start listenFd users teams messages') events' =
        Runs.collect step (observedAt userUuid) (start listenFd users teams messages) events ∧
      s.Alike (ownConversations userUuid) s' := by
  have hstart : (start listenFd users teams messages').Alike (ownConversations userUuid)
      (start listenFd users teams messages) := ⟨rfl, rfl, hmessages.symm, fun _ => rfl, fun _ => rfl⟩
  exact (conversations_unseen userUuid).runs_alike ⟨.start _ _ _ _, .start _ _ _ _⟩
    ⟨.start _ _ _ _, .start _ _ _ _⟩ trivial (.refl _ _) hstart
    (Runs.always_of_forall (fun _ _ => trivial) _ _) (Runs.always_of_forall (fun _ _ => trivial) _ _) hrun hrun'
    hpublic

/-- Where every environment is the default one, the rest of the public transactions tells them. -/
theorem map_ofKey_publicOf {secret : Server → Transaction → Bool} {events : List Event}
    (h : ∀ fd environment, .dispatch fd environment ∈ events → environment = default) (s : Server) :
    ((Runs.collect step (publicOf secret) s events).map Transaction.key).map Transaction.ofKey =
      Runs.collect step (publicOf secret) s events := by
  induction events generalizing s with
  | nil => rfl
  | cons e events ih =>
    have hrest := fun s => ih (fun fd environment he => h fd environment (List.mem_cons_of_mem _ he)) s
    have hhead : ∀ transaction ∈ s.publicOf secret e, Transaction.ofKey transaction.key = transaction := by
      intro transaction ht
      have ht := List.mem_of_mem_filter ht
      cases e with
      | dispatch fd environment =>
        obtain ⟨p, -, rfl⟩ := List.mem_map.mp ht
        rw [h fd environment List.mem_cons_self]
        rfl
      | accept | disconnect =>
        rw [List.mem_singleton.mp ht]
        rfl
      | receive | flush => cases ht
    have hmap : ((s.publicOf secret e).map Transaction.key).map Transaction.ofKey = s.publicOf secret e := by
      rw [List.map_map]
      exact (List.map_congr_left hhead).trans (List.map_id' _)
    simp only [Runs.collect, List.map_append, hmap]
    cases s.step e with
    | none => rfl
    | some t => simp only [hrest]

/-- Three users, of whom the first asks for the list of users. -/
def quietRun : List Event :=
  [.accept 4, .accept 5, .accept 6, .receive 4 (Request.login [97]).packet, .dispatch 4 default,
    .receive 5 (Request.login [98]).packet, .dispatch 5 default, .receive 6 (Request.login [99]).packet,
    .dispatch 6 default, .receive 4 Request.users.packet, .dispatch 4 default]

/-- The same, but the second writes to the third, who reads it. -/
def talkingRun (uuid : Bytes) : List Event :=
  quietRun.take 9 ++
  [.receive 5 (Request.send uuid [104, 105]).packet, .dispatch 5 default,
    .receive 6 (Request.messages uuid).packet, .dispatch 6 default] ++ quietRun.drop 9

theorem conversations_unobserved_talking :
    let uuid := fun n => generateUuid fun _ => n
    let users := [User.new (uuid 1) [97] false, User.new (uuid 2) [98] false, User.new (uuid 3) [99] false]
    let start := start 3 users [] []
    ∃ s s', Runs.run step start quietRun = some s ∧ Runs.run step start (talkingRun (uuid 3)) = some s' ∧
      s.messages = [] ∧ s'.messages.length = 1 ∧
      Runs.collect step (observedAt (uuid 1)) start (talkingRun (uuid 3)) =
        Runs.collect step (observedAt (uuid 1)) start quietRun := by
  intro uuid users start
  have hfacts : ((Runs.run step start quietRun).bind fun s =>
      (Runs.run step start (talkingRun (uuid 3))).map fun s' =>
        decide (s.messages = []) && decide (s'.messages.length = 1) &&
        decide ((Runs.collect step (publicOf (secret (uuid 1))) start (talkingRun (uuid 3))).map Transaction.key =
          (Runs.collect step (publicOf (secret (uuid 1))) start quietRun).map Transaction.key)) = some true := by
    decide +kernel
  obtain ⟨s, hs, hfacts⟩ := Option.bind_eq_some_iff.mp hfacts
  obtain ⟨s', hs', hfacts⟩ := Option.map_eq_some_iff.mp hfacts
  simp only [Bool.and_eq_true, decide_eq_true_eq] at hfacts
  obtain ⟨⟨hnone, hone⟩, hkeys⟩ := hfacts
  have hquiet : ∀ fd environment, .dispatch fd environment ∈ quietRun → environment = default := by
    simp only [quietRun, List.mem_cons, Event.dispatch.injEq]
    grind
  have htalking : ∀ fd environment, .dispatch fd environment ∈ talkingRun (uuid 3) →
      environment = default := by
    simp only [talkingRun, quietRun, List.take, List.drop, List.mem_append, List.mem_cons, Event.dispatch.injEq]
    grind
  have hpublic := congrArg (List.map Transaction.ofKey) hkeys
  rw [map_ofKey_publicOf htalking, map_ofKey_publicOf hquiet] at hpublic
  exact ⟨s, s', hs, hs', hnone, hone, (conversations_unobserved (uuid 1) rfl hs hs' hpublic).1⟩

end Server

end TeamsMirror
