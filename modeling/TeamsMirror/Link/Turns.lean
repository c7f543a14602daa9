import TeamsMirror.Link.Isolation
import TeamsMirror.Link.Leakage

/-!
# Turns

A turn of the poll loop is for one descriptor. What other connections have built up
is still there when it is over, and nothing that is stored is gone.
-/

namespace TeamsMirror

open Relation

namespace Server

variable {s s' s'' : Server} {fd : Fd} {e : Event} {queued : List (Fd × Packet)}

/-- A connection is still open, in the same session and context, with the same unread bytes; what
waits for it still waits, and more may follow. -/
structure Undisturbed (fd : Fd) (s s' : Server) : Prop where
  isOpen : fd ∈ s'.clientSockets
  session : s'.authenticatedUsersByFd.lookup fd = s.authenticatedUsersByFd.lookup fd
  context : s'.clientManager.getContext fd = s.clientManager.getContext fd
  incoming : s'.clientManager.getIncomingBuffer fd = s.clientManager.getIncomingBuffer fd
  outgoing : s.clientManager.getQueuedData fd <+: s'.clientManager.getQueuedData fd

theorem Undisturbed.refl (hfd : fd ∈ s.clientSockets) : Undisturbed fd s s :=
  ⟨hfd, rfl, rfl, rfl, List.prefix_refl _⟩

theorem Undisturbed.trans (h : Undisturbed fd s s') (h' : Undisturbed fd s' s'') : Undisturbed fd s s'' where
  isOpen := h'.isOpen
  session := h'.session.trans h.session
  context := h'.context.trans h.context
  incoming := h'.incoming.trans h.incoming
  outgoing := h.outgoing.trans h'.outgoing

/-- An event about one connection leaves the others undisturbed. -/
theorem undisturbed_step (hlinked : Linked s) (hfd : fd ∈ s.clientSockets) (hne : fd ≠ e.fd)
    (hs : s.handle e = some (s', queued)) : Undisturbed fd s s' := by
  have hdispatch : ∀ environment, e ≠ .dispatch fd environment := by
    rintro environment rfl
    exact hne rfl
  have hunsent : e.unsent fd [] = some [] := by
    cases e with
    | accept | dispatch | flush => rfl
    | receive fd' chunk => exact if_pos (Ne.symm hne)
    | disconnect fd' => exact if_neg (Ne.symm hne)
  have helsewhere := elsewhere hlinked hfd hdispatch hunsent hs
  have hwritten : e.written s fd = [] := by
    cases e with
    | flush fd' n => exact if_neg (Ne.symm hne)
    | accept | receive | dispatch | disconnect => rfl
  refine ⟨helsewhere.live, ?_, helsewhere.context, by simpa using helsewhere.unread, ?_⟩
  · cases e with
    | accept fd' =>
      obtain ⟨-, rfl, -⟩ := handle_accept hs
      rfl
    | receive fd' chunk =>
      obtain ⟨-, -, rfl⟩ := handle_receive hs
      rfl
    | flush fd' n =>
      obtain ⟨-, -, -, rfl⟩ := handle_flush hs
      rfl
    | dispatch | disconnect => exact lookup_step hne rfl hs
  · have haccount := written_step hlinked hs hfd helsewhere.live
    rw [hwritten, List.nil_append] at haccount
    rw [haccount]
    exact List.prefix_append _ _

theorem extends_step (hs : s.handle e = some (s', queued)) : s.Extends s' := by
  cases e with
  | accept fd' =>
    obtain ⟨-, rfl, -⟩ := handle_accept hs
    exact .of_users rfl rfl (List.prefix_refl _)
  | receive fd' chunk =>
    obtain ⟨-, -, rfl⟩ := handle_receive hs
    exact .of_users rfl rfl (List.prefix_refl _)
  | flush fd' n =>
    obtain ⟨-, -, -, rfl⟩ := handle_flush hs
    exact .of_users rfl rfl (List.prefix_refl _)
  | dispatch | disconnect => exact (store_step rfl hs).1

/-- What one turn may not do to anything but its own descriptor. -/
structure Spares (fd : Fd) (s s' : Server) : Prop where
  stored : s.Extends s'
  others : ∀ fd' ∈ s.clientSockets, fd' ≠ fd → Undisturbed fd' s s'

theorem Spares.refl (fd : Fd) (s : Server) : Spares fd s s :=
  ⟨.refl s, fun _ hfd' _ => .refl hfd'⟩

theorem Spares.trans (h : Spares fd s s') (h' : Spares fd s' s'') : Spares fd s s'' where
  stored := h.stored.trans h'.stored
  others fd' hfd' hne := (h.others fd' hfd' hne).trans (h'.others fd' (h.others fd' hfd' hne).isOpen hne)

theorem spares_step (hlinked : Linked s) (hfd : e.fd = fd) (hs : s.handle e = some (s', queued)) :
    Spares fd s s' :=
  ⟨extends_step hs, fun _ hfd' hne => undisturbed_step hlinked hfd' (hfd ▸ hne) hs⟩

end Server

namespace Outbound

variable {x y : Outbound} {fd : Fd}

theorem Attends.spares (h : Attends fd x y) (hx : x.Intact) :
    Server.Spares fd x.server y.server ∧ y.Intact := by
  obtain ⟨hserves, -, -⟩ := h
  induction hserves with
  | refl => exact ⟨.refl fd x.server, hx⟩
  | tail _ hstep ih =>
    obtain ⟨hspares, hintact⟩ := ih
    obtain ⟨e, queued, hservice, hs, hstreams⟩ := hstep
    have hfd : e.fd = fd := by
      cases e with
      | receive | dispatch | flush => exact hservice
      | accept | disconnect => exact hservice.elim
    exact ⟨hspares.trans (Server.spares_step hintact.linked hfd hs),
      Serves.intact ⟨e, queued, hs, hstreams⟩ hintact⟩

end Outbound

/-- The turn of one descriptor spares the connections of the others. -/
theorem PollLoop.Serviced.spares {p p' : PollLoop} {current : PollFd} (h : Serviced p current p')
    (hp : Tracked p) : Server.Spares current.fd p.link.server p'.link.server := by
  cases h with
  | kept _ _ _ hattends => exact (hattends.spares hp.intact).1
  | accepted fd _ _ _ hfd hlink =>
    have hs : p.link.server.handle (.accept fd) = some (p'.link.server, []) := by
      rw [Server.handle, if_pos hfd, hlink]
      rfl
    refine ⟨Server.extends_step hs, fun fd' hfd' _ => ?_⟩
    have hne : fd' ≠ (Event.accept fd).fd := by
      rintro rfl
      exact hfd.2.2.2 hfd'
    exact Server.undisturbed_step hp.intact.linked hfd' hne hs
  | removed x _ _ hattends hopen hlink =>
    obtain ⟨hspares, hintact⟩ := hattends.spares hp.intact
    obtain ⟨queued, hs⟩ : ∃ queued, x.server.handle (.disconnect current.fd) = some (p'.link.server, queued) :=
      ⟨_, by rw [Server.handle, if_pos hopen, hlink]; rfl⟩
    exact hspares.trans (Server.spares_step hintact.linked rfl hs)
  | aborted hattends => exact (hattends.spares hp.intact).1

end TeamsMirror
