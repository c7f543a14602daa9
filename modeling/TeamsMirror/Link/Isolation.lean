import TeamsMirror.Link.Agreement
import TeamsMirror.Link.Gate
import TeamsMirror.Server.Growth

/-!
# One client at a time

A packet of one client, or its disconnection, adds to the store and never takes
from it, and is seen by the other connections only as events at the end of their
outgoing buffers.
-/

namespace TeamsMirror

open Lists Server

namespace Server

variable {s s' : Server} {fd fd' : Fd} {queued : List (Fd × Packet)} {e : Event}

theorem Disconnection.extends_ {middle : Server} (h : Disconnection s fd middle queued) :
    s.Extends middle ∧ middle.size = s.size ∧ middle.teams = s.teams := by
  cases h with
  | anonymous | unknown => exact ⟨.of_users rfl rfl (List.prefix_refl _), rfl, rfl⟩
  | known =>
    refine ⟨.of_users rfl rfl ?_, ?_, rfl⟩
    · simp only [setUsers, dropSessions, updateUser]
      rw [identities_modifyFirst]
      exact fun u => ⟨u.uuid_removeLoggedIn, u.name_removeLoggedIn⟩
    · simp only [Server.size, setUsers, dropSessions, updateUser, length_modifyFirst]

theorem store_step (he : e.ofClient = some fd) (h : s.handle e = some (s', queued)) :
    s.Extends s' ∧ s'.size ≤ s.size + 1 ∧
      SubscriptionChange (fun u => s.authenticatedUsersByFd.lookup fd = some u.bytes) s.teams s'.teams := by
  cases e with
  | accept | receive | flush => cases he
  | dispatch fd' environment =>
    cases he
    obtain ⟨-, command, payload, middle, size, heffect, rfl⟩ := handle_dispatch h
    obtain ⟨husers, hteams, hmessages⟩ := heffect.extends_
    exact ⟨⟨husers, hteams, hmessages⟩, heffect.size_le, heffect.subscriptionChange⟩
  | disconnect fd' =>
    cases he
    obtain ⟨-, middle, hd, rfl⟩ := handle_disconnect h
    obtain ⟨⟨husers, hteams, hmessages⟩, hsize, hsame⟩ := hd.extends_
    refine ⟨⟨husers, hteams, hmessages⟩, ?_, .none (congrArg _ hsame)⟩
    exact (Nat.le_of_eq hsize).trans (Nat.le_succ _)

theorem lookup_step (hne : fd' ≠ fd) (he : e.ofClient = some fd) (h : s.handle e = some (s', queued)) :
    s'.authenticatedUsersByFd.lookup fd' = s.authenticatedUsersByFd.lookup fd' := by
  cases e with
  | accept | receive | flush => cases he
  | dispatch fd'' environment =>
    cases he
    obtain ⟨-, command, payload, middle, size, heffect, rfl⟩ := handle_dispatch h
    simp only [deliver]
    cases heffect.sessionChange with
    | none hmap => rw [hmap]; rfl
    | added _ hmap => rw [hmap]; exact AList.lookup_insert_ne hne
    | removed _ hmap => rw [hmap]; exact AList.lookup_erase_ne hne
  | disconnect fd'' =>
    cases he
    obtain ⟨-, middle, hd, rfl⟩ := handle_disconnect h
    cases hd with
    | anonymous => rfl
    | known | unknown => exact AList.lookup_erase_ne hne

theorem events_step (hne : fd' ≠ fd) (he : e.ofClient = some fd) (h : s.handle e = some (s', queued)) :
    ∀ p ∈ packetsFor fd' queued, p.status.isEvent = true := by
  intro p hp
  obtain ⟨q, hq, rfl⟩ := List.mem_map.mp hp
  obtain ⟨hq, hfd⟩ := List.mem_filter.mp hq
  have hq1 : q.1 ≠ fd := of_decide_eq_true hfd ▸ hne
  cases e with
  | accept | receive | flush => cases he
  | dispatch fd'' environment =>
    cases he
    obtain ⟨-, command, payload, middle, size, heffect, -⟩ := handle_dispatch h
    exact heffect.isEvent_of_other q hq hq1
  | disconnect fd'' =>
    cases he
    obtain ⟨-, middle, hd, -⟩ := handle_disconnect h
    cases hd with
    | anonymous | unknown => cases hq
    | known =>
      obtain ⟨fd₁, -, rfl⟩ := List.mem_map.mp hq
      rfl

/-- From any reachable state, whatever packet of a client is processed, and when it disconnects:
what is stored stays where it is, at most one entity is added, at most the client's own user changes
one subscription, and other connections keep their context, their unread bytes and their session,
and get nothing but whole events. -/
theorem client_step_isolated (hs : s.Reachable) (he : e.ofClient = some fd)
    (h : s.handle e = some (s', queued)) :
    s.Extends s' ∧ s'.size ≤ s.size + 1 ∧
      SubscriptionChange (fun u => s.authenticatedUsersByFd.lookup fd = some u.bytes) s.teams s'.teams ∧
      ∀ fd' ∈ s.clientSockets, fd' ≠ fd →
        s'.clientManager.getContext fd' = s.clientManager.getContext fd' ∧
        s'.clientManager.getIncomingBuffer fd' = s.clientManager.getIncomingBuffer fd' ∧
        s'.authenticatedUsersByFd.lookup fd' = s.authenticatedUsersByFd.lookup fd' ∧
        ∃ packets : List Packet, (∀ p ∈ packets, p.status.isEvent = true) ∧
          s'.clientManager.getQueuedData fd' =
            s.clientManager.getQueuedData fd' ++ packets.flatMap Packet.bytes := by
  obtain ⟨hextends, hsize, hsubscriptions⟩ := store_step he h
  refine ⟨hextends, hsize, hsubscriptions, fun fd' hfd' hne => ?_⟩
  have hdispatch : ∀ environment, e ≠ .dispatch fd' environment := by
    rintro environment rfl
    exact hne (Option.some.inj he)
  have hunsent : e.unsent fd' [] = some [] := by
    cases e with
    | accept | receive | flush => cases he
    | dispatch => rfl
    | disconnect fd'' =>
      cases he
      exact if_neg (Ne.symm hne)
  have helsewhere := elsewhere hs.linked hfd' hdispatch hunsent h
  refine ⟨helsewhere.context, by simpa using helsewhere.unread, lookup_step hne he h, _,
    events_step hne he h, ?_⟩
  rw [bytes_packetsFor]
  exact outgoing_step hs.linked he hne hfd' h

/-- Connection 5 is logged in when connection 4 creates a team. -/
def oneTeamTwoClientsRun : List Event :=
  let other : Environment := { (default : Environment) with draw := fun _ => ⟨1, by decide⟩ }
  [.accept 4, .accept 5, .receive 4 (Request.login [97]).packet, .dispatch 4 default,
    .receive 5 (Request.login [98]).packet, .dispatch 5 other,
    .receive 4 (Request.createTeam [99] []).packet]

theorem client_step_isolated_team :
    ∃ s s' queued, Runs.run step (start 3 [] [] []) oneTeamTwoClientsRun = some s ∧
      s.handle (.dispatch 4 default) = some (s', queued) ∧ s'.size = 3 ∧ s.Extends s' ∧
      s'.clientManager.getContext 5 = s.clientManager.getContext 5 := by
  have hfacts : ((Runs.run step (start 3 [] [] []) oneTeamTwoClientsRun).bind fun s =>
      (s.handle (.dispatch 4 default)).map fun r => (decide ((5 : Fd) ∈ s.clientSockets), r.1.size)) =
        some (true, 3) := by decide +kernel
  obtain ⟨s, hs, hfacts⟩ := Option.bind_eq_some_iff.mp hfacts
  obtain ⟨r, hr, hfacts⟩ := Option.map_eq_some_iff.mp hfacts
  obtain ⟨hopen, hsize⟩ := Prod.mk.inj hfacts
  have hclient : (Event.dispatch 4 default).ofClient = some 4 := rfl
  obtain ⟨hextends, -, -, hothers⟩ := client_step_isolated ⟨3, [], [], [], oneTeamTwoClientsRun, hs⟩ hclient hr
  exact ⟨s, r.1, r.2, hs, hr, hsize, hextends, (hothers 5 (of_decide_eq_true hopen) (by decide)).1⟩

end Server

end TeamsMirror
