import TeamsMirror.Server.Atomicity
import TeamsMirror.Server.Noninterference

/-!
# Requests without a trace

A request that only asks, and one that is answered with an error, can be taken out of
any run: every other transaction is answered as before, and the state in the end is the
same. What the server is in is therefore what the requests that were granted have made
of it, whatever was asked or refused between them.
-/

namespace TeamsMirror

/-- The commands that only ask. -/
def queries : List CommandID := [.users, .userInfo, .messages, .subscribedList, .list, .info]

namespace Server

/-- The request only asks, or it is answered with an error. -/
def idle (s : Server) : Transaction → Bool
  | .request fd code payload environment =>
    (queries.any fun command => code = command.code) ||
      (((s.transact (.request fd code payload environment)).map Prod.snd).getD []).any fun q => q.2.status.isError
  | .accept _ | .disconnect _ => false

/-- The transaction of an event, with what is queued for it, unless it is idle. -/
def tracedEffective (s : Server) (e : Event) : List (Transaction × List (Fd × Packet)) :=
  (s.traced e).filter fun p => !s.idle p.1

def effective (s : Server) (e : Event) : List Transaction :=
  (s.transactions e).filter fun transaction => !s.idle transaction

variable {s s' t : Server} {queued : List (Fd × Packet)}

theorem alike_perform {view : Visibility} {fd : Fd} {payload : Bytes} {environment : Environment}
    {packets : List (Fd × Packet)} :
    s.Alike view (perform (s.context fd payload environment) s packets).toServer := by
  rw [toServer_perform]
  exact .deliver s packets

/-- A command that only asks changes nothing. -/
theorem query_step {command : CommandID} (hcommand : command ∈ queries) {fd : Fd} {payload : Bytes}
    {environment : Environment} {middle : Server} {packets : List (Fd × Packet)}
    (heffect : Effect (s.context fd payload environment) command middle packets) : middle = s := by
  cases heffect with
  | refused | unknownUser | answered => rfl
  | _ => simp [queries] at hcommand

/-- An idle request changes nothing but buffers. -/
theorem idle_step (hknown : s.Known) {transaction : Transaction} (hidle : s.idle transaction = true)
    (hs : s.transact transaction = some (s', queued)) : s.Alike .all s' := by
  cases transaction with
  | accept | disconnect => cases hidle
  | request fd code payload environment =>
  have htransact := hs
  obtain ⟨-, hsome⟩ := Option.ite_none_right_eq_some.mp hs
  obtain ⟨c, hdispatch, he⟩ := Option.map_eq_some_iff.mp hsome
  obtain ⟨rfl, rfl⟩ := Prod.mk.inj he
  rcases (Bool.or_eq_true _ _).mp hidle with hquery | herror
  · obtain ⟨command, hcommand, hcode⟩ := List.any_eq_true.mp hquery
    rw [of_decide_eq_true hcode] at hdispatch
    obtain ⟨middle, packets, heffect, rfl⟩ := dispatch_command hdispatch
    obtain rfl := query_step hcommand heffect
    exact alike_perform
  · rw [htransact] at herror
    obtain ⟨q, hq, hstatus⟩ := List.any_eq_true.mp herror
    obtain ⟨middle, packets, hends, rfl⟩ := dispatch_ends hdispatch
    cases hends with
    | unknown => exact alike_perform
    | command _ heffect =>
      rcases heffect.error_cases with ⟨rfl, -⟩ | hnone | ⟨uuid, huuid, hunknown⟩
      · exact alike_perform
      · have hq : q ∈ packets := by
          rw [queued_perform] at hq
          exact hq
        rw [hnone q hq] at hstatus
        cases hstatus
      · obtain ⟨user, hfound, -, -⟩ := hknown.exists_user huuid
        cases hfound.symm.trans hunknown

/-- In every run the idle requests can be left out: what remains is a history of the server from the same
start, each transaction with the packets that were queued for it, and leads to the same state. -/
theorem idle_requests_removable {listenFd : Fd} {users : List User} {teams : List Team} {messages : List Message}
    {events : List Event} (hrun : Runs.run step (start listenFd users teams messages) events = some s) :
    ∃ t, (start listenFd users teams messages).OverWire
        (Runs.collect step tracedEffective (start listenFd users teams messages) events) t ∧
      s.Alike .all t := by
  have hstep : ∀ (s : Server) e s' t, (s.Known ∧ s.Alike .all t) → s.step e = some s' →
      ∃ t', Runs.run transactStep t (s.effective e) = some t' ∧ (s'.Known ∧ s'.Alike .all t') ∧
        Runs.collect transactStep tracedWhole t (s.effective e) = s.tracedEffective e := by
    rintro s e s' t ⟨hknown, halike⟩ hs
    obtain ⟨queued, hhandle⟩ := step_eq_some.mp hs
    have hknown' : s'.Known := hknown.step hhandle
    rcases handle_transacts .all hhandle with ⟨hnone, -, hsame⟩ | ⟨transaction, s₁, hone, htransact, hsame⟩
    · rw [effective, tracedEffective, traced, hnone]
      exact ⟨t, rfl, ⟨hknown', hsame.symm.trans halike⟩, rfl⟩
    · rw [effective, tracedEffective, traced, hone, queuedBy_eq hhandle, List.map_singleton, List.filter_singleton,
        List.filter_singleton]
      cases hidle : s.idle transaction with
      | true =>
        have hunchanged := idle_step hknown hidle htransact
        exact ⟨t, rfl, ⟨hknown', (hunchanged.trans hsame).symm.trans halike⟩, rfl⟩
      | false =>
        obtain ⟨t', ht', halike', -, hshown⟩ := halike.run_transact (.all _ _ _) htransact
        exact ⟨t', ht', ⟨hknown', hsame.symm.trans halike'⟩, hshown⟩
  obtain ⟨v, hv, ⟨-, halike⟩, hshown⟩ :=
    Runs.run_simulates hstep ⟨Known.start listenFd users teams messages, .refl _ _⟩ hrun
  obtain ⟨events', u, hu, halike', hshown'⟩ := run_undivided (.start _ _ _ _) (fun _ => rfl) hv
  exact ⟨u, ⟨events', hu, hshown'.trans hshown⟩, halike.trans halike'⟩

/-- A user asks before it logs in, creates a team, tries to create it again, and looks at the teams. -/
def curiousRun : List Event :=
  [.accept 4, .receive 4 Request.users.packet, .dispatch 4 default, .receive 4 (Request.login [97]).packet,
    .dispatch 4 default, .receive 4 (Request.createTeam [98] []).packet, .dispatch 4 default,
    .receive 4 (Request.createTeam [98] []).packet, .dispatch 4 default, .receive 4 Request.list.packet,
    .dispatch 4 default]

theorem idle_requests_removable_curious :
    ∃ s t history, Runs.run step (start 3 [] [] []) curiousRun = some s ∧
      (Runs.collect step traced (start 3 [] [] []) curiousRun).length = 6 ∧
      history.map (fun p => p.1.key.2.2.1) = [0, CommandID.login.code, CommandID.create.code] ∧
      (start 3 [] [] []).OverWire history t ∧ s.Alike .all t := by
  have hfacts : (Runs.run step (start 3 [] [] []) curiousRun).map (fun _ =>
      decide ((Runs.collect step traced (start 3 [] [] []) curiousRun).length = 6) &&
      decide ((Runs.collect step tracedEffective (start 3 [] [] []) curiousRun).map
        (fun p => p.1.key.2.2.1) = [0, CommandID.login.code, CommandID.create.code])) = some true := by
    decide +kernel
  obtain ⟨s, hs, hfacts⟩ := Option.map_eq_some_iff.mp hfacts
  simp only [Bool.and_eq_true, decide_eq_true_eq] at hfacts
  obtain ⟨hall, heffective⟩ := hfacts
  obtain ⟨t, ht, halike⟩ := idle_requests_removable hs
  exact ⟨s, t, _, hs, hall, heffective, ht, halike⟩

end Server

end TeamsMirror
