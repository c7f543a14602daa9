import TeamsMirror.Link.Executable

/-!
# Exit statuses

What the status of an execution tells of it: which of its calls went wrong, whether a
signal has come, and what it did to the files.
-/

namespace TeamsMirror

theorem Progress.status?_eq_some {progress : Progress} {status : ExitStatus}
    (h : progress.status? = some status) : progress = .ended status := by
  cases progress with
  | serving | saving => cases h
  | ended status' => exact congrArg _ (Option.some.inj h)

namespace ServerManager

variable {m m' : ServerManager} {e : Event}

/-- Nobody has told the process to stop. -/
structure Running (m : ServerManager) : Prop where
  flag : m.isRunning = true
  left : m.stage ≠ .left
  saving : m.stage ≠ .saving

theorem running_polled (hrunning : Running m) (result : Except Errno (Option (Nat → PollEvents))) :
    Running (m.polled result) := by
  have hflag := hrunning.flag
  have hstage : ∀ m' : ServerManager, m'.isRunning = true → m'.stage = .looping ∨ m'.stage = .entering →
      Running m' := by
    rintro m' hflag' (hstage | hstage)
    · exact ⟨hflag', by simp [hstage], by simp [hstage]⟩
    · exact ⟨hflag', by simp [hstage], by simp [hstage]⟩
  cases result with
  | ok revents =>
    cases revents with
    | none => exact hstage _ hflag (.inl rfl)
    | some revents => exact hstage _ hflag (.inl (by simp [polled, hflag]))
  | error errno =>
    by_cases hinterrupted : errno = eintr
    · exact hstage _ (by simp [polled, hinterrupted, hflag]) (.inr (by simp [polled, hinterrupted, hflag]))
    · exact hstage _ (by simp [polled, hinterrupted, hflag]) (.inl (by simp [polled, hinterrupted]))

/-- Without a signal the loop is left by an exception only. -/
theorem Running.step (h : Running m) (he : e ≠ .handleSignal) (hs : m.step e = some m') : Running m' := by
  cases step_cases hs with
  | stored => exact ⟨rfl, by simp, by simp⟩
  | entered | called => exact ⟨h.flag, by simp, by simp⟩
  | polled result => exact running_polled h result
  | turned | threw => exact ⟨h.flag, h.left, h.saving⟩
  | left _ _ hstopping => cases h.flag.symm.trans hstopping
  | loggedOut hstage => exact absurd hstage h.left
  | signalled => exact absurd rfl he

end ServerManager

/-- The turn of the listening descriptor makes no call for a client, and none of the library. -/
theorem PollLoop.makes_accept {p : PollLoop} {calls : Calls} {accept : AcceptCalls}
    (hmakes : p.makes calls = true) (haccept : calls.accept = some accept) :
    calls.recv = none ∧ calls.send = none ∧ calls.logs = [] := by
  simp only [makes] at hmakes
  split at hmakes
  · simp [haccept] at hmakes
  · next currentPollFd _ =>
    split at hmakes
    · have hmakes : calls.accept.isSome = currentPollFd.revents.pollIn ∧ calls.recv = none ∧ calls.send = none ∧
          calls.logs = [] := by simpa [and_assoc] using hmakes
      exact hmakes.2
    · simp [haccept] at hmakes

namespace Execution

variable {genericCategory : Errno → String} {disk disk' : Disk} {x x' : Execution} {e : Event}
  {events : List Event}

/-- A step of the process and of its directory. -/
def stepIn (genericCategory : Errno → String) (state : Execution × Disk) (e : Event) :
    Option (Execution × Disk) := state.1.step genericCategory state.2 e

/-- The call of `poll` fails, or that of `accept`. -/
def Event.Fails : Event → Prop
  | .manager (.poll (.error errno)) => errno ≠ eintr
  | .manager (.turn calls) => ∃ accept, calls.accept = some accept ∧ ¬ accept.Succeed
  | _ => False

/-- What is handled for a client leaves an exception that nothing translates, or the library fails when the
users or the sessions are reported. -/
def Event.Throws : Event → Prop
  | .manager (.turn calls) => calls.accept = none ∧ ¬ calls.Handled
  | .manager (.store logs) | .manager (.logout logs) => ∃ answer ∈ logs, answer < 0
  | _ => False

/-- The last line that is printed is the text of an exception. -/
def Reports (genericCategory : Errno → String) (x : Execution) : Prop :=
  ∃ exception : ServerException, x.stdout.getLast? = some (exception.what genericCategory)

/-- What a status tells of an execution, from its start to its end: of its events, and of its files. -/
def Tells (genericCategory : Errno → String) (arguments : List Bytes) (start : Execution × Disk)
    (events : List Event) (after : Execution × Disk) : ExitStatus → Prop
  | .success =>
    arguments = [help] ∧ events = [] ∧ after.2 = start.2 ∨
      ∃ before isCreated outcome, ∃ server : Server, ∃ stdout, events = before ++ [.save isCreated outcome] ∧
        .manager .handleSignal ∈ before ∧
        Runs.run (stepIn genericCategory) start before = some (⟨.saving server, stdout⟩, start.2) ∧
        after.2 = (saveInto isCreated start.2 server.users server.teams server.messages outcome).1
  | .failure =>
    after.2 = start.2 ∧
      (events = [] ∧ after.1.stdout = [usage] ∨
        Reports genericCategory after.1 ∧ (events = [] ∨ ∃ before e, events = before ++ [e] ∧ e.Fails))
  | .aborted => after.2 = start.2 ∧ ∃ before e, events = before ++ [e] ∧ e.Throws
  | .killed => ∃ before isCreated outcome, events = before ++ [.kill isCreated outcome]

/-- The only argument is the number of a port, and every call that a start makes succeeds. -/
structure Starts (arguments : List Bytes) (listener : ListenerCalls) (signals : SignalCalls) : Prop where
  port : ∃ argument, ∃ port : UInt16, arguments = [argument] ∧ (∀ b ∈ argument, Numerals.isDigit b = true) ∧
    Numerals.digitsValue argument = port.toNat ∧ 0 < port.toNat ∧ listener.bind port = .ok ()
  socket : ∃ listenFd, listener.socket = .ok listenFd
  setsockopt : listener.setsockopt = .ok ()
  listen : listener.listen = .ok ()
  sigint : signals.sigint = true
  sigterm : signals.sigterm = true

theorem status?_leave (escaped : Escaped) (stdout : List String) :
    (leave genericCategory escaped stdout).progress.status? ≠ none := by
  cases escaped <;> simp [leave, Progress.status?]

theorem runPollLoop_status? {listenFd : Fd} {signals : SignalCalls} :
    (runPollLoop genericCategory (some listenFd) disk signals).progress.status? = none ↔
      signals.sigint = true ∧ signals.sigterm = true := by
  simp only [runPollLoop, installSignalHandler]
  cases signals.sigint with
  | false => simp [status?_leave]
  | true =>
    cases signals.sigterm with
    | false => simp [status?_leave]
    | true => exact iff_of_true rfl ⟨rfl, rfl⟩

/-- A process comes to `runPollLoop`, with its handlers installed, exactly if it is started on a port and nothing
fails. -/
theorem run_status?_eq_none {arguments : List Bytes} {listener : ListenerCalls} {signals : SignalCalls} :
    (run genericCategory disk arguments listener signals).progress.status? = none ↔
      Starts arguments listener signals := by
  constructor
  · intro h
    simp only [run] at h
    split at h
    · cases h
    · split at h
      · next argument _ =>
        split at h
        · cases h
        · next port hport =>
          split at h
          · exact absurd h (status?_leave _ _)
          · next listenFd hlistener =>
            obtain ⟨hdigits, hvalue, hpos⟩ := parsePort_eq_some.mp hport
            obtain ⟨hsigint, hsigterm⟩ := runPollLoop_status?.mp h
            rw [initializeTcpListener_eq] at hlistener
            split at hlistener
            any_goals cases hlistener
            next hsetsockopt hbind hlisten hsocket =>
              exact ⟨⟨argument, port, rfl, hdigits, hvalue, hpos, hbind⟩, ⟨_, hsocket⟩, hsetsockopt, hlisten,
                hsigint, hsigterm⟩
      · cases h
  · rintro ⟨⟨argument, port, rfl, hdigits, hvalue, hpos, hbind⟩, ⟨listenFd, hsocket⟩, hsetsockopt, hlisten,
      hsigint, hsigterm⟩
    have hhelp : [argument] ≠ [help] := by
      rintro ⟨⟩
      exact absurd (hdigits 45 (by simp [help])) (by decide)
    have hport : parsePort argument = some port := parsePort_eq_some.mpr ⟨hdigits, hvalue, hpos⟩
    have hlistener : initializeTcpListener none port listener = .ok listenFd := by
      rw [initializeTcpListener_eq, hsocket, hsetsockopt, hbind, hlisten]
    simp only [run, if_neg hhelp, hport, hlistener]
    exact runPollLoop_status?.mpr ⟨hsigint, hsigterm⟩

theorem escapedTurn_accept {calls : Calls} {accept : AcceptCalls} (haccept : calls.accept = some accept)
    (hfails : ¬ accept.Succeed) :
    ∃ errno, escapedTurn calls = .serverException (socketAcceptException errno) := by
  simp only [escapedTurn, haccept]
  cases hcall : Socket.accept accept with
  | ok fd => exact absurd (Socket.succeed_accept_iff.mpr ⟨fd, hcall⟩) hfails
  | error thrown =>
    have hsocket : thrown.IsSocketException := by
      simp only [Socket.accept] at hcall
      split at hcall
      · cases hcall
        trivial
      · exact Socket.isSocketException_ofFd hcall
    cases thrown with
    | socketException message errno => exact ⟨errno, rfl⟩
    | socketClosed | systemException => exact hsocket.elim

theorem reports_leave (exception : ServerException) (stdout : List String) :
    Reports genericCategory (leave genericCategory (.serverException exception) stdout) :=
  ⟨exception, List.getLast?_concat⟩

theorem leave_ended {escaped : Escaped} {stdout : List String} {status : ExitStatus}
    (h : (leave genericCategory escaped stdout).progress = .ended status) :
    status = .failure ∧ (∃ exception, escaped = .serverException exception) ∨
      status = .aborted ∧ escaped = .other := by
  cases escaped with
  | serverException exception =>
    cases h
    exact .inl ⟨rfl, exception, rfl⟩
  | other =>
    cases h
    exact .inr ⟨rfl, rfl⟩

theorem next_ended {manager : ServerManager} {escaped : Escaped} {status : ExitStatus}
    (h : (x.next genericCategory manager escaped).progress = .ended status) :
    manager.pollLoop.phase = .aborted ∧ (status = .failure ∧ (∃ exception, escaped = .serverException exception) ∨
      status = .aborted ∧ escaped = .other) := by
  simp only [next] at h
  split at h
  · next hphase => exact ⟨hphase, leave_ended h⟩
  · split at h <;> cases h

theorem next_saving {manager : ServerManager} {escaped : Escaped} {server : Server}
    (h : (x.next genericCategory manager escaped).progress = .saving server) : manager.stage = .saving := by
  simp only [next] at h
  split at h
  · cases escaped <;> cases h
  · split at h
    · next hstage => exact hstage
    · cases h

theorem reports_next {manager : ServerManager} {exception : ServerException} (hphase : manager.pollLoop.phase = .aborted) :
    Reports genericCategory (x.next genericCategory manager (.serverException exception)) := by
  simp only [next, if_pos hphase]
  exact reports_leave exception x.stdout

/-- A loop that ends by an exception ends with the status of what was thrown. -/
theorem loop_ended {manager manager' : ServerManager} {event : ServerManager.Event} {status : ExitStatus}
    (htracked : manager.pollLoop.Tracked) (hs : manager.step event = some manager')
    (hended : (x.next genericCategory manager' (escaped event)).progress = .ended status) :
    status = .failure ∧ Event.Fails (.manager event) ∧
        Reports genericCategory (x.next genericCategory manager' (escaped event)) ∨
      status = .aborted ∧ Event.Throws (.manager event) := by
  obtain ⟨hphase, hstatus⟩ := next_ended hended
  have hanswered : ¬ event.Answered := (ServerManager.aborted_iff htracked hs).mp hphase
  have hother : escaped event = .other → status = .aborted := by
    intro hescaped
    rcases hstatus with ⟨-, exception, hexception⟩ | ⟨rfl, -⟩
    · cases hescaped.symm.trans hexception
    · rfl
  have hexception : ∀ exception, escaped event = .serverException exception →
      status = .failure ∧ Reports genericCategory (x.next genericCategory manager' (escaped event)) := by
    intro exception hescaped
    refine ⟨?_, hescaped ▸ reports_next hphase⟩
    rcases hstatus with ⟨rfl, -⟩ | ⟨-, hescaped'⟩
    · rfl
    · cases hescaped.symm.trans hescaped'
  cases event with
  | poll result =>
    cases result with
    | ok revents => exact absurd trivial hanswered
    | error errno =>
      obtain ⟨hfailure, hreports⟩ := hexception _ rfl
      exact .inl ⟨hfailure, hanswered, hreports⟩
  | turn calls =>
    cases haccept : calls.accept with
    | none => exact .inr ⟨hother (by rw [escaped, escapedTurn, haccept]), haccept, hanswered⟩
    | some accept =>
      have hmakes : manager.pollLoop.makes calls = true := by
        cases ServerManager.step_cases hs with
        | turned _ _ hmakes => exact hmakes
        | threw _ _ hmakes => exact hmakes calls rfl
      obtain ⟨hrecv, hsend, hlogs⟩ := PollLoop.makes_accept hmakes haccept
      have hfails : ¬ accept.Succeed := by
        intro hsucceed
        refine hanswered ((Calls.handled_of_accept hrecv hsend hlogs).mpr fun accept' haccept' => ?_)
        cases haccept.symm.trans haccept'
        exact hsucceed
      obtain ⟨errno, hescaped⟩ := escapedTurn_accept haccept hfails
      obtain ⟨hfailure, hreports⟩ := hexception _ hescaped
      exact .inl ⟨hfailure, ⟨accept, haccept, hfails⟩, hreports⟩
  | store logs | logout logs =>
    have hbad : ∃ answer ∈ logs, answer < 0 := by simpa [ServerManager.Event.Answered] using hanswered
    exact .inr ⟨hother rfl, hbad⟩
  | enter | call | leave | handleSignal => exact absurd trivial hanswered

/-- How a process ends that does not come so far. -/
theorem run_ended {arguments : List Bytes} {listener : ListenerCalls} {signals : SignalCalls}
    {status : ExitStatus} (hrun : run genericCategory disk arguments listener signals = x)
    (h : x.progress = .ended status) :
    arguments = [help] ∧ status = .success ∨
      status = .failure ∧ (x.stdout = [usage] ∨ Reports genericCategory x) := by
  have hleave : ∀ {exception : ServerException} {stdout : List String},
      leave genericCategory (.serverException exception) stdout = x →
      status = .failure ∧ Reports genericCategory x := by
    intro exception stdout hleave
    subst hleave
    cases h
    exact ⟨rfl, reports_leave exception stdout⟩
  simp only [run] at hrun
  split at hrun
  · next hhelp =>
    subst hrun
    cases h
    exact .inl ⟨hhelp, rfl⟩
  · right
    split at hrun
    · split at hrun
      · subst hrun
        cases h
        exact ⟨rfl, .inl rfl⟩
      · split at hrun
        · next escaped hlistener =>
          rw [initializeTcpListener_eq] at hlistener
          split at hlistener
          all_goals cases hlistener
          all_goals exact (hleave hrun).imp_right .inr
        · simp only [runPollLoop, installSignalHandler] at hrun
          split at hrun
          · next hsignals =>
            split at hsignals
            · cases hsignals
              exact (hleave hrun).imp_right .inr
            · split at hsignals
              · cases hsignals
                exact (hleave hrun).imp_right .inr
              · cases hsignals
          · subst hrun
            cases h
    · subst hrun
      cases h
      exact ⟨rfl, .inl rfl⟩

/-- Up to its end a process has left the files alone. -/
structure Underway (disk : Disk) (state : Execution × Disk) : Prop where
  disk : state.1.progress.server?.isSome → state.2 = disk
  tracked : ∀ manager, state.1.progress = .serving manager → manager.pollLoop.Tracked

theorem Underway.step {state state' : Execution × Disk} (h : Underway disk state)
    (hs : stepIn genericCategory state e = some state') : Underway disk state' := by
  obtain ⟨x', disk'⟩ := state'
  cases step_cases hs with
  | @looped manager manager' event hprogress _ hmanager =>
    have hdisk : state.2 = disk := h.disk (by rw [hprogress]; rfl)
    refine ⟨fun _ => hdisk, fun manager'' hserving => ?_⟩
    rw [next_serving hserving]
    exact ServerManager.tracked_step (h.tracked manager hprogress) hmanager
  | killed | saved =>
    refine ⟨fun hserver => ?_, fun manager hserving => ?_⟩
    · cases hserver
    · cases hserving

/-- A process that has not been told to stop is in its loop, or at its end. -/
structure Unstopped (state : Execution × Disk) : Prop where
  serving : ∀ manager, state.1.progress = .serving manager → manager.pollLoop.Tracked ∧ manager.Running
  unsaved : ∀ server, state.1.progress ≠ .saving server

theorem Unstopped.step {state state' : Execution × Disk} (h : Unstopped state) (he : e ≠ .manager .handleSignal)
    (hs : stepIn genericCategory state e = some state') : Unstopped state' := by
  obtain ⟨x', disk'⟩ := state'
  cases step_cases hs with
  | @looped manager manager' event hprogress hevent hmanager =>
    obtain ⟨htracked, hrunning⟩ := h.serving manager hprogress
    have hquiet : event ≠ .handleSignal := fun hsignal => he (hsignal ▸ hevent)
    have hrunning' := hrunning.step hquiet hmanager
    refine ⟨fun manager'' hserving => ?_, fun server hsaving => ?_⟩
    · rw [next_serving hserving]
      exact ⟨ServerManager.tracked_step htracked hmanager, hrunning'⟩
    · exact hrunning'.saving (next_saving hsaving)
  | killed | saved =>
    refine ⟨fun manager hserving => ?_, fun server hsaving => ?_⟩
    · cases hserving
    · cases hsaving

variable {arguments : List Bytes} {listener : ListenerCalls} {signals : SignalCalls}

theorem unstopped_run (genericCategory : Errno → String) (disk : Disk) (arguments : List Bytes)
    (listener : ListenerCalls) (signals : SignalCalls) :
    Unstopped (run genericCategory disk arguments listener signals, disk) := by
  rcases run_cases genericCategory disk arguments listener signals with hended | ⟨listenFd, hserving⟩
  · refine ⟨fun manager hprogress => ?_, fun server hprogress => ?_⟩
    all_goals
      rw [hprogress] at hended
      cases hended
  · refine ⟨fun manager hprogress => ?_, fun server hprogress => ?_⟩
    · cases hserving.symm.trans hprogress
      exact ⟨.start _ _ _ _, rfl, by simp [ServerManager.start], by simp [ServerManager.start]⟩
    · cases hserving.symm.trans hprogress

theorem status?_of_step {state' : Execution × Disk} (hs : stepIn genericCategory (x, disk) e = some state') :
    x.progress.status? = none := by
  cases hprogress : x.progress with
  | serving | saving => rfl
  | ended status => simp [stepIn, step, hprogress] at hs

theorem starts_of_step {state' : Execution × Disk} (hs : stepIn genericCategory state' e = some (x, disk'))
    (hrun : Runs.run (stepIn genericCategory) (run genericCategory disk arguments listener signals, disk) events =
      some state') : Starts arguments listener signals := by
  cases events with
  | nil =>
    cases hrun
    exact run_status?_eq_none.mp (status?_of_step hs)
  | cons first rest =>
    obtain ⟨_, hfirst, -⟩ := Runs.run_cons_eq_some.mp hrun
    exact run_status?_eq_none.mp (status?_of_step hfirst)

/-- Whoever saves has been told to. -/
theorem interrupted_of_saving {server : Server} (hsaving : x.progress = .saving server)
    (hrun : Runs.run (stepIn genericCategory) (run genericCategory disk arguments listener signals, disk) events =
      some (x, disk')) : .manager .handleSignal ∈ events := by
  by_contra hquiet
  have hquiet : ∀ e ∈ events, e ≠ .manager .handleSignal := by
    rintro e he rfl
    exact hquiet he
  have hstart := unstopped_run genericCategory disk arguments listener signals
  have hunstopped : Unstopped (x, disk') :=
    Runs.run_invariant_of (C := fun _ e => e ≠ .manager .handleSignal) (fun _ _ _ h he hs => h.step he hs) hstart
      (Runs.always_of_forall_mem (fun e he _ => hquiet e he) _) hrun
  exact hunstopped.unsaved server hsaving

/-- A user logs in, a signal comes, and no file can be opened for the save. -/
def oneLoginUnsaved : List Event := Host.oneLogin ++ [.save true fun _ => .notOpened]

end Execution

end TeamsMirror
