import TeamsMirror.Common.Requests
import TeamsMirror.Link.Sockets

/-!
# Signals and the end of the loop

What `runPollLoop` does from the moment at which the signal handlers are installed up to
the save. A signal clears a flag, and may come anywhere; it is seen where the flag
is tested, and it ends a wait in `::poll`, but not one that has not begun. What the calls
of `libmyteams` throw comes out of the loop, of what is before it and of what is after it.
-/

namespace TeamsMirror

open Logging

def eintr : Errno := 4

/-- Where `runPollLoop` stands: the handlers are installed; in the `while` loop, or thrown out of it; in
`pollSockets`, before `::poll` or in it; after the loop; before the save. -/
inductive Stage where
  | installed
  | looping
  | entering
  | waiting (isInterrupted : Bool)
  | left
  | saving
deriving DecidableEq

/-- What the loop may be doing at a stage. -/
def Stage.Fits : Stage → Phase → Prop
  | .installed, phase | .entering, phase | .waiting _, phase => phase = .polling
  | .looping, phase => phase = .polling ∨ ∃ index, phase = .turn index
  | .left, phase | .saving, phase => phase = .stopped

/-- The poll loop and `_isRunning`. -/
structure ServerManager where
  pollLoop : PollLoop
  isRunning : Bool
  stage : Stage

namespace ServerManager

/-- The flag is stored and the users are reported; it is tested in front of the loop's body; `::poll` is
entered, and returns; a turn of the `for` loop; the loop is left; the sessions are reported. -/
inductive Event where
  | store (logs : List Int)
  | enter
  | call
  | poll (result : Except Errno (Option (Nat → PollEvents)))
  | turn (calls : Calls)
  | leave
  | logout (logs : List Int)
  | handleSignal

def start (listenFd : Fd) (users : List User) (teams : List Team) (messages : List Message) :
    ServerManager :=
  ⟨.start listenFd users teams messages, true, .installed⟩

def aborted (m : ServerManager) : ServerManager :=
  { m with pollLoop := { m.pollLoop with phase := .aborted } }

/-- The rest after a logged computation, which may throw. -/
def reporting (m : ServerManager) (logged : LoggingServer → Logged LogCall α) (logs : List Int)
    (next : α → Option ServerManager) : Option ServerManager :=
  match Logs.outcome logged logs with
  | none => none
  | some (.value a) => next a
  | some _ => some m.aborted

/-- `pollSockets` from the return of `::poll`, and what comes before the `for` loop. -/
def polled (m : ServerManager) (result : Except Errno (Option (Nat → PollEvents))) : ServerManager :=
  match result with
  | .ok none => { m with pollLoop := m.pollLoop.pollTurn .nothing m.isRunning, stage := .looping }
  | .ok (some revents) =>
    { m with
      pollLoop := m.pollLoop.pollTurn (.ready revents) m.isRunning
      stage := if m.isRunning then .looping else .left }
  | .error errno =>
    if errno = eintr then
      if m.isRunning then { m with stage := .entering }
      else { m with pollLoop := m.pollLoop.pollTurn .nothing m.isRunning, stage := .looping }
    else { m with pollLoop := m.pollLoop.pollTurn .failed m.isRunning, stage := .looping }

/-- SIGINT or SIGTERM, at any time. -/
def signalled (m : ServerManager) : ServerManager :=
  { m with
    isRunning := false
    stage :=
      match m.stage with
      | .waiting _ => .waiting true
      | stage => stage }

def step (m : ServerManager) (e : Event) : Option ServerManager :=
  match m.stage, m.pollLoop.phase, e with
  | .installed, .polling, .store logs =>
    m.reporting (fun lib => Logs.loadUsers lib m.pollLoop.link.server.users) logs fun _ =>
      some { m with isRunning := true, stage := .looping }
  | .looping, .polling, .enter => if m.isRunning then some { m with stage := .entering } else none
  | .entering, .polling, .call => some { m with stage := .waiting false }
  | .waiting _, .polling, .poll result => some (m.polled result)
  | .looping, .turn index, .turn calls =>
    if m.pollLoop.makes calls then
      let outside := calls.outside m.pollLoop.currentFd
      m.reporting (fun lib => Logs.forTurn lib m.pollLoop index outside) calls.logs fun pollLoop =>
        pollLoop.map fun pollLoop => { m with pollLoop := pollLoop }
    else none
  | .looping, .polling, .leave =>
    if m.isRunning then none
    else some { m with pollLoop := { m.pollLoop with phase := .stopped }, stage := .left }
  | .left, .stopped, .logout logs =>
    m.reporting (fun lib => Logs.logoutUsers lib m.pollLoop.link.server.authenticatedUsersByFd) logs fun _ =>
      some { m with stage := .saving }
  | _, .aborted, .handleSignal => none
  | _, _, .handleSignal => some m.signalled
  | _, _, _ => none

/-- The entry that a step serves. -/
def serving (m : ServerManager) : Event → Option PollFd
  | .turn _ => m.pollLoop.current
  | _ => none

/-- What is answered leaves nothing to throw. -/
def Event.Answered : Event → Prop
  | .store logs | .logout logs => ∀ answer ∈ logs, 0 ≤ answer
  | .poll (.error errno) => errno = eintr
  | .turn calls => calls.Handled
  | _ => True

/-- Nothing is thrown; and a signal comes neither before the flag is stored nor between its test and `::poll`. -/
def Handled (m : ServerManager) (e : Event) : Prop :=
  e.Answered ∧ (e = .handleSignal → m.stage ≠ .installed ∧ m.stage ≠ .entering)

/-- The process does not wait for a signal, nor in `::poll` for a descriptor. -/
def Prompt (m : ServerManager) (e : Event) : Prop :=
  match e with
  | .handleSignal => False
  | .poll _ => m.stage ≠ .waiting false
  | _ => True

/-- The save is only so many steps away, and the process comes to it without waiting. -/
def ReachesSave (m : ServerManager) : Prop :=
  ∃ bound, ∀ events m', Runs.run step m events = some m' →
    Runs.Always step (fun m e => m.Prompt e ∧ e.Answered) m events →
      events.length ≤ bound ∧ ((∀ e, m'.Prompt e → m'.step e = none) → m'.stage = .saving)

/-- A step that does no harm. It serves one entry or removes its connection, and spares the other
connections and what is stored; or it leaves the connections as they are. And a signal leads to the save. -/
structure Contained (m : ServerManager) (e : Event) (m' : ServerManager) : Prop where
  goesOn : m'.pollLoop.phase ≠ .aborted
  serves : ∀ currentPollFd, m.serving e = some currentPollFd →
    m.pollLoop.Serviced currentPollFd m'.pollLoop ∧
      Server.Spares currentPollFd.fd m.pollLoop.link.server m'.pollLoop.link.server
  idles : m.serving e = none → m'.pollLoop.link = m.pollLoop.link ∧ m'.pollLoop.fds = m.pollLoop.fds
  stops : e = .handleSignal → m'.ReachesSave

/-- What a step throws comes from an answer of the library. -/
def Event.logs : Event → List Int
  | .store logs | .logout logs => logs
  | .turn calls => calls.logs
  | _ => []

/-- What a step comes to. -/
inductive Steps (m : ServerManager) : Event → ServerManager → Prop where
  | stored {logs : List Int} : m.stage = .installed → m.pollLoop.phase = .polling →
      (∀ answer ∈ logs, 0 ≤ answer) → Steps m (.store logs) { m with isRunning := true, stage := .looping }
  | entered : m.stage = .looping → m.pollLoop.phase = .polling → m.isRunning = true →
      Steps m .enter { m with stage := .entering }
  | called : m.stage = .entering → m.pollLoop.phase = .polling → Steps m .call { m with stage := .waiting false }
  | polled {isInterrupted : Bool} (result : Except Errno (Option (Nat → PollEvents))) :
      m.stage = .waiting isInterrupted → m.pollLoop.phase = .polling → Steps m (.poll result) (m.polled result)
  | turned {index : Nat} {calls : Calls} {pollLoop : PollLoop} : m.stage = .looping →
      m.pollLoop.phase = .turn index → m.pollLoop.makes calls = true → (∀ answer ∈ calls.logs, 0 ≤ answer) →
      m.pollLoop.forTurn index (calls.outside m.pollLoop.currentFd) = some pollLoop →
      Steps m (.turn calls) { m with pollLoop := pollLoop }
  | left : m.stage = .looping → m.pollLoop.phase = .polling → m.isRunning = false →
      Steps m .leave { m with pollLoop := { m.pollLoop with phase := .stopped }, stage := .left }
  | loggedOut {logs : List Int} : m.stage = .left → m.pollLoop.phase = .stopped →
      (∀ answer ∈ logs, 0 ≤ answer) → Steps m (.logout logs) { m with stage := .saving }
  | threw {e : Event} {answer : Int} : answer ∈ e.logs → answer < 0 →
      (∀ calls, e = .turn calls → m.pollLoop.makes calls = true) → Steps m e m.aborted
  | signalled : m.pollLoop.phase ≠ .aborted → Steps m .handleSignal m.signalled

variable {m m' : ServerManager} {e : Event}

theorem reporting_cases {logged : LoggingServer → Logged LogCall α} {plain : α} {logs : List Int}
    {next : α → Option ServerManager} (hlogged : ∀ lib, Retells lib (logged lib) plain)
    (hs : m.reporting logged logs next = some m') :
    next plain = some m' ∧ (∀ answer ∈ logs, 0 ≤ answer) ∨ m' = m.aborted ∧ ∃ answer ∈ logs, answer < 0 := by
  simp only [reporting] at hs
  cases houtcome : Logs.outcome logged logs with
  | none =>
    rw [houtcome] at hs
    cases hs
  | some o =>
    rw [houtcome] at hs
    rcases outcome_cases hlogged houtcome with ⟨rfl, hgood⟩ | ⟨rfl, hbad⟩
    · exact .inl ⟨hs, hgood⟩
    · exact .inr ⟨(Option.some.inj hs).symm, hbad⟩

theorem step_cases (hs : m.step e = some m') : Steps m e m' := by
  simp only [step] at hs
  split at hs
  · next logs hstage hphase =>
    rcases reporting_cases (fun lib => loadUsers_retells lib _) hs with ⟨hsome, hgood⟩ | ⟨rfl, answer, hanswer, hbad⟩
    · cases hsome
      exact .stored hstage hphase hgood
    · exact .threw hanswer hbad (by simp)
  · next hstage hphase =>
    obtain ⟨hrunning, hsome⟩ := Option.ite_none_right_eq_some.mp hs
    cases hsome
    exact .entered hstage hphase hrunning
  · next hstage hphase =>
    cases hs
    exact .called hstage hphase
  · next result hstage hphase =>
    cases hs
    exact .polled result hstage hphase
  · next index calls hstage hphase =>
    obtain ⟨hmakes, hs⟩ := Option.ite_none_right_eq_some.mp hs
    rcases reporting_cases (fun lib => forTurn_retells lib _ _ _) hs with ⟨hsome, hgood⟩ | ⟨rfl, answer, hanswer, hbad⟩
    · obtain ⟨pollLoop, hturn, rfl⟩ := Option.map_eq_some_iff.mp hsome
      exact .turned hstage hphase hmakes hgood hturn
    · refine .threw hanswer hbad fun calls' he => ?_
      cases he
      exact hmakes
  · next hstage hphase =>
    obtain ⟨hrunning, hsome⟩ := Option.ite_none_left_eq_some.mp hs
    cases hsome
    exact .left hstage hphase (Bool.eq_false_of_not_eq_true hrunning)
  · next logs hstage hphase =>
    rcases reporting_cases (fun lib => logoutUsers_retells lib _) hs with ⟨hsome, hgood⟩ | ⟨rfl, answer, hanswer, hbad⟩
    · cases hsome
      exact .loggedOut hstage hphase hgood
    · exact .threw hanswer hbad (by simp)
  · cases hs
  · next hphase =>
    cases hs
    exact .signalled hphase
  · cases hs

theorem Event.not_answered {answer : Int} (hanswer : answer ∈ e.logs) (hbad : answer < 0) : ¬ e.Answered := by
  intro hgood
  cases e with
  | store logs | logout logs => exact absurd (hgood answer hanswer) (by omega)
  | turn calls => exact absurd (hgood.logs answer hanswer) (by omega)
  | enter | call | poll | leave | handleSignal => cases hanswer

theorem link_polled (m : ServerManager) (result : Except Errno (Option (Nat → PollEvents))) :
    (m.polled result).pollLoop.link = m.pollLoop.link ∧ (m.polled result).pollLoop.fds = m.pollLoop.fds := by
  have hpollTurn : ∀ r, (m.pollLoop.pollTurn r m.isRunning).link = m.pollLoop.link ∧
      (m.pollLoop.pollTurn r m.isRunning).fds = m.pollLoop.fds := by
    intro r
    refine ⟨?_, PollLoop.fds_pollTurn _ _ _⟩
    cases r <;> rfl
  simp only [polled]
  split
  · exact hpollTurn _
  · exact hpollTurn _
  · split
    · split
      · exact ⟨rfl, rfl⟩
      · exact hpollTurn _
    · exact hpollTurn _

/-- A step is a turn in which no call of the library fails, or it leaves the connections as they are. Then it
is no turn, unless it throws. -/
theorem Steps.turned_or_same (hs : Steps m e m') :
    (∃ index calls, e = .turn calls ∧ m.pollLoop.phase = .turn index ∧
      m.pollLoop.forTurn index (calls.outside m.pollLoop.currentFd) = some m'.pollLoop) ∨
    (m'.pollLoop.link = m.pollLoop.link ∧ m'.pollLoop.fds = m.pollLoop.fds) ∧
      (m'.pollLoop.phase = .aborted ∨ m.serving e = none) := by
  cases hs with
  | turned _ hphase _ _ hturn => exact .inl ⟨_, _, rfl, hphase, hturn⟩
  | polled result => exact .inr ⟨link_polled m result, .inr rfl⟩
  | threw => exact .inr ⟨⟨rfl, rfl⟩, .inl rfl⟩
  | stored | entered | called | left | loggedOut | signalled => exact .inr ⟨⟨rfl, rfl⟩, .inr rfl⟩

theorem tracked_step (h : m.pollLoop.Tracked) (hs : m.step e = some m') : m'.pollLoop.Tracked := by
  rcases (step_cases hs).turned_or_same with ⟨index, calls, -, hphase, hturn⟩ | ⟨⟨hlink, hfds⟩, -⟩
  · have hstep : m.pollLoop.step (.turn (calls.outside m.pollLoop.currentFd)) = some m'.pollLoop := by
      simp only [PollLoop.step, hphase, hturn]
    exact h.step hstep
  · refine ⟨hlink ▸ h.intact, hfds ▸ h.distinct, ?_⟩
    rw [hfds, hlink]
    exact h.listed

/-- A state that the process can be in. -/
structure Standing (m : ServerManager) : Prop where
  tracked : m.pollLoop.Tracked
  fits : m.pollLoop.phase ≠ .aborted → m.stage.Fits m.pollLoop.phase

theorem standing_start (listenFd : Fd) (users : List User) (teams : List Team) (messages : List Message) :
    Standing (start listenFd users teams messages) :=
  ⟨.start _ _ _ _, fun _ => rfl⟩

/-- `::poll` returns to the `while` test or to the `for` loop, is entered again, or its failure is thrown. -/
theorem fits_polled (hphase : m.pollLoop.phase = .polling) (result : Except Errno (Option (Nat → PollEvents)))
    (hgoesOn : (m.polled result).pollLoop.phase ≠ .aborted) :
    (m.polled result).stage.Fits (m.polled result).pollLoop.phase := by
  cases result with
  | ok revents =>
    cases revents with
    | none => exact .inl hphase
    | some revents =>
      cases hrunning : m.isRunning with
      | true =>
        simp only [polled, hrunning, if_true]
        exact .inr ⟨0, rfl⟩
      | false =>
        simp only [polled, hrunning, Bool.false_eq_true, if_false]
        rfl
  | error errno =>
    by_cases hinterrupted : errno = eintr
    · cases hrunning : m.isRunning with
      | true =>
        simp only [polled, hinterrupted, hrunning, if_true]
        exact hphase
      | false =>
        simp only [polled, hinterrupted, hrunning, if_true, Bool.false_eq_true, if_false]
        exact .inl hphase
    · simp only [polled, if_neg hinterrupted] at hgoesOn
      exact absurd rfl hgoesOn

theorem fits_turned {index : Nat} {pollLoop : PollLoop} {outside : Outside} (h : m.pollLoop.Tracked)
    (hphase : m.pollLoop.phase = .turn index) (hturn : m.pollLoop.forTurn index outside = some pollLoop)
    (hgoesOn : pollLoop.phase ≠ .aborted) : Stage.looping.Fits pollLoop.phase := by
  cases hentry : m.pollLoop.pollFds[index]? with
  | none =>
    rw [PollLoop.forTurn_end hentry hturn]
    exact .inl rfl
  | some current =>
    cases h.serviced hphase hentry hturn with
    | kept _ _ _ _ _ _ hnext => exact .inr ⟨_, hnext⟩
    | accepted _ _ _ _ _ _ _ hnext => exact .inr ⟨_, hnext⟩
    | removed _ _ _ _ _ _ _ hnext => exact .inr ⟨_, hnext⟩
    | aborted _ _ hnext => exact absurd hnext hgoesOn

theorem Standing.step (h : Standing m) (hs : m.step e = some m') : Standing m' := by
  refine ⟨tracked_step h.tracked hs, fun hgoesOn => ?_⟩
  cases step_cases hs with
  | stored _ hphase => exact .inl hphase
  | entered _ hphase => exact hphase
  | called _ hphase => exact hphase
  | polled result _ hphase => exact fits_polled hphase result hgoesOn
  | turned hstage hphase _ _ hturn =>
    simp only [hstage]
    exact fits_turned h.tracked hphase hturn hgoesOn
  | left => rfl
  | loggedOut _ hphase => exact hphase
  | threw => exact absurd rfl hgoesOn
  | signalled hphase =>
    have hfits := h.fits hphase
    simp only [signalled]
    cases hstage : m.stage with
    | waiting isInterrupted =>
      rw [hstage] at hfits
      exact hfits
    | installed | looping | entering | left | saving =>
      rw [hstage] at hfits
      exact hfits

/-- An exception leaves the loop exactly when something is answered that is not handled. -/
theorem aborted_iff (h : m.pollLoop.Tracked) (hs : m.step e = some m') :
    m'.pollLoop.phase = .aborted ↔ ¬ e.Answered := by
  cases step_cases hs with
  | stored _ hphase hgood => exact iff_of_false (by simp [hphase]) (not_not.mpr hgood)
  | entered _ hphase | called _ hphase => exact iff_of_false (by simp [hphase]) (not_not.mpr trivial)
  | polled result _ hphase =>
    cases result with
    | ok revents =>
      refine iff_of_false ?_ (not_not.mpr trivial)
      cases revents with
      | none => simp [polled, PollLoop.pollTurn, hphase]
      | some revents => cases hrunning : m.isRunning <;> simp [polled, PollLoop.pollTurn, hrunning]
    | error errno =>
      have hanswered : Event.Answered (.poll (.error errno)) ↔ errno = eintr := Iff.rfl
      rw [hanswered]
      by_cases hinterrupted : errno = eintr
      · refine iff_of_false ?_ (not_not.mpr hinterrupted)
        cases hrunning : m.isRunning <;> simp [polled, PollLoop.pollTurn, hinterrupted, hrunning, hphase]
      · refine iff_of_true ?_ hinterrupted
        simp [polled, PollLoop.pollTurn, hinterrupted]
  | turned _ hphase hmakes hgood hturn => exact h.aborted_iff hgood hphase hmakes hturn
  | left => exact iff_of_false (by simp) (not_not.mpr trivial)
  | loggedOut _ hphase hgood => exact iff_of_false (by simp [hphase]) (not_not.mpr hgood)
  | threw hanswer hbad => exact iff_of_true rfl (Event.not_answered hanswer hbad)
  | signalled hphase => exact iff_of_false hphase (not_not.mpr trivial)

/-- The flag is cleared where that is seen before the process waits again. -/
structure Stopping (m : ServerManager) : Prop where
  flag : m.isRunning = false
  installed : m.stage ≠ .installed
  entering : m.stage ≠ .entering
  waiting : m.stage ≠ .waiting false

/-- A bound on the steps to the save, once the flag is cleared. -/
def remaining (m : ServerManager) : Nat :=
  match m.stage with
  | .looping => m.pollLoop.remaining + 1
  | .waiting _ => 3
  | .left => 1
  | _ => 0

theorem stopping_signalled (hinstalled : m.stage ≠ .installed) (hentering : m.stage ≠ .entering) :
    Stopping m.signalled := by
  refine ⟨rfl, ?_, ?_, ?_⟩
  all_goals
    simp only [signalled]
    cases hstage : m.stage <;> simp_all

/-- What `::poll` returns after a signal leads out of the loop, through the `while` test or past it. -/
theorem stopping_polled {isInterrupted : Bool} {result : Except Errno (Option (Nat → PollEvents))}
    (hflag : m.isRunning = false) (hstage : m.stage = .waiting isInterrupted) (hphase : m.pollLoop.phase = .polling)
    (hanswered : Event.Answered (.poll result)) :
    Stopping (m.polled result) ∧ (m.polled result).remaining < m.remaining := by
  have hremaining : m.remaining = 3 := by simp only [remaining, hstage]
  rw [hremaining]
  have hlooping : ∀ m' : ServerManager, m'.isRunning = false → m'.stage = .looping → m'.pollLoop.phase = .polling →
      Stopping m' ∧ m'.remaining < 3 := by
    intro m' hflag' hstage' hphase'
    refine ⟨⟨hflag', by simp [hstage'], by simp [hstage'], by simp [hstage']⟩, ?_⟩
    simp [remaining, hstage', PollLoop.remaining, hphase']
  cases result with
  | ok revents =>
    cases revents with
    | none => exact hlooping _ hflag rfl hphase
    | some revents =>
      have hpolled : m.polled (.ok (some revents)) =
          { m with pollLoop := m.pollLoop.pollTurn (.ready revents) false, stage := .left } := by
        simp [polled, hflag]
      rw [hpolled]
      refine ⟨⟨hflag, ?_, ?_, ?_⟩, ?_⟩ <;> simp [remaining]
  | error errno =>
    have hinterrupted : errno = eintr := hanswered
    have hpolled : m.polled (.error errno) =
        { m with pollLoop := m.pollLoop.pollTurn .nothing false, stage := .looping } := by
      simp [polled, hinterrupted, hflag]
    rw [hpolled]
    exact hlooping _ hflag rfl hphase

/-- Every turn brings the end of the round nearer. -/
theorem remaining_turned {index : Nat} {pollLoop : PollLoop} {outside : Outside} (h : m.pollLoop.Tracked)
    (hphase : m.pollLoop.phase = .turn index) (hturn : m.pollLoop.forTurn index outside = some pollLoop) :
    pollLoop.remaining < m.pollLoop.remaining := by
  cases hentry : m.pollLoop.pollFds[index]? with
  | none =>
    rw [PollLoop.forTurn_end hentry hturn]
    simp only [PollLoop.remaining, hphase]
    omega
  | some current => exact (h.serviced hphase hentry hturn).remaining_lt hphase hentry

/-- Once the flag is cleared, a step brings the save nearer, and nothing but a signal can come in between. -/
theorem Stopping.step (hstopping : Stopping m) (h : Standing m) (hprompt : m.Prompt e) (hanswered : e.Answered)
    (hs : m.step e = some m') : Stopping m' ∧ m'.remaining < m.remaining := by
  have hflag := hstopping.flag
  cases step_cases hs with
  | stored hstage => exact absurd hstage hstopping.installed
  | entered _ _ hrunning => cases hflag.symm.trans hrunning
  | called hstage => exact absurd hstage hstopping.entering
  | polled result hstage hphase => exact stopping_polled hflag hstage hphase hanswered
  | turned hstage hphase _ _ hturn =>
    refine ⟨⟨hflag, hstopping.installed, hstopping.entering, hstopping.waiting⟩, ?_⟩
    have hlt := remaining_turned h.tracked hphase hturn
    simp only [remaining, hstage]
    omega
  | left hstage hphase =>
    refine ⟨⟨hflag, by simp, by simp, by simp⟩, ?_⟩
    simp [remaining, hstage, PollLoop.remaining, hphase]
  | loggedOut hstage =>
    refine ⟨⟨hflag, by simp, by simp, by simp⟩, ?_⟩
    simp [remaining, hstage]
  | threw hanswer hbad => exact absurd hanswered (Event.not_answered hanswer hbad)
  | signalled => exact hprompt.elim

/-- A signal that comes later changes nothing. -/
theorem Stopping.kept (hstopping : Stopping m) (h : Standing m) (hhandled : m.Handled e)
    (hs : m.step e = some m') : Stopping m' := by
  by_cases hprompt : m.Prompt e
  · exact (hstopping.step h hprompt hhandled.1 hs).1
  · cases e with
    | handleSignal =>
      cases step_cases hs with
      | signalled => exact stopping_signalled hstopping.installed hstopping.entering
      | threw hanswer => cases hanswer
    | poll result => exact absurd hstopping.waiting hprompt
    | store | enter | call | turn | leave | logout => exact absurd trivial hprompt

/-- Where the flag is cleared and no step is left that does not wait, the process has come to the save. -/
theorem Stopping.saving_of_stuck (hstopping : Stopping m) (h : Standing m) (hgoesOn : m.pollLoop.phase ≠ .aborted)
    (hstuck : ∀ e, m.Prompt e → m.step e = none) : m.stage = .saving := by
  have hfits := h.fits hgoesOn
  cases hstage : m.stage with
  | installed => exact absurd hstage hstopping.installed
  | entering => exact absurd hstage hstopping.entering
  | waiting isInterrupted =>
    rw [hstage] at hfits
    have hpoll := hstuck (.poll (.ok none)) hstopping.waiting
    have hphase : m.pollLoop.phase = .polling := hfits
    simp [ServerManager.step, hstage, hphase] at hpoll
  | looping =>
    rw [hstage] at hfits
    rcases hfits with hphase | ⟨index, hphase⟩
    · have hleave := hstuck .leave trivial
      simp [ServerManager.step, hstage, hphase, hstopping.flag] at hleave
    · obtain ⟨calls, p', hmakes, -, hturn⟩ := PollLoop.exists_turn hphase
      have hstep := hstuck (.turn calls) trivial
      simp [ServerManager.step, hstage, hphase, hmakes, reporting, hturn] at hstep
  | left =>
    rw [hstage] at hfits
    have hphase : m.pollLoop.phase = .stopped := hfits
    obtain ⟨logs, -, houtcome⟩ := exists_outcome fun lib =>
      logoutUsers_retells lib m.pollLoop.link.server.authenticatedUsersByFd
    have hlogout := hstuck (.logout logs) trivial
    simp [ServerManager.step, hstage, hphase, reporting, houtcome] at hlogout
  | saving => rfl

theorem Stopping.reachesSave (hstopping : Stopping m) (h : Standing m) (hgoesOn : m.pollLoop.phase ≠ .aborted) :
    m.ReachesSave := by
  refine ⟨m.remaining, fun events m' hrun halways => ?_⟩
  have hstep : ∀ m e m', (Standing m ∧ Stopping m ∧ m.pollLoop.phase ≠ .aborted) → (m.Prompt e ∧ e.Answered) →
      m.step e = some m' → (Standing m' ∧ Stopping m' ∧ m'.pollLoop.phase ≠ .aborted) ∧ m'.remaining < m.remaining := by
    rintro m e m' ⟨h, hstopping, -⟩ ⟨hprompt, hanswered⟩ hs
    obtain ⟨hstopping', hlt⟩ := hstopping.step h hprompt hanswered hs
    exact ⟨⟨h.step hs, hstopping', fun haborted => (aborted_iff h.tracked hs).mp haborted hanswered⟩, hlt⟩
  have hlength := Runs.length_le_of_lt_of remaining hstep ⟨h, hstopping, hgoesOn⟩ halways hrun
  refine ⟨by omega, fun hstuck => ?_⟩
  obtain ⟨h', hstopping', hgoesOn'⟩ := Runs.run_invariant_of (fun m e m' hm he hs => (hstep m e m' hm he hs).1)
    ⟨h, hstopping, hgoesOn⟩ halways hrun
  exact hstopping'.saving_of_stuck h' hgoesOn' hstuck

theorem ReachesSave.step (h : m.ReachesSave) (hs : m.step e = some m') (hprompt : m.Prompt e)
    (hanswered : e.Answered) : m'.ReachesSave := by
  obtain ⟨bound, h⟩ := h
  refine ⟨bound, fun events m'' hrun halways => ?_⟩
  have hlonger := h (e :: events) m'' (Runs.run_cons_eq_some.mpr ⟨m', hs, hrun⟩)
    ⟨⟨hprompt, hanswered⟩, fun t ht => Option.some.inj (hs.symm.trans ht) ▸ halways⟩
  exact ⟨(Nat.le_succ _).trans hlonger.1, hlonger.2⟩

/-- A process that waits in `::poll` may wait for ever. -/
theorem not_reachesSave_waiting (hstage : m.stage = .waiting false) : ¬ m.ReachesSave := by
  rintro ⟨bound, h⟩
  have hstuck : ∀ e, m.Prompt e → m.step e = none := by
    intro e hprompt
    cases e with
    | handleSignal => exact hprompt.elim
    | poll result => exact absurd hstage hprompt
    | store | enter | call | turn | leave | logout => simp [ServerManager.step, hstage]
  have hsaving := (h [] m rfl trivial).2 hstuck
  cases hstage.symm.trans hsaving

/-- `::poll` is entered whatever has become of the flag since its test. -/
theorem not_reachesSave_entering (hstage : m.stage = .entering) (hphase : m.pollLoop.phase = .polling) :
    ¬ m.ReachesSave := by
  intro h
  have hcall : m.step .call = some { m with stage := .waiting false } := by simp only [ServerManager.step, hstage, hphase]
  exact not_reachesSave_waiting rfl (h.step hcall trivial trivial)

/-- The flag is stored over a signal that came before. -/
theorem not_reachesSave_installed (hstage : m.stage = .installed) (hphase : m.pollLoop.phase = .polling) :
    ¬ m.ReachesSave := by
  intro h
  obtain ⟨logs, hlogs, houtcome⟩ := exists_outcome fun lib =>
    loadUsers_retells lib m.pollLoop.link.server.users
  have hstore : m.step (.store logs) = some { m with isRunning := true, stage := .looping } := by
    simp only [ServerManager.step, hstage, hphase, reporting, houtcome]
  have henter : ServerManager.step { m with isRunning := true, stage := .looping } .enter =
      some { m with isRunning := true, stage := .entering } := by
    simp only [ServerManager.step, hphase, if_true]
  have hstored := h.step hstore trivial hlogs
  have hentered := hstored.step henter trivial trivial
  have hstage' : ({ m with isRunning := true, stage := .entering } : ServerManager).stage = .entering := rfl
  exact not_reachesSave_entering hstage' hphase hentered

theorem Standing.reachesSave_signalled (h : Standing m) (hgoesOn : m.pollLoop.phase ≠ .aborted) :
    m.signalled.ReachesSave ↔ m.stage ≠ .installed ∧ m.stage ≠ .entering := by
  constructor
  · intro hreaches
    constructor
    · intro hstage
      have hphase : m.pollLoop.phase = .polling := by simpa [hstage, Stage.Fits] using h.fits hgoesOn
      exact not_reachesSave_installed (m := m.signalled) (by simp [signalled, hstage]) hphase hreaches
    · intro hstage
      have hphase : m.pollLoop.phase = .polling := by simpa [hstage, Stage.Fits] using h.fits hgoesOn
      exact not_reachesSave_entering (m := m.signalled) (by simp [signalled, hstage]) hphase hreaches
  · rintro ⟨hinstalled, hentering⟩
    have hs : m.step .handleSignal = some m.signalled := by simp only [ServerManager.step]
    exact (stopping_signalled hinstalled hentering).reachesSave (h.step hs) hgoesOn

/-- A step is contained exactly when every answer it gets is handled, and it is not a signal that is missed. -/
theorem contained_iff (h : Standing m) (hs : m.step e = some m') : Contained m e m' ↔ m.Handled e := by
  have haborted := aborted_iff h.tracked hs
  have hstops : m'.pollLoop.phase ≠ .aborted → e = .handleSignal →
      (m'.ReachesSave ↔ m.stage ≠ .installed ∧ m.stage ≠ .entering) := by
    rintro hgoesOn rfl
    cases step_cases hs with
    | signalled => exact h.reachesSave_signalled hgoesOn
    | threw hanswer => cases hanswer
  constructor
  · intro hcontained
    exact ⟨by_contra fun hanswered => hcontained.goesOn (haborted.mpr hanswered),
      fun hsignal => (hstops hcontained.goesOn hsignal).mp (hcontained.stops hsignal)⟩
  · rintro ⟨hanswered, hseen⟩
    have hgoesOn : m'.pollLoop.phase ≠ .aborted := fun hphase => haborted.mp hphase hanswered
    rcases (step_cases hs).turned_or_same with ⟨index, calls, rfl, hphase, hturn⟩ | ⟨hsame, haborts | hidle⟩
    · have hcurrent : m.pollLoop.current = m.pollLoop.pollFds[index]? := by rw [PollLoop.current, hphase]
      refine ⟨hgoesOn, fun currentPollFd hserving => ?_, fun hserving => ?_, fun hsignal => by cases hsignal⟩
      · have hserviced := h.tracked.serviced hphase (hcurrent.symm.trans hserving) hturn
        exact ⟨hserviced, hserviced.spares h.tracked⟩
      · rw [PollLoop.forTurn_end (hcurrent.symm.trans hserving) hturn]
        exact ⟨rfl, rfl⟩
    · exact absurd haborts hgoesOn
    · refine ⟨hgoesOn, fun currentPollFd hserving => ?_, fun _ => hsame,
        fun hsignal => (hstops hgoesOn hsignal).mpr (hseen hsignal)⟩
      cases hidle.symm.trans hserving

variable {events : List Event}

theorem standing_run (h : Standing m) (hrun : Runs.run step m events = some m') : Standing m' :=
  Runs.run_invariant (fun _ _ _ h hs => h.step hs) h hrun

/-- No exception leaves the loop as long as every answer is handled. -/
theorem goesOn_run (h : Standing m) (hgoesOn : m.pollLoop.phase ≠ .aborted)
    (hrun : Runs.run step m events = some m') (hhandled : Runs.Always step Handled m events) :
    m'.pollLoop.phase ≠ .aborted := by
  have hboth : Standing m' ∧ m'.pollLoop.phase ≠ .aborted := by
    refine Runs.run_invariant_of (P := fun m => Standing m ∧ m.pollLoop.phase ≠ .aborted)
      (fun m e m' hm he hs => ?_) ⟨h, hgoesOn⟩ hhandled hrun
    exact ⟨hm.1.step hs, ((contained_iff hm.1 hs).mpr he).goesOn⟩
  exact hboth.2

theorem stopping_kept (h : Standing m) (hstopping : Stopping m) (hrun : Runs.run step m events = some m')
    (hhandled : Runs.Always step Handled m events) : Stopping m' :=
  (Runs.run_invariant_of (P := fun m => Standing m ∧ Stopping m)
    (fun _ _ _ hm he hs => ⟨hm.1.step hs, hm.2.kept hm.1 he hs⟩) ⟨h, hstopping⟩ hhandled hrun).2

theorem stopping_run (h : Standing m) (hrun : Runs.run step m events = some m')
    (hhandled : Runs.Always step Handled m events) (hsignal : .handleSignal ∈ events) : Stopping m' := by
  induction events generalizing m with
  | nil => cases hsignal
  | cons e events ih =>
    obtain ⟨t, ht, hrest⟩ := Runs.run_cons_eq_some.mp hrun
    have hhandledRest := hhandled.2 t ht
    rcases List.mem_cons.mp hsignal with rfl | hsignal
    · obtain ⟨hinstalled, hentering⟩ := hhandled.1.2 rfl
      have hstopping : Stopping t := by
        cases step_cases ht with
        | signalled => exact stopping_signalled hinstalled hentering
        | threw hanswer => cases hanswer
      exact stopping_kept (h.step ht) hstopping hrest hhandledRest
    · exact ih (h.step ht) hrest hhandledRest hsignal

/-- A turn that makes no call. -/
def noCalls : Calls := ⟨none, none, none, [], fun _ => default⟩

/-- One entry is ready. -/
def ready (index : Nat) : Event :=
  .poll (.ok (some fun i => if i = index then .input else .none))

/-- Connection 4 is accepted, and has something to read. -/
def acceptRun : List Event :=
  let accept : AcceptCalls := { accept := .ok 5, fstat := .ok true, dup := .ok 4 }
  [.store [], .enter, .call, ready 0, .turn { noCalls with accept := some accept }, .turn noCalls, .turn noCalls,
    .enter, .call, ready 1, .turn noCalls]

theorem length_login_le : (Request.login [97]).packet.length ≤ readBufferSize := by decide

/-- A new user logs in, which is reported twice. -/
def loginCalls : Calls :=
  let recv : RecvCalls :=
    { fstat := .ok true
      dup := .ok 6
      poll := .ok .input
      read := .ok ⟨(Request.login [97]).packet, length_login_le⟩ }
  { noCalls with recv := some recv, logs := [0, 0] }

theorem handled_loginCalls : loginCalls.Handled := by
  refine ⟨by simp [loginCalls, noCalls], ?_, by simp [loginCalls, noCalls], by simp [loginCalls]⟩
  rintro recv ⟨rfl⟩ -
  refine ⟨fun revents hpoll hgone => ?_, fun revents hpoll _ => ?_⟩
  · cases hpoll
    rfl
  · cases hpoll
    exact ⟨_, rfl, fun hgone => by cases hgone⟩

/-- After the login no copy of the descriptor can be made (`EMFILE`), and then nothing is ready any more. -/
def dupRun : List Event :=
  let recv : RecvCalls := { fstat := .ok true, dup := .error 24, poll := .ok .input, read := .ok ⟨[], by decide⟩ }
  acceptRun ++ [.turn loginCalls, .turn noCalls, .enter, .call, ready 1,
    .turn noCalls, .turn { noCalls with recv := some recv, logs := [0] }, .turn noCalls, .enter, .call]

theorem answered_dupRun : ∀ e ∈ dupRun, e.Answered ∧ e ≠ .handleSignal := by
  have hidle : noCalls.Handled := ⟨by simp [noCalls], by simp [noCalls], by simp [noCalls], by simp [noCalls]⟩
  simp only [dupRun, acceptRun, ready, List.cons_append, List.nil_append, List.forall_mem_cons, List.not_mem_nil,
    false_implies, implies_true, and_true, ne_eq, reduceCtorEq, not_false_eq_true]
  refine ⟨by simp [Event.Answered], trivial, trivial, trivial, ⟨?_, ?_, ?_, ?_⟩, hidle, hidle, trivial, trivial,
    trivial, hidle, handled_loginCalls, hidle, trivial, trivial, trivial, hidle, ⟨?_, ?_, ?_, ?_⟩, hidle, trivial,
    trivial⟩
  all_goals simp [noCalls]
  · exact ⟨⟨rfl, 4, rfl⟩, 5, rfl, by decide⟩
  · rintro ⟨-, fd, hdup⟩
    cases hdup

/-- Between the two calls of `poll`, the peer of connection 4 has reset it (`ECONNRESET`). -/
def resetCalls : Calls :=
  let recv : RecvCalls :=
    { fstat := .ok true
      dup := .ok 5
      poll := .ok { PollEvents.input with pollErr := true, pollHup := true }
      read := .error 104 }
  { noCalls with recv := some recv }

end ServerManager

end TeamsMirror
