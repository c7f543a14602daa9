import TeamsMirror.Link.Sockets

/-!
# One round of the poll loop

The `for` loop of `runPollLoop` by itself: a vector that is scanned with an index, and
that grows at its end and shrinks at the index meanwhile. What the calls of a turn
return is the input of the turn; the flags are whole `short`s. That every entry is
handled once is an invariant of the scan.
-/

namespace TeamsMirror

/-- `struct pollfd`. -/
structure PollEntry where
  fd : Fd
  events : BitVec 16
  revents : BitVec 16
deriving DecidableEq

def pollInFlag : BitVec 16 := 0x001

def pollOutFlag : BitVec 16 := 0x004

def PollEntry.isReady (e : PollEntry) : Bool := e.revents ≠ 0

/-- What the calls of one turn return; `none` for an exception. -/
structure Returns where
  acceptClientSocket : Option Fd
  shouldKeepClientConnected : Option Bool
  hasPendingWrite : Bool
deriving DecidableEq

/-- What a turn did about the descriptor that was ready. -/
inductive Treatment where
  | nothingToAccept
  | accepted (clientFd : Fd)
  | acceptThrew
  | kept
  | removed
  | clientThrew
deriving DecidableEq

/-- The loop variables, with a record of the descriptors that were handled. -/
structure PollRound where
  pollFds : List PollEntry
  index : Nat
  handled : List (PollEntry × Treatment)
  /-- An exception has left the loop. -/
  left : Bool
deriving DecidableEq

namespace PollRound

def start (pollFds : List PollEntry) : PollRound := ⟨pollFds, 0, [], false⟩

def isOver (r : PollRound) : Bool := r.left || r.pollFds.length ≤ r.index

def refreshClientPollInterest (clientPollFd : PollEntry) (hasPendingWrite : Bool) : PollEntry :=
  { clientPollFd with
    events := if hasPendingWrite then pollInFlag ||| pollOutFlag else pollInFlag
    revents := 0 }

def appendClientPollFd (pollFds : List PollEntry) (clientFd : Fd) : List PollEntry :=
  pollFds ++ [⟨clientFd, pollInFlag, 0⟩]

def acceptTurn (r : PollRound) (current : PollEntry) (returns : Returns) : PollRound :=
  let pollFds := r.pollFds.set r.index { current with revents := 0 }
  if current.revents &&& pollInFlag ≠ 0 then
    match returns.acceptClientSocket with
    | some clientFd =>
      { r with
        pollFds := appendClientPollFd pollFds clientFd
        index := r.index + 1
        handled := r.handled ++ [(current, .accepted clientFd)] }
    | none => { r with pollFds := pollFds, handled := r.handled ++ [(current, .acceptThrew)], left := true }
  else
    { r with pollFds := pollFds, index := r.index + 1, handled := r.handled ++ [(current, .nothingToAccept)] }

def clientTurn (r : PollRound) (current : PollEntry) (returns : Returns) : PollRound :=
  match returns.shouldKeepClientConnected with
  | some true =>
    { r with
      pollFds := r.pollFds.set r.index (refreshClientPollInterest current returns.hasPendingWrite)
      index := r.index + 1
      handled := r.handled ++ [(current, .kept)] }
  | some false =>
    { r with pollFds := r.pollFds.eraseIdx r.index, handled := r.handled ++ [(current, .removed)] }
  | none => { r with handled := r.handled ++ [(current, .clientThrew)], left := true }

/-- One turn of the loop; `none` when it is over. -/
def turn (listenFd : Fd) (r : PollRound) (returns : Returns) : Option PollRound :=
  if r.left then none
  else
    match r.pollFds[r.index]? with
    | none => none
    | some current =>
      if current.revents = 0 then some { r with index := r.index + 1 }
      else if current.fd = listenFd then some (r.acceptTurn current returns)
      else some (r.clientTurn current returns)

end PollRound

/-- An entry that the loop has passed, and how it was handled if it was ready. -/
abbrev Fate := PollEntry × Option Treatment

def survivors (fates : List Fate) : List Fd :=
  (fates.filter fun fate => fate.2 ≠ some .removed).map fun fate => fate.1.fd

def acceptedFd (fate : Fate) : Option Fd :=
  match fate.2 with
  | some (.accepted clientFd) => some clientFd
  | _ => none

def handledOf (fates : List Fate) : List (PollEntry × Treatment) :=
  fates.filterMap fun fate => fate.2.map fun treatment => (fate.1, treatment)

def Treatment.isOfListening : Treatment → Bool
  | .nothingToAccept | .accepted _ | .acceptThrew => true
  | .kept | .removed | .clientThrew => false

def Treatment.threw : Treatment → Bool
  | .acceptThrew | .clientThrew => true
  | _ => false

/-- An entry is handled when it was ready, as the listening one or as a client. -/
def Fitting (listenFd : Fd) (fate : Fate) : Prop :=
  match fate.2 with
  | none => fate.1.revents = 0
  | some treatment => fate.1.revents ≠ 0 ∧ (treatment.isOfListening = true ↔ fate.1.fd = listenFd)

namespace PollRound

/-- A round in the middle: the entries before the index are what stays of those that were passed,
and perhaps some new ones; those that are left come before the other new ones. -/
structure Scanned (listenFd : Fd) (begun : List PollEntry) (r : PollRound) (fates : List Fate)
    (stays passed rest new : List PollEntry) : Prop where
  left : r.left = false
  entries : begun = fates.map Prod.fst ++ rest
  pollFds : r.pollFds = stays ++ passed ++ (rest ++ new)
  index : r.index = (stays ++ passed).length
  surviving : stays.map PollEntry.fd = survivors fates
  appended : (passed ++ new).map PollEntry.fd = fates.filterMap acceptedFd
  waiting : rest ≠ [] → passed = []
  quiet : ∀ e ∈ stays ++ passed ++ new, e.revents = 0
  handled : r.handled = handledOf fates
  fitting : ∀ fate ∈ fates, Fitting listenFd fate
  returned : ∀ fate ∈ fates, ∀ treatment ∈ fate.2, treatment.threw = false

/-- A round that an exception has left. -/
structure Abandoned (listenFd : Fd) (begun : List PollEntry) (r : PollRound) (fates : List Fate)
    (current : PollEntry) (treatment : Treatment) (rest : List PollEntry) : Prop where
  left : r.left = true
  entries : begun = fates.map Prod.fst ++ current :: rest
  handled : r.handled = handledOf fates ++ [(current, treatment)]
  fitting : Fitting listenFd (current, some treatment)
  threw : treatment.threw = true

/-- Where a round that began with `begun` can be. -/
def Along (listenFd : Fd) (begun : List PollEntry) (r : PollRound) : Prop :=
  (∃ fates stays passed rest new, Scanned listenFd begun r fates stays passed rest new) ∨
    ∃ fates current treatment rest, Abandoned listenFd begun r fates current treatment rest

theorem Along.start (listenFd : Fd) (begun : List PollEntry) : Along listenFd begun (start begun) := by
  refine .inl ⟨[], [], [], begun, [], ?_⟩
  constructor <;> simp [PollRound.start, survivors, handledOf]

theorem getElem?_length (front : List PollEntry) (current : PollEntry) (back : List PollEntry) :
    (front ++ current :: back)[front.length]? = some current := by simp

theorem set_length (front : List PollEntry) (current e : PollEntry) (back : List PollEntry) :
    (front ++ current :: back).set front.length e = front ++ e :: back := by simp

theorem eraseIdx_length (front : List PollEntry) (current : PollEntry) (back : List PollEntry) :
    (front ++ current :: back).eraseIdx front.length = front ++ back := by
  rw [List.eraseIdx_append_of_length_le (Nat.le_refl _), Nat.sub_self]
  rfl

theorem survivors_append (fates fates' : List Fate) :
    survivors (fates ++ fates') = survivors fates ++ survivors fates' := by
  simp [survivors]

theorem handledOf_append (fates fates' : List Fate) :
    handledOf (fates ++ fates') = handledOf fates ++ handledOf fates' :=
  List.filterMap_append

namespace Scanned

variable {listenFd : Fd} {begun : List PollEntry} {r r' : PollRound} {fates : List Fate}
  {stays passed rest new : List PollEntry} {current : PollEntry} {returns : Returns}

theorem current_eq (h : Scanned listenFd begun r fates stays passed rest new) :
    r.pollFds[r.index]? = (rest ++ new).head? := by
  rw [h.pollFds, h.index]
  cases rest ++ new with
  | nil => simp
  | cons current back => exact getElem?_length (stays ++ passed) current back

/-- Before the appended entries are reached, the next one is the first of those that are left. -/
theorem next (h : Scanned listenFd begun r fates stays passed (current :: rest) new) :
    r.pollFds = stays ++ current :: (rest ++ new) ∧ r.index = stays.length := by
  obtain rfl := h.waiting (List.cons_ne_nil current rest)
  exact ⟨by simpa using h.pollFds, by simpa using h.index⟩

/-- An entry that stays, and what was appended in its turn. -/
theorem stay (h : Scanned listenFd begun r fates stays passed (current :: rest) new)
    (treatment : Option Treatment) (e : PollEntry) (added : List PollEntry)
    (hfitting : Fitting listenFd (current, treatment)) (hstays : treatment ≠ some .removed)
    (hreturned : ∀ t ∈ treatment, t.threw = false) (hfd : e.fd = current.fd) (hquiet : e.revents = 0)
    (hadded : added.map PollEntry.fd = (acceptedFd (current, treatment)).toList)
    (haddedQuiet : ∀ e ∈ added, e.revents = 0) (hleft : r'.left = false)
    (hpollFds : r'.pollFds = stays ++ e :: (rest ++ new) ++ added) (hindex : r'.index = stays.length + 1)
    (hhandled : r'.handled = r.handled ++ handledOf [(current, treatment)]) :
    Scanned listenFd begun r' (fates ++ [(current, treatment)]) (stays ++ [e]) [] rest (new ++ added) := by
  obtain rfl := h.waiting (List.cons_ne_nil current rest)
  constructor
  · exact hleft
  · simp [h.entries]
  · simp [hpollFds]
  · simp [hindex]
  · have hlast : survivors [(current, treatment)] = [current.fd] := by simp [survivors, hstays]
    rw [survivors_append, hlast, List.map_append, h.surviving, List.map_singleton, hfd]
  · have hlast : [(current, treatment)].filterMap acceptedFd = (acceptedFd (current, treatment)).toList := by
      cases hfate : acceptedFd (current, treatment) <;> simp [hfate]
    have happended : new.map PollEntry.fd = fates.filterMap acceptedFd := h.appended
    rw [List.filterMap_append, hlast, List.nil_append, List.map_append, happended, hadded]
  · intro _
    rfl
  · intro e' he'
    simp only [List.append_nil, List.mem_append, List.mem_singleton] at he'
    rcases he' with (he' | rfl) | he' | he'
    · exact h.quiet e' (by simp [he'])
    · exact hquiet
    · exact h.quiet e' (by simp [he'])
    · exact haddedQuiet e' he'
  · rw [hhandled, handledOf_append, h.handled]
  · exact List.forall_mem_append.mpr ⟨h.fitting, List.forall_mem_singleton.mpr hfitting⟩
  · exact List.forall_mem_append.mpr ⟨h.returned, List.forall_mem_singleton.mpr hreturned⟩

/-- An entry that is erased: the index is then that of the entry after it. -/
theorem removed (h : Scanned listenFd begun r fates stays passed (current :: rest) new)
    (hfitting : Fitting listenFd (current, some .removed)) (hleft : r'.left = false)
    (hpollFds : r'.pollFds = stays ++ (rest ++ new)) (hindex : r'.index = stays.length)
    (hhandled : r'.handled = r.handled ++ [(current, .removed)]) :
    Scanned listenFd begun r' (fates ++ [(current, some .removed)]) stays [] rest new := by
  obtain rfl := h.waiting (List.cons_ne_nil current rest)
  constructor
  · exact hleft
  · simp [h.entries]
  · simp [hpollFds]
  · simp [hindex]
  · have hlast : survivors [(current, some .removed)] = [] := by simp [survivors]
    rw [survivors_append, hlast, List.append_nil, h.surviving]
  · have hlast : [(current, some Treatment.removed)].filterMap acceptedFd = [] := rfl
    rw [List.filterMap_append, hlast, List.append_nil, h.appended]
  · intro _
    rfl
  · exact h.quiet
  · rw [hhandled, handledOf_append, h.handled]
    rfl
  · exact List.forall_mem_append.mpr ⟨h.fitting, List.forall_mem_singleton.mpr hfitting⟩
  · refine List.forall_mem_append.mpr ⟨h.returned, List.forall_mem_singleton.mpr ?_⟩
    rintro treatment ⟨rfl⟩
    rfl

theorem set_current (h : Scanned listenFd begun r fates stays passed (current :: rest) new) (e : PollEntry) :
    r.pollFds.set r.index e = stays ++ e :: (rest ++ new) := by
  obtain ⟨hpollFds, hindex⟩ := h.next
  rw [hpollFds, hindex, set_length]

theorem erase_current (h : Scanned listenFd begun r fates stays passed (current :: rest) new) :
    r.pollFds.eraseIdx r.index = stays ++ (rest ++ new) := by
  obtain ⟨hpollFds, hindex⟩ := h.next
  rw [hpollFds, hindex, eraseIdx_length]

theorem idleTurn (h : Scanned listenFd begun r fates stays passed (current :: rest) new)
    (hidle : current.revents = 0) : Along listenFd begun { r with index := r.index + 1 } := by
  obtain ⟨hpollFds, hindex⟩ := h.next
  have hstay : Scanned listenFd begun { r with index := r.index + 1 } (fates ++ [(current, none)])
      (stays ++ [current]) [] rest (new ++ []) :=
    h.stay none current [] hidle (by simp) (by simp) rfl hidle rfl (by simp) h.left (by simp [hpollFds])
      (by simp [hindex]) (by simp [handledOf])
  exact .inl ⟨_, _, _, _, _, hstay⟩

theorem acceptTurn (h : Scanned listenFd begun r fates stays passed (current :: rest) new)
    (hready : current.revents ≠ 0) (hlisten : current.fd = listenFd) :
    Along listenFd begun (r.acceptTurn current returns) := by
  have hindex := h.next.2
  have hfitting : ∀ treatment : Treatment, treatment.isOfListening = true →
      Fitting listenFd (current, some treatment) := fun treatment hof => ⟨hready, iff_of_true hof hlisten⟩
  have hset : r.pollFds.set r.index { current with revents := 0 } =
      stays ++ { current with revents := 0 } :: (rest ++ new) := h.set_current _
  rw [PollRound.acceptTurn]
  split
  · cases returns.acceptClientSocket with
    | some clientFd =>
      have haccepted : ∀ t ∈ some (Treatment.accepted clientFd), t.threw = false := by
        rintro t ⟨rfl⟩
        rfl
      have hpollFds := congrArg (appendClientPollFd · clientFd) hset
      exact .inl ⟨_, _, _, _, _, h.stay (some (.accepted clientFd)) { current with revents := 0 }
        [⟨clientFd, pollInFlag, 0⟩] (hfitting (.accepted clientFd) rfl) (by simp) haccepted rfl rfl rfl
        (by simp) h.left hpollFds (by simp [hindex]) rfl⟩
    | none => exact .inr ⟨fates, current, .acceptThrew, rest,
        ⟨rfl, h.entries, by rw [h.handled], hfitting .acceptThrew rfl, rfl⟩⟩
  · have hnothing : ∀ t ∈ some Treatment.nothingToAccept, t.threw = false := by
      rintro t ⟨rfl⟩
      rfl
    exact .inl ⟨_, _, _, _, _, h.stay (some .nothingToAccept) { current with revents := 0 } []
      (hfitting .nothingToAccept rfl) (by simp) hnothing rfl rfl rfl (by simp) h.left
      (by rw [hset, List.append_nil]) (by simp [hindex]) rfl⟩

theorem clientTurn (h : Scanned listenFd begun r fates stays passed (current :: rest) new)
    (hready : current.revents ≠ 0) (hclient : current.fd ≠ listenFd) :
    Along listenFd begun (r.clientTurn current returns) := by
  have hindex := h.next.2
  have hfitting : ∀ treatment : Treatment, treatment.isOfListening = false →
      Fitting listenFd (current, some treatment) := fun treatment hof =>
    ⟨hready, iff_of_false (by simp [hof]) hclient⟩
  rw [PollRound.clientTurn]
  split
  · have hkept : ∀ t ∈ some Treatment.kept, t.threw = false := by
      rintro t ⟨rfl⟩
      rfl
    exact .inl ⟨_, _, _, _, _, h.stay (some .kept)
      (refreshClientPollInterest current returns.hasPendingWrite) [] (hfitting .kept rfl) (by simp) hkept
      rfl rfl rfl (by simp) h.left (by rw [h.set_current, List.append_nil]) (by simp [hindex]) rfl⟩
  · exact .inl ⟨_, _, _, _, _, h.removed (hfitting .removed rfl) h.left h.erase_current hindex rfl⟩
  · exact .inr ⟨fates, current, .clientThrew, rest,
      ⟨rfl, h.entries, by rw [h.handled], hfitting .clientThrew rfl, rfl⟩⟩

/-- The turn of an entry that was there at the start. -/
theorem turn_rest (h : Scanned listenFd begun r fates stays passed (current :: rest) new)
    (hs : r.turn listenFd returns = some r') : Along listenFd begun r' := by
  have hcurrent : r.pollFds[r.index]? = some current := h.current_eq
  rw [turn, if_neg (by simp [h.left])] at hs
  simp only [hcurrent] at hs
  split at hs
  · next hidle =>
    cases hs
    exact h.idleTurn hidle
  · next hready =>
    split at hs
    · next hlisten =>
      cases hs
      exact h.acceptTurn hready hlisten
    · next hclient =>
      cases hs
      exact h.clientTurn hready hclient

/-- The turn of an entry that was appended during the round. -/
theorem turn_new (h : Scanned listenFd begun r fates stays passed [] (current :: new))
    (hs : r.turn listenFd returns = some r') :
    Scanned listenFd begun r' fates stays (passed ++ [current]) [] new := by
  have hcurrent : r.pollFds[r.index]? = some current := h.current_eq
  have hquiet : current.revents = 0 := h.quiet current (by simp)
  rw [turn, if_neg (by simp [h.left])] at hs
  simp only [hcurrent, if_pos hquiet] at hs
  cases hs
  constructor
  · exact h.left
  · exact h.entries
  · simp [h.pollFds]
  · simp [h.index, Nat.add_assoc]
  · exact h.surviving
  · simpa using h.appended
  · intro hne
    exact absurd rfl hne
  · simpa using h.quiet
  · exact h.handled
  · exact h.fitting
  · exact h.returned

end Scanned

variable {listenFd : Fd} {begun : List PollEntry} {r r' : PollRound} {returns : Returns} {current : PollEntry}

theorem turn_eq_none : r.turn listenFd returns = none ↔ r.isOver = true := by
  rw [turn, isOver]
  cases hleft : r.left with
  | true => simp
  | false =>
    cases hcurrent : r.pollFds[r.index]? with
    | none => simpa using hcurrent
    | some current =>
      have hindex := (List.getElem?_eq_some_iff.mp hcurrent).1
      simp only [Bool.false_eq_true, if_false, Bool.false_or, decide_eq_true_eq, Nat.not_le.mpr hindex, iff_false]
      split
      · simp
      · split <;> simp

theorem Along.turn (h : Along listenFd begun r) (hs : r.turn listenFd returns = some r') :
    Along listenFd begun r' := by
  have hover : r.isOver = false := by
    cases hover : r.isOver with
    | false => rfl
    | true =>
      rw [turn_eq_none.mpr hover] at hs
      cases hs
  rcases h with ⟨fates, stays, passed, rest, new, h⟩ | ⟨_, _, _, _, h⟩
  · cases rest with
    | cons current rest => exact h.turn_rest hs
    | nil =>
      cases new with
      | cons current new => exact .inl ⟨_, _, _, _, _, h.turn_new hs⟩
      | nil =>
        have hcurrent := h.current_eq
        rw [List.append_nil, List.head?_nil, List.getElem?_eq_none_iff] at hcurrent
        simp [isOver, hcurrent] at hover
  · simp [isOver, h.left] at hover

/-- A bound on the turns that are left: an appended entry is paid for by the one that was ready. -/
def remaining (r : PollRound) : Nat :=
  if r.left then 0 else r.pollFds.length - r.index + (r.pollFds.drop r.index).countP PollEntry.isReady

theorem remaining_eq (hleft : r.left = false) (hcurrent : r.pollFds[r.index]? = some current) :
    r.remaining = r.pollFds.length - (r.index + 1) + (r.pollFds.drop (r.index + 1)).countP PollEntry.isReady +
      (if current.revents = 0 then 0 else 1) + 1 := by
  obtain ⟨hindex, rfl⟩ := List.getElem?_eq_some_iff.mp hcurrent
  rw [remaining, if_neg (by simp [hleft]), List.drop_eq_getElem_cons hindex, List.countP_cons]
  by_cases hready : r.pollFds[r.index].revents = 0
  · simp only [PollEntry.isReady, hready, ne_eq, not_true_eq_false, decide_false, if_true,
      Bool.false_eq_true, if_false]
    omega
  · simp only [PollEntry.isReady, hready, ne_eq, not_false_eq_true, decide_true, if_true, if_false]
    omega

variable (current returns) in
theorem remaining_acceptTurn (hleft : r.left = false) (hindex : r.index < r.pollFds.length)
    (hdrop : ∀ e, (r.pollFds.set r.index e).drop (r.index + 1) = r.pollFds.drop (r.index + 1)) :
    (r.acceptTurn current returns).remaining ≤
      r.pollFds.length - (r.index + 1) + (r.pollFds.drop (r.index + 1)).countP PollEntry.isReady + 1 := by
  rw [acceptTurn]
  split
  · cases returns.acceptClientSocket with
    | some clientFd =>
      have happend : (appendClientPollFd (r.pollFds.set r.index { current with revents := 0 }) clientFd).drop
          (r.index + 1) = r.pollFds.drop (r.index + 1) ++ [⟨clientFd, pollInFlag, 0⟩] := by
        rw [appendClientPollFd, List.drop_append_of_le_length (by rw [List.length_set]; omega), hdrop]
      simp only [remaining, hleft, happend]
      simp [appendClientPollFd, PollEntry.isReady]
      omega
    | none =>
      simp only [remaining, if_true]
      omega
  · simp only [remaining, hleft, hdrop, List.length_set, Bool.false_eq_true, if_false]
    omega

variable (current returns) in
theorem remaining_clientTurn (hleft : r.left = false) (hindex : r.index < r.pollFds.length)
    (hdrop : ∀ e, (r.pollFds.set r.index e).drop (r.index + 1) = r.pollFds.drop (r.index + 1)) :
    (r.clientTurn current returns).remaining ≤
      r.pollFds.length - (r.index + 1) + (r.pollFds.drop (r.index + 1)).countP PollEntry.isReady := by
  rw [clientTurn]
  split
  · simp only [remaining, hleft, hdrop, List.length_set, Bool.false_eq_true, if_false]
    omega
  · have herase : (r.pollFds.eraseIdx r.index).drop r.index = r.pollFds.drop (r.index + 1) := by
      rw [List.eraseIdx_eq_take_drop_succ, List.drop_left' (List.length_take_of_le hindex.le)]
    simp only [remaining, hleft, herase, List.length_eraseIdx_of_lt hindex, Bool.false_eq_true, if_false]
    omega
  · simp only [remaining, if_true]
    omega

/-- Every turn brings the end of the loop nearer. -/
theorem remaining_lt (hs : r.turn listenFd returns = some r') : r'.remaining < r.remaining := by
  rw [PollRound.turn] at hs
  cases hleft : r.left with
  | true => simp [hleft] at hs
  | false =>
    rw [if_neg (by simp [hleft])] at hs
    cases hcurrent : r.pollFds[r.index]? with
    | none => simp [hcurrent] at hs
    | some current =>
      simp only [hcurrent] at hs
      have hindex := (List.getElem?_eq_some_iff.mp hcurrent).1
      have hdrop : ∀ e, (r.pollFds.set r.index e).drop (r.index + 1) = r.pollFds.drop (r.index + 1) := fun e =>
        List.drop_set_of_lt (Nat.lt_succ_self r.index)
      rw [remaining_eq hleft hcurrent]
      split at hs
      · next hidle =>
        cases hs
        simp only [remaining, hleft, Bool.false_eq_true, if_false, if_pos hidle]
        omega
      · next hready =>
        rw [if_neg hready]
        split at hs
        · cases hs
          have hle := remaining_acceptTurn returns current hleft hindex hdrop
          omega
        · cases hs
          have hle := remaining_clientTurn returns current hleft hindex hdrop
          omega

/-- What was handled is what was ready, in order. -/
theorem handledOf_entries {fates : List Fate} (h : ∀ fate ∈ fates, Fitting listenFd fate) :
    (handledOf fates).map Prod.fst = (fates.map Prod.fst).filter PollEntry.isReady := by
  induction fates with
  | nil => rfl
  | cons fate fates ih =>
    obtain ⟨hfate, hfates⟩ := List.forall_mem_cons.mp h
    obtain ⟨entry, treatment⟩ := fate
    have hrest : (handledOf fates).map Prod.fst = (fates.map Prod.fst).filter PollEntry.isReady := ih hfates
    cases treatment with
    | none =>
      have hidle : entry.isReady = false := by simpa [PollEntry.isReady, Fitting] using hfate
      have hcons : handledOf ((entry, none) :: fates) = handledOf fates := by simp [handledOf]
      rw [hcons, hrest, List.map_cons, List.filter_cons_of_neg (by simp [hidle])]
    | some treatment =>
      have hready : entry.isReady = true := by simpa [PollEntry.isReady] using hfate.1
      have hcons : handledOf ((entry, some treatment) :: fates) = (entry, treatment) :: handledOf fates := by
        simp [handledOf]
      rw [hcons, List.map_cons, hrest, List.map_cons, List.filter_cons_of_pos hready]

theorem survivors_listening {fate : Fate} (hfitting : Fitting fate.1.fd fate) (fates : List Fate) :
    survivors (fate :: fates) = fate.1.fd :: survivors fates := by
  have hstays : fate.2 ≠ some .removed := by
    intro hremoved
    rw [Fitting, hremoved] at hfitting
    simp [Treatment.isOfListening] at hfitting
  simp [survivors, hstays]

theorem acceptedFd_client {fate : Fate} (hfitting : Fitting listenFd fate) (hclient : fate.1.fd ≠ listenFd) :
    acceptedFd fate = none := by
  rw [acceptedFd]
  split
  · next clientFd haccepted =>
    rw [Fitting, haccepted] at hfitting
    exact absurd (hfitting.2.mp rfl) hclient
  · rfl

section

variable {listening : PollEntry} {clients : List PollEntry}

/-- A round that came to its end has passed every entry that was there when it began. -/
theorem Scanned.over {fates : List Fate} {stays passed rest new : List PollEntry}
    (h : Scanned listenFd begun r fates stays passed rest new) (hover : r.isOver = true) :
    begun = fates.map Prod.fst ∧ r.pollFds.map PollEntry.fd = survivors fates ++ fates.filterMap acceptedFd := by
  have hindex : r.pollFds.length ≤ r.index := by simpa [isOver, h.left] using hover
  have hnone := h.current_eq
  rw [List.getElem?_eq_none hindex] at hnone
  obtain ⟨rfl, rfl⟩ := List.append_eq_nil_iff.mp (List.head?_eq_none_iff.mp hnone.symm)
  have happended := h.appended
  rw [List.append_nil] at happended
  constructor
  · rw [h.entries, List.append_nil]
  · rw [h.pollFds, List.append_nil, List.append_nil, List.map_append, h.surviving, happended]

/-- An exception leaves the round at the listening entry, or at a client. -/
theorem Abandoned.left_at {fates : List Fate} {treatment : Treatment} {rest : List PollEntry}
    (h : Abandoned listenFd (listening :: clients) r fates current treatment rest)
    (hlisten : listening.fd = listenFd) (hclients : ∀ client ∈ clients, client.fd ≠ listenFd) :
    r.handled = [(listening, .acceptThrew)] ∨
      ∃ client ∈ clients, r.handled.getLast? = some (client, .clientThrew) := by
  have hthrew := h.threw
  have hof := h.fitting.2
  have hentries := h.entries
  cases fates with
  | nil =>
    obtain ⟨rfl, -⟩ := List.cons.inj hentries
    left
    have hof : treatment.isOfListening = true := hof.mpr hlisten
    rw [h.handled]
    cases treatment with
    | acceptThrew => rfl
    | nothingToAccept | accepted | kept | removed => cases hthrew
    | clientThrew => cases hof
  | cons fate fates =>
    obtain ⟨-, hrest⟩ := List.cons.inj hentries
    have hmem : current ∈ clients := by
      rw [hrest]
      exact List.mem_append_right _ List.mem_cons_self
    right
    refine ⟨current, hmem, ?_⟩
    rw [h.handled, List.getLast?_concat]
    cases treatment with
    | clientThrew => rfl
    | nothingToAccept | accepted | kept | removed => cases hthrew
    | acceptThrew => exact absurd (hof.mp rfl) (hclients current hmem)

/-- However the calls return, a round ends, and unless an exception leaves it every descriptor that
was ready was handled once, in order, and no other one; what stays is in order, before what was accepted. -/
theorem serves_each_once (hlisten : listening.fd = listenFd)
    (hclients : ∀ client ∈ clients, client.fd ≠ listenFd) {answers : List Returns}
    (hrun : Runs.run (turn listenFd) (start (listening :: clients)) answers = some r) :
    answers.length ≤ (listening :: clients).length + (listening :: clients).countP PollEntry.isReady ∧
    (r.isOver = false → ∀ returns, ∃ r', r.turn listenFd returns = some r') ∧
    (r.isOver = true → r.left = false →
      r.handled.map Prod.fst = (listening :: clients).filter PollEntry.isReady ∧
      ∃ fate clientFates, fate.1 = listening ∧ clientFates.map Prod.fst = clients ∧
        (∀ fate' ∈ fate :: clientFates, Fitting listenFd fate') ∧
        r.handled = handledOf (fate :: clientFates) ∧
        r.pollFds.map PollEntry.fd = listenFd :: survivors clientFates ++ (acceptedFd fate).toList) ∧
    (r.left = true → r.handled = [(listening, .acceptThrew)] ∨
      ∃ client ∈ clients, r.handled.getLast? = some (client, .clientThrew)) := by
  have halong : Along listenFd (listening :: clients) r :=
    Runs.run_invariant (fun _ _ _ h hs => h.turn hs) (.start listenFd (listening :: clients)) hrun
  refine ⟨?_, ?_, ?_, ?_⟩
  · have hle := Runs.length_le_of_lt (P := fun _ => True) remaining
      (fun _ _ _ _ hs => ⟨trivial, remaining_lt hs⟩) trivial hrun
    have hstart : (start (listening :: clients)).remaining =
        (listening :: clients).length + (listening :: clients).countP PollEntry.isReady := rfl
    omega
  · intro hover returns
    refine Option.ne_none_iff_exists'.mp fun hnone => ?_
    rw [turn_eq_none.mp hnone] at hover
    cases hover
  · intro hover hleft
    obtain ⟨fates, stays, passed, rest, new, h⟩ | ⟨_, _, _, _, h⟩ := halong
    · obtain ⟨hentries, hpollFds⟩ := h.over hover
      refine ⟨by rw [h.handled, handledOf_entries h.fitting, ← hentries], ?_⟩
      obtain ⟨fate, clientFates, rfl, rfl, rfl⟩ := List.map_eq_cons_iff.mp hentries.symm
      refine ⟨fate, clientFates, rfl, rfl, h.fitting, h.handled, ?_⟩
      obtain ⟨hfate, hclientFates⟩ := List.forall_mem_cons.mp h.fitting
      have haccepted : clientFates.filterMap acceptedFd = [] := by
        refine List.filterMap_eq_nil_iff.mpr fun fate' hmem => ?_
        exact acceptedFd_client (hclientFates fate' hmem) (hclients fate'.1 (List.mem_map_of_mem hmem))
      rw [hpollFds, survivors_listening (hlisten ▸ hfate), hlisten, List.filterMap_cons, haccepted]
      cases acceptedFd fate <;> rfl
    · cases hleft.symm.trans h.left
  · intro hleft
    obtain ⟨_, _, _, _, _, h⟩ | ⟨_, _, _, _, h⟩ := halong
    · cases hleft.symm.trans h.left
    · exact h.left_at hlisten hclients

end

/-- A round with the listening descriptor 3 in which 4 and 5 go, side by side, then the last one. -/
def busyRound : List PollEntry :=
  [⟨3, pollInFlag, pollInFlag⟩, ⟨4, pollInFlag, 0x010⟩, ⟨5, pollInFlag, pollInFlag⟩, ⟨6, pollInFlag, 0⟩,
    ⟨7, pollInFlag, pollInFlag⟩, ⟨8, pollInFlag, 0x011⟩]

def busyAnswers : List Returns :=
  [⟨some 9, none, false⟩, ⟨none, some false, false⟩, ⟨none, some false, false⟩, ⟨none, none, false⟩,
    ⟨none, some true, true⟩, ⟨none, some false, false⟩, ⟨none, none, false⟩]

def busyEnd : PollRound where
  pollFds := [⟨3, pollInFlag, 0⟩, ⟨6, pollInFlag, 0⟩, ⟨7, pollInFlag ||| pollOutFlag, 0⟩, ⟨9, pollInFlag, 0⟩]
  index := 4
  handled :=
    [(⟨3, pollInFlag, pollInFlag⟩, .accepted 9), (⟨4, pollInFlag, 0x010⟩, .removed),
      (⟨5, pollInFlag, pollInFlag⟩, .removed), (⟨7, pollInFlag, pollInFlag⟩, .kept),
      (⟨8, pollInFlag, 0x011⟩, .removed)]
  left := false

theorem serves_each_once_busy :
    Runs.run (turn 3) (start busyRound) busyAnswers = some busyEnd ∧
      busyEnd.handled.map Prod.fst = busyRound.filter PollEntry.isReady := by
  have hrun : Runs.run (turn 3) (start busyRound) busyAnswers = some busyEnd := by decide
  exact ⟨hrun, ((serves_each_once rfl (by decide) hrun).2.2.1 rfl rfl).1⟩

/-- When `accept` throws, a client that was ready too is not handled. -/
theorem accept_leaves :
    ¬ ∀ (listenFd : Fd) (listening : PollEntry) (clients : List PollEntry) (answers : List Returns)
      (r : PollRound), listening.fd = listenFd → (∀ client ∈ clients, client.fd ≠ listenFd) →
      Runs.run (turn listenFd) (start (listening :: clients)) answers = some r → r.isOver = true →
      r.handled.map Prod.fst = (listening :: clients).filter PollEntry.isReady := by
  intro h
  have hall := h 3 ⟨3, pollInFlag, pollInFlag⟩ [⟨4, pollInFlag, pollInFlag⟩] [⟨none, none, false⟩]
    { pollFds := [⟨3, pollInFlag, 0⟩, ⟨4, pollInFlag, pollInFlag⟩]
      index := 0
      handled := [(⟨3, pollInFlag, pollInFlag⟩, .acceptThrew)]
      left := true } rfl (by decide) (by decide) rfl
  exact absurd hall (by decide)

end PollRound

/-- The `short` with these flags. -/
def PollEvents.bits (e : PollEvents) : BitVec 16 :=
  (if e.pollIn then pollInFlag else 0) ||| (if e.pollOut then pollOutFlag else 0) |||
    (if e.pollErr then 0x008 else 0) ||| (if e.pollHup then 0x010 else 0) ||| (if e.pollNval then 0x020 else 0)

theorem PollEvents.bits_eq_zero {e : PollEvents} : e.bits = 0 ↔ e = .none := by
  obtain ⟨pollIn, pollOut, pollErr, pollHup, pollNval⟩ := e
  cases pollIn <;> cases pollOut <;> cases pollErr <;> cases pollHup <;> cases pollNval <;> decide

theorem PollEvents.bits_pollIn {e : PollEvents} : e.bits &&& pollInFlag ≠ 0 ↔ e.pollIn = true := by
  obtain ⟨pollIn, pollOut, pollErr, pollHup, pollNval⟩ := e
  cases pollIn <;> cases pollOut <;> cases pollErr <;> cases pollHup <;> cases pollNval <;> decide

@[simp] theorem PollEvents.bits_none : PollEvents.none.bits = 0 := by decide

@[simp] theorem PollEvents.bits_input : PollEvents.input.bits = pollInFlag := by decide

@[simp] theorem PollEvents.bits_inputOutput : PollEvents.inputOutput.bits = pollInFlag ||| pollOutFlag := by
  decide

def PollFd.entry (e : PollFd) : PollEntry := ⟨e.fd, e.events.bits, e.revents.bits⟩

namespace PollLoop

variable {p p' : PollLoop} {index : Nat} {current : PollFd} {outside : Outside}

/-- The loop of the server at an index, and its round. -/
structure InRound (p : PollLoop) (r : PollRound) : Prop where
  pollFds : r.pollFds = p.pollFds.map PollFd.entry
  phase : p.phase = .turn r.index ∧ r.left = false ∨ p.phase = .polling ∧ r.isOver = true ∧ r.left = false ∨
    p.phase = .aborted ∧ r.left = true

theorem turn_of_entry {r : PollRound} {listenFd : Fd} (hleft : r.left = false) {e : PollEntry}
    (hentry : r.pollFds[r.index]? = some e) (returns : Returns) :
    r.turn listenFd returns =
      if e.revents = 0 then some { r with index := r.index + 1 }
      else if e.fd = listenFd then some (r.acceptTurn e returns)
      else some (r.clientTurn e returns) := by
  rw [PollRound.turn, if_neg (by simp [hleft])]
  simp only [hentry]

theorem entries_set (pollFds : List PollFd) (index : Nat) (e : PollFd) :
    (pollFds.map PollFd.entry).set index e.entry = (pollFds.set index e).map PollFd.entry := List.map_set.symm

theorem acceptTurn_round {r : PollRound} (hpollFds : r.pollFds = p.pollFds.map PollFd.entry)
    (hleft : r.left = false) (hs : p.acceptTurn r.index current outside = some p') :
    ∃ returns, InRound p' (r.acceptTurn current.entry returns) := by
  have hset : r.pollFds.set r.index { current.entry with revents := 0 } =
      (p.pollFds.set r.index { current with revents := .none }).map PollFd.entry := by
    have hentries := entries_set p.pollFds r.index { current with revents := .none }
    rw [hpollFds, ← hentries]
    simp [PollFd.entry]
  simp only [acceptTurn] at hs
  split at hs
  · next hin =>
    have hin : current.entry.revents &&& pollInFlag ≠ 0 := PollEvents.bits_pollIn.mpr hin
    split at hs
    · next clientFd _ =>
      obtain ⟨-, hsome⟩ := Option.ite_none_right_eq_some.mp hs
      cases hsome
      refine ⟨⟨some clientFd, none, false⟩, ?_⟩
      rw [PollRound.acceptTurn, if_pos hin]
      refine ⟨?_, .inl ⟨rfl, hleft⟩⟩
      simp only [PollRound.appendClientPollFd, appendClientPollFd, hset, List.map_append]
      simp [PollFd.entry]
    · cases hs
      refine ⟨⟨none, none, false⟩, ?_⟩
      rw [PollRound.acceptTurn, if_pos hin]
      exact ⟨hset, .inr (.inr ⟨rfl, rfl⟩)⟩
  · next hin =>
    have hin : ¬ current.entry.revents &&& pollInFlag ≠ 0 := fun h => hin (PollEvents.bits_pollIn.mp h)
    cases hs
    refine ⟨⟨none, none, false⟩, ?_⟩
    rw [PollRound.acceptTurn, if_neg hin]
    exact ⟨hset, .inl ⟨rfl, hleft⟩⟩

theorem clientTurn_round {r : PollRound} (hpollFds : r.pollFds = p.pollFds.map PollFd.entry)
    (hleft : r.left = false) (hphase : p.phase = .turn r.index)
    (hs : p.clientTurn r.index current outside = some p') :
    ∃ returns, InRound p' (r.clientTurn current.entry returns) := by
  simp only [clientTurn] at hs
  split at hs
  · cases hs
  · next x _ =>
    cases hs
    have hrefreshed : PollRound.refreshClientPollInterest current.entry
        (x.server.clientManager.hasPendingWrite current.fd) =
          (refreshClientPollInterest current x.server.clientManager current.fd).entry := by
      cases hpending : x.server.clientManager.hasPendingWrite current.fd <;>
        simp [PollRound.refreshClientPollInterest, refreshClientPollInterest, PollFd.entry, hpending]
    refine ⟨⟨none, some true, x.server.clientManager.hasPendingWrite current.fd⟩, ?_, .inl ⟨rfl, hleft⟩⟩
    simp only [PollRound.clientTurn, hrefreshed, hpollFds, entries_set]
  · next x _ =>
    cases hs
    refine ⟨⟨none, some false, false⟩, ?_, .inl ⟨hphase, hleft⟩⟩
    simp only [PollRound.clientTurn, hpollFds, removeClientAt, List.eraseIdx_map]
  · next x _ =>
    cases hs
    exact ⟨⟨none, none, false⟩, hpollFds, .inr (.inr ⟨rfl, rfl⟩)⟩

/-- A turn of the server is a turn of the round; without an entry at the index the round is over. -/
theorem InRound.turn {r : PollRound} (h : InRound p r) (hs : p.step (.turn outside) = some p') :
    (r.isOver = true ∧ InRound p' r) ∨ ∃ returns r',
      r.turn p.link.server.listenFd returns = some r' ∧ InRound p' r' := by
  obtain ⟨index, hphase, hs⟩ := step_turn hs
  have hturn : r.index = index ∧ r.left = false := by
    rcases h.phase with ⟨hindex, hleft⟩ | ⟨hpolling, -⟩ | ⟨haborted, -⟩
    · rw [hindex] at hphase
      cases hphase
      exact ⟨rfl, hleft⟩
    · cases hphase.symm.trans hpolling
    · cases hphase.symm.trans haborted
  obtain ⟨rfl, hleft⟩ := hturn
  have hentry : r.pollFds[r.index]? = p.pollFds[r.index]?.map PollFd.entry := by
    rw [h.pollFds, List.getElem?_map]
  cases hcurrent : p.pollFds[r.index]? with
  | none =>
    rw [forTurn_end hcurrent hs]
    rw [hcurrent, Option.map_none, List.getElem?_eq_none_iff] at hentry
    have hover : r.isOver = true := by simp [PollRound.isOver, hentry]
    exact .inl ⟨hover, h.pollFds, .inr (.inl ⟨rfl, hover, hleft⟩)⟩
  | some current =>
    rw [hcurrent, Option.map_some] at hentry
    right
    simp only [turn_of_entry hleft hentry]
    simp only [forTurn, hcurrent] at hs
    split at hs
    · next hidle =>
      cases hs
      have hidle : current.entry.revents = 0 := PollEvents.bits_eq_zero.mpr hidle
      exact ⟨⟨none, none, false⟩, _, if_pos hidle, h.pollFds, .inl ⟨rfl, hleft⟩⟩
    · next hready =>
      have hready : ¬ current.entry.revents = 0 := fun hzero => hready (PollEvents.bits_eq_zero.mp hzero)
      simp only [if_neg hready]
      split at hs
      · next hlisten =>
        have hlisten : current.entry.fd = p.link.server.listenFd := hlisten
        obtain ⟨returns, hround⟩ := acceptTurn_round h.pollFds hleft hs
        exact ⟨returns, _, if_pos hlisten, hround⟩
      · next hclient =>
        have hclient : ¬ current.entry.fd = p.link.server.listenFd := hclient
        obtain ⟨returns, hround⟩ := clientTurn_round h.pollFds hleft hphase hs
        exact ⟨returns, _, if_neg hclient, hround⟩

theorem Tracked.listenFd_step (h : Tracked p) {e : Event} (hs : p.step e = some p') :
    p'.link.server.listenFd = p.link.server.listenFd := by
  cases h.move hs with
  | steady hsteady _ => exact hsteady.listenFd
  | accepted _ hlink _ =>
    rw [hlink]
    rfl
  | removed hsteady _ _ hlink _ =>
    rw [hlink, Outbound.listenFd_disconnected (h.intact.serves hsteady.serves).linked]
    exact hsteady.listenFd

/-- The turns of the server from `poll` to the next `poll` are the turns of a round. -/
theorem InRound.run {r : PollRound} (h : InRound p r) (htracked : Tracked p) {outsides : List Outside}
    (hrun : Runs.run step p (outsides.map .turn) = some p') :
    ∃ answers r', Runs.run (PollRound.turn p.link.server.listenFd) r answers = some r' ∧ InRound p' r' := by
  induction outsides generalizing p r with
  | nil =>
    cases hrun
    exact ⟨[], r, rfl, h⟩
  | cons outside outsides ih =>
    obtain ⟨q, hq, hrun⟩ := Runs.run_cons_eq_some.mp hrun
    have hlisten := htracked.listenFd_step hq
    rcases h.turn hq with ⟨-, hq'⟩ | ⟨returns, r', hturn, hq'⟩
    · obtain ⟨answers, r'', hround, hend⟩ := ih hq' (htracked.step hq) hrun
      exact ⟨answers, r'', hlisten ▸ hround, hend⟩
    · obtain ⟨answers, r'', hround, hend⟩ := ih hq' (htracked.step hq) hrun
      exact ⟨returns :: answers, r'', Runs.run_cons_eq_some.mpr ⟨r', hturn, hlisten ▸ hround⟩, hend⟩

/-- When `poll` has returned, a round begins with the entries of the loop. -/
theorem inRound_start (hphase : p.phase = .turn 0) : InRound p (.start (p.pollFds.map PollFd.entry)) :=
  ⟨rfl, .inl ⟨hphase, rfl⟩⟩

/-- From one `poll` of the server to the next every entry is passed once, and what is left is what
survives, in order, before what was accepted. -/
theorem round_leaves (htracked : Tracked p) (hphase : p.phase = .turn 0) {outsides : List Outside}
    (hrun : Runs.run step p (outsides.map .turn) = some p') (hend : p'.phase = .polling) :
    ∃ fates : List Fate, fates.map Prod.fst = p.pollFds.map PollFd.entry ∧
      (∀ fate ∈ fates, Fitting p.link.server.listenFd fate) ∧
      p'.pollFds.map PollFd.fd = survivors fates ++ fates.filterMap acceptedFd := by
  obtain ⟨answers, r, hround, hin⟩ := (inRound_start hphase).run htracked hrun
  have halong : PollRound.Along p.link.server.listenFd (p.pollFds.map PollFd.entry) r :=
    Runs.run_invariant (fun _ _ _ h hs => h.turn hs) (.start _ _) hround
  have hover : r.isOver = true ∧ r.left = false := by
    rcases hin.phase with ⟨hturn, -⟩ | ⟨-, hover⟩ | ⟨haborted, -⟩
    · cases hend.symm.trans hturn
    · exact hover
    · cases hend.symm.trans haborted
  obtain ⟨fates, stays, passed, rest, new, h⟩ | ⟨_, _, _, _, h⟩ := halong
  · obtain ⟨hentries, hpollFds⟩ := h.over hover.1
    rw [hin.pollFds, List.map_map] at hpollFds
    exact ⟨fates, hentries.symm, h.fitting, hpollFds⟩
  · cases hover.2.symm.trans h.left

end PollLoop

end TeamsMirror
