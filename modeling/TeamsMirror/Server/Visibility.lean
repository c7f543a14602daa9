import Mathlib.Data.List.Find
import TeamsMirror.Server.Create

/-!
# What is seen of a store

A view sees some of the private messages and looks into some of the teams. The other
teams are there, under their names and with their subscribers, but seem to be empty.
-/

namespace TeamsMirror

open Lists

/-- Some of the private messages, and of all teams those that may be looked into. -/
structure Visibility where
  seesMessage : Message → Bool
  seesTeam : (teamUuid : Bytes) → Bool

namespace Visibility

def all : Visibility := ⟨fun _ => true, fun _ => true⟩

variable (view : Visibility)

/-- A team that may not be looked into is there, but seems to be empty. -/
def outline (team : Team) : Team :=
  if view.seesTeam team.uuid.bytes then team else { team with channels := [] }

variable {view} {team team' : Team}

theorem outline_of_sees (h : view.seesTeam team.uuid.bytes = true) : view.outline team = team := if_pos h

@[simp] theorem uuid_outline : (view.outline team).uuid = team.uuid := by
  unfold outline
  split <;> rfl

@[simp] theorem name_outline : (view.outline team).name = team.name := by
  unfold outline
  split <;> rfl

@[simp] theorem description_outline : (view.outline team).description = team.description := by
  unfold outline
  split <;> rfl

@[simp] theorem subscribedUserUuids_outline :
    (view.outline team).subscribedUserUuids = team.subscribedUserUuids := by
  unfold outline
  split <;> rfl

theorem outline_outline (team : Team) : view.outline (view.outline team) = view.outline team := by
  cases hsees : view.seesTeam team.uuid.bytes <;> simp [outline, hsees]

/-- What can be told of a team from the outside. -/
theorem outside_eq (h : view.outline team' = view.outline team) :
    team'.uuid = team.uuid ∧ team'.name = team.name ∧ team'.description = team.description ∧
      team'.subscribedUserUuids = team.subscribedUserUuids := by
  refine ⟨?_, ?_, ?_, ?_⟩
  · simpa using congrArg Team.uuid h
  · simpa using congrArg Team.name h
  · simpa using congrArg Team.description h
  · simpa using congrArg Team.subscribedUserUuids h

theorem isUserSubscribed_outline (view : Visibility) (userUuid : Bytes) (team : Team) :
    (view.outline team).isUserSubscribed userUuid = team.isUserSubscribed userUuid := by
  rw [Team.isUserSubscribed, subscribedUserUuids_outline, Team.isUserSubscribed]

theorem isUserSubscribed_eq (h : view.outline team' = view.outline team) (userUuid : Bytes) :
    team'.isUserSubscribed userUuid = team.isUserSubscribed userUuid := by
  have hteam := view.isUserSubscribed_outline userUuid team
  have hteam' := view.isUserSubscribed_outline userUuid team'
  rw [← hteam, ← hteam', h]

theorem buildTeamPayload_outline (view : Visibility) (team : Team) :
    buildTeamPayload (view.outline team) = buildTeamPayload team := by
  rw [buildTeamPayload, uuid_outline, name_outline, description_outline, buildTeamPayload]

/-- A team that is seen is the same in both. -/
theorem eq_of_sees (h : view.outline team' = view.outline team) (hsees : view.seesTeam team.uuid.bytes = true) :
    team' = team := by
  have hsees' : view.seesTeam team'.uuid.bytes = true := by rw [(outside_eq h).1, hsees]
  rwa [outline_of_sees hsees', outline_of_sees hsees] at h

/-- A team that is not seen can change inside. -/
theorem outline_eq_of_hidden (hhidden : view.seesTeam team.uuid.bytes = false) (channels : List Channel) :
    view.outline { team with channels := channels } = view.outline team := by
  simp [outline, hhidden]

theorem outline_addSubscribedUser (h : view.outline team' = view.outline team) (userUuid : Bytes) :
    view.outline (team'.addSubscribedUser userUuid) = view.outline (team.addSubscribedUser userUuid) := by
  have hadd : ∀ t : Team, view.outline (t.addSubscribedUser userUuid) =
      (view.outline t).addSubscribedUser userUuid := by
    intro t
    cases hsees : view.seesTeam t.uuid.bytes <;> simp [outline, Team.addSubscribedUser, hsees]
  rw [hadd, hadd, h]

theorem outline_removeSubscribedUser (h : view.outline team' = view.outline team) (userUuid : Bytes) :
    view.outline (team'.removeSubscribedUser userUuid).2 = view.outline (team.removeSubscribedUser userUuid).2 := by
  have hremove : ∀ t : Team, view.outline (t.removeSubscribedUser userUuid).2 =
      ((view.outline t).removeSubscribedUser userUuid).2 := by
    intro t
    cases hsees : view.seesTeam t.uuid.bytes <;> simp [outline, Team.removeSubscribedUser, hsees]
  rw [hremove, hremove, h]

theorem removed_eq (h : view.outline team' = view.outline team) (userUuid : Bytes) :
    (team'.removeSubscribedUser userUuid).1 = (team.removeSubscribedUser userUuid).1 := by
  rw [Team.removeSubscribedUser, Team.removeSubscribedUser, (outside_eq h).2.2.2]

end Visibility

section Teams

variable {view : Visibility} {teams teams' : List Team}

theorem findTeamByUuid_outline (teams : List Team) (teamUuid : Bytes) :
    findTeamByUuid (teams.map view.outline) teamUuid = (findTeamByUuid teams teamUuid).map view.outline := by
  rw [findTeamByUuid, findTeamByUuid, List.find?_map]
  congr 2
  funext team
  simp

/-- A search finds the same team, as far as it is seen, or none in both. -/
theorem findTeamByUuid_cases (h : teams'.map view.outline = teams.map view.outline) (teamUuid : Bytes) :
    findTeamByUuid teams teamUuid = none ∧ findTeamByUuid teams' teamUuid = none ∨
      ∃ team team', findTeamByUuid teams teamUuid = some team ∧ findTeamByUuid teams' teamUuid = some team' ∧
        view.outline team' = view.outline team := by
  have hfind : (findTeamByUuid teams' teamUuid).map view.outline =
      (findTeamByUuid teams teamUuid).map view.outline := by
    rw [← findTeamByUuid_outline, ← findTeamByUuid_outline, h]
  cases hteam : findTeamByUuid teams teamUuid with
  | none =>
    rw [hteam, Option.map_none, Option.map_eq_none_iff] at hfind
    exact .inl ⟨rfl, hfind⟩
  | some team =>
    rw [hteam, Option.map_some, Option.map_eq_some_iff] at hfind
    obtain ⟨team', hteam', houtline⟩ := hfind
    exact .inr ⟨team, team', rfl, hteam', houtline⟩

theorem updateTeam_outline {f f' : Team → Team} {teamUuid : Bytes}
    (h : teams'.map view.outline = teams.map view.outline)
    (hf : ∀ team team', team.uuid.bytes = teamUuid → view.outline team' = view.outline team →
      view.outline (f' team') = view.outline (f team)) :
    (updateTeam teams' teamUuid f').map view.outline = (updateTeam teams teamUuid f).map view.outline := by
  refine map_modifyFirst_congr (fun team team' hteam => ?_) (fun team team' hteam houtline => ?_) h
  · rw [(Visibility.outside_eq hteam).1]
  · exact hf team team' (of_decide_eq_true hteam) houtline

/-- A property of teams that can be told from the outside. -/
theorem any_outline {p : Team → Bool} (hp : ∀ team, p (view.outline team) = p team)
    (h : teams'.map view.outline = teams.map view.outline) : teams'.any p = teams.any p := by
  have hany : ∀ teams : List Team, teams.any p = (teams.map view.outline).any p := by
    intro teams
    rw [List.any_map]
    congr 1
    funext team
    exact (hp team).symm
  rw [hany, hany teams, h]

/-- What a filter on the outside of teams leaves. -/
theorem filter_outline {p : Team → Bool} (hp : ∀ team, p (view.outline team) = p team)
    (h : teams'.map view.outline = teams.map view.outline) :
    (teams'.filter p).map view.outline = (teams.filter p).map view.outline := by
  have hfilter : ∀ teams : List Team, (teams.filter p).map view.outline =
      (teams.map view.outline).filter p := by
    intro teams
    rw [List.filter_map]
    congr 2
    funext team
    exact (hp team).symm
  rw [hfilter, hfilter, h]

/-- What is read off the outside of teams. -/
theorem map_outside {β : Type} {g : Team → β} (hg : ∀ team, g (view.outline team) = g team)
    (h : teams'.map view.outline = teams.map view.outline) : teams'.map g = teams.map g := by
  have hmap : ∀ teams : List Team, teams.map g = (teams.map view.outline).map g := by
    intro teams
    rw [List.map_map]
    exact List.map_congr_left fun team _ => (hg team).symm
  rw [hmap, hmap teams, h]

/-- No uuid that may be drawn is the one of a channel or thread in a team that may not be looked into. -/
def Visibility.Undrawn (view : Visibility) (teams : List Team) (environment : Environment) : Prop :=
  ∀ draw ∈ environment.draw :: environment.redraws,
    isChannelUuidUsed (teams.filter fun team => !view.seesTeam team.uuid.bytes) (generateUuid draw) = false ∧
    isThreadUuidUsed (teams.filter fun team => !view.seesTeam team.uuid.bytes) (generateUuid draw) = false

/-- A search of all teams finds what it finds outside, or it finds something that is not seen. -/
theorem any_eq_or {p : Team → Bool} (hp : ∀ team, team.channels = [] → p team = false) (teams : List Team) :
    teams.any p = ((teams.map view.outline).any p ||
      (teams.filter fun team => !view.seesTeam team.uuid.bytes).any p) := by
  induction teams with
  | nil => rfl
  | cons team teams ih =>
    rw [List.map_cons, List.any_cons, List.any_cons, ih]
    cases hsees : view.seesTeam team.uuid.bytes with
    | true =>
      rw [Visibility.outline_of_sees hsees, List.filter_cons_of_neg (by simp [hsees]), Bool.or_assoc]
    | false =>
      have hempty : p (view.outline team) = false := hp _ (by simp [Visibility.outline, hsees])
      rw [hempty, List.filter_cons_of_pos (by simp [hsees]), List.any_cons, Bool.false_or,
        Bool.or_left_comm]

/-- Searches that agree on what is drawn choose the same uuid. -/
theorem generateUnused_congr {environment : Environment} {used used' : Bytes → Bool}
    (h : ∀ draw ∈ environment.draw :: environment.redraws, used' (generateUuid draw) = used (generateUuid draw)) :
    generateUnused environment used' = generateUnused environment used := by
  refine List.find?_congr fun uuid huuid => ?_
  obtain ⟨draw, hdraw, rfl⟩ := List.mem_map.mp huuid
  rw [h draw hdraw]

variable {environment : Environment}

/-- A channel gets the same uuid, whatever the teams contain that are not seen. -/
theorem generateUnused_channel (h : teams'.map view.outline = teams.map view.outline)
    (hundrawn : view.Undrawn teams environment) (hundrawn' : view.Undrawn teams' environment) :
    generateUnused environment (isChannelUuidUsed teams') =
      generateUnused environment (isChannelUuidUsed teams) := by
  have hused : ∀ teams uuid, isChannelUuidUsed teams uuid =
      (isChannelUuidUsed (teams.map view.outline) uuid ||
        isChannelUuidUsed (teams.filter fun team => !view.seesTeam team.uuid.bytes) uuid) := by
    intro teams uuid
    exact any_eq_or (fun team hempty => by rw [hempty]; rfl) teams
  refine generateUnused_congr fun draw hdraw => ?_
  rw [hused, hused teams, h, (hundrawn draw hdraw).1, (hundrawn' draw hdraw).1]

theorem generateUnused_thread (h : teams'.map view.outline = teams.map view.outline)
    (hundrawn : view.Undrawn teams environment) (hundrawn' : view.Undrawn teams' environment) :
    generateUnused environment (isThreadUuidUsed teams') =
      generateUnused environment (isThreadUuidUsed teams) := by
  have hused : ∀ teams uuid, isThreadUuidUsed teams uuid =
      (isThreadUuidUsed (teams.map view.outline) uuid ||
        isThreadUuidUsed (teams.filter fun team => !view.seesTeam team.uuid.bytes) uuid) := by
    intro teams uuid
    exact any_eq_or (fun team hempty => by rw [hempty]; rfl) teams
  refine generateUnused_congr fun draw hdraw => ?_
  rw [hused, hused teams, h, (hundrawn draw hdraw).2, (hundrawn' draw hdraw).2]

/-- Where every team is seen, nothing is in use that is not seen. -/
theorem Visibility.undrawn_of_sees (h : ∀ teamUuid, view.seesTeam teamUuid = true) : view.Undrawn teams environment := by
  intro draw _
  simp [h, isChannelUuidUsed, isThreadUuidUsed]

end Teams

end TeamsMirror
