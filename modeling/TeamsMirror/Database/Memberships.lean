import TeamsMirror.Database.Histories
import TeamsMirror.Server.Membership

/-!
# The history of a membership

Through any number of lives of the server, a user is subscribed to a team exactly if
the last thing the user did about it was to create it or to subscribe to it.
-/

namespace TeamsMirror

namespace History

theorem kept_enrolled : Kept Server.memberships fun _ teams _ notes => Enrolled teams notes where
  empty := .empty
  identity _ h := h
  step hw hs h := Server.enrolled_step hw.sound.storable h hs

/-- In every life of a server whose saves are complete, the last creation, subscription or
unsubscription decides about a membership, and both lists and the permission checks show it. -/
theorem memberships_follow_history {listenFd : Fd} {disk : Disk} {events : List World.Event}
    {h : History Membership} (hempty : ∀ file, readTextFile (disk file) = [])
    (hsaved : Runs.Always (step Server.memberships) Saved (boot listenFd disk) events)
    (hrun : Runs.run (step Server.memberships) (boot listenFd disk) events = some h) :
    ∀ u ∈ h.world.server.users, ∀ t ∈ h.world.server.teams,
      (t.isUserSubscribed u.uuid.bytes = true ↔ lastMembership h.notes u.uuid.bytes t.uuid.bytes = some true) ∧
        h.world.server.Dual u t := by
  obtain ⟨hintegral, henrolled⟩ := kept_enrolled.run hempty hsaved hrun
  intro u hu t ht
  have hunique := hintegral.unique
  have hdual : h.world.server.Dual u t := Server.dual hintegral.reachable hintegral.referential.server
    hintegral.sound.storable hunique.userUuids (hunique.subscribers t ht) hu ht
  exact ⟨henrolled.subscribed t ht u.uuid.bytes, hdual⟩

/-- Connection 5 subscribes to the team of connection 4, and leaves it after a restart. -/
def leavingRun : List World.Event :=
  let draw := fun _ => Fin.last 15
  let team := generateUuid (default : Environment).draw
  [.server (.accept 4), .server (.accept 5),
    .server (.receive 4 (Request.login [97]).packet), .server (.dispatch 4 default),
    .server (.receive 5 (Request.login [98]).packet),
    .server (.dispatch 5 { (default : Environment) with draw := draw }),
    .server (.receive 4 (Request.createTeam [99] []).packet), .server (.dispatch 4 default),
    .server (.receive 5 (Request.subscribe team).packet), .server (.dispatch 5 default),
    .restart (fun _ => .opened [] 1000) 3, .server (.accept 4),
    .server (.receive 4 (Request.login [98]).packet), .server (.dispatch 4 default),
    .server (.receive 4 (Request.unsubscribe team).packet), .server (.dispatch 4 default)]

theorem memberships_follow_history_leaving :
    ∃ h, Runs.run (step Server.memberships) (boot 3 fun _ => none) leavingRun = some h ∧
      h.notes.map Membership.joins = [true, true, false] ∧
      ∃ u ∈ h.world.server.users, ∃ v ∈ h.world.server.users, ∃ t ∈ h.world.server.teams,
        (t.isUserSubscribed u.uuid.bytes = true ∧ h.world.server.Dual u t) ∧
          t.isUserSubscribed v.uuid.bytes = false ∧ h.world.server.Dual v t := by
  have hfacts : (Runs.run (step Server.memberships) (boot 3 fun _ => none) leavingRun).map (fun h =>
      (h.notes, h.world.server.users.map (fun u => u.uuid.bytes),
        h.world.server.teams.map fun t => t.uuid.bytes)) =
      some ([⟨generateUuid (default : Environment).draw, generateUuid (default : Environment).draw, true⟩,
          ⟨generateUuid fun _ => Fin.last 15, generateUuid (default : Environment).draw, true⟩,
          ⟨generateUuid fun _ => Fin.last 15, generateUuid (default : Environment).draw, false⟩],
        [generateUuid (default : Environment).draw, generateUuid fun _ => Fin.last 15],
        [generateUuid (default : Environment).draw]) := by decide +kernel
  obtain ⟨h, hh, hfacts⟩ := Option.map_eq_some_iff.mp hfacts
  simp only [Prod.mk.injEq] at hfacts
  obtain ⟨hnotes, husers, hteams⟩ := hfacts
  obtain ⟨u, hu, huuid⟩ := List.mem_map.mp (husers ▸ List.mem_cons_self)
  obtain ⟨v, hv, hvuuid⟩ := List.mem_map.mp (husers ▸ List.mem_cons_of_mem _ List.mem_cons_self)
  obtain ⟨t, ht, htuuid⟩ := List.mem_map.mp (hteams ▸ List.mem_cons_self)
  have hall := memberships_follow_history (fun _ => rfl) (by decide +kernel) hh
  obtain ⟨huiff, hudual⟩ := hall u hu t ht
  obtain ⟨hviff, hvdual⟩ := hall v hv t ht
  refine ⟨h, hh, by rw [hnotes]; rfl, u, hu, v, hv, t, ht, ⟨huiff.mpr ?_, hudual⟩, ?_, hvdual⟩
  · rw [hnotes, huuid, htuuid]
    decide +kernel
  · rw [Bool.eq_false_iff, ne_eq, hviff, hnotes, hvuuid, htuuid]
    decide +kernel

end History

end TeamsMirror
