import TeamsMirror.Client.Commands
import TeamsMirror.Link.Addressing
import TeamsMirror.Link.Turns

/-!
# Reported uuids are addresses

A client learns uuids from replies and events only. Whatever it has learned, in this
life of the server or in an earlier one, it may send back.
-/

namespace TeamsMirror

open Lists

/-- All mentions in the packets that an event queues. -/
def Server.mentions : Recorder Mention := fun _ _ queued => queued.flatMap fun q => q.2.payload.mentions

/-- Requests with the uuid of the entity, or a context that ends with it, are about the entity. -/
def Entity.AddressedIn (s : Server) : Entity → Prop
  | .user x => s.AddressesUser x
  | .team t => s.AddressesTeam t ∧ s.Leads (.team t)
  | .channel t c => s.Leads (.channel t c)
  | .thread t c d => s.Leads (.thread t c d)

namespace Server

variable {s : Server}

theorem Orderly.addressed (h : s.Orderly) {x : Entity} (hx : x.StoredIn s.users s.teams) : x.AddressedIn s := by
  cases x with
  | user x => exact h.addressesUser hx
  | team t => exact ⟨h.addressesTeam hx, h.leads (.team t) hx⟩
  | channel t c => exact h.leads (.channel t c) hx
  | thread t c d => exact h.leads (.thread t c d) hx

theorem Orderly.formatted (h : s.Orderly) {x : Entity} (hx : x.StoredIn s.users s.teams) :
    isUuidFormatValid x.uuid.bytes = true := by
  cases x with
  | user x => exact h.users x hx
  | team t => exact (h.teams t hx).1
  | channel t c => exact ((h.teams t hx.1).2 c hx.2).1
  | thread t c d => exact ((h.teams t hx.1).2 c hx.2.1).2 d hx.2.2

/-- A kind and a uuid determine the entity with all its parents. -/
theorem Orderly.entity_unique (h : s.Orderly) {x y : Entity} (hx : x.StoredIn s.users s.teams)
    (hy : y.StoredIn s.users s.teams) (hkind : y.kind = x.kind) (huuid : y.uuid = x.uuid) : y = x := by
  cases x with
  | user x =>
    cases y with
    | user y => rw [List.inj_on_of_nodup_map h.unique.userUuids hy hx huuid]
    | _ => cases hkind
  | team t =>
    cases y with
    | team t' => rw [List.inj_on_of_nodup_map h.unique.teamUuids hy hx huuid]
    | _ => cases hkind
  | channel t c =>
    cases y with
    | channel t' c' =>
      obtain ⟨ht, hc⟩ := hx
      obtain ⟨ht', hc'⟩ := hy
      have hmem : c.uuid ∈ t.channelUuids := List.mem_map_of_mem hc
      have hmem' : c'.uuid ∈ t'.channelUuids := List.mem_map_of_mem hc'
      have huuid : c'.uuid = c.uuid := huuid
      obtain rfl := eq_of_nodup_flatMap h.unique.channelUuids ht' ht (huuid ▸ hmem') hmem
      rw [List.inj_on_of_nodup_map ((List.nodup_flatMap.mp h.unique.channelUuids).1 _ ht) hc' hc huuid]
    | _ => cases hkind
  | thread t c d =>
    cases y with
    | thread t' c' d' =>
      obtain ⟨ht, hc, hd⟩ := hx
      obtain ⟨ht', hc', hd'⟩ := hy
      have hmem : d.uuid ∈ c.threadUuids := List.mem_map_of_mem hd
      have hmem' : d'.uuid ∈ c'.threadUuids := List.mem_map_of_mem hd'
      have huuid : d'.uuid = d.uuid := huuid
      rw [huuid] at hmem'
      obtain rfl := eq_of_nodup_flatMap h.unique.threadUuids ht' ht
        (List.mem_flatMap.mpr ⟨c', hc', hmem'⟩) (List.mem_flatMap.mpr ⟨c, hc, hmem⟩)
      have hteam := (List.nodup_flatMap.mp h.unique.threadUuids).1 _ ht
      obtain rfl := eq_of_nodup_flatMap hteam hc' hc hmem' hmem
      rw [List.inj_on_of_nodup_map ((List.nodup_flatMap.mp hteam).1 _ hc) hd' hd huuid]
    | _ => cases hkind

end Server

namespace History

/-- What was mentioned once is stored, with the texts that were shown. -/
theorem kept_mentions : Kept Server.mentions fun users teams _ notes =>
    (∀ n ∈ notes, n.Known users teams) ∧ FormattedTeams teams where
  empty := ⟨by simp, by simp [FormattedTeams]⟩
  identity {users users' _ _ _} hsame h := by
    refine ⟨fun n hn => ?_, h.2⟩
    have hidentities := identities_of_identity hsame
    exact (h.1 n hn).grows (fun _ hmem => hidentities ▸ hmem) (grows_refl Team.Grows.refl _)
  step {w s' e queued notes} hw hs h := by
    have hextends := Server.extends_step hs
    refine ⟨List.forall_mem_append.mpr ⟨fun n hn => ?_, fun n hn => ?_⟩,
      kept_formattedTeams.step hw.sound.known hs h.2⟩
    · exact (h.1 n hn).grows hextends.users.subset hextends.teams
    · obtain ⟨q, hq, hn⟩ := List.mem_flatMap.mp hn
      have hreferential := kept_referential.step hw.sound.known hs hw.referential.server
      exact (Server.handle_reports hs q hq).known hreferential n hn

theorem orderly {w : World} (h : w.Integral) (hteams : FormattedTeams w.server.teams) : w.server.Orderly where
  linked := h.reachable.linked
  unique := h.unique
  users := h.formatted.server
  teams := hteams
  hierarchical := h.reachable.hierarchical

/-- In every life of a server whose saves are complete, whatever uuid of a user, a team, a channel or
a thread it has ever reported is a valid one, stands for one entity, and leads to it. -/
theorem reported_addressable {listenFd : Fd} {disk : Disk} {events : List World.Event} {h : History Mention}
    (hempty : ∀ file, readTextFile (disk file) = [])
    (hsaved : Runs.Always (step Server.mentions) Saved (boot listenFd disk) events)
    (hrun : Runs.run (step Server.mentions) (boot listenFd disk) events = some h) :
    ∀ n ∈ h.notes, isUuidFormatValid n.uuid = true ∧ Cli.isValidUuid n.uuid = true ∧
      ∃ x : Entity, x.StoredIn h.world.server.users h.world.server.teams ∧ n.Of x ∧
        (∀ y : Entity, y.StoredIn h.world.server.users h.world.server.teams → y.kind = n.kind →
          y.uuid.bytes = n.uuid → y = x) ∧
        x.AddressedIn h.world.server := by
  obtain ⟨hintegral, hknown, hteams⟩ := kept_mentions.run hempty hsaved hrun
  have horderly := orderly hintegral hteams
  intro n hn
  obtain ⟨x, hx, hof⟩ := hknown n hn
  have hvalid : isUuidFormatValid n.uuid = true := by
    rw [hof.2.1]
    exact horderly.formatted hx
  refine ⟨hvalid, hvalid, x, hx, hof, fun y hy hkind huuid => ?_, horderly.addressed hx⟩
  exact horderly.entity_unique hx hy (hkind.trans hof.1) (CString.ext (huuid.trans hof.2.1))

/-- A user creates a team, a channel in it and a thread in that, before a restart. -/
def reportingRun : List World.Event :=
  let uuid := generateUuid (default : Environment).draw
  let send := fun request : Request =>
    [World.Event.server (.receive 4 request.packet), .server (.dispatch 4 default)]
  .server (.accept 4) :: (send (.login [97]) ++ send (.createTeam [98] []) ++ send (.use uuid [] []) ++
    send (.createChannel [99] []) ++ send (.use uuid uuid []) ++ send (.createThread [100] [101]) ++
    [.restart (fun _ => .opened [] 1000) 3])

theorem reported_addressable_thread :
    ∃ h, Runs.run (step Server.mentions) (boot 3 fun _ => none) reportingRun = some h ∧
      ∃ n ∈ h.notes, n.kind = .thread ∧ n.texts = some [[100], [101]] ∧ isUuidFormatValid n.uuid = true ∧
        ∃ x : Entity, x.StoredIn h.world.server.users h.world.server.teams ∧ n.Of x ∧
          x.AddressedIn h.world.server := by
  let n : Mention := ⟨.thread, generateUuid (default : Environment).draw, some [[100], [101]]⟩
  have hfacts : (Runs.run (step Server.mentions) (boot 3 fun _ => none) reportingRun).map (fun h =>
      h.notes.contains n) = some true := by decide +kernel
  obtain ⟨h, hrun, hcontains⟩ := Option.map_eq_some_iff.mp hfacts
  have hn : n ∈ h.notes := by simpa using hcontains
  obtain ⟨hvalid, -, x, hx, hof, -, haddressed⟩ :=
    reported_addressable (fun _ => rfl) (by decide +kernel) hrun n hn
  exact ⟨h, hrun, n, hn, rfl, rfl, hvalid, x, hx, hof, haddressed⟩

end History

end TeamsMirror
