import Mathlib.Data.Int.Interval
import TeamsMirror.Common.Requests
import TeamsMirror.Server.Provenance

/-!
# Presence

The login counter of a user is kept by increments and decrements spread over
login, logout and disconnection. It always is the number of connections that are
logged in as that user, so that the status shown to others is the truth.
-/

namespace TeamsMirror

open Lists Server UnorderedMap

theorem length_generateUuid (draw : Nat → Fin 16) : (generateUuid draw).length = uuidLength - 1 := by
  simp [generateUuid]

/-- A drawn uuid is stored unchanged. -/
theorem bytes_copyBuffer_generateUuid (draw : Nat → Fin 16) :
    (CString.copyBuffer uuidLength (generateUuid draw)).bytes = generateUuid draw :=
  CString.bytes_copyBuffer (Nat.le_of_eq (length_generateUuid draw)) (zero_notMem_generateUuid draw)

namespace Server

variable {s s' : Server} {fd : Fd} {uuid : Bytes}

/-- How many connections are logged in as a user. -/
def online (s : Server) (uuid : Bytes) : Nat := (keysWith uuid s.authenticatedUsersByFd).length

theorem online_pos : 0 < s.online uuid ↔ ∃ fd, s.authenticatedUsersByFd.lookup fd = some uuid := by
  rw [online, List.length_pos_iff_exists_mem]
  simp only [mem_keysWith]

/-- User uuids are distinct, and every counter counts the connections of its user. -/
structure Counted (s : Server) : Prop where
  distinct : (s.users.map fun u => u.uuid.bytes).Nodup
  count : ∀ u ∈ s.users, u.isLoggedInCount = s.online u.uuid.bytes

/-- One user is replaced by another with the same uuid, the right count, and no change of the
count of anyone else. -/
theorem Counted.replace (h : Counted s) {l₁ l₂ : List User} {u v : User}
    (husers : s.users = l₁ ++ u :: l₂) (husers' : s'.users = l₁ ++ v :: l₂)
    (huuid : v.uuid = u.uuid) (hcount : v.isLoggedInCount = s'.online u.uuid.bytes)
    (hother : ∀ uuid, uuid ≠ u.uuid.bytes → s'.online uuid = s.online uuid) : Counted s' := by
  have hdistinct := h.distinct
  rw [husers] at hdistinct
  refine ⟨?_, ?_⟩
  · rw [husers']
    simpa [huuid] using hdistinct
  · intro w hw
    rw [husers'] at hw
    rcases List.mem_append.mp hw with hw₁ | hw₂
    · have hmem : w ∈ s.users := by simp [husers, hw₁]
      rw [h.count w hmem, hother]
      intro he
      have hnot := List.disjoint_of_nodup_append (by simpa using hdistinct)
      exact hnot (List.mem_map_of_mem hw₁) (by simp [he])
    · rcases List.mem_cons.mp hw₂ with rfl | hw₂
      · rw [hcount, huuid]
      · have hmem : w ∈ s.users := by simp [husers, hw₂]
        rw [h.count w hmem, hother]
        intro he
        rw [List.map_append, List.map_cons] at hdistinct
        have hnot := (List.nodup_cons.mp (List.nodup_append.mp hdistinct).2.1).1
        exact hnot (he ▸ List.mem_map_of_mem (f := fun u : User => u.uuid.bytes) hw₂)

theorem Counted.congr (h : Counted s) (husers : s'.users = s.users)
    (hfd : s'.authenticatedUsersByFd = s.authenticatedUsersByFd) : Counted s' := by
  refine ⟨by rw [husers]; exact h.distinct, fun u hu => ?_⟩
  rw [husers] at hu
  rw [online, hfd]
  exact h.count u hu

theorem online_insert (hfd : fd ∉ s.authenticatedUsersByFd)
    (hmap : s'.authenticatedUsersByFd = s.authenticatedUsersByFd.insert fd uuid) (uuid' : Bytes) :
    s'.online uuid' = if uuid' = uuid then s.online uuid + 1 else s.online uuid' := by
  rw [online, hmap, keysWith_insert_of_notMem hfd]
  by_cases h : uuid' = uuid
  · subst h
    simp [online]
  · simp [online, h, Ne.symm h]

theorem online_erase (huuid : s.authenticatedUsersByFd.lookup fd = some uuid)
    (hmap : s'.authenticatedUsersByFd = s.authenticatedUsersByFd.erase fd) (uuid' : Bytes) :
    s'.online uuid' = if uuid' = uuid then s.online uuid - 1 else s.online uuid' := by
  rw [online, hmap, keysWith_erase]
  by_cases h : uuid' = uuid
  · subst h
    rw [if_pos rfl, List.length_erase_of_mem (mem_keysWith.mpr huuid)]
    rfl
  · have hnot : fd ∉ keysWith uuid' s.authenticatedUsersByFd := by
      rw [mem_keysWith, huuid]
      exact fun he => h (Option.some.inj he).symm
    rw [if_neg h, List.erase_of_not_mem hnot]
    rfl

theorem Counted.registered (h : Counted s) (hknown : Known s) (hfd : fd ∉ s.authenticatedUsersByFd)
    {draw : Nat → Fin 16} {name : Bytes} {user : User}
    (hunused : findUserByUuid s.users (generateUuid draw) = none)
    (huser : user = User.new (generateUuid draw) name true) (husers : s'.users = s.users ++ [user])
    (hmap : s'.authenticatedUsersByFd = s.authenticatedUsersByFd.insert fd user.uuid.bytes) :
    Counted s' := by
  have huuid : user.uuid.bytes = generateUuid draw := huser ▸ bytes_copyBuffer_generateUuid draw
  have hfresh : user.uuid.bytes ∉ s.users.map fun u => u.uuid.bytes := by
    rw [huuid]
    exact find?_key_eq_none.mp hunused
  have hnone : s.online user.uuid.bytes = 0 := by
    by_contra hne
    obtain ⟨fd', hl⟩ := online_pos.mp (Nat.pos_of_ne_zero hne)
    exact hfresh (hknown fd' _ hl)
  refine ⟨?_, fun u hu => ?_⟩
  · rw [husers, List.map_append, List.nodup_append_comm]
    exact List.nodup_cons.mpr ⟨hfresh, h.distinct⟩
  · rw [online_insert hfd hmap]
    rw [husers] at hu
    rcases List.mem_append.mp hu with hu | hu
    · have hne : u.uuid.bytes ≠ user.uuid.bytes := fun he =>
        hfresh (he ▸ List.mem_map_of_mem (f := fun u : User => u.uuid.bytes) hu)
      rw [if_neg hne]
      exact h.count u hu
    · rw [List.mem_singleton.mp hu, if_pos rfl, hnone, huser]
      rfl

theorem Counted.loggedIn (h : Counted s) (hfd : fd ∉ s.authenticatedUsersByFd) {name : Bytes}
    {user : User} (hfind : findUserByName s.users name = some user)
    (husers : s'.users = modifyFirst (fun user => user.name.bytes = name) User.addLoggedIn s.users)
    (hmap : s'.authenticatedUsersByFd = s.authenticatedUsersByFd.insert fd user.uuid.bytes) :
    Counted s' := by
  obtain ⟨l₁, l₂, hsplit, -, -, hupdate⟩ := exists_split hfind
  refine h.replace hsplit (husers.trans (hupdate _)) (User.uuid_addLoggedIn _) ?_ fun uuid hne => ?_
  · have hcount := h.count user (by simp [hsplit])
    rw [online_insert hfd hmap, if_pos rfl, User.addLoggedIn, hcount]
    simp
  · rw [online_insert hfd hmap, if_neg hne]

theorem Counted.loggedOut (h : Counted s) {user : User}
    (huuid : s.authenticatedUsersByFd.lookup fd = some uuid)
    (hfind : findUserByUuid s.users uuid = some user)
    (husers : s'.users = updateUser s.users uuid User.removeLoggedIn)
    (hmap : s'.authenticatedUsersByFd = s.authenticatedUsersByFd.erase fd) : Counted s' := by
  obtain ⟨l₁, l₂, hsplit, hp, -, hupdate⟩ := exists_split hfind
  have hp : user.uuid.bytes = uuid := by simpa using hp
  refine h.replace hsplit (husers.trans (hupdate _)) (User.uuid_removeLoggedIn _) ?_
    fun uuid' hne => ?_
  · have hcount := h.count user (by simp [hsplit])
    have hpos := online_pos.mpr ⟨fd, huuid⟩
    rw [online_erase huuid hmap, if_pos hp, User.removeLoggedIn, hcount, hp, if_neg (by omega)]
    simp only
    omega
  · rw [online_erase huuid hmap, if_neg (hp ▸ hne)]

theorem Counted.effect {context : CommandContext} {command : CommandID} {packets : List (Fd × Packet)}
    (h : Counted context.toServer) (hknown : Known context.toServer)
    (he : Effect context command s packets) : Counted s := by
  cases he with
  | registered hfd _ _ hunused huser => exact h.registered hknown hfd hunused huser rfl rfl
  | loggedIn hfd hfind => exact h.loggedIn hfd hfind rfl rfl
  | loggedOut huuid hfind => exact h.loggedOut huuid hfind rfl rfl
  | loggedOutUnknown huuid hnone =>
    obtain ⟨user, huser, -, -⟩ := hknown.exists_user huuid
    rw [hnone] at huser
    cases huser
  | _ => exact h.congr rfl rfl

theorem Counted.step {e : Event} {queued : List (Fd × Packet)} (h : Counted s) (hknown : Known s)
    (hs : s.handle e = some (s', queued)) : Counted s' := by
  cases e with
  | accept fd =>
    obtain ⟨-, rfl, -⟩ := handle_accept hs
    exact h.congr rfl rfl
  | receive fd chunk =>
    obtain ⟨-, -, rfl⟩ := handle_receive hs
    exact h.congr rfl rfl
  | dispatch fd environment =>
    obtain ⟨-, command, payload, middle, size, heffect, rfl⟩ := handle_dispatch hs
    have hcontext : Counted (s.context fd payload environment).toServer := h
    have hmiddle := hcontext.effect hknown heffect
    exact hmiddle.congr rfl rfl
  | flush fd n =>
    obtain ⟨-, -, -, rfl⟩ := handle_flush hs
    exact h.congr rfl rfl
  | disconnect fd =>
    obtain ⟨-, middle, hd, rfl⟩ := handle_disconnect hs
    cases hd with
    | anonymous => exact h.congr rfl rfl
    | known huuid hfind => exact h.loggedOut huuid hfind rfl rfl
    | unknown huuid hnone =>
      obtain ⟨user, huser, -, -⟩ := hknown.exists_user huuid
      rw [hnone] at huser
      cases huser

theorem Counted.start {listenFd : Fd} {users : List User} {teams : List Team} {messages : List Message}
    (h : (users.map fun u => u.uuid.bytes).Nodup) :
    Counted (Server.start listenFd users teams messages) := by
  refine ⟨by simpa [Server.start, Function.comp_def] using h, fun u hu => ?_⟩
  obtain ⟨v, -, rfl⟩ := List.mem_map.mp hu
  simp [User.resetLoggedIn, online, Server.start]

/-- There are fewer connections than values of the 32-bit counter, which never overflows. -/
theorem Linked.online_lt (h : Linked s) (hlisten : 0 ≤ s.listenFd ∧ s.listenFd < 2 ^ 31) (uuid : Bytes) :
    s.online uuid < 2 ^ 31 := by
  have hsub : (keysWith uuid s.authenticatedUsersByFd).toFinset ⊆
      (Finset.Ico (0 : Int) (2 ^ 31)).erase s.listenFd := by
    intro fd hfd
    have hl := mem_keysWith.mp (List.mem_toFinset.mp hfd)
    obtain ⟨h0, h1, hne⟩ := h.isOpen fd (h.live fd (mem_of_lookup hl))
    exact Finset.mem_erase.mpr ⟨hne, Finset.mem_Ico.mpr ⟨h0, h1⟩⟩
  have hmem : s.listenFd ∈ Finset.Ico (0 : Int) (2 ^ 31) := Finset.mem_Ico.mpr hlisten
  calc
    s.online uuid = (keysWith uuid s.authenticatedUsersByFd).toFinset.card :=
      (List.toFinset_card_of_nodup (nodup_keysWith _ _)).symm
    _ ≤ ((Finset.Ico (0 : Int) (2 ^ 31)).erase s.listenFd).card := Finset.card_le_card hsub
    _ < (Finset.Ico (0 : Int) (2 ^ 31)).card := Finset.card_erase_lt_of_mem hmem
    _ = 2 ^ 31 := by rw [Int.card_Ico]; rfl

end Server

/-- A packet that shows a user shows one the server has, and whether that user is online. -/
theorem Issued.userStatus {context : CommandContext} {s : Server} {q : Fd × Packet}
    (h : Issued context s q) (hs : Counted s) {r : PayloadRplUser} (hr : q.2.payload = .rplUser r) :
    ∃ u ∈ s.users, r.userUuid.cstr = u.uuid.bytes ∧
      r.userStatus = if 0 < s.online u.uuid.bytes then 1 else 0 := by
  cases h with
  | user _ _ _ hu =>
    cases hr
    refine ⟨_, hu, CString.cstr_copyPadded (by decide) _, ?_⟩
    have hcount := hs.count _ hu
    simp only [User.isLoggedIn, hcount, decide_eq_true_eq]
    congr 1
    simp only [eq_iff_iff]
    omega
  | _ => cases hr

/-- The first of two loaded users logs in on three connections, the second one on a fourth, and the first one
logs out on one of its own. -/
def loadedUsersRun : List Event :=
  [.accept 4, .accept 5, .accept 6, .accept 7, .receive 4 (Request.login [97]).packet, .dispatch 4 default,
    .receive 5 (Request.login [97]).packet, .dispatch 5 default,
    .receive 6 (Request.login [97]).packet, .dispatch 6 default,
    .receive 7 (Request.login [98]).packet, .dispatch 7 default,
    .receive 5 Request.logout.packet, .dispatch 5 default]

def loadedUsers : List User := [User.new [49] [97] false, User.new [50] [98] false]

end TeamsMirror
