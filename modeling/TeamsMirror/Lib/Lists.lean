import Mathlib.Algebra.Ring.Nat
import Mathlib.Data.List.Nodup
import Mathlib.Data.List.Pairwise

/-!
# Lists searched from the front

Sequential containers whose elements are found by a linear search and updated in
place: `modifyFirst` writes through the reference that `find?` returns. With
pairwise distinct keys the search is a function of membership alone.
-/

namespace Lists

variable {α β κ : Type*} {p : α → Bool} {f : α → α}

/-- Update the first element that satisfies `p`, if there is one. -/
def modifyFirst (p : α → Bool) (f : α → α) : List α → List α
  | [] => []
  | x :: xs => if p x then f x :: xs else x :: modifyFirst p f xs

/-- What a successful search finds, and where an update of it lands. -/
theorem exists_split {l : List α} {x : α} (h : l.find? p = some x) :
    ∃ l₁ l₂, l = l₁ ++ x :: l₂ ∧ p x ∧ (∀ a ∈ l₁, p a = false) ∧
      ∀ f, modifyFirst p f l = l₁ ++ f x :: l₂ := by
  obtain ⟨hp, l₁, l₂, rfl, hl⟩ := List.find?_eq_some_iff_append.mp h
  have hl₁ : ∀ a ∈ l₁, p a = false := by simpa using hl
  refine ⟨l₁, l₂, rfl, hp, hl₁, fun f => ?_⟩
  clear h hl
  induction l₁ with
  | nil => simp [modifyFirst, hp]
  | cons a l₁ ih =>
    have ha := hl₁ a (by simp)
    simp [modifyFirst, ha, ih fun b hb => hl₁ b (List.mem_cons_of_mem _ hb)]

/-- An update that no element of the list observes through `g`. -/
theorem map_modifyFirst {g : α → β} (h : ∀ x, g (f x) = g x) (l : List α) :
    (modifyFirst p f l).map g = l.map g := by
  induction l with
  | nil => rfl
  | cons x xs ih =>
    rw [modifyFirst]
    split
    · rw [List.map_cons, List.map_cons, h]
    · rw [List.map_cons, List.map_cons, ih]

/-- The same, where only the updated element is known. -/
theorem map_modifyFirst_of {g : α → β} (h : ∀ x, p x = true → g (f x) = g x) (l : List α) :
    (modifyFirst p f l).map g = l.map g := by
  induction l with
  | nil => rfl
  | cons x xs ih =>
    rw [modifyFirst]
    split
    · next hp => rw [List.map_cons, List.map_cons, h x hp]
    · rw [List.map_cons, List.map_cons, ih]

/-- Two lists that look the same through `g` are updated where it shows, and then still look the same. -/
theorem map_modifyFirst_congr {g : α → β} {f' : α → α} {l l' : List α}
    (hp : ∀ x y, g y = g x → p y = p x) (hf : ∀ x y, p x = true → g y = g x → g (f' y) = g (f x))
    (h : l'.map g = l.map g) : (modifyFirst p f' l').map g = (modifyFirst p f l).map g := by
  induction l generalizing l' with
  | nil =>
    rw [List.map_eq_nil_iff.mp h]
    rfl
  | cons x xs ih =>
    obtain ⟨y, ys, rfl, hy, hys⟩ := List.map_eq_cons_iff.mp h
    rw [modifyFirst, modifyFirst, hp x y hy]
    split
    · next hx => rw [List.map_cons, List.map_cons, hf x y hx hy, hys]
    · rw [List.map_cons, List.map_cons, hy, ih hys]

theorem flatMap_modifyFirst {F : α → List β} (h : ∀ x, F (f x) = F x) (l : List α) :
    (modifyFirst p f l).flatMap F = l.flatMap F := by
  rw [List.flatMap_def, List.flatMap_def, map_modifyFirst h]

theorem mem_modifyFirst {l : List α} {y : α} (h : y ∈ modifyFirst p f l) :
    y ∈ l ∨ ∃ x ∈ l, p x ∧ y = f x := by
  induction l with
  | nil => cases h
  | cons x xs ih =>
    rw [modifyFirst] at h
    split at h
    · next hp =>
      rcases List.mem_cons.mp h with rfl | h
      · exact .inr ⟨x, by simp, hp, rfl⟩
      · exact .inl (by simp [h])
    · rcases List.mem_cons.mp h with rfl | h
      · exact .inl (by simp)
      · rcases ih h with h | ⟨z, hz, hp, rfl⟩
        · exact .inl (by simp [h])
        · exact .inr ⟨z, by simp [hz], hp, rfl⟩

theorem forall_modifyFirst {P : α → Prop} {l : List α} (h : ∀ x ∈ l, P x)
    (hf : ∀ x, P x → P (f x)) : ∀ x ∈ modifyFirst p f l, P x := by
  intro y hy
  rcases mem_modifyFirst hy with hy | ⟨x, hx, -, rfl⟩
  · exact h y hy
  · exact hf x (h x hx)

/-- An update writes to what the search finds, and to nothing else. -/
theorem forall_modifyFirst_of_find {P : α → Prop} {l : List α} {x : α} (h : ∀ y ∈ l, P y)
    (hfind : l.find? p = some x) (hx : P (f x)) : ∀ y ∈ modifyFirst p f l, P y := by
  obtain ⟨l₁, l₂, rfl, -, -, hupdate⟩ := exists_split hfind
  rw [hupdate]
  intro y hy
  rcases List.mem_append.mp hy with hy | hy
  · exact h y (List.mem_append_left _ hy)
  · rcases List.mem_cons.mp hy with rfl | hy
    · exact hx
    · exact h y (by simp [hy])

/-- What an update adds to the parts of one element, it adds to the parts of the whole list. -/
theorem perm_flatMap_modifyFirst {F : α → List β} {l : List α} {x : α} {extra : List β}
    (h : l.find? p = some x) (hF : (F (f x)).Perm (F x ++ extra)) :
    ((modifyFirst p f l).flatMap F).Perm (l.flatMap F ++ extra) := by
  obtain ⟨l₁, l₂, rfl, -, -, hupdate⟩ := exists_split h
  rw [hupdate]
  simp only [List.flatMap_append, List.flatMap_cons, List.append_assoc]
  have hswap : (F x ++ extra ++ l₂.flatMap F).Perm (F x ++ (l₂.flatMap F ++ extra)) := by
    rw [List.append_assoc]
    exact List.perm_append_comm.append_left (F x)
  exact ((hF.append_right (l₂.flatMap F)).trans hswap).append_left (l₁.flatMap F)

/-- When no part occurs twice, each part belongs to one element. -/
theorem owner_unique {F : α → List β} {l : List α} (h : (l.flatMap F).Nodup) {x y : α} {b : β}
    (hx : x ∈ l) (hy : y ∈ l) (hbx : b ∈ F x) (hby : b ∈ F y) : x = y := by
  by_contra hne
  have hpairwise := (List.nodup_flatMap.mp h).2
  have hsymm : Std.Symm (Function.onFun List.Disjoint F) := ⟨fun _ _ hd => List.disjoint_symm hd⟩
  exact hpairwise.forall hx hy hne hbx hby

/-- An update of the element found is one of all elements, when it is the only owner of a part and the
update leaves the others alone. -/
theorem modifyFirst_eq_map_of_owner {F : α → List β} {g : α → α} {l : List α} {x : α} {b : β}
    (hl : (l.flatMap F).Nodup) (hfind : l.find? p = some x) (hb : b ∈ F x) (hx : f x = g x)
    (hg : ∀ y, b ∉ F y → g y = y) : modifyFirst p f l = l.map g := by
  obtain ⟨l₁, l₂, rfl, -, -, hupdate⟩ := exists_split hfind
  rw [List.flatMap_append, List.flatMap_cons, List.nodup_append'] at hl
  obtain ⟨-, hrest, hfront⟩ := hl
  rw [List.nodup_append'] at hrest
  have hleft : l₁.map g = l₁ := by
    refine (List.map_congr_left fun y hy => hg y fun hby => ?_).trans (List.map_id l₁)
    exact hfront (List.mem_flatMap.mpr ⟨y, hy, hby⟩) (List.mem_append_left _ hb)
  have hright : l₂.map g = l₂ := by
    refine (List.map_congr_left fun y hy => hg y fun hby => ?_).trans (List.map_id l₂)
    exact hrest.2.2 hb (List.mem_flatMap.mpr ⟨y, hy, hby⟩)
  rw [hupdate, List.map_append, List.map_cons, hleft, hright, hx]

/-- An update that no element answers changes nothing. -/
theorem modifyFirst_of_find?_eq_none {l : List α} (h : l.find? p = none) : modifyFirst p f l = l := by
  induction l with
  | nil => rfl
  | cons x xs ih =>
    have hx : ¬p x = true := fun hx => by simp [hx] at h
    rw [List.find?_cons_of_neg hx] at h
    rw [modifyFirst, if_neg hx, ih h]

/-- When at most one element satisfies `p`, all that do are updated. -/
theorem modifyFirst_eq_map {l : List α} (h : l.Pairwise fun x y => ¬(p x = true ∧ p y = true)) :
    modifyFirst p f l = l.map fun x => if p x then f x else x := by
  induction l with
  | nil => rfl
  | cons x xs ih =>
    obtain ⟨hx, hxs⟩ := List.pairwise_cons.mp h
    rw [modifyFirst, List.map_cons]
    by_cases hp : p x = true
    · have hothers : (xs.map fun y => if p y then f y else y) = xs := by
        refine List.map_congr_left (g := id) (fun y hy => ?_) |>.trans (List.map_id xs)
        have hy : ¬p y = true := fun hq => hx y hy ⟨hp, hq⟩
        rw [if_neg hy, id]
      rw [if_pos hp, if_pos hp, hothers]
    · rw [if_neg hp, if_neg hp, ih hxs]

/-- Writing at a position, seen through `g`, is an update of the one element that `q` accepts. -/
theorem map_modify {g : α → β} {q : β → Bool} {f' : β → β} {l : List α} {i : Nat} {x : α}
    (hx : l[i]? = some x) (hq : q (g x) = true) (hf : g (f x) = f' (g x))
    (hunique : ∀ j y, l[j]? = some y → q (g y) = true → j = i) :
    (l.modify i f).map g = modifyFirst q f' (l.map g) := by
  induction l generalizing i with
  | nil => cases hx
  | cons a l ih =>
    cases i with
    | zero =>
      obtain rfl : a = x := by simpa using hx
      rw [List.modify_zero_cons, List.map_cons, List.map_cons, modifyFirst, if_pos hq, hf]
    | succ i =>
      have ha : ¬q (g a) = true := fun ha => by simpa using hunique 0 a rfl ha
      have hrest := ih (by simpa using hx) fun j y hy hqy => by
        simpa using hunique (j + 1) y (by simpa using hy) hqy
      rw [List.modify_succ_cons, List.map_cons, List.map_cons, modifyFirst, if_neg ha, hrest]

/-- Writing at a position, read at any position. -/
theorem getElem?_modify_bind {l : List α} {i : Nat} {x : α} (hx : l[i]? = some x) (f : α → α)
    (g : α → Option β) (j : Nat) :
    (l.modify i f)[j]?.bind g = if j = i then g (f x) else l[j]?.bind g := by
  rw [List.getElem?_modify]
  by_cases h : j = i
  · subst h
    simp [hx]
  · simp [h, Ne.symm h]

/-- A new last element, read at any position. -/
theorem getElem?_concat (l : List α) (x : α) (j : Nat) :
    (l ++ [x])[j]? = if j = l.length then some x else l[j]? := by
  rcases Nat.lt_trichotomy j l.length with h | h | h
  · rw [List.getElem?_append_left h, if_neg (by omega)]
  · simp [h]
  · have hlong : (l ++ [x]).length ≤ j := by simp; omega
    rw [List.getElem?_eq_none hlong, List.getElem?_eq_none (by omega), if_neg (by omega)]

theorem getElem?_concat_bind (l : List α) (x : α) (g : α → Option β) (j : Nat) :
    (l ++ [x])[j]?.bind g = if j = l.length then g x else l[j]?.bind g := by
  rw [getElem?_concat]
  split <;> rfl

/-- Writing at a position, unobserved by `g`. -/
theorem map_modify_of_eq {g : α → β} (h : ∀ x, g (f x) = g x) (l : List α) (i : Nat) :
    (l.modify i f).map g = l.map g := by
  induction l generalizing i with
  | nil => cases i <;> rfl
  | cons x xs ih =>
    cases i with
    | zero => rw [List.modify_zero_cons, List.map_cons, List.map_cons, h]
    | succ i => rw [List.modify_succ_cons, List.map_cons, List.map_cons, ih]

theorem forall_modify {P : α → Prop} {l : List α} (h : ∀ x ∈ l, P x) (hf : ∀ x ∈ l, P x → P (f x)) (i : Nat) :
    ∀ x ∈ l.modify i f, P x := by
  induction l generalizing i with
  | nil => cases i <;> simp
  | cons x xs ih =>
    obtain ⟨hx, hxs⟩ := List.forall_mem_cons.mp h
    have hfx := hf x (by simp) hx
    have hrest := ih hxs fun y hy => hf y (List.mem_cons_of_mem x hy)
    cases i with
    | zero => exact List.forall_mem_cons.mpr ⟨hfx, hxs⟩
    | succ i => exact List.forall_mem_cons.mpr ⟨hx, hrest i⟩

theorem foldl_map {ρ : Type*} (g : ρ → α → α) (rs : List ρ) (l : List α) :
    rs.foldl (fun l r => l.map (g r)) l = l.map fun x => rs.foldl (fun x r => g r x) x := by
  induction rs generalizing l with
  | nil => simp
  | cons r rs ih => rw [List.foldl_cons, ih, List.map_map]; rfl

/-- When no part occurs twice, an update of the first owner of a part is an update of all its
owners; so is a series of such updates. -/
theorem foldl_modifyFirst_owner {ρ : Type*} (F : α → List β) (part : ρ → β) (step : ρ → α → α)
    {owns : β → α → Bool} (howns : ∀ b x, owns b x = true ↔ b ∈ F x) (hF : ∀ r x, F (step r x) = F x)
    (hid : ∀ r x, part r ∉ F x → step r x = x) (rs : List ρ) {l : List α} (hl : (l.flatMap F).Nodup) :
    rs.foldl (fun l r => modifyFirst (owns (part r)) (step r) l) l =
      l.map fun x => rs.foldl (fun x r => step r x) x := by
  have hmap : ∀ r (l : List α), (l.flatMap F).Nodup →
      modifyFirst (owns (part r)) (step r) l = l.map (step r) := by
    intro r l hl
    have hpairwise : l.Pairwise fun x y => ¬(owns (part r) x = true ∧ owns (part r) y = true) := by
      refine (List.nodup_flatMap.mp hl).2.imp fun hdisjoint hboth => ?_
      exact hdisjoint ((howns _ _).mp hboth.1) ((howns _ _).mp hboth.2)
    rw [modifyFirst_eq_map hpairwise]
    refine List.map_congr_left fun x _ => ?_
    split
    · rfl
    · next hx => exact (hid r x fun hmem => hx ((howns _ _).mpr hmem)).symm
  rw [← foldl_map]
  induction rs generalizing l with
  | nil => rfl
  | cons r rs ih =>
    have hsame : ((l.map (step r)).flatMap F).Nodup := by
      rw [List.flatMap_map]
      simpa only [hF] using hl
    rw [List.foldl_cons, List.foldl_cons, hmap r l hl, ih hsame]

variable [DecidableEq κ] {key : α → κ}

theorem exists_find?_key {l : List α} {k : κ} (h : k ∈ l.map key) :
    ∃ x, l.find? (fun a => key a = k) = some x ∧ x ∈ l ∧ key x = k := by
  obtain ⟨x, hx, hk⟩ := List.mem_map.mp h
  cases hf : l.find? (fun a => key a = k) with
  | none => simpa [hk] using List.find?_eq_none.mp hf x hx
  | some y => exact ⟨y, rfl, List.mem_of_find?_eq_some hf, by simpa using List.find?_some hf⟩

/-- The values recorded under one key, in order. -/
def group (k : κ) (records : List (κ × β)) : List β :=
  (records.filter fun r => r.1 = k).map Prod.snd

@[simp] theorem group_nil (k : κ) : group k ([] : List (κ × β)) = [] := rfl

theorem group_append (k : κ) (rs rs' : List (κ × β)) :
    group k (rs ++ rs') = group k rs ++ group k rs' := by
  simp [group]

/-- Records that all have the same key. -/
theorem group_map_pair (k k' : κ) (bs : List β) :
    group k (bs.map fun b => (k', b)) = if k' = k then bs else [] := by
  by_cases h : k' = k <;> simp [group, h, List.filter_map, Function.comp_def]

/-- Listing parent by parent and grouping by parent gives back what each parent has. -/
theorem group_flatMap (key : α → κ) {l : List α} (hl : (l.map key).Nodup) (children : α → List β) {x : α}
    (hx : x ∈ l) : group (key x) (l.flatMap fun a => (children a).map fun b => (key a, b)) = children x := by
  induction l with
  | nil => cases hx
  | cons a l ih =>
    obtain ⟨ha, hl⟩ := List.nodup_cons.mp hl
    have hcons : group (key x) ((a :: l).flatMap fun a => (children a).map fun b => (key a, b)) =
        group (key x) ((children a).map fun b => (key a, b)) ++
          group (key x) (l.flatMap fun a => (children a).map fun b => (key a, b)) := by
      rw [List.flatMap_cons, group_append]
    rw [hcons, group_map_pair]
    rcases List.mem_cons.mp hx with rfl | hx
    · have hnone : group (key x) (l.flatMap fun a => (children a).map fun b => (key a, b)) = [] := by
        rw [group, List.map_eq_nil_iff, List.filter_eq_nil_iff]
        intro r hr
        obtain ⟨b, hb, hr⟩ := List.mem_flatMap.mp hr
        obtain ⟨c, -, rfl⟩ := List.mem_map.mp hr
        have hne : key b ≠ key x := fun he => ha (he ▸ List.mem_map_of_mem hb)
        simpa using hne
      rw [if_pos rfl, hnone, List.append_nil]
    · have hne : key a ≠ key x := fun he => ha (he ▸ List.mem_map_of_mem hx)
      rw [if_neg hne, List.nil_append, ih hl hx]

/-- Replaying records on one element uses those under its key. -/
theorem foldl_ite_group (push : α → β → α) (hkey : ∀ a b, key (push a b) = key a)
    (rs : List (κ × β)) (x : α) :
    rs.foldl (fun x r => if key x = r.1 then push x r.2 else x) x = (group (key x) rs).foldl push x := by
  induction rs generalizing x with
  | nil => rfl
  | cons r rs ih =>
    rw [List.foldl_cons, ih]
    by_cases h : key x = r.1
    · simp [group, h, hkey]
    · simp [group, h, Ne.symm h]

theorem modifyFirst_key {l : List α} (hl : (l.map key).Nodup) (k : κ) :
    modifyFirst (fun a => key a = k) f l = l.map fun a => if key a = k then f a else a := by
  have hpairwise : l.Pairwise fun a b => key a ≠ key b := List.pairwise_map.mp hl
  have h : l.Pairwise fun a b => ¬(decide (key a = k) = true ∧ decide (key b = k) = true) :=
    hpairwise.imp fun hne hboth => hne (by simp_all)
  rw [modifyFirst_eq_map h]
  simp

/-- Replaying records on a list with distinct keys: every element gets its group. -/
theorem foldl_modifyFirst_group (push : α → β → α) (hkey : ∀ a b, key (push a b) = key a)
    (rs : List (κ × β)) {l : List α} (hl : (l.map key).Nodup) :
    rs.foldl (fun l r => modifyFirst (fun a => key a = r.1) (fun a => push a r.2) l) l =
      l.map fun a => (group (key a) rs).foldl push a := by
  have hmap : rs.foldl (fun l r => modifyFirst (fun a => key a = r.1) (fun a => push a r.2) l) l =
      rs.foldl (fun l r => l.map fun a => if key a = r.1 then push a r.2 else a) l := by
    induction rs generalizing l with
    | nil => rfl
    | cons r rs ih =>
      have hsame : (modifyFirst (fun a => decide (key a = r.1)) (fun a => push a r.2) l).map key =
          l.map key := map_modifyFirst (fun a => hkey a r.2) l
      rw [List.foldl_cons, List.foldl_cons, ih (by rw [hsame]; exact hl), modifyFirst_key hl]
  have hfold := foldl_map (fun (r : κ × β) a => if key a = r.1 then push a r.2 else a) rs l
  rw [hmap, hfold]
  refine List.map_congr_left fun a _ => ?_
  exact foldl_ite_group push hkey rs a

/-- Where keys are distinct, a search for the key of an element finds it. -/
theorem find?_key_of_mem {l : List α} (hl : (l.map key).Nodup) {x : α} (hx : x ∈ l) :
    l.find? (fun a => key a = key x) = some x := by
  obtain ⟨y, hfind, hy, hkey⟩ := exists_find?_key (List.mem_map_of_mem (f := key) hx)
  rw [hfind, List.inj_on_of_nodup_map hl hy hx hkey]

theorem find?_key_eq_none {l : List α} {k : κ} :
    l.find? (fun a => key a = k) = none ↔ k ∉ l.map key := by
  simp [List.find?_eq_none]

/-- Where groups share no element, an element tells its group. -/
theorem eq_of_nodup_flatMap {α β : Type*} {f : α → List β} {l : List α} (h : (l.flatMap f).Nodup) {x y : α}
    (hx : x ∈ l) (hy : y ∈ l) {b : β} (hbx : b ∈ f x) (hby : b ∈ f y) : x = y := by
  by_contra hne
  have hsymm : Std.Symm (Function.onFun List.Disjoint f) := ⟨fun _ _ hab _ hb ha => hab ha hb⟩
  exact (List.nodup_flatMap.mp h).2.forall hx hy hne hbx hby

/-- Erasing a position of a list with distinct keys forgets the key that stands there. -/
theorem mem_map_eraseIdx {α β : Type*} {f : α → β} {l : List α} {i : Nat} {x : α}
    (hnodup : (l.map f).Nodup) (hx : l[i]? = some x) {b : β} :
    b ∈ (l.eraseIdx i).map f ↔ b ∈ l.map f ∧ b ≠ f x := by
  induction l generalizing i with
  | nil => simp at hx
  | cons y l ih =>
    obtain ⟨hy, hl⟩ := List.nodup_cons.mp hnodup
    cases i with
    | zero =>
      obtain rfl : y = x := by simpa using hx
      rw [List.eraseIdx_zero, List.tail_cons, List.map_cons, List.mem_cons]
      constructor
      · exact fun hb => ⟨.inr hb, fun he => hy (he ▸ hb)⟩
      · rintro ⟨hb | hb, hne⟩
        · exact absurd hb hne
        · exact hb
    | succ i =>
      have hxl : l[i]? = some x := by simpa using hx
      have hfx : f x ∈ l.map f := List.mem_map_of_mem (List.mem_of_getElem? hxl)
      rw [List.eraseIdx_cons_succ, List.map_cons, List.map_cons, List.mem_cons, List.mem_cons, ih hl hxl]
      constructor
      · rintro (rfl | ⟨hb, hne⟩)
        · exact ⟨.inl rfl, fun he => hy (he ▸ hfx)⟩
        · exact ⟨.inr hb, hne⟩
      · rintro ⟨rfl | hb, hne⟩
        · exact .inl rfl
        · exact .inr ⟨hb, hne⟩

/-- Every element keeps its place, where it is related to what it was; more may follow. -/
def Grows (R : α → α → Prop) (l l' : List α) : Prop :=
  ∀ (i : Nat) (x : α), l[i]? = some x → ∃ y, l'[i]? = some y ∧ R x y

section

variable {R : α → α → Prop} (hR : ∀ x, R x x)
include hR

theorem grows_refl (l : List α) : Grows R l l := fun _ x hx => ⟨x, hx, hR x⟩

theorem grows_append (l added : List α) : Grows R l (l ++ added) := by
  intro i x hx
  have hi : i < l.length := (List.getElem?_eq_some_iff.mp hx).1
  exact ⟨x, by rw [List.getElem?_append_left hi, hx], hR x⟩

theorem grows_modifyFirst (hf : ∀ x, R x (f x)) (l : List α) : Grows R l (modifyFirst p f l) := by
  induction l with
  | nil =>
    intro i x hx
    cases hx
  | cons a l ih =>
    intro i x hx
    rw [modifyFirst]
    cases i with
    | zero =>
      obtain rfl : a = x := by simpa using hx
      split
      · exact ⟨f a, rfl, hf a⟩
      · exact ⟨a, rfl, hR a⟩
    | succ i =>
      have hx : l[i]? = some x := by simpa using hx
      split
      · exact ⟨x, by simpa using hx, hR x⟩
      · obtain ⟨y, hy, hxy⟩ := ih i x hx
        exact ⟨y, by simpa using hy, hxy⟩

end

/-- Whatever was there is there still, possibly grown. -/
theorem Grows.exists_mem {R : α → α → Prop} {l l' : List α} (h : Grows R l l') {x : α} (hx : x ∈ l) :
    ∃ y ∈ l', R x y := by
  obtain ⟨i, hi⟩ := List.mem_iff_getElem?.mp hx
  obtain ⟨y, hy, hxy⟩ := h i x hi
  exact ⟨y, List.mem_of_getElem? hy, hxy⟩

/-- What the elements keep as they grow is the head of what the longer list has. -/
theorem Grows.map_prefix {β : Type*} {R : α → α → Prop} {l l' : List α} {f : α → β}
    (hf : ∀ x y, R x y → f y = f x) (h : Grows R l l') : l.map f <+: l'.map f := by
  rw [List.prefix_iff_getElem?]
  intro i hi
  rw [List.length_map] at hi
  obtain ⟨y, hy, hxy⟩ := h i l[i] (List.getElem?_eq_getElem hi)
  rw [List.getElem?_map, hy, List.getElem_map, Option.map_some, hf _ _ hxy]

theorem grows_trans {R : α → α → Prop} (hR : ∀ x y z, R x y → R y z → R x z) {l l' l'' : List α}
    (h : Grows R l l') (h' : Grows R l' l'') : Grows R l l'' := by
  intro i x hx
  obtain ⟨y, hy, hxy⟩ := h i x hx
  obtain ⟨z, hz, hyz⟩ := h' i y hy
  exact ⟨z, hz, hR x y z hxy hyz⟩

/-- An update adds to a sum no more than it adds to one element. -/
theorem sum_modifyFirst_le {g : α → Nat} {k : Nat} (hf : ∀ x, g (f x) ≤ g x + k) (l : List α) :
    ((modifyFirst p f l).map g).sum ≤ (l.map g).sum + k := by
  induction l with
  | nil => simp [modifyFirst]
  | cons a l ih =>
    rw [modifyFirst]
    split
    · have ha := hf a
      simp only [List.map_cons, List.sum_cons]
      omega
    · simp only [List.map_cons, List.sum_cons]
      omega

end Lists
