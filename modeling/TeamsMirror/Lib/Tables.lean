import Mathlib.Data.List.Nodup

/-!
# Tables of records

A table is a list of records in the order in which they were written. `firsts`
keeps the first record of each key. A container computed row by row from a table
with distinct keys can be updated at the position of a key without looking at
the other rows.
-/

namespace Tables

variable {α β κ : Type*} [DecidableEq κ]

/-- The records whose key no earlier record has, in order. -/
def firsts (key : α → κ) : List α → List α
  | [] => []
  | r :: rs => r :: (firsts key rs).filter fun s => key s ≠ key r

/-- The last line of a file gives at most one record. -/
theorem filterMap_concat (read : β → Option α) (lines : List β) (line : β) :
    (lines ++ [line]).filterMap read = lines.filterMap read ++ (read line).toList := by
  rw [List.filterMap_append]
  cases h : read line <;> simp [h]

variable {key : α → κ}

/-- No key is lost. -/
theorem mem_map_firsts {l : List α} {k : κ} : k ∈ (firsts key l).map key ↔ k ∈ l.map key := by
  induction l with
  | nil => rfl
  | cons r rs ih =>
    rw [firsts, List.map_cons, List.map_cons, List.mem_cons, List.mem_cons]
    by_cases h : k = key r
    · simp [h]
    · have hfilter : k ∈ ((firsts key rs).filter fun s => key s ≠ key r).map key ↔
          k ∈ (firsts key rs).map key := by
        simp only [List.mem_map, List.mem_filter, decide_eq_true_eq]
        constructor
        · rintro ⟨s, ⟨hs, -⟩, rfl⟩
          exact ⟨s, hs, rfl⟩
        · rintro ⟨s, hs, rfl⟩
          exact ⟨s, ⟨hs, h⟩, rfl⟩
      rw [hfilter, ih]

theorem nodup_map_firsts (key : α → κ) (l : List α) : ((firsts key l).map key).Nodup := by
  induction l with
  | nil => exact List.nodup_nil
  | cons r rs ih =>
    rw [firsts, List.map_cons, List.nodup_cons]
    constructor
    · intro h
      obtain ⟨s, hs, he⟩ := List.mem_map.mp h
      simp [he] at hs
    · exact ih.sublist (List.filter_sublist.map key)

/-- A record read last is kept when its key is new. -/
theorem firsts_concat (l : List α) (r : α) :
    firsts key (l ++ [r]) = if key r ∈ l.map key then firsts key l else firsts key l ++ [r] := by
  induction l with
  | nil => rfl
  | cons s l ih =>
    rw [List.cons_append, firsts, ih, firsts]
    by_cases hr : key r ∈ l.map key
    · rw [if_pos hr, if_pos (by simp [List.mem_map.mp hr])]
    · rw [if_neg hr, List.filter_append]
      by_cases hs : key r = key s
      · simp [hs]
      · rw [if_neg (by simpa [hs] using hr)]
        simp [hs]

/-- Renamed keys are still distinct exactly when no two keys get one name. -/
theorem nodup_map_rename_firsts {μ : Type*} {rename : κ → μ} {l : List α} :
    ((firsts key l).map fun r => rename (key r)).Nodup ↔
      ∀ r ∈ l, ∀ s ∈ l, rename (key r) = rename (key s) → key r = key s := by
  have hmap : (firsts key l).map (fun r => rename (key r)) = ((firsts key l).map key).map rename := by
    rw [List.map_map]
    rfl
  rw [hmap, List.nodup_map_iff_inj_on (nodup_map_firsts key l)]
  constructor
  · intro h r hr s hs
    exact h _ (mem_map_firsts.mpr (List.mem_map_of_mem hr)) _ (mem_map_firsts.mpr (List.mem_map_of_mem hs))
  · intro h k hk k' hk' he
    obtain ⟨r, hr, rfl⟩ := List.mem_map.mp (mem_map_firsts.mp hk)
    obtain ⟨s, hs, rfl⟩ := List.mem_map.mp (mem_map_firsts.mp hk')
    exact h r hr s hs he

omit [DecidableEq κ] in
/-- Two positions of one key are the same position. -/
theorem position_unique {l : List α} (hl : (l.map key).Nodup) {i j : Nat} {r s : α} (hr : l[i]? = some r)
    (hs : l[j]? = some s) (h : key r = key s) : i = j := by
  have hi : i < (l.map key).length := by
    simpa using (List.getElem?_eq_some_iff.mp hr).1
  refine (List.getElem?_inj hi hl).mp ?_
  simp [hr, hs, h]

omit [DecidableEq κ] in
/-- Writing at the position of a key changes the row of that key only. -/
theorem modify_map {row : α → β} (row' : α → β) {l : List α} (hl : (l.map key).Nodup) {i : Nat} {r : α}
    (hr : l[i]? = some r) {f : β → β} (hsame : row' r = f (row r))
    (hother : ∀ s ∈ l, key s ≠ key r → row' s = row s) : (l.map row).modify i f = l.map row' := by
  induction l generalizing i with
  | nil => cases hr
  | cons s l ih =>
    obtain ⟨hs, hl⟩ := List.nodup_cons.mp hl
    cases i with
    | zero =>
      obtain rfl : s = r := by simpa using hr
      have htail : l.map row' = l.map row := by
        apply List.map_congr_left
        intro a ha
        exact hother a (List.mem_cons_of_mem _ ha) fun he => hs (he ▸ List.mem_map_of_mem ha)
      rw [List.map_cons, List.map_cons, List.modify_zero_cons, hsame, htail]
    | succ i =>
      have hr : l[i]? = some r := by simpa using hr
      have hne : key s ≠ key r := fun he => hs (he ▸ List.mem_map_of_mem (List.mem_of_getElem? hr))
      rw [List.map_cons, List.map_cons, List.modify_succ_cons, hother s (by simp) hne,
        ih hl hr fun a ha => hother a (List.mem_cons_of_mem _ ha)]

/-- Records distributed over the parents they name, and put together again. -/
theorem flatMap_children_perm {parents : List α} (hparents : (parents.map key).Nodup) (parent : β → κ)
    {l : List β} (hl : ∀ r ∈ l, parent r ∈ parents.map key) :
    (parents.flatMap fun p => l.filter fun r => parent r = key p).Perm l := by
  suffices hgeneral : (parents.flatMap fun p => l.filter fun r => parent r = key p).Perm
      (l.filter fun r => parent r ∈ parents.map key) by
    rwa [List.filter_eq_self.mpr fun r hr => decide_eq_true (hl r hr)] at hgeneral
  clear hl
  induction parents with
  | nil => simp
  | cons p parents ih =>
    obtain ⟨hp, hparents⟩ := List.nodup_cons.mp hparents
    have hsplit := List.filter_append_perm (fun r => decide (parent r = key p))
      (l.filter fun r => parent r ∈ (p :: parents).map key)
    have hown : (l.filter fun r => parent r ∈ (p :: parents).map key).filter (fun r => parent r = key p) =
        l.filter fun r => parent r = key p := by
      rw [List.filter_filter]
      apply List.filter_congr
      intro r _
      by_cases h : parent r = key p <;> simp [h]
    have hrest : (l.filter fun r => parent r ∈ (p :: parents).map key).filter
        (fun r => !decide (parent r = key p)) = l.filter fun r => parent r ∈ parents.map key := by
      rw [List.filter_filter]
      apply List.filter_congr
      intro r _
      by_cases h : parent r = key p
      · have hnot : key p ∉ parents.map key := hp
        simp only [h, hnot]
        simp
      · simp [h]
    rw [hown, hrest] at hsplit
    exact ((ih hparents).append_left _).trans hsplit

/-- Under no parent a value occurs twice, exactly when records of one parent differ. -/
theorem nodup_children_iff {γ : Type*} {parents : List α} (parent : β → κ) (value : β → γ) {l : List β}
    (hl : ∀ r ∈ l, parent r ∈ parents.map key) :
    (∀ p ∈ parents, ((l.filter fun r => parent r = key p).map value).Nodup) ↔
      l.Pairwise fun r s => parent r = parent s → value r ≠ value s := by
  have hparent : ∀ p, ((l.filter fun r => parent r = key p).map value).Nodup ↔
      l.Pairwise fun r s => parent r = key p → parent s = key p → value r ≠ value s := by
    intro p
    rw [List.Nodup, List.pairwise_map, List.pairwise_filter]
    simp only [decide_eq_true_eq]
  simp only [hparent, List.pairwise_iff_getElem]
  constructor
  · intro h i j hi hj hij he
    obtain ⟨p, hp, hkey⟩ := List.mem_map.mp (hl l[i] (List.getElem_mem hi))
    exact h p hp i j hi hj hij hkey.symm (he.symm.trans hkey.symm)
  · intro h p _ i j hi hj hij hr hs
    exact h i j hi hj hij (hr.trans hs.symm)

end Tables
