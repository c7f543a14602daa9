import Mathlib.Data.List.Basic
import Mathlib.Logic.Function.Basic

/-!
# Sorting by a key

A sorting function returns some permutation in the order of the keys, and is free in
the order of elements with one key. A list that is already in order comes back
unchanged from all of them exactly when it has no two different elements with one key.
-/

namespace Sorting

variable {α β κ : Type*}

variable {key : α → κ} {look : α → β}

/-- Two elements with one key can change places. -/
theorem exists_swap {l : List α} {x y : α} (hx : x ∈ l) (hy : y ∈ l) (hkey : key x = key y)
    (hlook : look x ≠ look y) : ∃ l' : List α, l'.Perm l ∧ l'.map key = l.map key ∧ l'.map look ≠ l.map look := by
  obtain ⟨front, back, rfl⟩ := List.append_of_mem hx
  have hne : y ≠ x := fun h => hlook (congrArg look h.symm)
  simp only [List.mem_append, List.mem_cons, hne, false_or] at hy
  rcases hy with hfront | hback
  · obtain ⟨front, middle, rfl⟩ := List.append_of_mem hfront
    refine ⟨front ++ x :: (middle ++ y :: back), ?_, ?_, ?_⟩
    · rw [List.append_assoc]
      apply List.Perm.append_left
      exact (List.perm_middle.cons x).trans ((List.Perm.swap y x _).trans (List.perm_middle.symm.cons y))
    · simp [hkey]
    · simp [hlook]
  · obtain ⟨middle, back, rfl⟩ := List.append_of_mem hback
    refine ⟨front ++ y :: (middle ++ x :: back), ?_, ?_, ?_⟩
    · apply List.Perm.append_left
      exact (List.perm_middle.cons y).trans ((List.Perm.swap x y _).trans (List.perm_middle.symm.cons x))
    · simp [hkey]
    · simp [hlook.symm]

variable [LE κ]

/-- What is assumed of a sorting function. -/
structure Sorts (key : α → κ) (sort : List α → List α) : Prop where
  perm : ∀ l, (sort l).Perm l
  sorted : ∀ l, (sort l).Pairwise fun x y => key x ≤ key y

variable {sort : List α → List α}

/-- Sorted lists with the same elements look the same where the look follows from the key. -/
theorem map_eq_of_perm [Std.IsPartialOrder κ] {l l' : List α} (hperm : l'.Perm l) (hl : l.Pairwise fun x y => key x ≤ key y)
    (hl' : l'.Pairwise fun x y => key x ≤ key y)
    (hties : ∀ x ∈ l, ∀ y ∈ l, key x = key y → look x = look y) : l'.map look = l.map look := by
  -- the looks are compared together with their keys, which order them
  have hpairs : l'.map (fun x => (look x, key x)) = l.map fun x => (look x, key x) := by
    have hordered : ∀ {m : List α}, m.Pairwise (fun x y => key x ≤ key y) →
        (m.map fun x => (look x, key x)).Pairwise fun p q => p.2 ≤ q.2 := by
      intro m hm
      exact List.pairwise_map.mpr hm
    refine List.Perm.eq_of_pairwise ?_ (hordered hl') (hordered hl) (hperm.map _)
    intro p q hp hq hpq hqp
    obtain ⟨x, hx, rfl⟩ := List.mem_map.mp hp
    obtain ⟨y, hy, rfl⟩ := List.mem_map.mp hq
    have hkey : key x = key y := Std.le_antisymm hpq hqp
    rw [hties x (hperm.subset hx) y hy hkey, hkey]
  have hlooks := congrArg (List.map Prod.fst) hpairs
  rwa [List.map_map, List.map_map] at hlooks

/-- A sorting function may be changed at one list. -/
theorem Sorts.update [DecidableEq (List α)] (h : Sorts key sort) {l l' : List α} (hperm : l'.Perm l)
    (hl' : l'.Pairwise fun x y => key x ≤ key y) : Sorts key (Function.update sort l l') where
  perm m := by
    by_cases hm : m = l
    · subst hm
      rwa [Function.update_self]
    · rw [Function.update_of_ne hm]
      exact h.perm m
  sorted m := by
    by_cases hm : m = l
    · subst hm
      rwa [Function.update_self]
    · rw [Function.update_of_ne hm]
      exact h.sorted m

/-- A list in order comes back unchanged from every sorting function, as far as the look of its
elements goes, if and only if elements with one key look the same. -/
theorem forall_sorts_iff [Std.IsPartialOrder κ] (h : Sorts key sort) {l : List α} (hl : l.Pairwise fun x y => key x ≤ key y) :
    (∀ sort, Sorts key sort → (sort l).map look = l.map look) ↔
      ∀ x ∈ l, ∀ y ∈ l, key x = key y → look x = look y := by
  classical
  constructor
  · intro hall x hx y hy hkey
    by_contra hlook
    obtain ⟨l', hperm, hkeys, hlooks⟩ := exists_swap hx hy hkey hlook
    have hl' : l'.Pairwise fun x y => key x ≤ key y := by
      rwa [← List.pairwise_map (f := key) (R := (· ≤ ·)), hkeys, List.pairwise_map]
    have hsame := hall _ (h.update hperm hl')
    rw [Function.update_self] at hsame
    exact hlooks hsame
  · intro hties sort hsort
    exact map_eq_of_perm (hsort.perm l) hl (hsort.sorted l) hties

end Sorting
