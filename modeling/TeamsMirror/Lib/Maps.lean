import Mathlib.Data.List.AList

/-!
# Unordered maps

A hash map with unspecified iteration order, as an association list with
pairwise distinct keys. Lookup, insertion and erasure are those of `AList`;
this file adds what imperative code does besides: inserting only when the key is
absent, updating the value found at a key, and counting the keys of a value.
-/

/-- A map from `κ` to `υ`; its entries list every key once, in an order no result relies on. -/
abbrev UnorderedMap (κ υ : Type*) := AList fun _ : κ => υ

namespace UnorderedMap

variable {κ υ : Type*} [DecidableEq κ]

/-- Insert unless the key is present already. -/
def emplace (k : κ) (v : υ) (m : UnorderedMap κ υ) : UnorderedMap κ υ :=
  if k ∈ m then m else m.insert k v

/-- Update the value stored at a key, when there is one. -/
def modify (k : κ) (f : υ → υ) (m : UnorderedMap κ υ) : UnorderedMap κ υ where
  entries := m.entries.map (Sigma.map id fun k' v => if k' = k then f v else v)
  nodupKeys := m.nodupKeys.map₂ _

/-- The value at a key, inserting a default when the key is absent. -/
def getOrInsert (k : κ) (d : υ) (m : UnorderedMap κ υ) : υ × UnorderedMap κ υ :=
  match m.lookup k with
  | some v => (v, m)
  | none => (d, m.insert k d)

theorem fst_getOrInsert (k : κ) (d : υ) (m : UnorderedMap κ υ) :
    (getOrInsert k d m).1 = (m.lookup k).getD d := by
  unfold getOrInsert
  split
  · next h => rw [h]; rfl
  · next h => rw [h]; rfl

/-- `operator[]` on a map of defaulted values does not change what a defaulted lookup reads. -/
theorem getD_lookup_getOrInsert (k k' : κ) (d : υ) (m : UnorderedMap κ υ) :
    ((getOrInsert k d m).2.lookup k').getD d = (m.lookup k').getD d := by
  unfold getOrInsert
  split
  · rfl
  · next h =>
    by_cases hk : k' = k
    · rw [hk, AList.lookup_insert, h]
      rfl
    · rw [AList.lookup_insert_ne hk]

theorem lookup_emplace_of_notMem {k k' : κ} {v : υ} {m : UnorderedMap κ υ} (h : k ∉ m) :
    (emplace k v m).lookup k' = if k' = k then some v else m.lookup k' := by
  rw [emplace, if_neg h]
  split
  · next he => rw [he, AList.lookup_insert]
  · next he => rw [AList.lookup_insert_ne he]

theorem mem_emplace {k k' : κ} {v : υ} {m : UnorderedMap κ υ} :
    k' ∈ emplace k v m ↔ k' = k ∨ k' ∈ m := by
  by_cases h : k ∈ m
  · rw [emplace, if_pos h]
    constructor
    · exact Or.inr
    · rintro (rfl | h')
      · exact h
      · exact h'
  · rw [emplace, if_neg h, AList.mem_insert]

@[simp] theorem lookup_modify (k k' : κ) (f : υ → υ) (m : UnorderedMap κ υ) :
    (modify k f m).lookup k' = (m.lookup k').map fun v => if k' = k then f v else v := by
  simp only [AList.lookup, modify]
  exact List.dlookup_map₂ (γ := fun _ => υ) (δ := fun _ => υ)
    (f := fun k' v => if k' = k then f v else v) k'

@[simp] theorem keys_modify (k : κ) (f : υ → υ) (m : UnorderedMap κ υ) :
    (modify k f m).keys = m.keys := by
  exact @List.map₂_keys κ (fun _ => υ) (fun _ => υ) (fun k' v => if k' = k then f v else v) m.entries

@[simp] theorem mem_modify {k k' : κ} {f : υ → υ} {m : UnorderedMap κ υ} :
    k' ∈ modify k f m ↔ k' ∈ m := by
  rw [AList.mem_keys, AList.mem_keys, keys_modify]

theorem modify_eq_self {k : κ} {f : υ → υ} (h : ∀ v, f v = v) (m : UnorderedMap κ υ) :
    modify k f m = m := by
  apply AList.ext
  have he : ∀ e : Sigma fun _ : κ => υ,
      Sigma.map id (fun k' v => if k' = k then f v else v) e = e := by
    intro e
    cases e
    simp [Sigma.map, h]
  simp only [modify, funext he, List.map_id']

theorem modify_modify (k : κ) (f g : υ → υ) (m : UnorderedMap κ υ) :
    modify k g (modify k f m) = modify k (fun v => g (f v)) m := by
  apply AList.ext
  simp only [modify, List.map_map]
  apply List.map_congr_left
  rintro ⟨k', v⟩ -
  by_cases h : k' = k <;> simp [Sigma.map, h]

theorem mem_entries_iff {k : κ} {v : υ} {m : UnorderedMap κ υ} :
    ⟨k, v⟩ ∈ m.entries ↔ m.lookup k = some v :=
  (AList.mem_lookup_iff (s := m)).symm

theorem mem_of_lookup {k : κ} {v : υ} {m : UnorderedMap κ υ} (h : m.lookup k = some v) : k ∈ m :=
  AList.lookup_isSome.mp (by rw [h]; rfl)

theorem exists_lookup {k : κ} {m : UnorderedMap κ υ} (h : k ∈ m) : ∃ v, m.lookup k = some v :=
  Option.isSome_iff_exists.mp (AList.lookup_isSome.mpr h)

variable [DecidableEq υ]

/-- The keys whose value is `v`. -/
def keysWith (v : υ) (m : UnorderedMap κ υ) : List κ :=
  (m.entries.filter fun e => e.2 = v).map Sigma.fst

theorem mem_keysWith {k : κ} {v : υ} {m : UnorderedMap κ υ} :
    k ∈ keysWith v m ↔ m.lookup k = some v := by
  rw [← mem_entries_iff]
  simp only [keysWith, List.mem_map, List.mem_filter, decide_eq_true_eq]
  constructor
  · rintro ⟨⟨k', v'⟩, ⟨he, rfl⟩, rfl⟩
    exact he
  · intro h
    exact ⟨⟨k, v⟩, ⟨h, rfl⟩, rfl⟩

omit [DecidableEq κ] in
theorem nodup_keysWith (v : υ) (m : UnorderedMap κ υ) : (keysWith v m).Nodup := by
  have h : (keysWith v m).Sublist m.keys := (List.filter_sublist).map _
  exact h.nodup m.keys_nodup

omit [DecidableEq κ] in
@[simp] theorem keysWith_empty (v : υ) : keysWith v (∅ : UnorderedMap κ υ) = [] := rfl

theorem keysWith_insert_of_notMem {k : κ} {v w : υ} {m : UnorderedMap κ υ} (h : k ∉ m) :
    keysWith w (m.insert k v) = if v = w then k :: keysWith w m else keysWith w m := by
  rw [keysWith, AList.entries_insert_of_notMem h]
  by_cases hv : v = w <;> simp [keysWith, hv]

/-- Erasing a key removes exactly that key from the keys of each value. -/
theorem keysWith_erase (k : κ) (v : υ) (m : UnorderedMap κ υ) :
    keysWith v (m.erase k) = (keysWith v m).erase k := by
  have hk : ∀ l : List (Sigma fun _ : κ => υ), l.NodupKeys →
      ((l.kerase k).filter fun e => e.2 = v).map Sigma.fst =
        ((l.filter fun e => e.2 = v).map Sigma.fst).erase k := by
    intro l
    induction l with
    | nil => simp
    | cons e l ih =>
      intro hl
      have hnot := List.notMem_keys_of_nodupKeys_cons hl
      have ht := ih (List.nodupKeys_of_nodupKeys_cons hl)
      by_cases hek : k = e.1
      · rw [List.kerase_cons_eq hek]
        by_cases hv : e.2 = v
        · simp [hv, hek]
        · have hn : k ∉ (l.filter fun e => e.2 = v).map Sigma.fst := by
            intro hmem
            obtain ⟨e', he', rfl⟩ := List.mem_map.mp hmem
            exact hnot (hek ▸ List.mem_keys_of_mem (List.mem_of_mem_filter he'))
          simp [hv, List.erase_of_not_mem hn]
      · rw [List.kerase_cons_ne hek]
        by_cases hv : e.2 = v
        · simp [hv, ht, List.erase_cons_tail, Ne.symm hek]
        · simp [hv, ht]
  exact hk m.entries m.nodupKeys

/-- The map finds the position at which each key stands, and no other. -/
def Indexes {π : Type*} (index : UnorderedMap κ π) (keyAt : π → Option κ) : Prop :=
  ∀ k p, index.lookup k = some p ↔ keyAt p = some k

theorem Indexes.empty {π : Type*} {keyAt : π → Option κ} (h : ∀ p, keyAt p = none) :
    Indexes (∅ : UnorderedMap κ π) keyAt := by
  intro k p
  simp [h p]

/-- A new position, filled with a key that the index does not know yet. -/
theorem Indexes.emplace {π : Type*} [DecidableEq π] {index : UnorderedMap κ π} {keyAt keyAt' : π → Option κ}
    (h : Indexes index keyAt) {k : κ} {p : π} (hk : k ∉ index) (hfree : keyAt p = none)
    (hnew : ∀ q, keyAt' q = if q = p then some k else keyAt q) :
    Indexes (UnorderedMap.emplace k p index) keyAt' := by
  intro k' q
  rw [lookup_emplace_of_notMem hk, hnew]
  by_cases hq : q = p
  · subst hq
    by_cases hk' : k' = k
    · simp [hk']
    · have hne : index.lookup k' ≠ some q := fun hl => by simp [(h k' q).mp hl] at hfree
      simp [hk', hne, Ne.symm hk']
  · by_cases hk' : k' = k
    · have hne : keyAt q ≠ some k := fun hl => hk (mem_of_lookup ((h k q).mpr hl))
      simp [hk', hq, hne, Ne.symm hq]
    · simpa [hk', hq] using h k' q

theorem Indexes.mem {π : Type*} {index : UnorderedMap κ π} {keyAt : π → Option κ}
    (h : Indexes index keyAt) {k : κ} : k ∈ index ↔ ∃ p, keyAt p = some k := by
  constructor
  · intro hk
    obtain ⟨p, hp⟩ := exists_lookup hk
    exact ⟨p, (h k p).mp hp⟩
  · rintro ⟨p, hp⟩
    exact mem_of_lookup ((h k p).mpr hp)

/-- A key stands at one position only. -/
theorem Indexes.unique {π : Type*} {index : UnorderedMap κ π} {keyAt : π → Option κ}
    (h : Indexes index keyAt) {k : κ} {p q : π} (hp : keyAt p = some k) (hq : keyAt q = some k) : p = q := by
  have hlookup := (h k p).mpr hp
  rw [(h k q).mpr hq] at hlookup
  exact (Option.some.inj hlookup).symm

theorem Indexes.congr {π : Type*} {index : UnorderedMap κ π} {keyAt keyAt' : π → Option κ}
    (h : Indexes index keyAt) (hsame : ∀ p, keyAt' p = keyAt p) : Indexes index keyAt' := by
  intro k p
  rw [hsame]
  exact h k p

end UnorderedMap
