import Mathlib.Data.List.Basic

/-!
# Runs of partial step functions

A system is a partial step function `σ → ε → Option σ`: `none` means that the
event is not enabled. Everything here is induction over a finite run, packaged
once: joining runs, invariants (plain and under a condition on every step), what
holds all along a run, a measure that bounds its length, and what the steps of a
run show together.
-/
namespace Runs

variable {σ ε α : Type*} {step : σ → ε → Option σ}

/-- Execute a list of events; `none` as soon as one of them is not enabled. -/
def run (step : σ → ε → Option σ) : σ → List ε → Option σ
  | s, [] => some s
  | s, e :: es => (step s e).bind fun t => run step t es

@[simp] theorem run_nil (s : σ) : run step s [] = some s := rfl

theorem run_cons_eq_some {s u : σ} {e : ε} {es : List ε} :
    run step s (e :: es) = some u ↔ ∃ t, step s e = some t ∧ run step t es = some u := by
  simp [run, Option.bind_eq_some_iff]

/-- A run over a concatenation is two runs that meet in a middle state. -/
theorem run_append_eq_some {s u : σ} {es fs : List ε} :
    run step s (es ++ fs) = some u ↔ ∃ t, run step s es = some t ∧ run step t fs = some u := by
  induction es generalizing s with
  | nil => simp
  | cons e es ih =>
    rw [List.cons_append, run_cons_eq_some]
    constructor
    · rintro ⟨t, ht, hu⟩
      obtain ⟨v, hv, hu⟩ := ih.mp hu
      exact ⟨v, run_cons_eq_some.mpr ⟨t, ht, hv⟩, hu⟩
    · rintro ⟨v, hv, hu⟩
      obtain ⟨t, ht, hv⟩ := run_cons_eq_some.mp hv
      exact ⟨t, ht, ih.mpr ⟨v, hv, hu⟩⟩

theorem run_append {s t : σ} {es : List ε} (h : run step s es = some t) (fs : List ε) :
    run step s (es ++ fs) = run step t fs := by
  ext u
  rw [run_append_eq_some]
  exact ⟨fun ⟨t', ht', hu⟩ => Option.some.inj (h.symm.trans ht') ▸ hu, fun hu => ⟨t, h, hu⟩⟩

theorem run_singleton (s : σ) (e : ε) : run step s [e] = step s e := by
  cases h : step s e <;> simp [run, h]

theorem run_join {s t u : σ} {es fs : List ε} (h : run step s es = some t)
    (h' : run step t fs = some u) : run step s (es ++ fs) = some u :=
  run_append_eq_some.mpr ⟨t, h, h'⟩

/-- A run extended by one enabled event. -/
theorem run_snoc {s t u : σ} {es : List ε} {e : ε} (h : run step s es = some t)
    (h' : step t e = some u) : run step s (es ++ [e]) = some u :=
  run_join h (by rw [run_singleton, h'])

/-- `C` holds of every step that a run takes, before the step is made. -/
def Always (step : σ → ε → Option σ) (C : σ → ε → Prop) : σ → List ε → Prop
  | _, [] => True
  | s, e :: es => C s e ∧ ∀ t, step s e = some t → Always step C t es

/-- A run can be checked for `C` step by step. -/
instance Always.decidable (step : σ → ε → Option σ) (C : σ → ε → Prop) [∀ s e, Decidable (C s e)] :
    ∀ s es, Decidable (Always step C s es)
  | _, [] => isTrue trivial
  | s, e :: es =>
    match h : step s e with
    | none => decidable_of_iff (C s e) ⟨fun hc => ⟨hc, fun t ht => by cases h.symm.trans ht⟩, And.left⟩
    | some t =>
      have := Always.decidable step C t es
      decidable_of_iff (C s e ∧ Always step C t es)
        ⟨fun hc => ⟨hc.1, fun u hu => Option.some.inj (h.symm.trans hu) ▸ hc.2⟩, fun hc => ⟨hc.1, hc.2 t h⟩⟩

/-- What every enabled step meeting `C` preserves, every run meeting `C` preserves. -/
theorem run_invariant_of {P : σ → Prop} {C : σ → ε → Prop}
    (hstep : ∀ s e t, P s → C s e → step s e = some t → P t) {s u : σ} {es : List ε}
    (hs : P s) (hC : Always step C s es) (h : run step s es = some u) : P u := by
  induction es generalizing s with
  | nil =>
    cases h
    exact hs
  | cons e es ih =>
    obtain ⟨t, ht, hu⟩ := run_cons_eq_some.mp h
    exact ih (hstep s e t hs hC.1 ht) (hC.2 t ht) hu

theorem always_of_forall_mem {C : σ → ε → Prop} {es : List ε} (h : ∀ e ∈ es, ∀ s, C s e) (s : σ) :
    Always step C s es := by
  induction es generalizing s with
  | nil => trivial
  | cons e es ih =>
    obtain ⟨hhead, htail⟩ := List.forall_mem_cons.mp h
    exact ⟨hhead s, fun t _ => ih htail t⟩

theorem always_of_forall {C : σ → ε → Prop} (h : ∀ s e, C s e) (s : σ) (es : List ε) :
    Always step C s es := always_of_forall_mem (fun e _ s => h s e) s

theorem always_append {C : σ → ε → Prop} {s : σ} {es fs : List ε} (hC : Always step C s es)
    (hrest : ∀ t, run step s es = some t → Always step C t fs) : Always step C s (es ++ fs) := by
  induction es generalizing s with
  | nil => exact hrest s rfl
  | cons e es ih =>
    refine ⟨hC.1, fun t ht => ih (hC.2 t ht) fun u hu => ?_⟩
    exact hrest u (run_cons_eq_some.mpr ⟨t, ht, hu⟩)

/-- The unconditional invariant rule. -/
theorem run_invariant {P : σ → Prop} (hstep : ∀ s e t, P s → step s e = some t → P t)
    {s u : σ} {es : List ε} (hs : P s) (h : run step s es = some u) : P u :=
  run_invariant_of (C := fun _ _ => True) (fun s e t hp _ ht => hstep s e t hp ht) hs
    (always_of_forall (fun _ _ => trivial) s es) h

/-- If a step that meets `W` leads from `P` to `P` exactly when it meets `C`, then `P` holds all
along a run that meets `W` exactly when every step meets `C`. -/
theorem forall_prefix_iff_always {P Q : σ → Prop} {C W : σ → ε → Prop}
    (hstep : ∀ s e t, Q s → P s → W s e → step s e = some t → Q t ∧ (P t ↔ C s e)) {s u : σ} {es : List ε}
    (hQ : Q s) (hP : P s) (hW : Always step W s es) (h : run step s es = some u) :
    (∀ es₁ es₂ t, es = es₁ ++ es₂ → run step s es₁ = some t → P t) ↔ Always step C s es := by
  induction es generalizing s with
  | nil =>
    refine ⟨fun _ => trivial, fun _ es₁ es₂ t he ht => ?_⟩
    obtain ⟨rfl, -⟩ := List.append_eq_nil_iff.mp he.symm
    cases ht
    exact hP
  | cons e es ih =>
    obtain ⟨t, ht, hu⟩ := run_cons_eq_some.mp h
    obtain ⟨hQt, hiff⟩ := hstep s e t hQ hP hW.1 ht
    constructor
    · intro hall
      have hPt : P t := hall [e] es t rfl (by rw [run_singleton, ht])
      refine ⟨hiff.mp hPt, fun t' ht' => ?_⟩
      obtain rfl : t = t' := Option.some.inj (ht.symm.trans ht')
      refine (ih hQt hPt (hW.2 t ht) hu).mp fun es₁ es₂ v he hv => ?_
      exact hall (e :: es₁) es₂ v (congrArg (e :: ·) he) (run_cons_eq_some.mpr ⟨t, ht, hv⟩)
    · intro hC es₁ es₂ v he hv
      have hPt := hiff.mpr hC.1
      cases es₁ with
      | nil =>
        cases hv
        exact hP
      | cons e' es₁ =>
        obtain ⟨rfl, htail⟩ := List.cons.inj he
        obtain ⟨t', ht', hv⟩ := run_cons_eq_some.mp hv
        obtain rfl : t = t' := Option.some.inj (ht.symm.trans ht')
        exact (ih hQt hPt (hW.2 t ht) hu).mpr (hC.2 t ht) es₁ es₂ v htail hv

/-- Two conditions that agree on the steps of a run. -/
theorem always_congr {Q : σ → Prop} {C D : σ → ε → Prop}
    (hstep : ∀ s e t, Q s → step s e = some t → Q t ∧ (C s e ↔ D s e)) {s u : σ} {es : List ε}
    (hs : Q s) (h : run step s es = some u) : Always step C s es ↔ Always step D s es := by
  induction es generalizing s with
  | nil => exact Iff.rfl
  | cons e es ih =>
    obtain ⟨t, ht, hu⟩ := run_cons_eq_some.mp h
    obtain ⟨hQt, hiff⟩ := hstep s e t hs ht
    rw [Always, Always, hiff]
    refine and_congr_right fun _ => forall₂_congr fun t' ht' => ?_
    obtain rfl : t = t' := Option.some.inj (ht.symm.trans ht')
    exact ih hQt hu

/-- A measure that every step meeting `C` lowers bounds the length of a run that meets `C`. -/
theorem length_le_of_lt_of {P : σ → Prop} {C : σ → ε → Prop} (measure : σ → Nat)
    (hstep : ∀ s e t, P s → C s e → step s e = some t → P t ∧ measure t < measure s) {s u : σ} {es : List ε}
    (hs : P s) (hC : Always step C s es) (h : run step s es = some u) : es.length + measure u ≤ measure s := by
  induction es generalizing s with
  | nil =>
    cases h
    simp
  | cons e es ih =>
    obtain ⟨t, ht, hu⟩ := run_cons_eq_some.mp h
    obtain ⟨hPt, hlt⟩ := hstep s e t hs hC.1 ht
    have hle := ih hPt (hC.2 t ht) hu
    rw [List.length_cons]
    omega

/-- A measure that every step lowers bounds the length of a run. -/
theorem length_le_of_lt {P : σ → Prop} (measure : σ → Nat)
    (hstep : ∀ s e t, P s → step s e = some t → P t ∧ measure t < measure s) {s u : σ} {es : List ε}
    (hs : P s) (h : run step s es = some u) : es.length + measure u ≤ measure s :=
  length_le_of_lt_of (C := fun _ _ => True) measure (fun s e t hp _ ht => hstep s e t hp ht) hs
    (always_of_forall (fun _ _ => trivial) s es) h

/-- What the steps of a run show, in their order. -/
def collect (step : σ → ε → Option σ) (f : σ → ε → List α) : σ → List ε → List α
  | _, [] => []
  | s, e :: es =>
    f s e ++
      match step s e with
      | none => []
      | some t => collect step f t es

/-- A relation that composes and holds of single steps and what they show, holds of runs. -/
theorem run_collect {P : σ → Prop} {C : σ → ε → Prop} {f : σ → ε → List α} {R : σ → List α → σ → Prop}
    (hnil : ∀ s, P s → R s [] s) (happend : ∀ s t u xs ys, R s xs t → R t ys u → R s (xs ++ ys) u)
    (hstep : ∀ s e t, P s → C s e → step s e = some t → P t ∧ R s (f s e) t) {s u : σ} {es : List ε}
    (hs : P s) (hC : Always step C s es) (h : run step s es = some u) : R s (collect step f s es) u := by
  induction es generalizing s with
  | nil =>
    cases h
    exact hnil _ hs
  | cons e es ih =>
    obtain ⟨t, ht, hu⟩ := run_cons_eq_some.mp h
    obtain ⟨hPt, hshown⟩ := hstep s e t hs hC.1 ht
    simp only [collect, ht]
    exact happend s t u _ _ hshown (ih hPt (hC.2 t ht) hu)

theorem collect_cons {f : σ → ε → List α} {s t : σ} {e : ε} {es : List ε} (h : step s e = some t) :
    collect step f s (e :: es) = f s e ++ collect step f t es := by
  simp only [collect, h]

theorem collect_singleton {f : σ → ε → List α} {s t : σ} {e : ε} (h : step s e = some t) :
    collect step f s [e] = f s e := by
  rw [collect_cons h]
  exact List.append_nil _

theorem collect_append {f : σ → ε → List α} {s t : σ} {es fs : List ε} (h : run step s es = some t) :
    collect step f s (es ++ fs) = collect step f s es ++ collect step f t fs := by
  induction es generalizing s with
  | nil =>
    cases h
    rfl
  | cons e es ih =>
    obtain ⟨v, hv, h⟩ := run_cons_eq_some.mp h
    rw [List.cons_append, collect_cons hv, collect_cons hv, ih h, List.append_assoc]

/-- If every step of one system that meets `C` is followed by some steps of another, which show the same,
then every run that meets `C` is followed by a run. -/
theorem run_simulates_of {τ η : Type*} {step' : τ → η → Option τ} {R : σ → τ → Prop} {C : σ → ε → Prop}
    {follow : σ → ε → List η} {f : σ → ε → List α} {g : τ → η → List α}
    (hstep : ∀ s e s' t, R s t → C s e → step s e = some s' →
      ∃ t', run step' t (follow s e) = some t' ∧ R s' t' ∧ collect step' g t (follow s e) = f s e)
    {s u : σ} {t : τ} {es : List ε} (hR : R s t) (hC : Always step C s es) (h : run step s es = some u) :
    ∃ v, run step' t (collect step follow s es) = some v ∧ R u v ∧
      collect step' g t (collect step follow s es) = collect step f s es := by
  induction es generalizing s t with
  | nil =>
    cases h
    exact ⟨t, rfl, hR, rfl⟩
  | cons e es ih =>
    obtain ⟨s', hs', h⟩ := run_cons_eq_some.mp h
    obtain ⟨t', ht', hR', hshown⟩ := hstep s e s' t hR hC.1 hs'
    obtain ⟨v, hv, hRv, hrest⟩ := ih hR' (hC.2 s' hs') h
    refine ⟨v, ?_, hRv, ?_⟩
    · rw [collect_cons hs']
      exact run_join ht' hv
    · rw [collect_cons hs', collect_cons hs', collect_append ht', hshown, hrest]

/-- The unconditional simulation rule. -/
theorem run_simulates {τ η : Type*} {step' : τ → η → Option τ} {R : σ → τ → Prop} {follow : σ → ε → List η}
    {f : σ → ε → List α} {g : τ → η → List α}
    (hstep : ∀ s e s' t, R s t → step s e = some s' →
      ∃ t', run step' t (follow s e) = some t' ∧ R s' t' ∧ collect step' g t (follow s e) = f s e)
    {s u : σ} {t : τ} {es : List ε} (hR : R s t) (h : run step s es = some u) :
    ∃ v, run step' t (collect step follow s es) = some v ∧ R u v ∧
      collect step' g t (collect step follow s es) = collect step f s es :=
  run_simulates_of (C := fun _ _ => True) (fun s e s' t hR _ hs => hstep s e s' t hR hs) hR
    (always_of_forall (fun _ _ => trivial) s es) h

/-- If every step of a system, or that it is not enabled, is what some steps of another one make of the image of its
state, then so are its runs, and they show the same. -/
theorem run_map_eq {τ η : Type*} {step' : τ → η → Option τ} {image : σ → τ} {follow : σ → ε → List η}
    {f : σ → ε → List α} {g : τ → η → List α}
    (hstep : ∀ s e, run step' (image s) (follow s e) = (step s e).map image)
    (hshown : ∀ s e, collect step' g (image s) (follow s e) = f s e) (s : σ) (es : List ε) :
    run step' (image s) (collect step follow s es) = (run step s es).map image ∧
      collect step' g (image s) (collect step follow s es) = collect step f s es := by
  induction es generalizing s with
  | nil => exact ⟨rfl, rfl⟩
  | cons e es ih =>
    cases hs : step s e with
    | none =>
      have hnone : run step' (image s) (follow s e) = none := by rw [hstep, hs, Option.map_none]
      have hfollow : collect step follow s (e :: es) = follow s e := by simp only [collect, hs, List.append_nil]
      have hshows : collect step f s (e :: es) = f s e := by simp only [collect, hs, List.append_nil]
      rw [hfollow, hshows, hnone, run, hs]
      exact ⟨rfl, hshown s e⟩
    | some t =>
      have hsome : run step' (image s) (follow s e) = some (image t) := by rw [hstep, hs, Option.map_some]
      obtain ⟨hrun, hcollect⟩ := ih t
      rw [collect_cons hs, collect_cons hs, collect_append hsome, hcollect, hshown, run, hs, Option.bind_some, ← hrun]
      exact ⟨run_append hsome _, rfl⟩

theorem run_map_of_step {τ : Type*} {step' : τ → ε → Option τ} {image : σ → τ} {f : σ → ε → List α}
    {g : τ → ε → List α} (hstep : ∀ s e, run step' (image s) [e] = (step s e).map image)
    (hshown : ∀ s e, collect step' g (image s) [e] = f s e) (s : σ) (es : List ε) :
    run step' (image s) es = (run step s es).map image ∧ collect step' g (image s) es = collect step f s es := by
  induction es generalizing s with
  | nil => exact ⟨rfl, rfl⟩
  | cons e es ih =>
    have hnext := hstep s e
    rw [run_singleton] at hnext
    cases hs : step s e with
    | none =>
      have hg := hshown s e
      simp only [collect, hnext, hs, Option.map_none, List.append_nil] at hg ⊢
      exact ⟨by simp only [run, hnext, hs, Option.map_none, Option.bind_none], hg⟩
    | some t =>
      have hsome : step' (image s) e = some (image t) := by rw [hnext, hs, Option.map_some]
      obtain ⟨hrun, hcollect⟩ := ih t
      have hg := hshown s e
      rw [collect_singleton hsome] at hg
      rw [collect_cons hs, collect_cons hsome, hcollect, hg, run, run, hs, hsome, Option.bind_some, Option.bind_some]
      exact ⟨hrun, rfl⟩

/-- Two runs that one system follows with the same events show the same. -/
theorem collect_eq_of_simulates {τ η : Type*} {step' : τ → η → Option τ} {R : σ → τ → Prop} {C : σ → ε → Prop}
    {follow : σ → ε → List η} {f : σ → ε → List α} {g : τ → η → List α}
    (hstep : ∀ s e s' t, R s t → C s e → step s e = some s' →
      ∃ t', run step' t (follow s e) = some t' ∧ R s' t' ∧ collect step' g t (follow s e) = f s e)
    {s s' u u' : σ} {t : τ} {es es' : List ε} (hR : R s t) (hR' : R s' t) (hC : Always step C s es)
    (hC' : Always step C s' es') (h : run step s es = some u) (h' : run step s' es' = some u')
    (hfollow : collect step follow s' es' = collect step follow s es) :
    collect step f s' es' = collect step f s es ∧ ∃ v, R u v ∧ R u' v := by
  obtain ⟨v, hv, hRv, hshown⟩ := run_simulates_of hstep hR hC h
  obtain ⟨v', hv', hRv', hshown'⟩ := run_simulates_of hstep hR' hC' h'
  rw [hfollow] at hv' hshown'
  obtain rfl : v = v' := Option.some.inj (hv.symm.trans hv')
  exact ⟨hshown'.symm.trans hshown, v, hRv, hRv'⟩

end Runs
