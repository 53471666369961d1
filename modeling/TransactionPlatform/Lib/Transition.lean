import Mathlib.Data.List.Forall2

/-!
# Transition — runs of an event-labelled transition system

All nondeterminism sits in the events, so a system is a function `step : σ → ε → Option σ`, where
`none` says that the event cannot happen in that state.  A run is a list of events, and
`exec step s es` is the state it leads to.
-/

namespace TransactionPlatform
namespace Transition

variable {σ ε : Type} {step : σ → ε → Option σ}

def exec (step : σ → ε → Option σ) : σ → List ε → Option σ
  | s, [] => some s
  | s, e :: es =>
      match step s e with
      | some s' => exec step s' es
      | none => none

@[simp] theorem exec_nil (s : σ) : exec step s [] = some s := rfl

theorem exec_cons (s : σ) (e : ε) (es : List ε) :
    exec step s (e :: es) = (step s e).bind fun m => exec step m es := by
  change (match step s e with | some m => exec step m es | none => none) = _
  cases step s e with
  | none =>
      rfl
  | some m =>
      rfl

theorem exec_cons_eq_some {s t : σ} {e : ε} {es : List ε} :
    exec step s (e :: es) = some t ↔ ∃ m, step s e = some m ∧ exec step m es = some t := by
  rw [exec_cons, Option.bind_eq_some_iff]

theorem exec_append_eq_some {s t : σ} {es fs : List ε} :
    exec step s (es ++ fs) = some t ↔
      ∃ m, exec step s es = some m ∧ exec step m fs = some t := by
  induction es generalizing s with
  | nil =>
      simp
  | cons e es ih =>
      constructor
      · intro h
        obtain ⟨s₁, hstep, hrest⟩ := exec_cons_eq_some.mp h
        obtain ⟨m, hm, ht⟩ := ih.mp hrest
        exact ⟨m, exec_cons_eq_some.mpr ⟨s₁, hstep, hm⟩, ht⟩
      · rintro ⟨m, hm, ht⟩
        obtain ⟨s₁, hstep, hrest⟩ := exec_cons_eq_some.mp hm
        exact exec_cons_eq_some.mpr ⟨s₁, hstep, ih.mpr ⟨m, hrest, ht⟩⟩

theorem exec_singleton {s t : σ} {e : ε} :
    exec step s [e] = some t ↔ step s e = some t := by
  simp [exec_cons_eq_some]

/-! ## Invariants -/

/-- A property that every step keeps along the events in `A` holds after every run of events in `A`. -/
theorem exec_invariant_of {I : σ → Prop} {A : ε → Prop}
    (hstep : ∀ s e s', I s → A e → step s e = some s' → I s') :
    ∀ {es : List ε} {s t : σ}, I s → (∀ e ∈ es, A e) → exec step s es = some t → I t := by
  intro es
  induction es with
  | nil =>
      intro s t hs _ h
      cases h
      exact hs
  | cons e es ih =>
      intro s t hs hall h
      obtain ⟨m, hm, ht⟩ := exec_cons_eq_some.mp h
      have hI : I m := hstep s e m hs (hall e (by simp)) hm
      exact ih hI (fun e' he' => hall e' (by simp [he'])) ht

theorem exec_invariant {I : σ → Prop} (hstep : ∀ s e s', I s → step s e = some s' → I s')
    {es : List ε} {s t : σ} (hs : I s) (h : exec step s es = some t) : I t :=
  exec_invariant_of (A := fun _ => True) (fun s e s' hI _ => hstep s e s' hI) hs
    (fun _ _ => trivial) h

/-! ## Two systems -/

/-- Steps that keep two systems related, along related events, keep them related over whole runs, and
a run of the one is a run of the other. -/
theorem exec_rel {σ' ε' : Type} {step' : σ' → ε' → Option σ'} {R : σ → σ' → Prop}
    {E : ε → ε' → Prop}
    (hstep : ∀ s s' e e', R s s' → E e e' → Option.Rel R (step s e) (step' s' e')) {es : List ε}
    {es' : List ε'} (hes : List.Forall₂ E es es') {s : σ} {s' : σ'} (hs : R s s') :
    Option.Rel R (exec step s es) (exec step' s' es') := by
  induction hes generalizing s s' with
  | nil =>
      exact .some hs
  | @cons e e' es es' he hrest ih =>
      have hnext := hstep s s' e e' hs he
      rw [exec_cons, exec_cons]
      generalize step s e = x at hnext ⊢
      generalize step' s' e' = x' at hnext ⊢
      cases hnext with
      | some hm =>
          exact ih hm
      | none =>
          exact .none

/-! ## Determinism -/

/-- Where at most one event of `A` can happen at a time, all runs of events in `A` that cannot go on
end in one state. -/
theorem exec_unique {I : σ → Prop} {A : ε → Prop}
    (hkept : ∀ s e s', I s → A e → step s e = some s' → I s')
    (honly : ∀ s e e' t t', I s → A e → A e' → step s e = some t → step s e' = some t' → e = e')
    {es es' : List ε} {s t t' : σ} (hs : I s) (hes : ∀ e ∈ es, A e) (hes' : ∀ e ∈ es', A e)
    (ht : exec step s es = some t) (ht' : exec step s es' = some t')
    (hend : ∀ e, A e → step t e = none) (hend' : ∀ e, A e → step t' e = none) : t = t' := by
  -- induction on the first run; the second one takes the same steps
  induction es generalizing s es' with
  | nil =>
      cases ht
      cases es' with
      | nil =>
          cases ht'
          rfl
      | cons e' es' =>
          rcases exec_cons_eq_some.mp ht' with ⟨m, hm, _⟩
          rw [hend e' (hes' e' (by simp))] at hm
          cases hm
  | cons e es ih =>
      rcases exec_cons_eq_some.mp ht with ⟨m, hm, hrest⟩
      have he := hes e (by simp)
      cases es' with
      | nil =>
          cases ht'
          rw [hend' e he] at hm
          cases hm
      | cons e' es' =>
          rcases exec_cons_eq_some.mp ht' with ⟨m', hm', hrest'⟩
          obtain rfl := honly s e e' m m' hs he (hes' e' (by simp)) hm hm'
          cases hm.symm.trans hm'
          exact ih (hkept s e m hs he hm) (fun e' h => hes e' (by simp [h]))
            (fun e' h => hes' e' (by simp [h])) hrest hrest'

/-! ## Runs that end -/

/-- Where every event of `A` lowers a measure, the measure bounds the length of the runs. -/
theorem exec_length_le {I : σ → Prop} {A : ε → Prop} {μ : σ → Nat}
    (hkept : ∀ s e s', I s → A e → step s e = some s' → I s')
    (hless : ∀ s e s', I s → A e → step s e = some s' → μ s' < μ s) {es : List ε} {s t : σ}
    (hs : I s) (hes : ∀ e ∈ es, A e) (h : exec step s es = some t) : es.length + μ t ≤ μ s := by
  induction es generalizing s with
  | nil =>
      cases h
      exact Nat.le_of_eq (Nat.zero_add _)
  | cons e es ih =>
      rcases exec_cons_eq_some.mp h with ⟨m, hm, hrest⟩
      have he := hes e (by simp)
      have hlow := hless s e m hs he hm
      have hlength := ih (hkept s e m hs he hm) (fun e' h => hes e' (by simp [h])) hrest
      rw [List.length_cons]
      omega

/-- If besides only states in `F` have no event of `A` left, some run leads to such a state. -/
theorem exists_exec {I F : σ → Prop} {A : ε → Prop} {μ : σ → Nat}
    (hkept : ∀ s e s', I s → A e → step s e = some s' → I s')
    (hless : ∀ s e s', I s → A e → step s e = some s' → μ s' < μ s)
    (hnext : ∀ s, I s → ¬ F s → ∃ e s', A e ∧ step s e = some s') {s : σ} (hs : I s) :
    ∃ es t, (∀ e ∈ es, A e) ∧ exec step s es = some t ∧ F t := by
  -- induction on the measure of the state
  induction hn : μ s using Nat.strongRecOn generalizing s with
  | ind n ih =>
      by_cases hfinal : F s
      · exact ⟨[], s, by simp, rfl, hfinal⟩
      · rcases hnext s hs hfinal with ⟨e, m, he, hm⟩
        have hlow : μ m < n := hn ▸ hless s e m hs he hm
        rcases ih (μ m) hlow (hkept s e m hs he hm) rfl with ⟨es, t, hes, ht, hF⟩
        refine ⟨e :: es, t, ?_, exec_cons_eq_some.mpr ⟨m, hm, ht⟩, hF⟩
        exact List.forall_mem_cons.mpr ⟨he, hes⟩

/-! ## Reachable states -/

/-- The states some run from `s₀` leads to. -/
def Reachable (step : σ → ε → Option σ) (s₀ s : σ) : Prop :=
  ∃ es, exec step s₀ es = some s

theorem Reachable.refl (s : σ) : Reachable step s s :=
  ⟨[], rfl⟩

theorem Reachable.next {s₀ s s' : σ} {e : ε} (h : Reachable step s₀ s) (hs : step s e = some s') :
    Reachable step s₀ s' := by
  obtain ⟨es, hes⟩ := h
  exact ⟨es ++ [e], exec_append_eq_some.mpr ⟨s, hes, exec_singleton.mpr hs⟩⟩

theorem Reachable.trans {s₀ s s' : σ} (h : Reachable step s₀ s) (h' : Reachable step s s') :
    Reachable step s₀ s' := by
  obtain ⟨es, hes⟩ := h
  obtain ⟨fs, hfs⟩ := h'
  exact ⟨es ++ fs, exec_append_eq_some.mpr ⟨s, hes, hfs⟩⟩

theorem Reachable.invariant {I : σ → Prop} (hstep : ∀ s e s', I s → step s e = some s' → I s')
    {s₀ s : σ} (h₀ : I s₀) (h : Reachable step s₀ s) : I s := by
  obtain ⟨es, hes⟩ := h
  exact exec_invariant hstep h₀ hes

/-! ## The transitions of a run -/

/-- The transitions a run makes, in order: state before, event, state after. -/
def transitions (step : σ → ε → Option σ) : σ → List ε → List (σ × ε × σ)
  | _, [] => []
  | s, e :: es =>
      match step s e with
      | some s' => (s, e, s') :: transitions step s' es
      | none => []

@[simp] theorem transitions_nil (s : σ) : transitions step s [] = [] := rfl

theorem transitions_cons {s m : σ} {e : ε} (es : List ε) (h : step s e = some m) :
    transitions step s (e :: es) = (s, e, m) :: transitions step m es := by
  change (match step s e with | some m => (s, e, m) :: transitions step m es | none => []) = _
  rw [h]

theorem transitions_cons_none {s : σ} {e : ε} (es : List ε) (h : step s e = none) :
    transitions step s (e :: es) = [] := by
  change (match step s e with | some m => (s, e, m) :: transitions step m es | none => []) = _
  rw [h]

theorem mem_transitions {s₀ s s' : σ} {e : ε} :
    ∀ {es : List ε}, (s, e, s') ∈ transitions step s₀ es →
      Reachable step s₀ s ∧ step s e = some s' := by
  intro es
  induction es generalizing s₀ with
  | nil =>
      intro h
      cases h
  | cons e' es ih =>
      intro h
      cases hstep : step s₀ e' with
      | none =>
          rw [transitions_cons_none es hstep] at h
          cases h
      | some m =>
          rw [transitions_cons es hstep] at h
          rcases List.mem_cons.mp h with heq | hrest
          · cases heq
            exact ⟨Reachable.refl _, hstep⟩
          · rcases ih hrest with ⟨⟨fs, hfs⟩, hs⟩
            exact ⟨⟨e' :: fs, exec_cons_eq_some.mpr ⟨m, hstep, hfs⟩⟩, hs⟩

/-- The events of the transitions are those of the run. -/
theorem event_mem_of_mem_transitions {s₀ s s' : σ} {e : ε} {es : List ε}
    (h : (s, e, s') ∈ transitions step s₀ es) : e ∈ es := by
  induction es generalizing s₀ with
  | nil =>
      cases h
  | cons e' es ih =>
      cases hstep : step s₀ e' with
      | none =>
          rw [transitions_cons_none es hstep] at h
          cases h
      | some m =>
          rw [transitions_cons es hstep] at h
          rcases List.mem_cons.mp h with heq | hrest
          · cases heq
            simp
          · exact List.mem_cons_of_mem e' (ih hrest)

theorem transitions_append {s m : σ} {es fs : List ε} (h : exec step s es = some m) :
    transitions step s (es ++ fs) = transitions step s es ++ transitions step m fs := by
  induction es generalizing s with
  | nil =>
      cases h
      rfl
  | cons e es ih =>
      rcases exec_cons_eq_some.mp h with ⟨s₁, hstep, hrest⟩
      rw [List.cons_append, transitions_cons (es ++ fs) hstep, transitions_cons es hstep, ih hrest,
        List.cons_append]

theorem transitions_singleton {s s' : σ} {e : ε} (h : step s e = some s') :
    transitions step s [e] = [(s, e, s')] := by
  rw [transitions_cons [] h, transitions_nil]

/-- A later transition starts in a state that is reachable from where an earlier one ended. -/
theorem transitions_pairwise (s₀ : σ) (es : List ε) :
    (transitions step s₀ es).Pairwise fun t u => Reachable step t.2.2 u.1 := by
  induction es generalizing s₀ with
  | nil =>
      exact List.Pairwise.nil
  | cons e es ih =>
      cases hstep : step s₀ e with
      | none =>
          rw [transitions_cons_none es hstep]
          exact List.Pairwise.nil
      | some m =>
          rw [transitions_cons es hstep]
          refine List.pairwise_cons.mpr ⟨?_, ih m⟩
          rintro ⟨s, e', s'⟩ hmem
          exact (mem_transitions hmem).1

end Transition
end TransactionPlatform
