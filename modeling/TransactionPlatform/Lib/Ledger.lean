import TransactionPlatform.Lib.Transition

/-!
# Ledger — subjects opened under a key, moved once, and answered

An abstract bookkeeping machine.  A key is opened once, with a fingerprint, for a subject that is not
in the books yet; it is closed once, by one move of its subject and with an answer that stays.
`K`, `I`, `F`, `A` are keys, subjects, fingerprints and answers; a subject is a machine of its own,
with states `S` and moves `M`.
-/

namespace TransactionPlatform
namespace Ledger

open Transition

/-- An open entry has no answer yet. -/
structure Entry (I F A : Type) where
  subject : I
  fingerprint : F
  answer : Option A

@[ext]
structure Books (K I F A S : Type) where
  entries : K → Option (Entry I F A)
  subjects : I → Option S

inductive Action (K I F A M : Type)
  | opens (key : K) (subject : I) (fingerprint : F)
  | closes (key : K) (move : M) (answer : A)

variable {K I F A S M : Type} [DecidableEq K] [DecidableEq I]

def empty : Books K I F A S :=
  { entries := fun _ => none
    subjects := fun _ => none }

def enter (books : Books K I F A S) (key : K) (entry : Entry I F A) (state : S) : Books K I F A S :=
  { entries := Function.update books.entries key (some entry)
    subjects := Function.update books.subjects entry.subject (some state) }

section Step

variable (first : I → S) (act : S → M → Option S)

def step (books : Books K I F A S) : Action K I F A M → Option (Books K I F A S)
  | .opens key subject fingerprint =>
      match books.entries key, books.subjects subject with
      | none, none => some (enter books key ⟨subject, fingerprint, none⟩ (first subject))
      | _, _ => none
  | .closes key move answer =>
      match books.entries key with
      | some ⟨subject, fingerprint, none⟩ =>
          match (books.subjects subject).bind fun state => act state move with
          | some state => some (enter books key ⟨subject, fingerprint, some answer⟩ state)
          | none => none
      | _ => none

end Step

/-! ## Steps -/

variable {first : I → S} {act : S → M → Option S} {books books' : Books K I F A S}

theorem enter_entries (books : Books K I F A S) (key : K) (entry : Entry I F A) (state : S) (k : K) :
    (enter books key entry state).entries k = if k = key then some entry else books.entries k :=
  Function.update_apply _ _ _ _

theorem enter_subjects (books : Books K I F A S) (key : K) (entry : Entry I F A) (state : S) (i : I) :
    (enter books key entry state).subjects i =
      if i = entry.subject then some state else books.subjects i :=
  Function.update_apply _ _ _ _

theorem step_opens {key : K} {subject : I} (fingerprint : F) (hkey : books.entries key = none)
    (hsubject : books.subjects subject = none) :
    step first act books (.opens key subject fingerprint) =
      some (enter books key ⟨subject, fingerprint, none⟩ (first subject)) := by
  simp [step, hkey, hsubject]

theorem step_closes {key : K} {subject : I} {fingerprint : F} {state state' : S} {move : M}
    (answer : A) (hkey : books.entries key = some ⟨subject, fingerprint, none⟩)
    (hsubject : books.subjects subject = some state) (hact : act state move = some state') :
    step first act books (.closes key move answer) =
      some (enter books key ⟨subject, fingerprint, some answer⟩ state') := by
  simp [step, hkey, hsubject, hact]

/-- What a step can do. -/
inductive Move (first : I → S) (act : S → M → Option S) (books : Books K I F A S) :
    Action K I F A M → Books K I F A S → Prop
  | opens (key : K) (subject : I) (fingerprint : F) (hkey : books.entries key = none)
      (hsubject : books.subjects subject = none) :
      Move first act books (.opens key subject fingerprint)
        (enter books key ⟨subject, fingerprint, none⟩ (first subject))
  | closes (key : K) (subject : I) (fingerprint : F) (state state' : S) (move : M) (answer : A)
      (hkey : books.entries key = some ⟨subject, fingerprint, none⟩)
      (hsubject : books.subjects subject = some state) (hact : act state move = some state') :
      Move first act books (.closes key move answer)
        (enter books key ⟨subject, fingerprint, some answer⟩ state')

theorem move_of_step {action : Action K I F A M} (h : step first act books action = some books') :
    Move first act books action books' := by
  cases action with
  | opens key subject fingerprint =>
      simp only [step] at h
      split at h
      · rename_i hkey hsubject
        cases h
        exact .opens key subject fingerprint hkey hsubject
      · cases h
  | closes key move answer =>
      simp only [step] at h
      split at h
      · rename_i subject fingerprint hkey
        split at h
        · rename_i state' hstate
          cases h
          rcases Option.bind_eq_some_iff.mp hstate with ⟨state, hsubject, hact⟩
          exact .closes key subject fingerprint state state' move answer hkey hsubject hact
        · cases h
      · cases h

/-! ## The books balance -/

/-- Keys and subjects belong to each other, and a subject has made its one move exactly when its key
has been answered. -/
structure Balanced (first : I → S) (act : S → M → Option S) (books : Books K I F A S) : Prop where
  opened : ∀ k e, books.entries k = some e → ∃ state, books.subjects e.subject = some state ∧
    (e.answer = none → state = first e.subject) ∧
    (e.answer.isSome = true → ∃ move, act (first e.subject) move = some state)
  owned : ∀ i state, books.subjects i = some state → ∃ k e, books.entries k = some e ∧ e.subject = i
  single : ∀ k k' e e', books.entries k = some e → books.entries k' = some e' →
    e.subject = e'.subject → k = k'

omit [DecidableEq K] [DecidableEq I] in
theorem balanced_empty : Balanced first act (empty : Books K I F A S) where
  opened := by
    intro k e h
    cases h
  owned := by
    intro i state h
    cases h
  single := by
    intro k k' e e' h
    cases h

section Enter

variable (h : Balanced first act books) {key : K} {entry : Entry I F A} {state : S}
  (hown : ∀ k e, books.entries k = some e → e.subject = entry.subject → k = key)

include h hown in
/-- An entry over its own subject, or over a new one, keeps the books in balance. -/
theorem balanced_enter (hfirst : entry.answer = none → state = first entry.subject)
    (hmoved : entry.answer.isSome = true → ∃ move, act (first entry.subject) move = some state)
    (hsubjects : ∀ i e, books.entries key = some e → e.subject = i → i = entry.subject) :
    Balanced first act (enter books key entry state) where
  opened := by
    intro k e he
    rw [enter_entries] at he
    by_cases hk : k = key
    · rw [if_pos hk] at he
      cases he
      exact ⟨state, by rw [enter_subjects, if_pos rfl], hfirst, hmoved⟩
    · rw [if_neg hk] at he
      have hother : e.subject ≠ entry.subject := fun hsame => hk (hown k e he hsame)
      rw [enter_subjects, if_neg hother]
      exact h.opened k e he
  owned := by
    intro i state' hi
    rw [enter_subjects] at hi
    by_cases hsubject : i = entry.subject
    · exact ⟨key, entry, by rw [enter_entries, if_pos rfl], hsubject.symm⟩
    · rw [if_neg hsubject] at hi
      rcases h.owned i state' hi with ⟨k, e, he, rfl⟩
      have hk : k ≠ key := by
        rintro rfl
        exact hsubject (hsubjects _ e he rfl)
      exact ⟨k, e, by rw [enter_entries, if_neg hk]; exact he, rfl⟩
  single := by
    intro k k' e e' he he' hsame
    rw [enter_entries] at he he'
    by_cases hk : k = key
    · by_cases hk' : k' = key
      · rw [hk, hk']
      · rw [if_pos hk] at he
        rw [if_neg hk'] at he'
        cases he
        exact absurd (hown k' e' he' hsame.symm) hk'
    · by_cases hk' : k' = key
      · rw [if_neg hk] at he
        rw [if_pos hk'] at he'
        cases he'
        exact absurd (hown k e he hsame) hk
      · rw [if_neg hk] at he
        rw [if_neg hk'] at he'
        exact h.single k k' e e' he he' hsame

end Enter

theorem step_balanced {action : Action K I F A M} (h : Balanced first act books)
    (hstep : step first act books action = some books') : Balanced first act books' := by
  cases move_of_step hstep with
  | opens key subject fingerprint hkey hsubject =>
      refine balanced_enter h ?_ (fun _ => rfl) (by simp) ?_
      · -- nobody has this subject yet
        intro k e he hsame
        rcases h.opened k e he with ⟨state, hstate, _⟩
        have hnone : books.subjects e.subject = none := hsame ▸ hsubject
        cases hnone.symm.trans hstate
      · intro i e he
        cases hkey.symm.trans he
  | closes key subject fingerprint state state' move answer hkey hsubject hact =>
      rcases h.opened key _ hkey with ⟨state₀, hstate₀, hfirst, _⟩
      have hsame : state = first subject := by
        cases hsubject.symm.trans hstate₀
        exact hfirst rfl
      refine balanced_enter h ?_ (by simp) (fun _ => ⟨move, hsame ▸ hact⟩) ?_
      · intro k e he hsubject'
        exact h.single k key e _ he hkey hsubject'
      · intro i e he hi
        cases hkey.symm.trans he
        exact hi.symm

theorem balanced_of_run {actions : List (Action K I F A M)}
    (hrun : exec (step first act) empty actions = some books) : Balanced first act books :=
  exec_invariant (fun _ _ _ h hstep => step_balanced h hstep) balanced_empty hrun

/-! ## What stays -/

/-- A later entry under the same key: the same one, or the open one with its answer. -/
structure Continues (e e' : Entry I F A) : Prop where
  subject : e'.subject = e.subject
  fingerprint : e'.fingerprint = e.fingerprint
  answer : e.answer.isSome = true → e' = e

omit [DecidableEq I] in
theorem Continues.refl (e : Entry I F A) : Continues e e :=
  ⟨rfl, rfl, fun _ => rfl⟩

omit [DecidableEq I] in
theorem Continues.trans {e e' e'' : Entry I F A} (h : Continues e e') (h' : Continues e' e'') :
    Continues e e'' where
  subject := h'.subject.trans h.subject
  fingerprint := h'.fingerprint.trans h.fingerprint
  answer := by
    intro hanswer
    have hsame := h.answer hanswer
    rw [← hsame] at hanswer
    exact (h'.answer hanswer).trans hsame

theorem step_continues {action : Action K I F A M} (hstep : step first act books action = some books')
    {k : K} {e : Entry I F A} (he : books.entries k = some e) :
    ∃ e', books'.entries k = some e' ∧ Continues e e' := by
  cases move_of_step hstep with
  | opens key subject fingerprint hkey _ =>
      have hk : k ≠ key := by
        rintro rfl
        cases hkey.symm.trans he
      exact ⟨e, by rw [enter_entries, if_neg hk]; exact he, .refl e⟩
  | closes key subject fingerprint state state' move answer hkey _ _ =>
      by_cases hk : k = key
      · subst hk
        cases hkey.symm.trans he
        refine ⟨⟨subject, fingerprint, some answer⟩, by rw [enter_entries, if_pos rfl], rfl, rfl, ?_⟩
        intro hanswer
        cases hanswer
      · exact ⟨e, by rw [enter_entries, if_neg hk]; exact he, .refl e⟩

/-- Entries stay, and answers for good. -/
theorem run_continues {actions : List (Action K I F A M)}
    (hrun : exec (step first act) books actions = some books') {k : K} {e : Entry I F A}
    (he : books.entries k = some e) : ∃ e', books'.entries k = some e' ∧ Continues e e' := by
  refine exec_invariant (I := fun b => ∃ e', b.entries k = some e' ∧ Continues e e') ?_
    ⟨e, he, .refl e⟩ hrun
  rintro b action b' ⟨e', he', hcontinues⟩ hstep
  rcases step_continues hstep he' with ⟨e'', he'', hcontinues'⟩
  exact ⟨e'', he'', hcontinues.trans hcontinues'⟩

end Ledger
end TransactionPlatform
