import Mathlib.Data.List.Basic

/-!
# Regex — patterns with anchors

The fragment of Python's `re` that format checks are written in: character classes, sequences,
bounded greedy repetition and the two anchors.  What an anchor accepts depends on where in the text
it stands, so a pattern is run from a position to the positions at which it can end.

Without `re.MULTILINE`, `$` stands at the end of the text and also before a newline that ends it.
The main result, `isMatch_anchored_iff`, is the language of `^[..]{lo,hi}$` under this rule.
-/

namespace TransactionPlatform

variable {α : Type}

inductive Regex (α : Type)
  | cls (p : α → Bool)
  | seq (r r' : Regex α)
  | rep (r : Regex α) (lo hi : Nat)
  | start
  | stop

namespace Regex

/-- A position in a text: the number of characters behind it and the characters ahead. -/
structure Position (α : Type) where
  behind : Nat
  ahead : List α

/-! ## Matching -/

/-- One character of a class. -/
def classEnds (p : α → Bool) : Position α → List (Position α)
  | ⟨_, []⟩ => []
  | ⟨n, c :: s⟩ => if p c then [⟨n + 1, s⟩] else []

/-- Between `lo` and `hi` rounds of `step`, more rounds first. -/
def repEnds (step : Position α → List (Position α)) : Nat → Nat → Position α → List (Position α)
  | 0, 0, x => [x]
  | _ + 1, 0, _ => []
  | 0, hi + 1, x => (step x).flatMap (repEnds step 0 hi) ++ [x]
  | lo + 1, hi + 1, x => (step x).flatMap (repEnds step lo hi)

/-- Where a match that begins at `x` can end, in the order in which backtracking tries it. -/
def ends [DecidableEq α] (newline : α) : Regex α → Position α → List (Position α)
  | .cls p, x => classEnds p x
  | .seq r r', x => (ends newline r x).flatMap (ends newline r')
  | .rep r lo hi, x => repEnds (ends newline r) lo hi x
  | .start, x => if x.behind = 0 then [x] else []
  | .stop, x => if x.ahead = [] ∨ x.ahead = [newline] then [x] else []

/-- `re.match(r, s)` finds a match. -/
def isMatch [DecidableEq α] (newline : α) (r : Regex α) (s : List α) : Bool :=
  !(ends newline r ⟨0, s⟩).isEmpty

/-- The pattern `^[..]{lo,hi}$`. -/
def anchored (p : α → Bool) (lo hi : Nat) : Regex α :=
  .seq .start (.seq (.rep (.cls p) lo hi) .stop)

/-! ## Repeated classes -/

theorem mem_classEnds {p : α → Bool} {n : Nat} {s : List α} {y : Position α} :
    y ∈ classEnds p ⟨n, s⟩ ↔ ∃ c rest, s = c :: rest ∧ p c = true ∧ y = ⟨n + 1, rest⟩ := by
  cases s with
  | nil =>
      simp [classEnds]
  | cons c rest =>
      by_cases hc : p c = true
      · simp [classEnds, hc]
      · simp [classEnds, hc]

/-- A repeated class takes a stretch of characters of the class. -/
def Takes (p : α → Bool) (lo hi n : Nat) (s : List α) (y : Position α) : Prop :=
  ∃ body rest, s = body ++ rest ∧ lo ≤ body.length ∧ body.length ≤ hi ∧
    (∀ c ∈ body, p c = true) ∧ y = ⟨n + body.length, rest⟩

theorem takes_none {p : α → Bool} {hi n : Nat} {s : List α} : Takes p 0 hi n s ⟨n, s⟩ :=
  ⟨[], s, rfl, Nat.le_refl _, Nat.zero_le _, by simp, rfl⟩

/-- One round more: a character of the class in front. -/
theorem takes_cons {p : α → Bool} {lo hi n : Nat} {c : α} {s : List α} {y : Position α}
    (hc : p c = true) (h : Takes p lo hi (n + 1) s y) : Takes p (lo + 1) (hi + 1) n (c :: s) y := by
  rcases h with ⟨body, rest, rfl, hlo, hhi, hall, rfl⟩
  refine ⟨c :: body, rest, rfl, Nat.succ_le_succ hlo, Nat.succ_le_succ hhi, ?_, ?_⟩
  · intro d hd
    rcases List.mem_cons.mp hd with rfl | hd
    · exact hc
    · exact hall d hd
  · rw [List.length_cons, Nat.add_right_comm, Nat.add_assoc]

/-- A stretch that is not empty begins with a round. -/
theorem Takes.uncons {p : α → Bool} {lo hi n : Nat} {s : List α} {y : Position α}
    (h : Takes p lo (hi + 1) n s y) :
    (lo = 0 ∧ y = ⟨n, s⟩) ∨
      ∃ c rest, s = c :: rest ∧ p c = true ∧ Takes p (lo - 1) hi (n + 1) rest y := by
  rcases h with ⟨body, rest, rfl, hlo, hhi, hall, rfl⟩
  cases body with
  | nil =>
      exact .inl ⟨Nat.le_zero.mp hlo, rfl⟩
  | cons c body =>
      refine .inr ⟨c, body ++ rest, rfl, hall c (by simp), body, rest, rfl, ?_, ?_, ?_, ?_⟩
      · simp only [List.length_cons] at hlo
        omega
      · exact Nat.le_of_succ_le_succ hhi
      · intro d hd
        exact hall d (List.mem_cons_of_mem c hd)
      · rw [List.length_cons, Nat.add_right_comm, Nat.add_assoc]

theorem Takes.weaken {p : α → Bool} {lo lo' hi n : Nat} {s : List α} {y : Position α}
    (h : Takes p lo hi n s y) (hlo : lo' ≤ lo) : Takes p lo' hi n s y := by
  rcases h with ⟨body, rest, hs, hlower, hupper, hall, hy⟩
  exact ⟨body, rest, hs, Nat.le_trans hlo hlower, hupper, hall, hy⟩

theorem mem_repEnds {p : α → Bool} {lo hi n : Nat} {s : List α} {y : Position α} :
    y ∈ repEnds (classEnds p) lo hi ⟨n, s⟩ ↔ Takes p lo hi n s y := by
  -- the rounds are counted by the upper bound
  induction hi generalizing lo n s with
  | zero =>
      cases lo with
      | zero =>
          constructor
          · intro h
            rw [List.mem_singleton.mp h]
            exact takes_none
          · rintro ⟨body, rest, rfl, _, hnone, _, rfl⟩
            rw [List.length_eq_zero_iff.mp (Nat.le_zero.mp hnone)]
            exact List.mem_singleton.mpr rfl
      | succ lo =>
          constructor
          · intro h
            cases h
          · rintro ⟨body, rest, rfl, hlo, hhi, _, _⟩
            omega
  | succ hi ih =>
      have hround : ∀ lo, y ∈ (classEnds p ⟨n, s⟩).flatMap (repEnds (classEnds p) lo hi) ↔
          ∃ c rest, s = c :: rest ∧ p c = true ∧ Takes p lo hi (n + 1) rest y := by
        intro lo
        rw [List.mem_flatMap]
        constructor
        · rintro ⟨x, hx, hy⟩
          rcases mem_classEnds.mp hx with ⟨c, rest, hs, hc, rfl⟩
          exact ⟨c, rest, hs, hc, ih.mp hy⟩
        · rintro ⟨c, rest, hs, hc, htakes⟩
          exact ⟨⟨n + 1, rest⟩, mem_classEnds.mpr ⟨c, rest, hs, hc, rfl⟩, ih.mpr htakes⟩
      cases lo with
      | zero =>
          simp only [repEnds, List.mem_append, hround, List.mem_singleton]
          constructor
          · rintro (⟨c, rest, rfl, hc, htakes⟩ | rfl)
            · exact (takes_cons hc htakes).weaken (Nat.zero_le _)
            · exact takes_none
          · intro htakes
            rcases htakes.uncons with ⟨_, hy⟩ | hmore
            · exact .inr hy
            · exact .inl hmore
      | succ lo =>
          simp only [repEnds, hround]
          constructor
          · rintro ⟨c, rest, rfl, hc, htakes⟩
            exact takes_cons hc htakes
          · intro htakes
            rcases htakes.uncons with ⟨hlo, _⟩ | hmore
            · cases hlo
            · exact hmore

/-! ## The language of an anchored class -/

variable [DecidableEq α] {newline : α}

/-- The texts `^[..]{lo,hi}$` matches: the stretch the class takes is the whole text, or all of it
but a newline at the end. -/
theorem isMatch_anchored_iff {p : α → Bool} {lo hi : Nat} {s : List α} :
    isMatch newline (anchored p lo hi) s = true ↔
      ∃ body, (s = body ∨ s = body ++ [newline]) ∧ lo ≤ body.length ∧ body.length ≤ hi ∧
        ∀ c ∈ body, p c = true := by
  have hsome : isMatch newline (anchored p lo hi) s = true ↔
      ∃ x, x ∈ repEnds (classEnds p) lo hi ⟨0, s⟩ ∧ (x.ahead = [] ∨ x.ahead = [newline]) := by
    rw [isMatch, Bool.not_eq_true', List.isEmpty_eq_false_iff_exists_mem]
    simp [anchored, ends, List.mem_flatMap]
  rw [hsome]
  constructor
  · rintro ⟨x, hx, hstop⟩
    rcases mem_repEnds.mp hx with ⟨body, rest, rfl, hlo, hhi, hall, rfl⟩
    refine ⟨body, ?_, hlo, hhi, hall⟩
    rcases hstop with hrest | hrest
    · exact .inl (by rw [show rest = [] from hrest, List.append_nil])
    · exact .inr (by rw [show rest = [newline] from hrest])
  · rintro ⟨body, hs, hlo, hhi, hall⟩
    rcases hs with rfl | rfl
    · exact ⟨_, mem_repEnds.mpr ⟨s, [], (List.append_nil s).symm, hlo, hhi, hall, rfl⟩, .inl rfl⟩
    · exact ⟨_, mem_repEnds.mpr ⟨body, [newline], rfl, hlo, hhi, hall, rfl⟩, .inr rfl⟩

end Regex

end TransactionPlatform
