import TransactionPlatform.Common.Idempotency
import TransactionPlatform.Emulator.Schemas

/-!
# Formats — what the format validators accept

The two header validators and the two currency validators test a text with `re.match` against
`^[..]{lo,hi}$`.  Python's `$` also stands before a newline that ends the text, so each of them
accepts the texts of its format and, besides, every text of the format with a newline behind it.
Everything follows from the language of the pattern (`Regex.isMatch_anchored_iff`).
-/

namespace TransactionPlatform
namespace System

open Text Common Api

/-! ## Formats and checks -/

/-- One to 128 characters of `[A-Za-z0-9._:-]`. -/
def HeaderFormat (s : PyStr) : Prop :=
  1 ≤ s.length ∧ s.length ≤ 128 ∧ ∀ c ∈ s, headerChar c = true

/-- Exactly three upper-case ASCII letters. -/
def CurrencyFormat (s : PyStr) : Prop :=
  s.length = 3 ∧ ∀ c ∈ s, upperLetter c = true

/-- On a text, a check decides a format: it returns the text exactly if it is of the format, and
refuses it otherwise. -/
def Decides (check : PyStr → Option PyStr) (format : PyStr → Prop) (s : PyStr) : Prop :=
  (check s = some s ↔ format s) ∧ (¬ format s → check s = none)

/-- A text of a format with a newline behind it. -/
def NewlineBehind (format : PyStr → Prop) (s : PyStr) : Prop :=
  ∃ body, format body ∧ s = body ++ [0x0A]

/-! ## Checks by a pattern -/

section Pattern

variable {cls : CodePoint → Bool} {lo hi : Nat} {format : PyStr → Prop}
  (hformat : ∀ s, format s ↔ lo ≤ s.length ∧ s.length ≤ hi ∧ ∀ c ∈ s, cls c = true)

include hformat in
/-- The pattern matches the texts of the format, with or without a newline behind them. -/
theorem isMatch_iff_format (s : PyStr) :
    (Regex.anchored cls lo hi).isMatch 0x0A s = true ↔ format s ∨ NewlineBehind format s := by
  rw [Regex.isMatch_anchored_iff]
  constructor
  · rintro ⟨body, rfl | rfl, hbody⟩
    · exact .inl ((hformat s).mpr hbody)
    · exact .inr ⟨body, (hformat body).mpr hbody, rfl⟩
  · rintro (hs | ⟨body, hbody, rfl⟩)
    · exact ⟨s, .inl rfl, (hformat s).mp hs⟩
    · exact ⟨body, .inr rfl, (hformat body).mp hbody⟩

include hformat in
/-- A class without the newline keeps the two kinds of texts apart. -/
theorem not_format_of_newlineBehind (hcls : cls 0x0A = false) {s : PyStr}
    (h : NewlineBehind format s) : ¬ format s := by
  rcases h with ⟨body, _, rfl⟩
  intro hs
  have hnewline : cls 0x0A = true := ((hformat _).mp hs).2.2 0x0A (by simp)
  rw [hcls] at hnewline
  cases hnewline

include hformat in
/-- A check by the pattern decides the format on every text but these. -/
theorem decides_iff (hcls : cls 0x0A = false) {check : PyStr → Option PyStr} {s : PyStr}
    (hcheck : check s = if (Regex.anchored cls lo hi).isMatch 0x0A s then some s else none) :
    Decides check format s ↔ ¬ NewlineBehind format s := by
  have hmatch := isMatch_iff_format hformat s
  constructor
  · rintro ⟨_, hrefused⟩ hnewline
    have hnone := hrefused (not_format_of_newlineBehind hformat hcls hnewline)
    rw [hcheck, if_pos (hmatch.mpr (.inr hnewline))] at hnone
    cases hnone
  · intro hnewline
    have hiff : (Regex.anchored cls lo hi).isMatch 0x0A s = true ↔ format s := by
      rw [hmatch, or_iff_left hnewline]
    have hrefused : ¬ format s → check s = none := by
      intro hs
      rw [hcheck, if_neg (mt hiff.mp hs)]
    refine ⟨⟨?_, ?_⟩, hrefused⟩
    · intro haccepted
      by_contra hs
      cases haccepted.symm.trans (hrefused hs)
    · intro hs
      rw [hcheck, if_pos (hiff.mpr hs)]

end Pattern

/-! ## The four validators -/

/-- No text of the header format has whitespace in it. -/
theorem HeaderFormat.no_space {s : PyStr} (h : HeaderFormat s) : ∀ c ∈ s, isSpace c = false := by
  intro c hc
  have hheader := h.2.2 c hc
  have hrange : 0x2D ≤ c.val ∧ c.val ≤ 0x7A := by
    simp only [headerChar, Bool.or_eq_true, Bool.and_eq_true, decide_eq_true_eq, Fin.ext_iff]
      at hheader
    omega
  -- the characters of the format lie between `-` and `z`, where there is no whitespace
  simp only [isSpace, Bool.or_eq_false_iff, Bool.and_eq_false_iff, decide_eq_false_iff_not,
    beq_eq_false_iff_ne]
  omega

theorem currencyFormat_iff (s : PyStr) :
    CurrencyFormat s ↔ 3 ≤ s.length ∧ s.length ≤ 3 ∧ ∀ c ∈ s, upperLetter c = true := by
  constructor
  · rintro ⟨hlength, hall⟩
    exact ⟨hlength.ge, hlength.le, hall⟩
  · rintro ⟨hlo, hhi, hall⟩
    exact ⟨Nat.le_antisymm hhi hlo, hall⟩

/-- The header format has no whitespace in it.  On every text, each of the four validators decides its
format if and only if the text is not one of the format with a newline behind it. -/
theorem formats_decided_iff (s : PyStr) :
    (HeaderFormat s → ∀ c ∈ s, isSpace c = false) ∧
    (Decides (fun t => requireIdempotencyKey (some t)) HeaderFormat s ↔
      ¬ NewlineBehind HeaderFormat s) ∧
    (Decides (fun t => requireCorrelationId (some t)) HeaderFormat s ↔
      ¬ NewlineBehind HeaderFormat s) ∧
    (Decides (fun t => (Api.validateCurrencyFormat t).toOption) CurrencyFormat s ↔
      ¬ NewlineBehind CurrencyFormat s) ∧
    (Decides (fun t => (Emulator.validateCurrencyFormat t).toOption) CurrencyFormat s ↔
      ¬ NewlineBehind CurrencyFormat s) := by
  have hheader : ∀ t, HeaderFormat t ↔ 1 ≤ t.length ∧ t.length ≤ 128 ∧
      ∀ c ∈ t, headerChar c = true := fun t => Iff.rfl
  have hletter : upperLetter 0x0A = false := rfl
  refine ⟨HeaderFormat.no_space, ?_, ?_, ?_, ?_⟩
  · exact decides_iff hheader headerChar_newline (requireIdempotencyKey_eq s)
  · exact decides_iff hheader headerChar_newline (requireCorrelationId_eq s)
  · exact decides_iff currencyFormat_iff hletter (validateCurrencyFormat_toOption s)
  · exact decides_iff currencyFormat_iff hletter (validateCurrencyFormat_toOption s)

/-- `USD` with a newline behind it passes all four. -/
theorem newlineBehind_accepted :
    let s := py "USD\n"
    ¬ HeaderFormat s ∧ ¬ CurrencyFormat s ∧
      requireIdempotencyKey (some s) = some s ∧ requireCorrelationId (some s) = some s ∧
      Api.validateCurrencyFormat s = .ok s ∧ Emulator.validateCurrencyFormat s = .ok s := by
  intro s
  refine ⟨?_, ?_, rfl, rfl, rfl, rfl⟩
  · rintro ⟨_, _, hall⟩
    have hnewline : headerChar 0x0A = true := hall 0x0A (by decide)
    cases hnewline
  · rintro ⟨hlength, _⟩
    cases hlength

end System
end TransactionPlatform
