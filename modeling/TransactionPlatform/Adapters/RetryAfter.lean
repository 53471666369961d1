import TransactionPlatform.Adapters.HttpPaymentNetwork

/-!
# RetryAfter — what `parse_retry_after` makes of a header

Whatever the header is, the result lies between the bounds.  Under the default bounds the rules of
the docstring say more: a numeral is clamped to `1..60`, and everything missing, blank or negative is
`1`.  Python's `int` refuses a numeral of more than 4300 digits, leading zeros included, so there the
code falls back to the default instead of clamping.
-/

namespace TransactionPlatform
namespace Adapters

open Text

/-! ## Bounds -/

/-- Between two bounds with the default between them, no header leads out of them. -/
theorem parseRetryAfter_bounds (headerValue : Option PyStr) {default minValue maxValue : Int}
    (hmin : minValue ≤ default) (hmax : default ≤ maxValue) :
    minValue ≤ parseRetryAfter headerValue default minValue maxValue ∧
      parseRetryAfter headerValue default minValue maxValue ≤ maxValue := by
  have hclamped : ∀ n, minValue ≤ max minValue (min n maxValue) ∧
      max minValue (min n maxValue) ≤ maxValue := by
    intro n
    exact ⟨le_max_left _ _, max_le (hmin.trans hmax) (min_le_right _ _)⟩
  unfold parseRetryAfter
  split
  · exact ⟨hmin, hmax⟩
  · exact ⟨hmin, hmax⟩
  · split
    · split
      · exact ⟨hmin, hmax⟩
      · exact hclamped _
    · exact ⟨hmin, hmax⟩

/-! ## Values under the default bounds -/

/-- `parse_retry_after(header_value)`. -/
def defaultRetryAfter (headerValue : Option PyStr) : Int :=
  parseRetryAfter headerValue 1 1 60

/-- A header without a number of seconds: missing, blank, or negative. -/
def WithoutSeconds (headerValue : Option PyStr) : Prop :=
  ∀ s, headerValue = some s → strip s = [] ∨ ∃ rest, strip s = codePoint '-' :: rest

/-- What the rules say of a header. -/
structure FollowsRules (headerValue : Option PyStr) : Prop where
  clamped : ∀ s, headerValue = some s → isNumeral (strip s) = true →
    defaultRetryAfter headerValue = max 1 (min (natOfDigits (strip s) : Int) 60)
  defaulted : WithoutSeconds headerValue → defaultRetryAfter headerValue = 1

/-- A numeral too long for `int` that denotes more than the default. -/
def ExceedsDigits (headerValue : Option PyStr) : Prop :=
  ∃ s, headerValue = some s ∧ isNumeral (strip s) = true ∧ maxStrDigits < (strip s).length ∧
    1 < natOfDigits (strip s)

/-- A text that is not blank goes through `int`. -/
theorem defaultRetryAfter_some {s : PyStr} (hblank : strip s ≠ []) :
    defaultRetryAfter (some s) =
      match intOfText (strip s) with
      | some n => if n < 0 then 1 else max 1 (min n 60)
      | none => 1 := by
  cases s with
  | nil =>
      exact absurd rfl hblank
  | cons c s =>
      rfl

theorem defaultRetryAfter_withoutSeconds {headerValue : Option PyStr}
    (h : WithoutSeconds headerValue) : defaultRetryAfter headerValue = 1 := by
  cases headerValue with
  | none =>
      rfl
  | some s =>
      rcases h s rfl with hblank | ⟨rest, hminus⟩
      · -- blank: empty, or `int` of an empty text
        cases s with
        | nil =>
            rfl
        | cons c s =>
            have hnone : intOfText (strip (c :: s)) = none := by
              rw [hblank]
              rfl
            simp only [defaultRetryAfter, parseRetryAfter, hnone]
      · have hne : strip s ≠ [] := by
          rw [hminus]
          exact List.cons_ne_nil _ _
        rw [defaultRetryAfter_some hne]
        cases hn : intOfText (strip s) with
        | none =>
            rfl
        | some n =>
            -- `-0` is read as zero, everything else with a minus sign as less
            have hle : n ≤ 0 := intOfText_minus ((strip_strip s).trans hminus) hn
            simp only
            split
            · rfl
            · omega

theorem defaultRetryAfter_numeral {s : PyStr} (h : isNumeral (strip s) = true) :
    defaultRetryAfter (some s) =
      if (strip s).length ≤ maxStrDigits then max 1 (min (natOfDigits (strip s) : Int) 60) else 1 := by
  have hne : strip s ≠ [] := (isNumeral_iff.mp h).1
  have hint := intOfText_numeral (s := strip s) (by rw [strip_strip]; exact h)
  rw [strip_strip] at hint
  rw [defaultRetryAfter_some hne, hint]
  by_cases hlength : (strip s).length ≤ maxStrDigits
  · have hnonneg : ¬ ((natOfDigits (strip s) : Int) < 0) := by omega
    simp only [if_pos hlength, if_neg hnonneg]
  · simp only [if_neg hlength]

/-- A header follows the rules unless it is too long for `int` and denotes more than the default. -/
theorem followsRules_iff (headerValue : Option PyStr) :
    FollowsRules headerValue ↔ ¬ ExceedsDigits headerValue := by
  constructor
  · rintro hrules ⟨s, rfl, hnumeral, hlong, hlarge⟩
    have hclamped := hrules.clamped s rfl hnumeral
    rw [defaultRetryAfter_numeral hnumeral, if_neg (Nat.not_le.mpr hlong)] at hclamped
    omega
  · intro hfits
    refine ⟨?_, defaultRetryAfter_withoutSeconds⟩
    rintro s rfl hnumeral
    rw [defaultRetryAfter_numeral hnumeral]
    split
    · rfl
    · rename_i hlong
      -- too long, so it denotes at most the default
      have hsmall : ¬ 1 < natOfDigits (strip s) := by
        intro hlarge
        exact hfits ⟨s, rfl, hnumeral, Nat.not_le.mp hlong, hlarge⟩
      omega

/-- 4301 nines: the header is worth 60 and the code makes 1 of it. -/
theorem nines_defaulted :
    let nines : PyStr := List.replicate 4301 0x39
    isNumeral (strip nines) = true ∧ parseRetryAfter (some nines) 1 1 60 = 1 ∧
      max 1 (min (natOfDigits (strip nines) : Int) 60) = 60 ∧ ¬ FollowsRules (some nines) := by
  intro nines
  have hnumeral : isNumeral nines = true := by
    refine isNumeral_iff.mpr ⟨List.cons_ne_nil _ _, ?_⟩
    intro c hc
    rw [List.eq_of_mem_replicate hc]
    rfl
  have hstrip : strip nines = nines := strip_numeral hnumeral
  have hlength : nines.length = 4301 := List.length_replicate
  -- the first nine alone is worth more than the maximum
  have hvalue : 60 ≤ natOfDigits nines := by
    have hcons : nines = 0x39 :: List.replicate 4300 0x39 := List.replicate_succ
    have hpower : 10 ^ 1 ≤ 10 ^ (List.replicate 4300 (0x39 : CodePoint)).length :=
      Nat.pow_le_pow_right (by decide) (by rw [List.length_replicate]; decide)
    have hnine : (0x39 : CodePoint).val - 0x30 = 9 := rfl
    rw [hcons, natOfDigits_cons, hnine]
    omega
  have hnumeral' : isNumeral (strip nines) = true := hstrip.symm ▸ hnumeral
  have hlong : maxStrDigits < (strip nines).length := by
    rw [hstrip, hlength]
    decide
  refine ⟨hnumeral', ?_, ?_, ?_⟩
  · exact (defaultRetryAfter_numeral hnumeral').trans (if_neg (Nat.not_le.mpr hlong))
  · rw [hstrip]
    omega
  · rw [followsRules_iff, not_not]
    exact ⟨nines, rfl, hnumeral', hlong, by rw [hstrip]; omega⟩

end Adapters
end TransactionPlatform
