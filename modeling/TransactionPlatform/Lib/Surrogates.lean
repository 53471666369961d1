import TransactionPlatform.Lib.Text

/-!
# Surrogates — texts up to writing a character as its surrogate pair

A Python string may hold the two surrogates of a pair side by side, and it is then not equal to the
string with the character they encode.  A JSON text with `\\u` escapes writes both alike, and a JSON
decoder reads the character.

* `joinPairs` puts every pair together; lone surrogates stay.
* `utf16` takes every character apart into its code units.
* `joinPairs_eq_iff`: two texts have one joined form iff they have the same code units.
-/

namespace TransactionPlatform
namespace Text

/-! ## Pairs -/

def isHighSurrogate (c : CodePoint) : Bool :=
  0xD800 ≤ c.val && c.val ≤ 0xDBFF

def isLowSurrogate (c : CodePoint) : Bool :=
  0xDC00 ≤ c.val && c.val ≤ 0xDFFF

/-- The character a surrogate pair encodes. -/
def pairedChar (high low : CodePoint) : CodePoint :=
  Fin.ofNat 0x110000 (0x10000 + (high.val - 0xD800) * 0x400 + (low.val - 0xDC00))

/-- Every surrogate pair replaced by its character. -/
def joinPairs : PyStr → PyStr
  | high :: low :: rest =>
      if isHighSurrogate high && isLowSurrogate low then pairedChar high low :: joinPairs rest
      else high :: joinPairs (low :: rest)
  | [c] => [c]
  | [] => []

/-- The UTF-16 code units of a character. -/
def codeUnits (c : CodePoint) : PyStr :=
  if c.val < 0x10000 then [c]
  else
    [Fin.ofNat 0x110000 (0xD800 + (c.val - 0x10000) / 0x400),
      Fin.ofNat 0x110000 (0xDC00 + (c.val - 0x10000) % 0x400)]

def utf16 (s : PyStr) : PyStr :=
  s.flatMap codeUnits

theorem isHighSurrogate_iff {c : CodePoint} :
    isHighSurrogate c = true ↔ 0xD800 ≤ c.val ∧ c.val ≤ 0xDBFF := by
  simp [isHighSurrogate]

theorem isLowSurrogate_iff {c : CodePoint} :
    isLowSurrogate c = true ↔ 0xDC00 ≤ c.val ∧ c.val ≤ 0xDFFF := by
  simp [isLowSurrogate]

theorem pairedChar_val {high low : CodePoint} (hhigh : isHighSurrogate high = true)
    (hlow : isLowSurrogate low = true) :
    (pairedChar high low).val = 0x10000 + (high.val - 0xD800) * 0x400 + (low.val - 0xDC00) := by
  rw [isHighSurrogate_iff] at hhigh
  rw [isLowSurrogate_iff] at hlow
  exact Nat.mod_eq_of_lt (by omega)

/-- A paired character lies beyond the surrogates and beyond every single code unit. -/
theorem pairedChar_large {high low : CodePoint} (hhigh : isHighSurrogate high = true)
    (hlow : isLowSurrogate low = true) : 0x10000 ≤ (pairedChar high low).val := by
  rw [pairedChar_val hhigh hlow]
  omega

theorem codeUnits_pairedChar {high low : CodePoint} (hhigh : isHighSurrogate high = true)
    (hlow : isLowSurrogate low = true) : codeUnits (pairedChar high low) = [high, low] := by
  have hval := pairedChar_val hhigh hlow
  rw [isHighSurrogate_iff] at hhigh
  rw [isLowSurrogate_iff] at hlow
  have hlarge : ¬ (pairedChar high low).val < 0x10000 := by omega
  have hfirst : 0xD800 + ((pairedChar high low).val - 0x10000) / 0x400 = high.val := by omega
  have hsecond : 0xDC00 + ((pairedChar high low).val - 0x10000) % 0x400 = low.val := by omega
  rw [codeUnits, if_neg hlarge, hfirst, hsecond, Fin.ofNat_val_eq_self, Fin.ofNat_val_eq_self]

/-- A character beyond the BMP has two code units, a pair that encodes it. -/
theorem codeUnits_of_large {c : CodePoint} (h : ¬ c.val < 0x10000) :
    ∃ high low, isHighSurrogate high = true ∧ isLowSurrogate low = true ∧
      codeUnits c = [high, low] ∧ pairedChar high low = c := by
  have hc : c.val < 0x110000 := c.isLt
  refine ⟨Fin.ofNat 0x110000 (0xD800 + (c.val - 0x10000) / 0x400),
    Fin.ofNat 0x110000 (0xDC00 + (c.val - 0x10000) % 0x400), ?_, ?_, if_neg h, ?_⟩
  · rw [isHighSurrogate_iff]
    simp only [Fin.ofNat]
    omega
  · rw [isLowSurrogate_iff]
    simp only [Fin.ofNat]
    omega
  · ext
    simp only [pairedChar, Fin.ofNat]
    omega

theorem codeUnits_lt {c u : CodePoint} (h : u ∈ codeUnits c) : u.val < 0x10000 := by
  by_cases hc : c.val < 0x10000
  · rw [codeUnits, if_pos hc, List.mem_singleton] at h
    rw [h]
    exact hc
  · rcases codeUnits_of_large hc with ⟨high, low, hhigh, hlow, hunits, _⟩
    rw [isHighSurrogate_iff] at hhigh
    rw [isLowSurrogate_iff] at hlow
    rw [hunits] at h
    rcases List.mem_pair.mp h with rfl | rfl <;> omega

theorem mem_utf16 {s : PyStr} {u : CodePoint} (h : u ∈ utf16 s) : u.val < 0x10000 := by
  rcases List.mem_flatMap.mp h with ⟨c, _, hu⟩
  exact codeUnits_lt hu

/-! ## Joining -/

theorem joinPairs_pair {high low : CodePoint} (hhigh : isHighSurrogate high = true)
    (hlow : isLowSurrogate low = true) (rest : PyStr) :
    joinPairs (high :: low :: rest) = pairedChar high low :: joinPairs rest := by
  simp [joinPairs, hhigh, hlow]

/-- A character that opens no pair stays in front. -/
theorem joinPairs_cons {c : CodePoint} {s : PyStr}
    (h : isHighSurrogate c = true → ∀ d ∈ s.head?, isLowSurrogate d ≠ true) :
    joinPairs (c :: s) = c :: joinPairs s := by
  cases s with
  | nil =>
      rfl
  | cons d s =>
      have hnot : ¬ (isHighSurrogate c && isLowSurrogate d) = true := by
        intro hpair
        rw [Bool.and_eq_true] at hpair
        exact h hpair.1 d rfl hpair.2
      rw [joinPairs, if_neg hnot]

/-- Joining never puts a low surrogate in front. -/
theorem head_joinPairs {s : PyStr} {d : CodePoint} (hd : d ∈ (joinPairs s).head?)
    (hlow : isLowSurrogate d = true) : d ∈ s.head? := by
  cases s with
  | nil =>
      exact hd
  | cons c s =>
      cases s with
      | nil =>
          exact hd
      | cons e s =>
          rw [joinPairs] at hd
          split at hd
          · rename_i hpair
            rw [Bool.and_eq_true] at hpair
            -- the character of a pair is no surrogate
            have hlarge := pairedChar_large hpair.1 hpair.2
            rw [Option.some.inj hd] at hlarge
            rw [isLowSurrogate_iff] at hlow
            omega
          · exact hd

theorem joinPairs_joinPairs (s : PyStr) : joinPairs (joinPairs s) = joinPairs s := by
  induction s using joinPairs.induct with
  | case1 high low rest hpair ih =>
      rw [Bool.and_eq_true] at hpair
      have hlarge := pairedChar_large hpair.1 hpair.2
      rw [joinPairs_pair hpair.1 hpair.2, joinPairs_cons, ih]
      intro hhigh
      rw [isHighSurrogate_iff] at hhigh
      omega
  | case2 high low rest hpair ih =>
      rw [joinPairs, if_neg hpair, joinPairs_cons, ih]
      intro hhigh d hd hlow
      cases head_joinPairs hd hlow
      exact hpair (by rw [hhigh, hlow]; rfl)
  | case3 c =>
      rfl
  | case4 =>
      rfl

/-- There is nothing to join in a text of Unicode scalar values. -/
theorem joinPairs_of_isScalar {s : PyStr} (h : s.all isScalar = true) : joinPairs s = s := by
  induction s with
  | nil =>
      rfl
  | cons c s ih =>
      rw [List.all_cons, Bool.and_eq_true] at h
      rw [joinPairs_cons, ih h.2]
      intro hhigh
      rw [isHighSurrogate_iff] at hhigh
      have hscalar := h.1
      simp only [isScalar, Bool.not_eq_true', Bool.and_eq_false_iff, decide_eq_false_iff_not]
        at hscalar
      omega

@[simp] theorem joinPairs_py (s : String) : joinPairs (py s) = py s :=
  joinPairs_of_isScalar (all_isScalar_py s)

/-! ## Code units -/

theorem utf16_cons (c : CodePoint) (s : PyStr) : utf16 (c :: s) = codeUnits c ++ utf16 s := by
  simp [utf16]

theorem utf16_joinPairs (s : PyStr) : utf16 (joinPairs s) = utf16 s := by
  induction s using joinPairs.induct with
  | case1 high low rest hpair ih =>
      rw [Bool.and_eq_true] at hpair
      have hhigh := isHighSurrogate_iff.mp hpair.1
      have hlow := isLowSurrogate_iff.mp hpair.2
      have hself : ∀ c : CodePoint, c.val < 0x10000 → codeUnits c = [c] := fun _ hc => if_pos hc
      rw [joinPairs_pair hpair.1 hpair.2, utf16_cons, utf16_cons, utf16_cons, ih,
        codeUnits_pairedChar hpair.1 hpair.2, hself high (by omega), hself low (by omega)]
      rfl
  | case2 high low rest hpair ih =>
      rw [joinPairs, if_neg hpair, utf16_cons, utf16_cons high, ih]
  | case3 c =>
      rfl
  | case4 =>
      rfl

/-- The first code unit of a text is a low surrogate only if its first character is. -/
theorem head_utf16 {s : PyStr} {d : CodePoint} (hd : d ∈ (utf16 s).head?)
    (hlow : isLowSurrogate d = true) : d ∈ s.head? := by
  cases s with
  | nil =>
      exact hd
  | cons c s =>
      rw [utf16_cons] at hd
      by_cases hc : c.val < 0x10000
      · rw [codeUnits, if_pos hc] at hd
        exact hd
      · rcases codeUnits_of_large hc with ⟨high, low, hhigh, _, hunits, _⟩
        rw [hunits] at hd
        cases hd
        rw [isHighSurrogate_iff] at hhigh
        rw [isLowSurrogate_iff] at hlow
        omega

theorem joinPairs_utf16 (s : PyStr) : joinPairs (utf16 s) = joinPairs s := by
  induction s using joinPairs.induct with
  | case1 high low rest hpair ih =>
      rw [Bool.and_eq_true] at hpair
      have hhigh := isHighSurrogate_iff.mp hpair.1
      have hlow := isLowSurrogate_iff.mp hpair.2
      have hself : ∀ c : CodePoint, c.val < 0x10000 → codeUnits c = [c] := fun _ hc => if_pos hc
      rw [utf16_cons, utf16_cons, hself high (by omega), hself low (by omega)]
      simp only [List.cons_append, List.nil_append]
      rw [joinPairs_pair hpair.1 hpair.2, joinPairs_pair hpair.1 hpair.2, ih]
  | case2 c d rest hpair ih =>
      rw [utf16_cons, joinPairs, if_neg hpair, ← ih]
      by_cases hc : c.val < 0x10000
      · rw [codeUnits, if_pos hc]
        refine joinPairs_cons fun hhigh e he hlow => ?_
        cases head_utf16 he hlow
        exact hpair (by rw [hhigh, hlow]; rfl)
      · rcases codeUnits_of_large hc with ⟨high, low, hhigh, hlow, hunits, hchar⟩
        rw [hunits]
        simp only [List.cons_append, List.nil_append]
        rw [joinPairs_pair hhigh hlow, hchar]
  | case3 c =>
      by_cases hc : c.val < 0x10000
      · simp [utf16, codeUnits, hc]
      · rcases codeUnits_of_large hc with ⟨high, low, hhigh, hlow, hunits, hchar⟩
        have hpair := joinPairs_pair hhigh hlow []
        rw [utf16_cons, hunits]
        rw [hchar] at hpair
        exact hpair
  | case4 =>
      rfl

/-- Two texts agree up to writing a character as its pair iff they have the same code units. -/
theorem joinPairs_eq_iff {s s' : PyStr} : joinPairs s = joinPairs s' ↔ utf16 s = utf16 s' := by
  constructor
  · intro h
    have hunits := congrArg utf16 h
    rwa [utf16_joinPairs, utf16_joinPairs] at hunits
  · intro h
    have hjoined := congrArg joinPairs h
    rwa [joinPairs_utf16, joinPairs_utf16] at hjoined

end Text
end TransactionPlatform
