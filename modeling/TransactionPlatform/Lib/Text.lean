import Mathlib.Data.List.DropRight
import Mathlib.Data.Nat.Digits.Lemmas
import TransactionPlatform.Lib.Regex

/-!
# Text — Python `str` values

A Python string is a sequence of code points, lone surrogates included; that is why it is not a
Lean `String`.  This module collects the parts of `str` (and of `int`) whose exact behaviour other
developments tend to rest on:

* `strip`, with Python's set of whitespace characters;
* `matchRepeat`, the test `re.match` makes with an anchored class;
* `lower`, exact wherever the result is compared with an ASCII text;
* `encodeUtf8`, which fails on surrogates as `str.encode` does;
* `intOfText`, the language and the digit limit of `int(text)`;
* `textOfInt`, the decimal text of an integer, and decimal numerals of any length;
* hexadecimal digits.
-/

namespace TransactionPlatform
namespace Text

/-! ## Code points and literals -/

abbrev CodePoint := Fin 0x110000

instance neZeroCodePoints : NeZero 0x110000 := ⟨by decide⟩

abbrev PyStr := List CodePoint

def codePoint (c : Char) : CodePoint :=
  ⟨c.toNat, by
    have hvalid := c.valid
    simp only [UInt32.isValidChar, Nat.isValidChar] at hvalid
    unfold Char.toNat
    omega⟩

/-- The Python string of a Lean literal. -/
def py (s : String) : PyStr :=
  s.toList.map codePoint

theorem codePoint_injective : Function.Injective codePoint := by
  intro a b h
  have hnat : a.toNat = b.toNat := by
    simpa [codePoint, Fin.mk.injEq] using h
  exact Char.toNat_inj.mp hnat

@[simp] theorem py_inj {a b : String} : py a = py b ↔ a = b := by
  constructor
  · intro h
    have hchars : a.toList = b.toList := List.map_injective_iff.mpr codePoint_injective h
    exact String.toList_injective hchars
  · intro h
    rw [h]

/-- A scalar value: a code point that is no surrogate. -/
def isScalar (c : CodePoint) : Bool :=
  !(0xD800 ≤ c.val && c.val ≤ 0xDFFF)

theorem isScalar_of_ascii {c : CodePoint} (h : c.val < 0x80) : isScalar c = true := by
  simp only [isScalar, Bool.not_eq_true', Bool.and_eq_false_iff, decide_eq_false_iff_not]
  omega

theorem all_isScalar_of_ascii {s : PyStr} (h : ∀ c ∈ s, c.val < 0x80) : s.all isScalar = true :=
  List.all_eq_true.mpr fun c hc => isScalar_of_ascii (h c hc)

/-- A Lean character is a scalar value. -/
theorem all_isScalar_py (s : String) : (py s).all isScalar = true := by
  refine List.all_eq_true.mpr fun c hc => ?_
  rcases List.mem_map.mp hc with ⟨char, _, rfl⟩
  have hvalid := char.valid
  simp only [UInt32.isValidChar, Nat.isValidChar] at hvalid
  have hval : (codePoint char).val = char.val.toNat := rfl
  rw [isScalar, hval, Bool.not_eq_true', Bool.and_eq_false_iff, decide_eq_false_iff_not,
    decide_eq_false_iff_not]
  omega

/-- `[A-Z]`. -/
def upperLetter (c : CodePoint) : Bool :=
  0x41 ≤ c.val && c.val ≤ 0x5A

/-! ## Whitespace -/

/-- The code points `str.strip` removes (those with `str.isspace`). -/
def isSpace (c : CodePoint) : Bool :=
  (0x9 ≤ c.val && c.val ≤ 0xD) || (0x1C ≤ c.val && c.val ≤ 0x20) || c.val == 0x85 ||
    c.val == 0xA0 || c.val == 0x1680 || (0x2000 ≤ c.val && c.val ≤ 0x200A) || c.val == 0x2028 ||
    c.val == 0x2029 || c.val == 0x202F || c.val == 0x205F || c.val == 0x3000

def strip (s : PyStr) : PyStr :=
  (s.dropWhile isSpace).rdropWhile isSpace

/-- A list whose first element survives `rdropWhile` keeps that element in front. -/
theorem dropWhile_rdropWhile_self {α : Type} (p : α → Bool) {l : List α}
    (h : l.dropWhile p = l) :
    (l.rdropWhile p).dropWhile p = l.rdropWhile p := by
  cases hl : l.rdropWhile p with
  | nil =>
      rfl
  | cons a as =>
      have hpre : a :: as <+: l := by
        rw [← hl]
        exact List.rdropWhile_prefix p l
      obtain ⟨rest, hrest⟩ := hpre
      have ha : p a = false := by
        by_contra hpa
        have hpa' : p a = true := by simpa using hpa
        rw [← hrest] at h
        have hlen := congrArg List.length h
        have hle := List.length_dropWhile_le p (as ++ rest)
        simp [hpa'] at hlen
        simp at hle
        omega
      simp [ha]

theorem strip_strip (s : PyStr) : strip (strip s) = strip s := by
  have hhead : (s.dropWhile isSpace).dropWhile isSpace = s.dropWhile isSpace :=
    List.dropWhile_idempotent isSpace s
  have hdrop := dropWhile_rdropWhile_self isSpace hhead
  unfold strip
  rw [hdrop]
  exact List.rdropWhile_idempotent isSpace _

theorem strip_sublist (s : PyStr) : (strip s).Sublist s :=
  (List.rdropWhile_prefix isSpace _).sublist.trans (List.dropWhile_sublist isSpace)

/-! ## Patterns -/

/-- `re.match(r"^[cls]{lo,hi}$", s)` for a class of characters without the newline: Python's `$` also
matches before a newline that ends the text. -/
def matchRepeat (cls : CodePoint → Bool) (lo hi : Nat) (s : PyStr) : Bool :=
  let body := if s.getLast? = some 0x0A then s.dropLast else s
  lo ≤ body.length && body.length ≤ hi && body.all cls

/-- The texts that pass: a body of the class, alone or in front of a newline. -/
theorem matchRepeat_iff {cls : CodePoint → Bool} (hcls : cls 0x0A = false) {lo hi : Nat}
    {s : PyStr} :
    matchRepeat cls lo hi s = true ↔
      ∃ body, (s = body ∨ s = body ++ [0x0A]) ∧ lo ≤ body.length ∧ body.length ≤ hi ∧
        ∀ c ∈ body, cls c = true := by
  simp only [matchRepeat, Bool.and_eq_true, decide_eq_true_eq, List.all_eq_true]
  constructor
  · rintro ⟨⟨hlo, hhi⟩, hall⟩
    refine ⟨_, ?_, hlo, hhi, hall⟩
    split
    · rename_i hlast
      exact .inr (List.dropLast_append_getLast? _ hlast).symm
    · exact .inl rfl
  · rintro ⟨body, rfl | rfl, hlo, hhi, hall⟩
    · -- the class has no newline, so the body does not end with one
      have hlast : s.getLast? ≠ some 0x0A := by
        intro hlast
        have hnewline := hall _ (List.mem_of_getLast? hlast)
        rw [hcls] at hnewline
        cases hnewline
      rw [if_neg hlast]
      exact ⟨⟨hlo, hhi⟩, hall⟩
    · rw [if_pos (by simp), List.dropLast_concat]
      exact ⟨⟨hlo, hhi⟩, hall⟩

/-- The test is `re.match` with the pattern. -/
theorem matchRepeat_eq_isMatch {cls : CodePoint → Bool} (hcls : cls 0x0A = false) (lo hi : Nat)
    (s : PyStr) :
    matchRepeat cls lo hi s = Regex.isMatch 0x0A (Regex.anchored cls lo hi) s := by
  apply Bool.eq_iff_iff.mpr
  rw [matchRepeat_iff hcls, Regex.isMatch_anchored_iff]

/-! ## Case -/

/-- `str.lower`, one code point at a time.  Outside ASCII only U+0130 and U+212A have a lower case
with an ASCII character in it; every other code point is left alone, which no comparison with an
ASCII text can notice. -/
def lowerChar (c : CodePoint) : PyStr :=
  if 0x41 ≤ c.val ∧ c.val ≤ 0x5A then [c + 0x20]
  else if c.val = 0x130 then [0x69, 0x307]
  else if c.val = 0x212A then [0x6B]
  else [c]

def lower (s : PyStr) : PyStr :=
  s.flatMap lowerChar

/-! ## Encoding -/

def utf8Char (c : CodePoint) : List UInt8 :=
  let n := c.val
  if n < 0x80 then
    [n.toUInt8]
  else if n < 0x800 then
    [(0xC0 + n / 0x40).toUInt8, (0x80 + n % 0x40).toUInt8]
  else if n < 0x10000 then
    [(0xE0 + n / 0x1000).toUInt8, (0x80 + n / 0x40 % 0x40).toUInt8, (0x80 + n % 0x40).toUInt8]
  else
    [(0xF0 + n / 0x40000).toUInt8, (0x80 + n / 0x1000 % 0x40).toUInt8,
      (0x80 + n / 0x40 % 0x40).toUInt8, (0x80 + n % 0x40).toUInt8]

/-- `s.encode("utf-8")`; `none` is the `UnicodeEncodeError` a surrogate causes. -/
def encodeUtf8 (s : PyStr) : Option (List UInt8) :=
  if s.all isScalar then some (s.flatMap utf8Char) else none

/-! ## Integers -/

/-- The zeros of the decimal digit systems (category Nd); each is followed by its nine others. -/
def decimalZeros : List Nat :=
  [0x30, 0x660, 0x6F0, 0x7C0, 0x966, 0x9E6, 0xA66, 0xAE6, 0xB66, 0xBE6, 0xC66, 0xCE6, 0xD66,
    0xDE6, 0xE50, 0xED0, 0xF20, 0x1040, 0x1090, 0x17E0, 0x1810, 0x1946, 0x19D0, 0x1A80, 0x1A90,
    0x1B50, 0x1BB0, 0x1C40, 0x1C50, 0xA620, 0xA8D0, 0xA900, 0xA9D0, 0xA9F0, 0xAA50, 0xABF0,
    0xFF10, 0x104A0, 0x10D30, 0x11066, 0x110F0, 0x11136, 0x111D0, 0x112F0, 0x11450, 0x114D0,
    0x11650, 0x116C0, 0x11730, 0x118E0, 0x11950, 0x11C50, 0x11D50, 0x11DA0, 0x11F50, 0x16A60,
    0x16AC0, 0x16B50, 0x1D7CE, 0x1D7D8, 0x1D7E2, 0x1D7EC, 0x1D7F6, 0x1E140, 0x1E2F0, 0x1E4F0,
    0x1E950, 0x1FBF0]

def digitValue (c : CodePoint) : Option Nat :=
  (decimalZeros.find? fun z => z ≤ c.val && c.val < z + 10).map fun z => c.val - z

/-- The digits of an `int` literal body: single underscores may stand between two digits. -/
def digitsOfText : PyStr → Option (List Nat)
  | [] => none
  | [c] => (digitValue c).map fun d => [d]
  | c :: d :: rest =>
      if d = codePoint '_' then
        match digitValue c, digitsOfText rest with
        | some v, some vs => some (v :: vs)
        | _, _ => none
      else
        match digitValue c, digitsOfText (d :: rest) with
        | some v, some vs => some (v :: vs)
        | _, _ => none

/-- `sys.int_info.default_max_str_digits`. -/
def maxStrDigits : Nat := 4300

def natOfText (s : PyStr) : Option Nat :=
  match digitsOfText s with
  | some ds => if ds.length ≤ maxStrDigits then some (ds.foldl (fun n d => 10 * n + d) 0) else none
  | none => none

/-- `int(text)`; `none` is the `ValueError`. -/
def intOfText (s : PyStr) : Option Int :=
  match strip s with
  | [] => none
  | c :: rest =>
      if c = codePoint '-' then (natOfText rest).map fun n => -(n : Int)
      else if c = codePoint '+' then (natOfText rest).map fun n => (n : Int)
      else (natOfText (c :: rest)).map fun n => (n : Int)

def digitChar (d : Nat) : CodePoint :=
  Fin.ofNat 0x110000 (0x30 + d)

/-- The decimal text of a natural number. -/
def textOfNat (n : Nat) : PyStr :=
  if n = 0 then [0x30] else (Nat.digits 10 n).reverse.map digitChar

/-- `str(n)`. -/
def textOfInt : Int → PyStr
  | .ofNat n => textOfNat n
  | .negSucc n => codePoint '-' :: textOfNat (n + 1)

/-- `str(n)` gives a text; for an integer with more digits it is a `ValueError`. -/
def printable (n : Int) : Bool :=
  (textOfNat n.natAbs).length ≤ maxStrDigits

theorem digitChar_val {d : Nat} (h : d < 10) : (digitChar d).val = 0x30 + d := by
  simp only [digitChar, Fin.ofNat]
  omega

theorem printable_iff {n : Int} : printable n = true ↔ n.natAbs < 10 ^ maxStrDigits := by
  unfold printable textOfNat
  split
  · rename_i hzero
    rw [hzero]
    exact ⟨fun _ => Nat.pow_pos (by decide), fun _ => by decide⟩
  · rw [List.length_map, List.length_reverse, decide_eq_true_iff]
    exact Nat.digits_length_le_iff (by decide) _

theorem printable_of_lt {n : Int} (h : n.natAbs < 10 ^ 10) : printable n = true :=
  printable_iff.mpr (lt_of_lt_of_le h (Nat.pow_le_pow_right (by decide) (by decide)))

/-- The number a text of decimal digits denotes. -/
def natOfDigits (s : PyStr) : Nat :=
  s.foldl (fun n c => 10 * n + (c.val - 0x30)) 0

theorem natOfDigits_textOfNat (n : Nat) : natOfDigits (textOfNat n) = n := by
  by_cases hn : n = 0
  · subst hn
    rfl
  · -- the digits are read from the front, Mathlib lists them from the back
    have hstep : ∀ ds : List Nat, (∀ d ∈ ds, d < 10) →
        natOfDigits (ds.reverse.map digitChar) = Nat.ofDigits 10 ds := by
      intro ds
      induction ds with
      | nil =>
          intro _
          rfl
      | cons d ds ih =>
          intro hds
          have hd : d < 10 := hds d (by simp)
          have hrest := ih (fun e he => hds e (by simp [he]))
          unfold natOfDigits at hrest ⊢
          rw [List.reverse_cons, List.map_append, List.foldl_append, hrest, Nat.ofDigits_cons]
          simp [digitChar_val hd]
          omega
    have hdigits := hstep (Nat.digits 10 n) (fun d hd => Nat.digits_lt_base (by decide) hd)
    simpa [textOfNat, hn, Nat.ofDigits_digits] using hdigits

/-- The text of a natural number consists of decimal digits. -/
theorem mem_textOfNat {n : Nat} {c : CodePoint} (h : c ∈ textOfNat n) :
    0x30 ≤ c.val ∧ c.val ≤ 0x39 := by
  unfold textOfNat at h
  split at h
  · rw [List.mem_singleton] at h
    subst h
    decide
  · rcases List.mem_map.mp h with ⟨d, hd, rfl⟩
    have hlt : d < 10 := Nat.digits_lt_base (by decide) (List.mem_reverse.mp hd)
    rw [digitChar_val hlt]
    omega

/-- The text of an integer consists of decimal digits and perhaps a minus sign. -/
theorem mem_textOfInt {n : Int} {c : CodePoint} (h : c ∈ textOfInt n) :
    c.val = 0x2D ∨ (0x30 ≤ c.val ∧ c.val ≤ 0x39) := by
  cases n with
  | ofNat n =>
      exact .inr (mem_textOfNat h)
  | negSucc n =>
      rcases List.mem_cons.mp h with rfl | hrest
      · exact .inl rfl
      · exact .inr (mem_textOfNat hrest)

theorem all_isScalar_textOfInt (n : Int) : (textOfInt n).all isScalar = true := by
  refine all_isScalar_of_ascii fun c hc => ?_
  have hrange := mem_textOfInt hc
  omega

theorem textOfInt_injective : Function.Injective textOfInt := by
  have hnat : Function.Injective textOfNat := Function.LeftInverse.injective natOfDigits_textOfNat
  -- no numeral starts with a sign
  have hminus : ∀ n m : Nat, textOfNat n ≠ codePoint '-' :: textOfNat m := by
    intro n m h
    have hmem : codePoint '-' ∈ textOfNat n := by simp [h]
    have hdigit := mem_textOfNat hmem
    revert hdigit
    decide
  intro n m h
  cases n with
  | ofNat n =>
      cases m with
      | ofNat m =>
          exact congrArg Int.ofNat (hnat h)
      | negSucc m =>
          exact absurd h (hminus _ _)
  | negSucc n =>
      cases m with
      | ofNat m =>
          exact absurd h.symm (hminus _ _)
      | negSucc m =>
          have htail : textOfNat (n + 1) = textOfNat (m + 1) := (List.cons.inj h).2
          have heq : n + 1 = m + 1 := hnat htail
          simp only [Nat.add_right_cancel_iff] at heq
          rw [heq]

/-! ## Numerals -/

def isDigit (c : CodePoint) : Bool :=
  0x30 ≤ c.val && c.val ≤ 0x39

/-- A decimal numeral: ASCII digits, as many as one likes but at least one. -/
def isNumeral (s : PyStr) : Bool :=
  !s.isEmpty && s.all isDigit

theorem isNumeral_iff {s : PyStr} :
    isNumeral s = true ↔ s ≠ [] ∧ ∀ c ∈ s, isDigit c = true := by
  cases s <;> simp [isNumeral]

/-- There is nothing to strip from a numeral. -/
theorem strip_numeral {s : PyStr} (h : isNumeral s = true) : strip s = s := by
  have hspace : ∀ c ∈ s, ¬ isSpace c = true := by
    intro c hc
    have hdigit := (isNumeral_iff.mp h).2 c hc
    simp only [isDigit, Bool.and_eq_true, decide_eq_true_eq] at hdigit
    simp only [isSpace, Bool.or_eq_true, Bool.and_eq_true, decide_eq_true_eq, beq_iff_eq]
    omega
  have hfront : s.dropWhile isSpace = s :=
    List.dropWhile_eq_self_iff.mpr fun _ => hspace _ (List.getElem_mem _)
  rw [strip, hfront]
  exact List.rdropWhile_eq_self_iff.mpr fun hne => hspace _ (List.getLast_mem hne)

/-- The ASCII digits are the first of the digit systems. -/
theorem digitValue_of_isDigit {c : CodePoint} (h : isDigit c = true) :
    digitValue c = some (c.val - 0x30) := by
  simp only [isDigit, Bool.and_eq_true, decide_eq_true_eq] at h
  have hfirst : (fun z => decide (z ≤ c.val) && decide (c.val < z + 10)) 0x30 = true := by
    simp only [Bool.and_eq_true, decide_eq_true_eq]
    omega
  have hfind : decimalZeros.find? (fun z => z ≤ c.val && c.val < z + 10) = some 0x30 :=
    List.find?_cons_of_pos hfirst
  rw [digitValue, hfind]
  rfl

theorem digitsOfText_of_isDigit {s : PyStr} (hne : s ≠ []) (h : ∀ c ∈ s, isDigit c = true) :
    digitsOfText s = some (s.map fun c => c.val - 0x30) := by
  induction s with
  | nil =>
      exact absurd rfl hne
  | cons c s ih =>
      have hc : digitValue c = some (c.val - 0x30) := digitValue_of_isDigit (h c (by simp))
      cases s with
      | nil =>
          rw [digitsOfText, hc]
          rfl
      | cons d s =>
          have hrest := ih (List.cons_ne_nil d s) (fun e he => h e (List.mem_cons_of_mem c he))
          have hunderscore : d ≠ codePoint '_' := by
            rintro rfl
            have hdigit := h (codePoint '_') (by simp)
            revert hdigit
            decide
          rw [digitsOfText, if_neg hunderscore, hc, hrest]
          rfl

/-- `int` reads a numeral as the number it denotes, if it has no more digits than the limit. -/
theorem natOfText_numeral {s : PyStr} (h : isNumeral s = true) :
    natOfText s = if s.length ≤ maxStrDigits then some (natOfDigits s) else none := by
  rcases isNumeral_iff.mp h with ⟨hne, hdigits⟩
  rw [natOfText, digitsOfText_of_isDigit hne hdigits]
  simp only [List.length_map, List.foldl_map]
  rfl

theorem intOfText_numeral {s : PyStr} (h : isNumeral (strip s) = true) :
    intOfText s =
      if (strip s).length ≤ maxStrDigits then some (natOfDigits (strip s) : Int) else none := by
  have hnat := natOfText_numeral h
  rcases isNumeral_iff.mp h with ⟨hne, hdigits⟩
  unfold intOfText
  cases hs : strip s with
  | nil =>
      exact absurd hs hne
  | cons c rest =>
      rw [hs] at hnat hdigits
      have hc : isDigit c = true := hdigits c (by simp)
      have hminus : c ≠ codePoint '-' := by
        rintro rfl
        revert hc
        decide
      have hplus : c ≠ codePoint '+' := by
        rintro rfl
        revert hc
        decide
      simp only [if_neg hminus, if_neg hplus, hnat]
      split <;> rfl

/-- What begins with a minus sign is no positive number, if it is a number at all. -/
theorem intOfText_minus {s rest : PyStr} (h : strip s = codePoint '-' :: rest) {n : Int}
    (hn : intOfText s = some n) : n ≤ 0 := by
  simp only [intOfText, h, if_true, Option.map_eq_some_iff] at hn
  rcases hn with ⟨m, hm, rfl⟩
  cases hrest : natOfText rest with
  | none =>
      rw [hrest] at hm
      cases hm
  | some k =>
      rw [hrest] at hm
      cases hm
      exact Int.neg_nonpos_of_nonneg (Int.natCast_nonneg k)

/-- The first digit counts the highest power of ten. -/
theorem natOfDigits_cons (c : CodePoint) (s : PyStr) :
    natOfDigits (c :: s) = (c.val - 0x30) * 10 ^ s.length + natOfDigits s := by
  have hfold : ∀ (s : PyStr) (n : Nat),
      s.foldl (fun n c => 10 * n + (c.val - 0x30)) n = n * 10 ^ s.length + natOfDigits s := by
    intro s
    induction s with
    | nil =>
        intro n
        simp [natOfDigits]
    | cons d s ih =>
        intro n
        simp only [natOfDigits, List.foldl_cons, List.length_cons]
        rw [ih, ih (10 * 0 + (d.val - 0x30)), pow_succ]
        ring
  rw [natOfDigits, List.foldl_cons, hfold]
  simp

/-! ## Hexadecimal digits -/

/-- The lower-case hexadecimal digit of a number below 16. -/
def hexDigit (n : Nat) : CodePoint :=
  if n < 10 then Fin.ofNat 0x110000 (0x30 + n) else Fin.ofNat 0x110000 (0x57 + n)

def hexValue (c : CodePoint) : Nat :=
  if c.val ≤ 0x39 then c.val - 0x30 else c.val - 0x57

theorem hexDigit_val {n : Nat} (h : n < 16) :
    (hexDigit n).val = if n < 10 then 0x30 + n else 0x57 + n := by
  unfold hexDigit
  split <;> simp only [Fin.ofNat] <;> omega

theorem hexValue_hexDigit {n : Nat} (h : n < 16) : hexValue (hexDigit n) = n := by
  unfold hexValue
  rw [hexDigit_val h]
  split <;> split <;> omega

/-- A hexadecimal digit is one of `0`..`9` and `a`..`f`. -/
theorem hexDigit_range {n : Nat} (h : n < 16) :
    (0x30 ≤ (hexDigit n).val ∧ (hexDigit n).val ≤ 0x39) ∨
      (0x61 ≤ (hexDigit n).val ∧ (hexDigit n).val ≤ 0x66) := by
  rw [hexDigit_val h]
  split <;> omega

end Text
end TransactionPlatform
