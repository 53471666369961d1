import TransactionPlatform.Lib.Json

/-!
# JsonText — `json.dumps` of a flat object

`dumps` is `json.dumps(d, sort_keys=True, separators=(",", ":"), ensure_ascii=True)` for a
dictionary of integers and strings.  An escaped string can be read back one UTF-16 code unit at a
time (`unescapeUnit`): a surrogate pair is written like the character it encodes, and nothing else is
lost.
-/

namespace TransactionPlatform
namespace JsonText

open Text

/-! ## Strings -/

def hex4 (n : Nat) : PyStr :=
  [hexDigit (n / 4096 % 16), hexDigit (n / 256 % 16), hexDigit (n / 16 % 16), hexDigit (n % 16)]

def unicodeEscape (n : Nat) : PyStr :=
  0x5C :: 0x75 :: hex4 n

/-- Characters with a two-character escape, and the character after the backslash. -/
def shortEscapes : List (CodePoint × CodePoint) :=
  [(0x22, 0x22), (0x5C, 0x5C), (0x08, 0x62), (0x0C, 0x66), (0x0A, 0x6E), (0x0D, 0x72),
    (0x09, 0x74)]

/-- One character inside a string, with `ensure_ascii`. -/
def escapeChar (c : CodePoint) : PyStr :=
  match shortEscapes.lookup c with
  | some e => [0x5C, e]
  | none =>
      if 0x20 ≤ c.val ∧ c.val ≤ 0x7E then [c]
      else if c.val < 0x10000 then unicodeEscape c.val
      else
        unicodeEscape (0xD800 + (c.val - 0x10000) / 0x400) ++
          unicodeEscape (0xDC00 + (c.val - 0x10000) % 0x400)

def encodeString (s : PyStr) : PyStr :=
  0x22 :: s.flatMap escapeChar ++ [0x22]

/-! ## Objects -/

inductive Scalar
  | int (n : Int)
  | str (s : PyStr)
  deriving DecidableEq, Repr

/-- The text of a value; `none` is the `ValueError` of an integer with too many digits. -/
def dumpsScalar : Scalar → Option PyStr
  | .int n => if (textOfNat n.natAbs).length ≤ maxStrDigits then some (textOfInt n) else none
  | .str s => some (encodeString s)

def dumpsMember (m : PyStr × Scalar) : Option PyStr :=
  (dumpsScalar m.2).map fun text => encodeString m.1 ++ 0x3A :: text

/-- Members in the order of their keys, compared by code points. -/
def sortKeys (members : Dict Scalar) : Dict Scalar :=
  members.insertionSort fun a b => a.1 ≤ b.1

def joinMembers : List PyStr → PyStr
  | [] => []
  | [text] => text
  | text :: rest => text ++ 0x2C :: joinMembers rest

def dumps (members : Dict Scalar) : Option PyStr :=
  ((sortKeys members).mapM dumpsMember).map fun texts => 0x7B :: joinMembers texts ++ [0x7D]

/-! ## Reading escapes back -/

def read4 : PyStr → Option (Nat × PyStr)
  | a :: b :: c :: d :: rest =>
      some (((hexValue a * 16 + hexValue b) * 16 + hexValue c) * 16 + hexValue d, rest)
  | _ => none

/-- The first code unit of a string body, and what follows it; `none` at the closing quote. -/
def unescapeUnit : PyStr → Option (CodePoint × PyStr)
  | [] => none
  | c :: rest =>
      if c = 0x22 then none
      else if c = 0x5C then
        match rest with
        | [] => none
        | e :: rest' =>
            if e = 0x75 then (read4 rest').map fun p => (Fin.ofNat 0x110000 p.1, p.2)
            else (shortEscapes.find? fun p => p.2 = e).map fun p => (p.1, rest')
      else some (c, rest)

theorem read4_hex4 {n : Nat} (h : n < 0x10000) (rest : PyStr) :
    read4 (hex4 n ++ rest) = some (n, rest) := by
  have hdigit : ∀ m : Nat, hexValue (hexDigit (m % 16)) = m % 16 :=
    fun m => hexValue_hexDigit (Nat.mod_lt m (by decide))
  simp only [hex4, List.cons_append, List.nil_append, read4, hdigit, Option.some.injEq,
    Prod.mk.injEq, and_true]
  omega

theorem unescapeUnit_unicodeEscape {n : Nat} (h : n < 0x10000) (rest : PyStr) :
    unescapeUnit (unicodeEscape n ++ rest) = some (Fin.ofNat 0x110000 n, rest) := by
  simp [unescapeUnit, unicodeEscape, read4_hex4 h]

/-- A code unit is read back from its escape. -/
theorem unescapeUnit_escapeChar {c : CodePoint} (hunit : c.val < 0x10000) (rest : PyStr) :
    unescapeUnit (escapeChar c ++ rest) = some (c, rest) := by
  have hself : Fin.ofNat 0x110000 c.val = c := Fin.ofNat_val_eq_self c
  unfold escapeChar
  cases hlookup : shortEscapes.lookup c with
  | some e =>
      -- each short escape is read back by the branch of its own character
      have hmem : ∀ p ∈ shortEscapes, unescapeUnit (0x5C :: p.2 :: rest) = some (p.1, rest) := by
        intro p hp
        simp only [shortEscapes, List.mem_cons, List.not_mem_nil, or_false] at hp
        rcases hp with rfl | rfl | rfl | rfl | rfl | rfl | rfl <;> rfl
      rcases List.lookup_eq_some_iff.mp hlookup with ⟨before, after, hsplit, _⟩
      exact hmem (c, e) (by simp [hsplit])
  | none =>
      have hquote : c ≠ 0x22 := by
        rintro rfl
        simp [shortEscapes] at hlookup
      have hbackslash : c ≠ 0x5C := by
        rintro rfl
        simp [shortEscapes] at hlookup
      simp only [if_pos hunit]
      split
      · simp [unescapeUnit, hquote, hbackslash]
      · rw [unescapeUnit_unicodeEscape hunit, hself]

/-- A character is escaped by way of its code units. -/
theorem escapeChar_eq (c : CodePoint) : escapeChar c = (codeUnits c).flatMap escapeChar := by
  by_cases hc : c.val < 0x10000
  · rw [codeUnits, if_pos hc, List.flatMap_singleton]
  · rcases codeUnits_of_large hc with ⟨high, low, hhigh, hlow, hunits, -⟩
    rw [isHighSurrogate_iff] at hhigh
    rw [isLowSurrogate_iff] at hlow
    -- no surrogate has a short escape or is printable ASCII
    have hlarge : ∀ d : CodePoint, 0x7F ≤ d.val → shortEscapes.lookup d = none := by
      intro d hd
      refine List.lookup_eq_none_iff.mpr fun p hp => ?_
      have hshort : ∀ p ∈ shortEscapes, p.1.val < 0x7F := by
        simp [shortEscapes]
      have hlt := hshort p hp
      rw [bne_iff_ne]
      rintro rfl
      omega
    have hescape : ∀ d : CodePoint, 0x7F ≤ d.val → d.val < 0x10000 →
        escapeChar d = unicodeEscape d.val := by
      intro d hd hunit
      have hprintable : ¬ (0x20 ≤ d.val ∧ d.val ≤ 0x7E) := by omega
      simp only [escapeChar, hlarge d hd, if_neg hprintable, if_pos hunit]
    have hprintable : ¬ (0x20 ≤ c.val ∧ c.val ≤ 0x7E) := by omega
    have hvalues : [high, low] = codeUnits c := hunits.symm
    rw [codeUnits, if_neg hc] at hvalues
    have hhighVal : high.val = 0xD800 + (c.val - 0x10000) / 0x400 := by
      rw [(List.cons.inj hvalues).1]
      simp only [Fin.ofNat]
      omega
    have hlowVal : low.val = 0xDC00 + (c.val - 0x10000) % 0x400 := by
      rw [(List.cons.inj (List.cons.inj hvalues).2).1]
      simp only [Fin.ofNat]
      omega
    rw [hunits, List.flatMap_cons, List.flatMap_singleton, hescape high (by omega) (by omega),
      hescape low (by omega) (by omega), hhighVal, hlowVal]
    simp only [escapeChar, hlarge c (by omega), if_neg hprintable, if_neg hc]

/-- An encoded string is the text of its code units. -/
theorem flatMap_escapeChar (s : PyStr) : s.flatMap escapeChar = (utf16 s).flatMap escapeChar := by
  rw [utf16, List.flatMap_assoc]
  exact List.flatMap_congr fun c _ => escapeChar_eq c

/-- A pair is written like its character. -/
theorem encodeString_joinPairs (s : PyStr) : encodeString (joinPairs s) = encodeString s := by
  rw [encodeString, encodeString, flatMap_escapeChar, utf16_joinPairs, ← flatMap_escapeChar]

/-! ## Injectivity -/

/-- A code that can be read back letter by letter up to a closing mark is injective. -/
theorem flatMap_inj_of_read {α β : Type} {f : α → List β} {P : α → Prop}
    {read : List β → Option (α × List β)} {q : β}
    (hread : ∀ a x, P a → read (f a ++ x) = some (a, x)) (hq : ∀ x, read (q :: x) = none) :
    ∀ {l l' : List α} {x x' : List β}, (∀ a ∈ l, P a) → (∀ a ∈ l', P a) →
      l.flatMap f ++ q :: x = l'.flatMap f ++ q :: x' → l = l' ∧ x = x' := by
  -- induction on the first list; the second has to go along with it
  intro l
  induction l with
  | nil =>
      intro l' x x' _ hl' h
      cases l' with
      | nil =>
          exact ⟨rfl, (List.cons.inj h).2⟩
      | cons b bs =>
          have hb := hread b (bs.flatMap f ++ q :: x') (hl' b (by simp))
          simp only [List.flatMap_nil, List.nil_append, List.flatMap_cons, List.append_assoc] at h
          -- the second list goes on where the first has its terminator
          rw [← h, hq] at hb
          cases hb
  | cons a as ih =>
      intro l' x x' hl hl' h
      have ha := hread a (as.flatMap f ++ q :: x) (hl a (by simp))
      cases l' with
      | nil =>
          simp only [List.flatMap_nil, List.nil_append, List.flatMap_cons, List.append_assoc] at h
          rw [h, hq] at ha
          cases ha
      | cons b bs =>
          have hb := hread b (bs.flatMap f ++ q :: x') (hl' b (by simp))
          simp only [List.flatMap_cons, List.append_assoc] at h
          rw [h, hb] at ha
          rcases Prod.mk.inj (Option.some.inj ha) with ⟨rfl, hrest⟩
          rcases ih (fun c hc => hl c (by simp [hc])) (fun c hc => hl' c (by simp [hc])) hrest.symm
            with ⟨rfl, hx⟩
          exact ⟨rfl, hx⟩

/-- A text up to a mark it does not contain is determined by the whole. -/
theorem append_cons_inj {β : Type} {q : β} {x x' y y' : List β} (hx : q ∉ x) (hx' : q ∉ x')
    (h : x ++ q :: y = x' ++ q :: y') : x = x' ∧ y = y' := by
  induction x generalizing x' with
  | nil =>
      cases x' with
      | nil =>
          exact ⟨rfl, (List.cons.inj h).2⟩
      | cons b bs =>
          exact absurd (List.cons.inj h).1 (fun heq => hx' (by simp [heq]))
  | cons a as ih =>
      cases x' with
      | nil =>
          exact absurd (List.cons.inj h).1 (fun heq => hx (by simp [heq]))
      | cons b bs =>
          rcases List.cons.inj h with ⟨rfl, hrest⟩
          rcases ih (fun hmem => hx (by simp [hmem])) (fun hmem => hx' (by simp [hmem])) hrest
            with ⟨rfl, hy⟩
          exact ⟨rfl, hy⟩

/-- An encoded string can be told from what follows it, up to writing a character as its pair. -/
theorem encodeString_append_inj {s s' x x' : PyStr}
    (h : encodeString s ++ x = encodeString s' ++ x') : joinPairs s = joinPairs s' ∧ x = x' := by
  have hbody : (utf16 s).flatMap escapeChar ++ 0x22 :: x =
      (utf16 s').flatMap escapeChar ++ 0x22 :: x' := by
    rw [← flatMap_escapeChar, ← flatMap_escapeChar]
    simpa [encodeString] using h
  rcases flatMap_inj_of_read (P := fun c => c.val < 0x10000) (q := (0x22 : CodePoint))
    (fun c y hc => unescapeUnit_escapeChar hc y) (fun y => rfl) (fun _ => mem_utf16)
    (fun _ => mem_utf16) hbody with ⟨hunits, hx⟩
  exact ⟨joinPairs_eq_iff.mpr hunits, hx⟩

/-- An integer's text can be told from what follows a comma after it. -/
theorem textOfInt_append_inj {n m : Int} {x x' : PyStr}
    (h : textOfInt n ++ 0x2C :: x = textOfInt m ++ 0x2C :: x') : n = m ∧ x = x' := by
  have hcomma : ∀ k : Int, (0x2C : CodePoint) ∉ textOfInt k := by
    intro k hmem
    have hdigit := mem_textOfInt hmem
    revert hdigit
    decide
  rcases append_cons_inj (hcomma n) (hcomma m) h with ⟨htext, hx⟩
  exact ⟨textOfInt_injective htext, hx⟩

/-! ## The text is ASCII -/

theorem mem_unicodeEscape {n : Nat} {c : CodePoint} (h : c ∈ unicodeEscape n) : c.val < 0x80 := by
  have hhex : ∀ m : Nat, (hexDigit (m % 16)).val < 0x80 := by
    intro m
    rcases hexDigit_range (Nat.mod_lt m (by decide : 16 > 0)) with hr | hr <;> omega
  simp only [unicodeEscape, hex4, List.mem_cons, List.not_mem_nil, or_false] at h
  rcases h with rfl | rfl | rfl | rfl | rfl | rfl
  · decide
  · decide
  all_goals exact hhex _

theorem mem_escapeChar {c d : CodePoint} (h : d ∈ escapeChar c) : d.val < 0x80 := by
  unfold escapeChar at h
  cases hlookup : shortEscapes.lookup c with
  | some e =>
      have hshort : ∀ p ∈ shortEscapes, p.2.val < 0x80 := by
        simp [shortEscapes]
      rcases List.lookup_eq_some_iff.mp hlookup with ⟨before, after, hsplit, _⟩
      have he : e.val < 0x80 := hshort (c, e) (by simp [hsplit])
      simp only [hlookup, List.mem_cons, List.not_mem_nil, or_false] at h
      rcases h with rfl | rfl
      · decide
      · exact he
  | none =>
      simp only [hlookup] at h
      -- printable ASCII stands for itself
      split at h
      · rw [List.mem_singleton] at h
        subst h
        omega
      · split at h
        · exact mem_unicodeEscape h
        · rcases List.mem_append.mp h with h | h
          · exact mem_unicodeEscape h
          · exact mem_unicodeEscape h

theorem mem_encodeString {s : PyStr} {c : CodePoint} (h : c ∈ encodeString s) : c.val < 0x80 := by
  simp only [encodeString, List.cons_append, List.mem_cons, List.mem_append, List.mem_flatMap,
    List.not_mem_nil, or_false] at h
  rcases h with rfl | ⟨d, _, hc⟩ | rfl
  · decide
  · exact mem_escapeChar hc
  · decide

end JsonText
end TransactionPlatform
