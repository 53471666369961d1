import TransactionPlatform.Lib.Sql

/-!
# SqlText — reading check constraints

The text of a constraint is cut into tokens and read by recursive descent, loosest operator first:
`OR`, `AND`, then the predicates, then operands.  Keywords are written in capitals.  A text outside
the fragment is not read.
-/

namespace TransactionPlatform
namespace Sql

open Text

/-! ## Patterns -/

/-- The ranges of a bracket expression up to its `]`. -/
def readRanges : PyStr → Option (List (CodePoint × CodePoint) × PyStr)
  | lo :: dash :: hi :: rest =>
      if lo = codePoint ']' then some ([], dash :: hi :: rest)
      else if dash = codePoint '-' then
        match readRanges rest with
        | some (ranges, rest) => some ((lo, hi) :: ranges, rest)
        | none => none
      else none
  | close :: rest => if close = codePoint ']' then some ([], rest) else none
  | [] => none

/-- The bound of `{n}$` at the end of a pattern. -/
def readBound (s : PyStr) : Option Nat :=
  match s with
  | opening :: rest =>
      let digits := rest.takeWhile isDigit
      if opening = codePoint '\x7b' ∧ digits ≠ [] ∧ rest.dropWhile isDigit = py "\x7d$" then
        some (natOfDigits digits)
      else none
  | [] => none

def readPattern (s : PyStr) : Option Pattern :=
  match s with
  | caret :: bracket :: rest =>
      if caret = codePoint '^' ∧ bracket = codePoint '[' then
        match readRanges rest with
        | some (ranges, rest) => (readBound rest).map fun n => ⟨ranges, n⟩
        | none => none
      else none
  | _ => none

/-! ## Tokens -/

inductive Keyword
  | or
  | and
  | is
  | not
  | null
  | in
  | between
  deriving DecidableEq

inductive Symbol
  | leftParen
  | rightParen
  | comma
  | minus
  | tilde
  | cast
  | comparison (op : Comparison)
  deriving DecidableEq

inductive Token
  | name (s : PyStr)
  | keyword (k : Keyword)
  | integer (n : Nat)
  | quoted (s : PyStr)
  | symbol (s : Symbol)
  deriving DecidableEq

def keywords : Dict Keyword :=
  [(py "OR", .or), (py "AND", .and), (py "IS", .is), (py "NOT", .not), (py "NULL", .null),
    (py "IN", .in), (py "BETWEEN", .between)]

def symbols : Dict Symbol :=
  [(py "(", .leftParen), (py ")", .rightParen), (py ",", .comma), (py "-", .minus), (py "~", .tilde),
    (py "::", .cast), (py "=", .comparison .eq), (py "!=", .comparison .ne),
    (py "<", .comparison .lt), (py "<=", .comparison .le), (py ">", .comparison .gt),
    (py ">=", .comparison .ge)]

def wordToken (s : PyStr) : Token :=
  if s.all isDigit then .integer (natOfDigits s)
  else
    match Dict.get keywords s with
    | some k => .keyword k
    | none => .name s

/-- Letters, digits and the underscore. -/
def wordChar (c : CodePoint) : Bool :=
  isDigit c || (0x41 ≤ c.val && c.val ≤ 0x5A) || (0x61 ≤ c.val && c.val ≤ 0x7A) || c = 0x5F

/-- What the lexer is inside of, with the characters it has taken. -/
inductive Lexeme
  | blank
  | word (s : PyStr)
  | quote (s : PyStr)
  | symbol (s : PyStr)

/-- Close a lexeme; a quotation is closed by its quote only. -/
def Lexeme.close : Lexeme → List Token → Option (List Token)
  | .blank, ts => some ts
  | .word s, ts => some (wordToken s :: ts)
  | .quote _, _ => none
  | .symbol s, ts => (Dict.get symbols s).map fun symbol => .symbol symbol :: ts

/-- Cut the rest of a text into tokens. -/
def lex : PyStr → Lexeme → Option (List Token)
  | [], cur => cur.close []
  | c :: rest, .quote s =>
      if c = codePoint '\'' then (lex rest .blank).map (.quoted s :: ·)
      else lex rest (.quote (s ++ [c]))
  | c :: rest, cur =>
      match cur with
      | .word s =>
          if wordChar c then lex rest (.word (s ++ [c]))
          else (lex rest (fresh c)).bind (Lexeme.word s).close
      | .symbol s =>
          -- the longest operator
          if (Dict.get symbols (s ++ [c])).isSome then lex rest (.symbol (s ++ [c]))
          else (lex rest (fresh c)).bind (Lexeme.symbol s).close
      | cur => (lex rest (fresh c)).bind cur.close
where
  /-- The lexeme that begins with a character. -/
  fresh (c : CodePoint) : Lexeme :=
    if c = codePoint ' ' then .blank
    else if c = codePoint '\'' then .quote []
    else if wordChar c then .word [c]
    else .symbol [c]

/-! ## Reading -/

/-- The functions of one argument. -/
def functionOf (name : PyStr) (e : Expr) : Option Expr :=
  if name = py "length" then some (.length e)
  else if name = py "btrim" then some (.btrim e)
  else if name = py "jsonb_typeof" then some (.jsonbTypeof e)
  else none

/-- The texts of an `IN` list behind its opening parenthesis. -/
def readItems : List Token → Option (List PyStr × List Token)
  | .quoted s :: .symbol .comma :: rest =>
      (readItems rest).map fun (items, rest) => (s :: items, rest)
  | .quoted s :: .symbol .rightParen :: rest => some ([s], rest)
  | _ => none

inductive Level
  | disjunction
  | conjunction
  | predicate
  | operand
  | primary

/-- Read an expression of a level from the front of a list of tokens. -/
def read : Nat → Level → List Token → Option (Expr × List Token)
  | 0, _, _ => none
  | fuel + 1, .disjunction, ts => do
      let (a, ts) ← read fuel .conjunction ts
      match ts with
      | .keyword .or :: ts =>
          let (b, ts) ← read fuel .disjunction ts
          return (.or a b, ts)
      | ts => return (a, ts)
  | fuel + 1, .conjunction, ts => do
      let (a, ts) ← read fuel .predicate ts
      match ts with
      | .keyword .and :: ts =>
          let (b, ts) ← read fuel .conjunction ts
          return (.and a b, ts)
      | ts => return (a, ts)
  | fuel + 1, .predicate, ts => do
      let (a, ts) ← read fuel .operand ts
      match ts with
      | .keyword .is :: .keyword .null :: ts => return (.isNull a, ts)
      | .keyword .is :: .keyword .not :: .keyword .null :: ts => return (.isNotNull a, ts)
      | .keyword .in :: .symbol .leftParen :: ts =>
          let (items, ts) ← readItems ts
          return (.isIn a items, ts)
      | .keyword .between :: ts =>
          let (lo, ts) ← read fuel .operand ts
          match ts with
          | .keyword .and :: ts =>
              let (hi, ts) ← read fuel .operand ts
              return (.between a lo hi, ts)
          | _ => none
      | .symbol .tilde :: .quoted s :: ts =>
          let p ← readPattern s
          return (.similar a p, ts)
      | .symbol (.comparison .eq) :: .quoted s :: .symbol .cast :: .name t :: ts =>
          if s = py "\x7b\x7d" ∧ t = py "jsonb" then return (.isEmptyObject a, ts) else none
      | .symbol (.comparison op) :: ts =>
          let (b, ts) ← read fuel .operand ts
          return (.compare op a b, ts)
      | ts => return (a, ts)
  | fuel + 1, .operand, ts => do
      let (a, ts) ← read fuel .primary ts
      match ts with
      | .symbol .minus :: .quoted key :: ts => return (.without a key, ts)
      | ts => return (a, ts)
  | fuel + 1, .primary, ts =>
      match ts with
      | .symbol .leftParen :: ts => do
          let (a, ts) ← read fuel .disjunction ts
          match ts with
          | .symbol .rightParen :: ts => return (a, ts)
          | _ => none
      | .name f :: .symbol .leftParen :: ts => do
          let (a, ts) ← read fuel .operand ts
          match ts with
          | .symbol .rightParen :: ts => return (← functionOf f a, ts)
          | _ => none
      | .name column :: ts => some (.column column, ts)
      | .integer n :: ts => some (.integer n, ts)
      | .quoted s :: ts => some (.text s, ts)
      | _ => none

/-- The expression of a text.  A token takes at most five levels. -/
def parse (text : PyStr) : Option Expr := do
  let ts ← lex text .blank
  match ← read (5 * ts.length + 5) .disjunction ts with
  | (e, []) => some e
  | _ => none

end Sql
end TransactionPlatform
