import TransactionPlatform.Lib.Json
import TransactionPlatform.Lib.Regex

/-!
# Sql — the expressions of check constraints

The fragment of PostgreSQL's expressions that `CHECK` constraints are written in.  A value may be
`NULL`; functions and operators are strict, the connectives are three-valued, and a `CHECK` turns a
row away only when it is false.

`AND` and `OR` are evaluated from the left and stop as soon as they are decided, which is what the
executor does.
-/

namespace TransactionPlatform
namespace Sql

open Text

inductive Datum
  | text (s : PyStr)
  | integer (n : Int)
  | jsonb (j : Json)
  | timestamp (t : Nat)
  | boolean (b : Bool)
  deriving Repr

/-- What a column or an expression holds; `none` is `NULL`. -/
abbrev Value := Option Datum

/-- The classes of errors a statement ends with: it does not fit the catalogue, a value does not fit
its type, or a constraint is broken. -/
inductive Error
  | undefined
  | data
  | integrity
  deriving DecidableEq, Repr

/-! ## Patterns -/

/-- The regular expression `^[..]{n}$`, its class given by ranges.  In PostgreSQL `$` stands only at
the end of the text. -/
structure Pattern where
  ranges : List (CodePoint × CodePoint)
  count : Nat
  deriving DecidableEq, Repr

namespace Pattern

def cls (p : Pattern) (c : CodePoint) : Bool :=
  p.ranges.any fun r => r.1 ≤ c && c ≤ r.2

def isMatch (p : Pattern) (s : PyStr) : Bool :=
  (Regex.repEnds (Regex.classEnds p.cls) p.count p.count ⟨0, s⟩).any fun x => x.ahead.isEmpty

theorem isMatch_iff {p : Pattern} {s : PyStr} :
    p.isMatch s = true ↔ s.length = p.count ∧ ∀ c ∈ s, p.cls c = true := by
  unfold isMatch
  rw [List.any_eq_true]
  constructor
  · rintro ⟨x, hx, hend⟩
    rcases Regex.mem_repEnds.mp hx with ⟨body, rest, rfl, hlo, hhi, hall, rfl⟩
    have hrest : rest = [] := by simpa using hend
    subst hrest
    rw [List.append_nil]
    exact ⟨Nat.le_antisymm hhi hlo, hall⟩
  · intro h
    refine ⟨⟨0 + s.length, []⟩, Regex.mem_repEnds.mpr ?_, rfl⟩
    exact ⟨s, [], (List.append_nil s).symm, h.1.ge, h.1.le, h.2, rfl⟩

end Pattern

/-! ## Syntax -/

inductive Comparison
  | eq
  | ne
  | lt
  | le
  | gt
  | ge
  deriving DecidableEq, Repr

inductive Expr
  | column (name : PyStr)
  | integer (n : Int)
  | text (s : PyStr)
  | length (e : Expr)
  | btrim (e : Expr)
  | jsonbTypeof (e : Expr)
  /-- `e - 'key'` on a `jsonb` value. -/
  | without (e : Expr) (key : PyStr)
  | compare (op : Comparison) (a b : Expr)
  /-- `e = '{}'::jsonb`. -/
  | isEmptyObject (e : Expr)
  | between (e lo hi : Expr)
  | isIn (e : Expr) (items : List PyStr)
  /-- `e ~ '..'`. -/
  | similar (e : Expr) (p : Pattern)
  | isNull (e : Expr)
  | isNotNull (e : Expr)
  | and (a b : Expr)
  | or (a b : Expr)
  deriving DecidableEq, Repr

/-- The columns an expression reads. -/
def Expr.columns : Expr → List PyStr
  | .column name => [name]
  | .integer _ | .text _ => []
  | .length e | .btrim e | .jsonbTypeof e | .without e _ | .isEmptyObject e | .isIn e _
  | .similar e _ | .isNull e | .isNotNull e => e.columns
  | .compare _ a b | .and a b | .or a b => a.columns ++ b.columns
  | .between e lo hi => e.columns ++ lo.columns ++ hi.columns

/-! ## Functions and operators -/

/-- A strict function of one argument: `NULL` gives `NULL`. -/
def strict (f : Datum → Except Error Datum) : Value → Except Error Value
  | none => .ok none
  | some d =>
      match f d with
      | .ok r => .ok (some r)
      | .error e => .error e

def strict₂ (f : Datum → Datum → Except Error Datum) : Value → Value → Except Error Value
  | some a, b => strict (f a) b
  | none, _ => .ok none

/-- `btrim(s)` takes spaces only. -/
def trimSpaces (s : PyStr) : PyStr :=
  (s.dropWhile fun c => c = 0x20).rdropWhile fun c => c = 0x20

def lengthOf : Datum → Except Error Datum
  | .text s => .ok (.integer s.length)
  | _ => .error .undefined

def btrimOf : Datum → Except Error Datum
  | .text s => .ok (.text (trimSpaces s))
  | _ => .error .undefined

def typeofJson : Json → PyStr
  | .null => py "null"
  | .bool _ => py "boolean"
  | .int _ | .float _ => py "number"
  | .str _ => py "string"
  | .arr _ => py "array"
  | .obj _ => py "object"

def typeofOf : Datum → Except Error Datum
  | .jsonb j => .ok (.text (typeofJson j))
  | _ => .error .undefined

/-- An item of an array that is the text `key`. -/
def isText (key : PyStr) : Json → Bool
  | .str s => s = key
  | _ => false

/-- `j - 'key'`; a scalar is refused. -/
def withoutOf (key : PyStr) : Datum → Except Error Datum
  | .jsonb (.obj members) => .ok (.jsonb (.obj (members.filter fun m => m.1 ≠ key)))
  | .jsonb (.arr items) => .ok (.jsonb (.arr (items.filter fun j => !isText key j)))
  | .jsonb _ => .error .data
  | _ => .error .undefined

def emptyObjectOf : Datum → Except Error Datum
  | .jsonb (.obj []) => .ok (.boolean true)
  | .jsonb _ => .ok (.boolean false)
  | _ => .error .undefined

def Comparison.holds : Comparison → Int → Int → Bool
  | .eq, m, n => m = n
  | .ne, m, n => m ≠ n
  | .lt, m, n => m < n
  | .le, m, n => m ≤ n
  | .gt, m, n => m > n
  | .ge, m, n => m ≥ n

/-- Integers are compared by value.  Texts are compared for equality only: their order depends on
the collation. -/
def Comparison.apply (op : Comparison) : Datum → Datum → Except Error Datum
  | .integer m, .integer n => .ok (.boolean (op.holds m n))
  | .text s, .text t =>
      match op with
      | .eq => .ok (.boolean (s = t))
      | .ne => .ok (.boolean (s ≠ t))
      | _ => .error .undefined
  | _, _ => .error .undefined

def inOf (items : List PyStr) : Datum → Except Error Datum
  | .text s => .ok (.boolean (items.contains s))
  | _ => .error .undefined

def similarOf (p : Pattern) : Datum → Except Error Datum
  | .text s => .ok (.boolean (p.isMatch s))
  | _ => .error .undefined

/-! ## Three-valued logic -/

/-- The truth value of a boolean expression; `none` is unknown. -/
def truth : Value → Except Error (Option Bool)
  | none => .ok none
  | some (.boolean b) => .ok (some b)
  | some _ => .error .undefined

def both : Option Bool → Option Bool → Option Bool
  | some true, y => y
  | x, some true => x
  | some false, _ => some false
  | _, some false => some false
  | none, none => none

def either : Option Bool → Option Bool → Option Bool
  | some false, y => y
  | x, some false => x
  | some true, _ => some true
  | _, some true => some true
  | none, none => none

/-- A connective that the value `decided` on its left decides. -/
def connective (decided : Bool) (op : Option Bool → Option Bool → Option Bool)
    (left : Except Error Value) (right : Except Error Value) : Except Error Value := do
  let x ← truth (← left)
  if x = some decided then
    return some (.boolean decided)
  let y ← truth (← right)
  return (op x y).map .boolean

/-! ## Evaluation -/

/-- The value of an expression on a row given by column names. -/
def Expr.eval (row : Dict Value) : Expr → Except Error Value
  | .column name =>
      match Dict.get row name with
      | some v => .ok v
      | none => .error .undefined
  | .integer n => .ok (some (.integer n))
  | .text s => .ok (some (.text s))
  | .length e => e.eval row >>= strict lengthOf
  | .btrim e => e.eval row >>= strict btrimOf
  | .jsonbTypeof e => e.eval row >>= strict typeofOf
  | .without e key => e.eval row >>= strict (withoutOf key)
  | .compare op a b => do
      let x ← a.eval row
      let y ← b.eval row
      strict₂ op.apply x y
  | .isEmptyObject e => e.eval row >>= strict emptyObjectOf
  | .between e lo hi =>
      -- `e >= lo AND e <= hi`
      connective false both
        (do strict₂ (Comparison.apply .ge) (← e.eval row) (← lo.eval row))
        (do strict₂ (Comparison.apply .le) (← e.eval row) (← hi.eval row))
  | .isIn e items => e.eval row >>= strict (inOf items)
  | .similar e p => e.eval row >>= strict (similarOf p)
  | .isNull e => do return some (.boolean (← e.eval row).isNone)
  | .isNotNull e => do return some (.boolean (← e.eval row).isSome)
  | .and a b => connective false both (a.eval row) (b.eval row)
  | .or a b => connective true either (a.eval row) (b.eval row)

/-- A `CHECK` lets a row pass unless its expression is false. -/
def Expr.passes (e : Expr) (row : Dict Value) : Except Error Bool := do
  let t ← truth (← e.eval row)
  return t ≠ some false

/-! ## What an expression evaluates to -/

namespace Expr

attribute [local simp] eval

variable {row : Dict Value} {e e' : Expr}

theorem eval_column {name : PyStr} {v : Value} (h : Dict.get row name = some v) :
    (column name).eval row = .ok v := by
  simp [h]

theorem eval_isNull {v : Value} (h : e.eval row = .ok v) :
    (isNull e).eval row = .ok (some (.boolean v.isNone)) := by
  simp [h, bind, Except.bind, pure, Except.pure]

theorem eval_isNotNull {v : Value} (h : e.eval row = .ok v) :
    (isNotNull e).eval row = .ok (some (.boolean v.isSome)) := by
  simp [h, bind, Except.bind, pure, Except.pure]

theorem eval_compare {m n : Int} (op : Comparison) (h : e.eval row = .ok (some (.integer m)))
    (h' : e'.eval row = .ok (some (.integer n))) :
    (compare op e e').eval row = .ok (some (.boolean (op.holds m n))) := by
  simp [h, h', strict₂, strict, Comparison.apply, bind, Except.bind]

theorem eval_text_eq {s : PyStr} (t : PyStr) (h : e.eval row = .ok (some (.text s))) :
    (compare .eq e (text t)).eval row = .ok (some (.boolean (s = t))) := by
  simp [h, strict₂, strict, Comparison.apply, bind, Except.bind]

theorem eval_text_ne {s : PyStr} (t : PyStr) (h : e.eval row = .ok (some (.text s))) :
    (compare .ne e (text t)).eval row = .ok (some (.boolean (s ≠ t))) := by
  simp [h, strict₂, strict, Comparison.apply, bind, Except.bind]

theorem eval_isIn {s : PyStr} (items : List PyStr) (h : e.eval row = .ok (some (.text s))) :
    (isIn e items).eval row = .ok (some (.boolean (s ∈ items))) := by
  simp [h, strict, inOf, bind, Except.bind]

theorem eval_similar {s : PyStr} (p : Pattern) (h : e.eval row = .ok (some (.text s))) :
    (similar e p).eval row = .ok (some (.boolean (p.isMatch s))) := by
  simp [h, strict, similarOf, bind, Except.bind]

/-- Connectives of two truth values are the usual ones. -/
theorem eval_and {x y : Bool} (h : e.eval row = .ok (some (.boolean x)))
    (h' : e'.eval row = .ok (some (.boolean y))) :
    (and e e').eval row = .ok (some (.boolean (x && y))) := by
  cases x <;> simp [h, h', connective, truth, both, bind, Except.bind, pure, Except.pure]

theorem eval_or {x y : Bool} (h : e.eval row = .ok (some (.boolean x)))
    (h' : e'.eval row = .ok (some (.boolean y))) :
    (or e e').eval row = .ok (some (.boolean (x || y))) := by
  cases x <;> simp [h, h', connective, truth, either, bind, Except.bind, pure, Except.pure]

theorem eval_between {n : Int} (lo hi : Int) (h : e.eval row = .ok (some (.integer n))) :
    (between e (integer lo) (integer hi)).eval row =
      .ok (some (.boolean (lo ≤ n && n ≤ hi))) := by
  by_cases hlo : lo ≤ n <;>
    simp [h, hlo, connective, truth, both, strict₂, strict, Comparison.apply,
      Comparison.holds, bind, Except.bind, pure, Except.pure]

/-- Nothing is left without `key` when all keys are `key`. -/
theorem eval_isEmptyObject_without {members : List (PyStr × Json)} (key : PyStr)
    (h : e.eval row = .ok (some (.jsonb (.obj members)))) :
    (isEmptyObject (without e key)).eval row =
      .ok (some (.boolean (members.all fun m => m.1 = key))) := by
  have hleft : (isEmptyObject (without e key)).eval row =
      strict emptyObjectOf (some (.jsonb (.obj (members.filter fun m => m.1 ≠ key)))) := by
    simp [h, strict, withoutOf, bind, Except.bind]
  rw [hleft]
  cases hall : members.all fun m => m.1 = key with
  | true =>
      have hnone : members.filter (fun m => m.1 ≠ key) = [] := by
        apply List.filter_eq_nil_iff.mpr
        simpa using hall
      rw [hnone]
      rfl
  | false =>
      rcases List.all_eq_false.mp hall with ⟨m, hm, hne⟩
      have hmem : m ∈ members.filter fun m => m.1 ≠ key :=
        List.mem_filter.mpr ⟨hm, by simpa using hne⟩
      cases hkept : members.filter fun m => m.1 ≠ key with
      | nil =>
          rw [hkept] at hmem
          cases hmem
      | cons _ _ =>
          rfl

/-- Behind `IS NULL OR` an expression is asked for values only. -/
theorem eval_isNull_or {α : Type} {f : α → Datum} {v : Option α} {b : α → Bool}
    (h : e.eval row = .ok (v.map f))
    (h' : ∀ x, e.eval row = .ok (some (f x)) → e'.eval row = .ok (some (.boolean (b x)))) :
    (or (isNull e) e').eval row = .ok (some (.boolean (v.all b))) := by
  have hnull := eval_isNull h
  cases v with
  | none =>
      -- decided on the left
      change connective true either ((isNull e).eval row) (e'.eval row) = _
      rw [hnull]
      rfl
  | some x =>
      simpa using eval_or hnull (h' x h)

end Expr

end Sql
end TransactionPlatform
