import TransactionPlatform.Lib.Surrogates

/-!
# Json — JSON values and Python dictionaries

`Dict` is an insertion-ordered dictionary with string keys; `Json` is what `json.loads` builds.
Numbers that are not integers keep only their text: nothing computes with them.

`json.dumps` followed by a decoder does not always give a value back: some values have no text
(`dumpable`), and a text does not tell a surrogate pair from the character it encodes (`joined`).
-/

namespace TransactionPlatform

open Text

/-! ## Dictionaries -/

abbrev Dict (α : Type) := List (PyStr × α)

namespace Dict

variable {α : Type}

/-- `d.get(key)`. -/
def get (d : Dict α) (key : PyStr) : Option α :=
  d.lookup key

/-- `d[key] = value`: an existing key keeps its place. -/
def set : Dict α → PyStr → α → Dict α
  | [], key, value => [(key, value)]
  | (k, v) :: rest, key, value =>
      if k = key then (k, value) :: rest else (k, v) :: set rest key value

@[simp] theorem get_nil (key : PyStr) : get ([] : Dict α) key = none :=
  rfl

theorem get_cons (k key : PyStr) (v : α) (d : Dict α) :
    get ((k, v) :: d) key = if key = k then some v else get d key := by
  by_cases h : key = k
  · simp [get, h]
  · have hbeq : (key == k) = false := by simpa using h
    simp [get, List.lookup_cons, h, hbeq]

theorem get_set_self (d : Dict α) (key : PyStr) (value : α) :
    get (set d key value) key = some value := by
  induction d with
  | nil =>
      simp [set, get_cons]
  | cons entry rest ih =>
      rcases entry with ⟨k, v⟩
      by_cases h : k = key
      · simp [set, h, get_cons]
      · have hne : key ≠ k := fun heq => h heq.symm
        simp [set, h, hne, get_cons, ih]

theorem get_set_of_ne (d : Dict α) {k key : PyStr} (h : key ≠ k) (value : α) :
    get (set d k value) key = get d key := by
  induction d with
  | nil =>
      simp [set, get_cons, h]
  | cons entry rest ih =>
      rcases entry with ⟨k', v⟩
      by_cases hk : k' = k
      · simp [set, hk, h, get_cons]
      · simp [set, hk, get_cons, ih]

end Dict

/-! ## JSON values -/

inductive Json
  | null
  | bool (b : Bool)
  | int (n : Int)
  | float (text : PyStr)
  | str (s : PyStr)
  | arr (items : List Json)
  | obj (members : List (PyStr × Json))
  deriving Repr

namespace Json

/-- The member `key` of an object; every other value has no members. -/
def member (key : PyStr) : Json → Option Json
  | obj members => Dict.get members key
  | _ => none

/-! ## What `json.dumps` and a decoder do to a value -/

mutual

/-- `json.dumps` has a text for the value, with `n` levels of nesting left to it. -/
def dumpable : Nat → Json → Bool
  | _, .int i => printable i
  | 0, .arr _ => false
  | n + 1, .arr items => dumpableItems n items
  | 0, .obj _ => false
  | n + 1, .obj members => dumpableMembers n members
  | _, _ => true

def dumpableItems : Nat → List Json → Bool
  | _, [] => true
  | n, j :: js => dumpable n j && dumpableItems n js

def dumpableMembers : Nat → List (PyStr × Json) → Bool
  | _, [] => true
  | n, (_, j) :: js => dumpable n j && dumpableMembers n js

end

mutual

/-- The value a decoder reads from the text of a value.  Of the members of one key the last one
stands. -/
def joined : Json → Json
  | .str s => .str (joinPairs s)
  | .arr items => .arr (joinedItems items)
  | .obj members => .obj (joinedMembers members)
  | j => j

def joinedItems : List Json → List Json
  | [] => []
  | j :: js => joined j :: joinedItems js

def joinedMembers : List (PyStr × Json) → List (PyStr × Json)
  | [] => []
  | (k, j) :: js =>
      if (Dict.get (joinedMembers js) (joinPairs k)).isSome then joinedMembers js
      else (joinPairs k, joined j) :: joinedMembers js

end

mutual

theorem joined_joined : ∀ j : Json, joined (joined j) = joined j
  | .null | .bool _ | .int _ | .float _ => rfl
  | .str s => by
      rw [joined, joined, joinPairs_joinPairs]
  | .arr items => by
      rw [joined, joined, joinedItems_joinedItems items]
  | .obj members => by
      rw [joined, joined, joinedMembers_joinedMembers members]

theorem joinedItems_joinedItems : ∀ items : List Json,
    joinedItems (joinedItems items) = joinedItems items
  | [] => rfl
  | j :: js => by
      rw [joinedItems, joinedItems, joined_joined j, joinedItems_joinedItems js]

theorem joinedMembers_joinedMembers : ∀ members : List (PyStr × Json),
    joinedMembers (joinedMembers members) = joinedMembers members
  | [] => rfl
  | (k, j) :: js => by
      have ih := joinedMembers_joinedMembers js
      rw [joinedMembers]
      split
      · exact ih
      · rename_i hfresh
        rw [joinedMembers, ih, joinPairs_joinPairs, if_neg hfresh, joined_joined j]

end

mutual

/-- The texts of a value have no surrogates, and no object has a key twice; no dictionary has. -/
def isUnicode : Json → Bool
  | .str s => s.all isScalar
  | .arr items => isUnicodeItems items
  | .obj members => isUnicodeMembers members
  | _ => true

def isUnicodeItems : List Json → Bool
  | [] => true
  | j :: js => isUnicode j && isUnicodeItems js

def isUnicodeMembers : List (PyStr × Json) → Bool
  | [] => true
  | (k, j) :: js =>
      k.all isScalar && isUnicode j && (Dict.get js k).isNone && isUnicodeMembers js

end

mutual

theorem joined_of_isUnicode : ∀ {j : Json}, isUnicode j = true → joined j = j
  | .null, _ | .bool _, _ | .int _, _ | .float _, _ => rfl
  | .str s, h => by
      rw [isUnicode] at h
      rw [joined, joinPairs_of_isScalar h]
  | .arr items, h => by
      rw [isUnicode] at h
      rw [joined, joinedItems_of_isUnicode h]
  | .obj members, h => by
      rw [isUnicode] at h
      rw [joined, joinedMembers_of_isUnicode h]

theorem joinedItems_of_isUnicode : ∀ {items : List Json},
    isUnicodeItems items = true → joinedItems items = items
  | [], _ => rfl
  | j :: js, h => by
      rw [isUnicodeItems, Bool.and_eq_true] at h
      rw [joinedItems, joined_of_isUnicode h.1, joinedItems_of_isUnicode h.2]

theorem joinedMembers_of_isUnicode : ∀ {members : List (PyStr × Json)},
    isUnicodeMembers members = true → joinedMembers members = members
  | [], _ => rfl
  | (k, j) :: js, h => by
      simp only [isUnicodeMembers, Bool.and_eq_true, Option.isNone_iff_eq_none] at h
      rcases h with ⟨⟨⟨hkey, hvalue⟩, hfresh⟩, hrest⟩
      rw [joinedMembers, joinedMembers_of_isUnicode hrest, joinPairs_of_isScalar hkey, hfresh,
        joined_of_isUnicode hvalue]
      rfl

end

mutual

theorem dumpable_joined : ∀ {n : Nat} {j : Json}, dumpable n j = true → dumpable n (joined j) = true
  | _, .null, h | _, .bool _, h | _, .int _, h | _, .float _, h => h
  | _, .str _, _ => by
      rw [joined]
      unfold dumpable
      rfl
  | n + 1, .arr items, h => by
      rw [dumpable] at h
      rw [joined, dumpable]
      exact dumpableItems_joinedItems h
  | n + 1, .obj members, h => by
      rw [dumpable] at h
      rw [joined, dumpable]
      exact dumpableMembers_joinedMembers h

theorem dumpableItems_joinedItems : ∀ {n : Nat} {items : List Json},
    dumpableItems n items = true → dumpableItems n (joinedItems items) = true
  | _, [], h => h
  | n, j :: js, h => by
      rw [dumpableItems, Bool.and_eq_true] at h
      rw [joinedItems, dumpableItems, dumpable_joined h.1, dumpableItems_joinedItems h.2]
      rfl

theorem dumpableMembers_joinedMembers : ∀ {n : Nat} {members : List (PyStr × Json)},
    dumpableMembers n members = true → dumpableMembers n (joinedMembers members) = true
  | _, [], h => h
  | n, (k, j) :: js, h => by
      rw [dumpableMembers, Bool.and_eq_true] at h
      have ih := dumpableMembers_joinedMembers h.2
      rw [joinedMembers]
      split
      · exact ih
      · rw [dumpableMembers, dumpable_joined h.1, ih]
        rfl

end

end Json

end TransactionPlatform
