import Calcifer.Library.Text

/-!
# JSON values and their texts

`Json` is a decoded JSON value: a number is either an integer or a literal that is not one, and an
object is the list of its members in order. `pretty` gives the bytes of the text with two blanks of
indentation a level, one array entry or object member a line, `[]` and `{}` for the empty ones, and
the short escapes inside strings. `compact` is the text without any blanks.
-/

/-- A JSON value. -/
inductive Json where
  | null
  | bool (b : Bool)
  | int (n : ℤ)
  | float (literal : String)
  | str (s : String)
  | arr (items : List Json)
  | obj (members : List (String × Json))
deriving Repr, Inhabited

namespace Json

open Text

/-! ## Reading -/

/-- The members of an object. -/
def asObject : Json → Option (List (String × Json))
  | .obj members => some members
  | _ => none

/-- The entries of an array. -/
def asArray : Json → Option (List Json)
  | .arr items => some items
  | _ => none

/-- The text of a string. -/
def asStr : Json → Option String
  | .str s => some s
  | _ => none

/-- The value of a boolean. -/
def asBool : Json → Option Bool
  | .bool b => some b
  | _ => none

/-- An integer that fits 64 signed bits. -/
def asI64 : Json → Option ℤ
  | .int n => if -2 ^ 63 ≤ n ∧ n < 2 ^ 63 then some n else none
  | _ => none

/-- Whether the value is `null`. -/
def isNull : Json → Bool
  | .null => true
  | _ => false

/-- The value of the first member with a given name. -/
def member (members : List (String × Json)) (name : String) : Option Json :=
  (members.find? fun m => m.1 = name).map Prod.snd

/-- The member of a value, when it is an object that has one of that name. -/
def get (value : Json) (name : String) : Option Json :=
  value.asObject.bind fun members => member members name

/-! ## Comparing -/

mutual

/-- Whether two values are the same. -/
def same : Json → Json → Bool
  | .null, .null => true
  | .bool a, .bool b => a = b
  | .int m, .int n => m = n
  | .float s, .float t => s = t
  | .str s, .str t => s = t
  | .arr as, .arr bs => sameItems as bs
  | .obj as, .obj bs => sameMembers as bs
  | _, _ => false

def sameItems : List Json → List Json → Bool
  | [], [] => true
  | a :: as, b :: bs => same a b && sameItems as bs
  | _, _ => false

def sameMembers : List (String × Json) → List (String × Json) → Bool
  | [], [] => true
  | (name, a) :: as, (name', b) :: bs => (name = name' && same a b) && sameMembers as bs
  | _, _ => false

end

mutual

theorem same_iff (a b : Json) : same a b = true ↔ a = b := by
  cases a <;> cases b <;> simp [same, sameItems_iff, sameMembers_iff]

theorem sameItems_iff (as bs : List Json) : sameItems as bs = true ↔ as = bs := by
  cases as <;> cases bs <;> simp [sameItems, same_iff, sameItems_iff]

theorem sameMembers_iff (as bs : List (String × Json)) : sameMembers as bs = true ↔ as = bs := by
  cases as <;> cases bs <;> simp [sameMembers, same_iff, sameMembers_iff, Prod.ext_iff]

end

instance : DecidableEq Json := fun a b => decidable_of_iff _ (same_iff a b)

/-! ## Writing -/

/-- A byte inside a string. Only the quote, the backslash and the control codes are escaped. -/
def escapeByte (b : UInt8) : List UInt8 :=
  if b = 34 ∨ b = 92 then [92, b]
  else if 32 ≤ b then [b]
  else if b = 8 then bytes "\\b"
  else if b = 12 then bytes "\\f"
  else if b = 10 then bytes "\\n"
  else if b = 13 then bytes "\\r"
  else if b = 9 then bytes "\\t"
  else bytes "\\u00" ++ (Nat.toDigits 16 (b.toNat / 16) ++ Nat.toDigits 16 (b.toNat % 16)).map
    fun c => c.toNat.toUInt8

/-- A quoted string. -/
def quote (s : String) : List UInt8 := 34 :: ((bytes s).flatMap escapeByte ++ [34])

/-- The decimal text of an integer. -/
def decimal (n : ℤ) : List UInt8 :=
  (if n < 0 then [45] else []) ++ (Nat.toDigits 10 n.natAbs).map fun c => c.toNat.toUInt8

/-- A line break followed by the indentation of a level. -/
def newline (level : ℕ) : List UInt8 := 10 :: List.replicate (2 * level) 32

mutual

/-- The pretty text of a value whose own line is indented to `level`. -/
def pretty (level : ℕ) : Json → List UInt8
  | .null => bytes "null"
  | .bool true => bytes "true"
  | .bool false => bytes "false"
  | .int n => decimal n
  | .float literal => bytes literal
  | .str s => quote s
  | .arr [] => bytes "[]"
  | .arr (item :: items) =>
    bytes "[" ++ (newline (level + 1) ++ (pretty (level + 1) item ++
      (prettyItems (level + 1) items ++ (newline level ++ bytes "]"))))
  | .obj [] => bytes "\x7b\x7d"
  | .obj ((name, value) :: members) =>
    bytes "\x7b" ++ (newline (level + 1) ++ (quote name ++ (bytes ": " ++
      (pretty (level + 1) value ++
        (prettyMembers (level + 1) members ++ (newline level ++ bytes "\x7d"))))))

/-- The entries of an array after the first. -/
def prettyItems (level : ℕ) : List Json → List UInt8
  | [] => []
  | item :: items =>
    bytes "," ++ (newline level ++ (pretty level item ++ prettyItems level items))

/-- The members of an object after the first. -/
def prettyMembers (level : ℕ) : List (String × Json) → List UInt8
  | [] => []
  | (name, value) :: members =>
    bytes "," ++ (newline level ++ (quote name ++ (bytes ": " ++ (pretty level value ++
      prettyMembers level members))))

end

mutual

/-- The text of a value without any blanks. -/
def compact : Json → List UInt8
  | .null => bytes "null"
  | .bool true => bytes "true"
  | .bool false => bytes "false"
  | .int n => decimal n
  | .float literal => bytes literal
  | .str s => quote s
  | .arr [] => bytes "[]"
  | .arr (item :: items) => bytes "[" ++ (compact item ++ (compactItems items ++ bytes "]"))
  | .obj [] => bytes "\x7b\x7d"
  | .obj ((name, value) :: members) =>
    bytes "\x7b" ++ (quote name ++ (bytes ":" ++ (compact value ++
      (compactMembers members ++ bytes "\x7d"))))

/-- The entries of an array after the first. -/
def compactItems : List Json → List UInt8
  | [] => []
  | item :: items => bytes "," ++ (compact item ++ compactItems items)

/-- The members of an object after the first. -/
def compactMembers : List (String × Json) → List UInt8
  | [] => []
  | (name, value) :: members =>
    bytes "," ++ (quote name ++ (bytes ":" ++ (compact value ++ compactMembers members)))

end

example : pretty 0 (.obj [("a", .arr [.int (-12), .null]), ("b\n", .obj [])]) =
    bytes "\x7b\n  \"a\": [\n    -12,\n    null\n  ],\n  \"b\\n\": \x7b\x7d\n\x7d" := by
  decide +kernel

end Json
