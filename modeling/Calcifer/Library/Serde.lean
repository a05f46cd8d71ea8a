import Calcifer.Library.Json

/-!
# Typed values out of JSON values

How a derived reader takes a typed value out of a decoded `Json`. A structure is read from an object,
whose unknown members are ignored, or from an array with its fields in order. A reader gives `none`
where the value does not fit.
-/

namespace Serde

/-! ## Documents -/

mutual

/-- Whether no object of a document has two members of one name. -/
def uniqueKeys : Json → Bool
  | .arr items => uniqueKeysItems items
  | .obj members => (members.map Prod.fst).Nodup ∧ uniqueKeysMembers members
  | _ => true

def uniqueKeysItems : List Json → Bool
  | [] => true
  | item :: items => uniqueKeys item && uniqueKeysItems items

def uniqueKeysMembers : List (String × Json) → Bool
  | [] => true
  | (_, value) :: members => uniqueKeys value && uniqueKeysMembers members

end

/-- Read a document, of which `fromSlice` is the parser, and reject repeated keys. -/
def decodeUnique (fromSlice : List UInt8 → Option Json) (bytes : List UInt8) : Option Json :=
  (fromSlice bytes).filter uniqueKeys

/-! ## Plain values -/

/-- An unsigned integer of so many bits. -/
def unsigned (bits : ℕ) : Json → Option ℕ
  | .int n => if 0 ≤ n ∧ n < 2 ^ bits then some n.toNat else none
  | _ => none

/-- A value that may be `null`. -/
def nullable {α : Type} (decode : Json → Option α) : Json → Option (Option α)
  | .null => some none
  | value => (decode value).map some

/-- All entries of an array. -/
def list {α : Type} (decode : Json → Option α) (value : Json) : Option (List α) :=
  value.asArray.bind fun items => items.mapM decode

/-- All members of an object, with their names. -/
def table {α : Type} (decode : Json → Option α) (value : Json) : Option (List (String × α)) :=
  value.asObject.bind fun members => members.mapM fun (name, value) =>
    (decode value).map fun decoded => (name, decoded)

/-! ## Structures and enumerations -/

/-- The fields of a structure: the members of an object, or the entries of an array. -/
inductive Fields where
  | named (members : List (String × Json))
  | listed (items : List Json)

/-- The fields of a structure that has so many of them. -/
def fields (count : ℕ) : Json → Option Fields
  | .obj members => some (.named members)
  | .arr items => if items.length ≤ count then some (.listed items) else none
  | _ => none

/-- The fields of a structure that knows no other names than these, each of them at most once. -/
def strictFields (names : List String) : Json → Option Fields
  | .obj members =>
    if (members.map Prod.fst).Nodup ∧ ∀ m ∈ members, m.1 ∈ names then some (.named members) else none
  | value => fields names.length value

/-- The fields of a structure with these names, each of them at most once, among any others. -/
def knownFields (names : List String) : Json → Option Fields
  | .obj members =>
    if ((members.map Prod.fst).filter (· ∈ names)).Nodup then some (.named members) else none
  | .arr items => if items.length = names.length then some (.listed items) else none
  | _ => none

/-- The field with a name and a place among the fields. -/
def Fields.get (f : Fields) (index : ℕ) (name : String) : Option Json :=
  match f with
  | .named members => Json.member members name
  | .listed items => items[index]?

variable {α : Type}

/-- A field that has to be there. -/
def Fields.required (f : Fields) (decode : Json → Option α) (index : ℕ) (name : String) : Option α :=
  (f.get index name).bind decode

/-- A field that may be left out or `null`. -/
def Fields.optional (f : Fields) (decode : Json → Option α) (index : ℕ) (name : String) :
    Option (Option α) :=
  match f.get index name with
  | none => some none
  | some value => nullable decode value

/-- The name of a variant, and its content when it has one. -/
def variant : Json → Option (String × Option Json)
  | .str name => some (name, none)
  | .obj [(name, content)] => some (name, some content)
  | _ => none

/-- Whether a content is one of a variant that has none. -/
def isUnit : Option Json → Bool
  | none => true
  | some content => content.isNull

end Serde
