import Mathlib

/-!
# Texts as bytes, UUIDs and Unix paths

`Text.bytes` is the UTF-8 form of a string, which is what parsers of byte strings look at.

`Uuid.parseStr` reads the four textual forms of a UUID (simple, hyphenated, braced and URN, with
hexadecimal digits of either case) and `Uuid.toString` writes the canonical one, which
`parseStr_toString` reads back.

`UnixPath.components` splits a path the way a Unix path is walked lexically: repeated separators
and inner `.` entries disappear, a leading `/`, a leading `.` and every `..` remain visible.
-/

namespace Text

/-- The bytes of a string in UTF-8. -/
def bytes (s : String) : List UInt8 := s.toByteArray.data.toList

theorem bytes_ofList (cs : List Char) :
    bytes (String.ofList cs) = cs.flatMap String.utf8EncodeChar := by
  simp [bytes, List.utf8Encode]

/-- What follows a given beginning of a text. -/
def stripPrefix (start s : String) : Option String :=
  if start.toList <+: s.toList then some (String.ofList (s.toList.drop start.toList.length)) else none

theorem stripPrefix_eq_some {start s rest : String} :
    stripPrefix start s = some rest ↔ s = start ++ rest := by
  rw [stripPrefix, ← String.toList_inj]
  constructor
  · intro h
    split at h
    · rename_i hp
      obtain ⟨t, ht⟩ := hp
      cases h
      simp [← ht]
    · cases h
  · intro h
    simp [h]

end Text

instance neZero_digits : NeZero 16 := ⟨by decide⟩

/-- The 128 bits of a UUID, as hexadecimal digits. -/
structure Uuid where
  nibbles : List (Fin 16)
  length_nibbles : nibbles.length = 32
deriving DecidableEq, Repr

namespace Uuid

/-- The lowercase hexadecimal digits. -/
def digits : List Char :=
  ['0', '1', '2', '3', '4', '5', '6', '7', '8', '9', 'a', 'b', 'c', 'd', 'e', 'f']

/-- One lowercase hexadecimal digit. -/
def hexDigit (n : Fin 16) : Char := digits.get n

/-- The value of the byte of a hexadecimal digit of either case. -/
def hexValue (b : UInt8) : Option (Fin 16) :=
  if 48 ≤ b ∧ b ≤ 57 then some (Fin.ofNat 16 (b.toNat - 48))
  else if 97 ≤ b ∧ b ≤ 102 then some (Fin.ofNat 16 (b.toNat - 87))
  else if 65 ≤ b ∧ b ≤ 70 then some (Fin.ofNat 16 (b.toNat - 55))
  else none

/-- Insert the four hyphens of the canonical form into 32 digits. -/
def hyphenate {α : Type} (hyphen : α) (cs : List α) : List α :=
  cs.take 8 ++ hyphen :: ((cs.drop 8).take 4 ++ hyphen :: ((cs.drop 12).take 4 ++
    hyphen :: ((cs.drop 16).take 4 ++ hyphen :: cs.drop 20)))

/-- The canonical text: lowercase and hyphenated. -/
def toString (u : Uuid) : String := String.ofList (hyphenate '-' (u.nibbles.map hexDigit))

/-- Read exactly 32 hexadecimal digits. -/
def parseSimple (bs : List UInt8) : Option Uuid :=
  match bs.mapM hexValue with
  | none => none
  | some ns => if h : ns.length = 32 then some ⟨ns, h⟩ else none

/-- Read 36 bytes with hyphens at positions 8, 13, 18 and 23. -/
def parseHyphenated (bs : List UInt8) : Option Uuid :=
  if bs.length = 36 ∧ bs[8]? = some 45 ∧ bs[13]? = some 45 ∧ bs[18]? = some 45 ∧
      bs[23]? = some 45 then
    parseSimple (bs.take 8 ++ ((bs.drop 9).take 4 ++ ((bs.drop 14).take 4 ++
      ((bs.drop 19).take 4 ++ bs.drop 24))))
  else none

/-- Read any of the textual forms of a UUID, chosen by its length: simple, hyphenated, in braces
or with the prefix `urn:uuid:`. -/
def parseStr (s : String) : Option Uuid :=
  let bs := Text.bytes s
  if bs.length = 32 then parseSimple bs
  else if bs.length = 36 then parseHyphenated bs
  else if bs.length = 38 ∧ bs.head? = some 123 ∧ bs.getLast? = some 125 then
    parseHyphenated ((bs.drop 1).take 36)
  else if bs.length = 45 ∧ bs.take 9 = Text.bytes "urn:uuid:" then parseHyphenated (bs.drop 9)
  else none

/-- The byte of a lowercase hexadecimal digit. -/
def hexByte (n : Fin 16) : UInt8 := if n.val < 10 then 48 + n.val.toUInt8 else 87 + n.val.toUInt8

theorem utf8EncodeChar_hexDigit (n : Fin 16) : String.utf8EncodeChar (hexDigit n) = [hexByte n] := by
  revert n
  decide

theorem hexValue_hexByte (n : Fin 16) : hexValue (hexByte n) = some n := by
  revert n
  decide

theorem mapM_hexValue (ns : List (Fin 16)) : (ns.map hexByte).mapM hexValue = some ns := by
  induction ns with
  | nil => rfl
  | cons n ns ih => simp [hexValue_hexByte, ih]

theorem parseSimple_digits (u : Uuid) : parseSimple (u.nibbles.map hexByte) = some u := by
  unfold parseSimple
  rw [mapM_hexValue]
  simp [u.length_nibbles]

theorem length_hyphenate {α : Type} {hyphen : α} {cs : List α} (h : cs.length = 32) :
    (hyphenate hyphen cs).length = 36 := by
  simp [hyphenate, h]

/-- The bytes of the canonical text. -/
theorem bytes_toString (u : Uuid) :
    Text.bytes u.toString = hyphenate 45 (u.nibbles.map hexByte) := by
  have digits : ∀ ns : List (Fin 16),
      (ns.map hexDigit).flatMap String.utf8EncodeChar = ns.map hexByte := by
    intro ns
    induction ns with
    | nil => rfl
    | cons n ns ih => simp [utf8EncodeChar_hexDigit, ih]
  have hyphen : String.utf8EncodeChar '-' = [45] := by decide
  simp only [toString, Text.bytes_ofList, hyphenate, List.flatMap_append, List.flatMap_cons, hyphen,
    ← List.map_take, ← List.map_drop, digits, List.singleton_append]

/-- Reading the hyphenated form drops exactly the hyphens. -/
theorem parseHyphenated_hyphenate {bs : List UInt8} (h : bs.length = 32) :
    parseHyphenated (hyphenate 45 bs) = parseSimple bs := by
  obtain ⟨a, b, c, d, e, rfl, ha, hb, hc, hd, he⟩ : ∃ a b c d e : List UInt8,
      bs = a ++ (b ++ (c ++ (d ++ e))) ∧ a.length = 8 ∧ b.length = 4 ∧ c.length = 4 ∧
        d.length = 4 ∧ e.length = 12 := by
    refine ⟨bs.take 8, (bs.drop 8).take 4, (bs.drop 12).take 4, (bs.drop 16).take 4, bs.drop 20,
      ?_, by simp [h], by simp [h], by simp [h], by simp [h], by simp [h]⟩
    have split : ∀ k, (bs.drop k).take 4 ++ bs.drop (k + 4) = bs.drop k := by
      intro k
      rw [← List.drop_drop]
      exact List.take_append_drop 4 (bs.drop k)
    rw [split 16, split 12, split 8, List.take_append_drop]
  have e1 : hyphenate 45 (a ++ (b ++ (c ++ (d ++ e)))) =
      a ++ 45 :: (b ++ 45 :: (c ++ 45 :: (d ++ 45 :: e))) := by
    simp [hyphenate, List.drop_append, List.drop_of_length_le, ha, hb, hc, hd]
  rw [e1]
  unfold parseHyphenated
  rw [if_pos (by simp [ha, hb, hc, hd, he])]
  congr 1
  simp [List.drop_append, List.drop_of_length_le, ha, hb, hc, hd]

/-- The canonical text of a UUID reads back as that UUID. -/
theorem parseStr_toString (u : Uuid) : parseStr u.toString = some u := by
  have h : (u.nibbles.map hexByte).length = 32 := by simp [u.length_nibbles]
  simp only [parseStr, bytes_toString, length_hyphenate h]
  simp [parseHyphenated_hyphenate h, parseSimple_digits]

end Uuid

namespace UnixPath

/-- One lexical component of a path. -/
inductive Component where
  | rootDir
  | curDir
  | parentDir
  | normal (name : List UInt8)
deriving DecidableEq, Repr

/-- The pieces between the separators, empty ones included. -/
def pieces (path : String) : List (List UInt8) := (Text.bytes path).splitOn 47

/-- A path is absolute when it begins with a separator. -/
def isAbsolute (path : String) : Bool := (Text.bytes path).head? == some 47

/-- The component of a piece that is not the first one of a relative path. -/
def component (piece : List UInt8) : Option Component :=
  if piece = [] ∨ piece = [46] then none
  else if piece = [46, 46] then some .parentDir
  else some (.normal piece)

/-- The lexical components of a path. A `.` is visible only at the start of a relative path. -/
def components (path : String) : List Component :=
  if isAbsolute path then .rootDir :: (pieces path).filterMap component
  else match pieces path with
    | [46] :: rest => .curDir :: rest.filterMap component
    | all => all.filterMap component

end UnixPath
