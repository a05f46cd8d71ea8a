import Calcifer.Library.Text

/-!
# Paths as bytes

`OsPath` is a Unix path as the operating system has it, which need not be text. Its `components` are
those of `UnixPath`, with which they agree on texts. Two paths count as equal when their components
are, and `stripPrefix` is the part of a path below a directory: it keeps repeated separators and
inner `.` entries of that part as they stand.
-/

/-- The bytes of a Unix path. -/
abbrev OsPath := List UInt8

namespace OsPath

open UnixPath

/-- The text of a path, when it is text. -/
def toStr (path : OsPath) : Option String := String.fromUTF8? ⟨path.toArray⟩

/-- A path is absolute when it begins with a separator. -/
def isAbsolute (path : OsPath) : Bool := path.head? == some 47

/-- The component at the beginning of a path. A `.` is visible only there. -/
def leading (path : OsPath) (piece : List UInt8) : Option Component :=
  if isAbsolute path then some .rootDir else if piece = [46] then some .curDir else component piece

/-- The pieces between the separators, with the component that each of them is, if it is one. -/
def marks (path : OsPath) : List (Option Component × List UInt8) :=
  match path.splitOn 47 with
  | [] => []
  | first :: rest => (leading path first, first) :: rest.map fun piece => (component piece, piece)

/-- The lexical components of a path. -/
def components (path : OsPath) : List Component := (marks path).filterMap Prod.fst

/-- The path of an entry of a directory. -/
def join (path : OsPath) (name : List UInt8) : OsPath :=
  if path = [] ∨ path.getLast? = some 47 then path ++ name else path ++ 47 :: name

/-- What is left of the pieces of a path after these components. -/
def after : List Component → List (Option Component × List UInt8) → Option (List (List UInt8))
  | [], rest => some (rest.map Prod.snd)
  | _ :: _, [] => none
  | expected :: base, (none, _) :: rest => after (expected :: base) rest
  | expected :: base, (some component, _) :: rest =>
    if expected = component then after base rest else none

/-- A piece that is no component. -/
def isBlank (piece : List UInt8) : Bool := (component piece).isNone

/-- The part of a path below a directory. -/
def stripPrefix (path base : OsPath) : Option OsPath :=
  (after (components base) (marks path)).map fun rest =>
    List.intercalate [47] ((rest.dropWhile isBlank).rdropWhile isBlank)

/-- The name at the end of a path. -/
def fileName (path : OsPath) : Option (List UInt8) :=
  match (components path).getLast? with
  | some (.normal name) => some name
  | _ => none

/-- What follows the last dot of the name at the end of a path, when something stands before it. -/
def extension (path : OsPath) : Option (List UInt8) :=
  (fileName path).bind fun name => match (name.splitOn 46).reverse with
    | after :: before :: earlier => if before = [] ∧ earlier = [] then none else some after
    | _ => none

/-! ## Paths that are texts -/

theorem bytes_fromUTF8 {bytes : ByteArray} (valid : bytes.IsValidUTF8) :
    Text.bytes (String.fromUTF8 bytes valid) = bytes.data.toList := rfl

theorem toStr_eq_some {path : OsPath} {s : String} (h : toStr path = some s) :
    Text.bytes s = path := by
  rw [toStr, String.fromUTF8?] at h
  split at h
  · rename_i valid
    rw [← Option.some.inj h, bytes_fromUTF8]
  · cases h

theorem splitOn_eq_cons (path : OsPath) : ∃ first rest, path.splitOn 47 = first :: rest :=
  List.exists_cons_of_ne_nil (List.splitOn_ne_nil 47 path)

/-- An absolute path has nothing before its first separator. -/
theorem splitOn_of_isAbsolute {path : OsPath} {first : List UInt8} {rest : List (List UInt8)}
    (absolute : isAbsolute path = true) (pieces : path.splitOn 47 = first :: rest) : first = [] := by
  obtain ⟨b, tail, rfl⟩ : ∃ b tail, path = b :: tail := by
    cases path with
    | nil => cases absolute
    | cons b tail => exact ⟨b, tail, rfl⟩
  have hb : b = 47 := by
    rw [isAbsolute, List.head?_cons, beq_iff_eq] at absolute
    exact Option.some.inj absolute
  have split := List.splitOn_append_cons_self (a := (47 : UInt8)) [] tail
  rw [List.nil_append, ← hb] at split
  rw [hb] at split pieces
  rw [split, List.splitOn_nil] at pieces
  exact (List.cons.inj pieces).1.symm

theorem components_cons {path : OsPath} {first : List UInt8} {rest : List (List UInt8)}
    (pieces : path.splitOn 47 = first :: rest) :
    components path = (leading path first).toList ++ rest.filterMap component := by
  have tail : ((rest.map fun piece => (component piece, piece)).filterMap Prod.fst) =
      rest.filterMap component := by
    rw [List.filterMap_map]
    rfl
  rw [components, marks, pieces]
  show List.filterMap Prod.fst (_ :: _) = _
  rw [List.filterMap_cons, tail]
  cases leading path first with
  | none => rfl
  | some c => rfl

/-- On a text the components are those of the text. -/
theorem components_bytes (s : String) : components (Text.bytes s) = UnixPath.components s := by
  obtain ⟨first, rest, pieces⟩ := splitOn_eq_cons (Text.bytes s)
  have hpieces : UnixPath.pieces s = first :: rest := pieces
  rw [components_cons pieces, UnixPath.components, hpieces]
  by_cases absolute : UnixPath.isAbsolute s
  · have blank : first = [] := splitOn_of_isAbsolute absolute pieces
    have root : leading (Text.bytes s) first = some .rootDir := if_pos absolute
    rw [if_pos absolute, root, blank]
    rfl
  · have relative : ¬isAbsolute (Text.bytes s) = true := absolute
    rw [if_neg absolute, leading, if_neg relative]
    by_cases dot : first = [46]
    · rw [if_pos dot, dot]
      rfl
    · rw [if_neg dot]
      have all : (first :: rest).filterMap component =
          (component first).toList ++ rest.filterMap component := by
        rw [List.filterMap_cons]
        cases component first with
        | none => rfl
        | some c => rfl
      rw [← all]
      split
      · rename_i h
        exact absurd (List.cons.inj h).1 dot
      · rfl

/-! ## Entries of directories -/

theorem component_of_plain {name : List UInt8} (plain : name ≠ [] ∧ name ≠ [46] ∧ name ≠ [46, 46]) :
    component name = some (.normal name) := by
  rw [component, if_neg (by rw [not_or]; exact ⟨plain.1, plain.2.1⟩), if_neg plain.2.2]

/-- An entry of a directory has one component more. -/
theorem components_join {path : OsPath} {name : List UInt8}
    (plain : name ≠ [] ∧ name ≠ [46] ∧ name ≠ [46, 46]) (single : 47 ∉ name) :
    components (join path name) = components path ++ [.normal name] := by
  have last : name.splitOn 47 = [name] := List.splitOn_eq_singleton single
  have entry : [name].filterMap component = [.normal name] := by
    rw [List.filterMap_cons, component_of_plain plain]
    rfl
  by_cases nonempty : path = []
  · have relative : ¬isAbsolute name = true := by
      intro absolute
      obtain ⟨tail, htail⟩ := List.head?_eq_some_iff.1 (beq_iff_eq.1 absolute)
      exact single (htail ▸ List.mem_cons_self)
    rw [nonempty, join, if_pos (Or.inl rfl), List.nil_append, components_cons last, leading,
      if_neg relative, if_neg plain.2.1, component_of_plain plain]
    rfl
  obtain ⟨first, rest, pieces⟩ := splitOn_eq_cons path
  have lead : ∀ suffix, leading (path ++ suffix) = leading path := by
    intro suffix
    funext piece
    rw [leading, leading, isAbsolute, isAbsolute, List.head?_append_of_ne_nil path nonempty]
  rw [components_cons pieces]
  by_cases slash : path.getLast? = some 47
  · obtain ⟨parent, rfl⟩ := List.getLast?_eq_some_iff.1 slash
    obtain ⟨first', rest', pieces'⟩ := splitOn_eq_cons parent
    have whole : (parent ++ [47]).splitOn 47 = (first' :: rest') ++ [[]] := by
      rw [List.splitOn_append_cons_self, pieces', List.splitOn_nil]
    rw [whole, List.cons_append] at pieces
    obtain ⟨rfl, rfl⟩ := List.cons.inj pieces
    have joined : (join (parent ++ [47]) name).splitOn 47 = first' :: (rest' ++ [name]) := by
      rw [join, if_pos (Or.inr slash), List.append_assoc, List.singleton_append,
        List.splitOn_append_cons_self, pieces', last, List.cons_append]
    have head : leading (join (parent ++ [47]) name) = leading (parent ++ [47]) := by
      rw [join, if_pos (Or.inr slash), lead]
    rw [components_cons joined, head, List.filterMap_append, List.filterMap_append, List.append_assoc,
      List.append_assoc, entry]
    rfl
  · have notEither : ¬(path = [] ∨ path.getLast? = some 47) := not_or.2 ⟨nonempty, slash⟩
    have joined : (join path name).splitOn 47 = first :: (rest ++ [name]) := by
      rw [join, if_neg notEither, List.splitOn_append_cons_self, pieces, last, List.cons_append]
    have head : leading (join path name) = leading path := by
      rw [join, if_neg notEither, lead]
    rw [components_cons joined, head, List.filterMap_append, List.append_assoc, entry]

/-- What lies below a directory depends on the components of the directory only. -/
theorem stripPrefix_congr {path base base' : OsPath} (same : components base = components base') :
    stripPrefix path base = stripPrefix path base' := by
  rw [stripPrefix, stripPrefix, same]

end OsPath
