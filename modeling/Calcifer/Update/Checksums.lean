import Calcifer.Update.Manifest

/-!
# The form of the checksums

`renderChecksums` writes a table of digests the only way that `parseChecksums` reads one: a line for
every name, in the order of the names, with the digest before it. `parseChecksumsSliced` is the same
reader with the slices of the source, each of which may be out of range; none of them is.
-/

namespace Calcifer.Update

open Checks

/-! ## ASCII texts -/

theorem utf8EncodeChar_ascii {c : Char} (h : c.toNat < 128) :
    String.utf8EncodeChar c = [c.toNat.toUInt8] := by
  have hle : c.val.toNat ≤ 127 := Nat.le_of_lt_succ h
  rw [String.utf8EncodeChar]
  show (if c.val.toNat ≤ 127 then _ else _) = _
  rw [if_pos hle]
  rfl

/-- A text of ASCII bytes has these bytes. -/
theorem bytes_asciiText {bytes : List UInt8} (h : isAscii bytes = true) :
    Text.bytes (asciiText bytes) = bytes := by
  rw [asciiText, Text.bytes_ofList]
  induction bytes with
  | nil => rfl
  | cons byte bytes ih =>
    simp only [isAscii, List.all_cons, Bool.and_eq_true, decide_eq_true_eq] at h
    have hbyte : byte.toNat < 128 := UInt8.lt_iff_toNat_lt.1 h.1
    have hchar : (Char.ofNat byte.toNat).toNat = byte.toNat := by
      rw [Char.toNat_ofNat, if_pos (Or.inl (by omega))]
    rw [List.map_cons, List.flatMap_cons, utf8EncodeChar_ascii (by omega), hchar, ih h.2]
    simp

theorem bytes_injective : Function.Injective Text.bytes := by
  intro a b h
  apply String.toByteArray_inj.1
  apply ByteArray.ext
  exact Array.toList_inj.1 h

theorem asciiText_bytes {text : String} (h : isAscii (Text.bytes text) = true) :
    asciiText (Text.bytes text) = text :=
  bytes_injective (bytes_asciiText h)

theorem bytes_eq_nil_iff {text : String} : Text.bytes text = [] ↔ text = "" := by
  have empty : Text.bytes "" = [] := by decide
  rw [← empty]
  exact bytes_injective.eq_iff

theorem isAscii_of_isLowerHex {digest : String} {length : ℕ} (h : isLowerHex digest length = true) :
    isAscii (Text.bytes digest) = true ∧ (Text.bytes digest).length = length ∧
      ∀ byte ∈ Text.bytes digest, byte ≠ 10 ∧ byte ≠ 13 := by
  simp only [isLowerHex, decide_eq_true_eq, List.all_eq_true] at h
  refine ⟨?_, h.1, fun byte hbyte => ?_⟩
  · rw [isAscii, List.all_eq_true]
    intro byte hbyte
    obtain ⟨-, hle⟩ | ⟨-, hle⟩ := h.2 byte hbyte
    · exact decide_eq_true (UInt8.lt_of_le_of_lt hle (show (57 : UInt8) < 128 by decide))
    · exact decide_eq_true (UInt8.lt_of_le_of_lt hle (show (102 : UInt8) < 128 by decide))
  · have := h.2 byte hbyte
    constructor <;> rintro rfl <;> revert this <;> decide

/-! ## Writing -/

/-- The line of a name and its digest. -/
def checksumLine (entry : String × String) : List UInt8 :=
  Text.bytes entry.2 ++ [32, 32] ++ Text.bytes entry.1

/-- The lines of a table, each ended by a newline. -/
def renderChecksums (checksums : List (String × String)) : List UInt8 :=
  checksums.flatMap fun entry => checksumLine entry ++ [10]

/-- A name that fits a line of the table. -/
structure FileName (name : String) : Prop where
  nonempty : name ≠ ""
  ascii : isAscii (Text.bytes name) = true
  newline : 10 ∉ Text.bytes name
  carriageReturn : 13 ∉ Text.bytes name

/-! ## Slices -/

/-- Whether a byte offset of a text lies between two of its characters. -/
def isCharBoundary (text : List UInt8) (offset : ℕ) : Bool :=
  offset = 0 ∨ offset = text.length ∨ (text[offset]?).any fun byte => byte < 128 ∨ 192 ≤ byte

/-- The slice of a text between two offsets, which is a panic outside of it or inside of a
character. -/
def slice (text : List UInt8) (start stop : ℕ) : Option (List UInt8) :=
  if start ≤ stop ∧ isCharBoundary text start ∧ isCharBoundary text stop ∧ stop ≤ text.length then
    some ((text.take stop).drop start)
  else none

/-- A step that takes no slice. -/
def unsliced {α : Type} (x : Except UpdateError α) : ExceptT UpdateError Option α := ExceptT.mk (some x)

/-- `readChecksum` with the slices of the source. -/
def readChecksumSliced (checksums : List (String × String)) (line : List UInt8) :
    ExceptT UpdateError Option (List (String × String)) := do
  unsliced (rejectIf (line.length < 67) .schema)
  let separator ← slice line 64 66
  unsliced (rejectIf (separator ≠ [32, 32]) .schema)
  let digest := asciiText (← slice line 0 64)
  let name := asciiText (← slice line 66 line.length)
  unsliced (rejectIf (¬isLowerHex digest 64 ∨ name = "" ∨ name ∈ checksums.map Prod.fst) .schema)
  return checksums ++ [(name, digest)]

/-- `parseChecksums` with the slices of the source. -/
def parseChecksumsSliced (bytes : List UInt8) (expectedNames : List String) :
    ExceptT UpdateError Option (List (String × String)) := do
  unsliced (rejectIf (bytes = [] ∨ maxChecksumBytes < bytes.length ∨ 13 ∈ bytes ∨ ¬isAscii bytes) .schema)
  unsliced (rejectIf (bytes.getLast? ≠ some 10) .schema)
  let content := bytes.dropLast
  unsliced (rejectIf (content = [] ∨ content.getLast? = some 10) .schema)
  let checksums ← (content.splitOn 10).foldlM readChecksumSliced []
  unsliced (rejectIf (checksums.map Prod.fst ≠ expectedNames) .integrity)
  return checksums

/-! ## Reading what was written -/

section

variable {table checksums checksums' : List (String × String)} {entry : String × String}
  {line : List UInt8} {lines : List (List UInt8)}

/-- The digest and the name in a line, whatever it is. -/
def checksumOf (line : List UInt8) : String × String :=
  (asciiText (line.drop 66), asciiText (line.take 64))

/-- The shape of a line. -/
structure ChecksumShape (line : List UInt8) : Prop where
  long : 67 ≤ line.length
  separator : (line.drop 64).take 2 = [32, 32]
  digest : isLowerHex (asciiText (line.take 64)) 64 = true
  name : asciiText (line.drop 66) ≠ ""

theorem readChecksum_eq_ok : readChecksum checksums line = .ok checksums' ↔ ChecksumShape line ∧
    (checksumOf line).1 ∉ checksums.map Prod.fst ∧ checksums' = checksums ++ [checksumOf line] := by
  simp only [readChecksum, check_bind_eq_ok, rejectIf_eq_ok, not_or, not_not, not_lt, pure_eq_ok]
  constructor
  · rintro ⟨⟨long, separator⟩, ⟨digest, name, new⟩, rfl⟩
    exact ⟨⟨long, separator, digest, name⟩, new, rfl⟩
  · rintro ⟨⟨long, separator, digest, name⟩, new, rfl⟩
    exact ⟨⟨long, separator⟩, ⟨digest, name, new⟩, rfl⟩

/-- The loop reads every line. -/
theorem foldlM_readChecksum_eq_ok : lines.foldlM readChecksum checksums = .ok checksums' ↔
    (∀ line ∈ lines, ChecksumShape line) ∧ (lines.map fun line => (checksumOf line).1).Nodup ∧
      (∀ line ∈ lines, (checksumOf line).1 ∉ checksums.map Prod.fst) ∧
      checksums' = checksums ++ lines.map checksumOf := by
  induction lines generalizing checksums with
  | nil =>
    rw [List.foldlM_nil, pure_eq_ok]
    simp [eq_comm]
  | cons line lines ih =>
    rw [List.foldlM_cons, bind_eq_ok]
    constructor
    · rintro ⟨checksums₁, hline, hrest⟩
      obtain ⟨shape, new, rfl⟩ := readChecksum_eq_ok.1 hline
      obtain ⟨shapes, nodup, news, rfl⟩ := ih.1 hrest
      refine ⟨List.forall_mem_cons.2 ⟨shape, shapes⟩, ?_, List.forall_mem_cons.2 ⟨new, ?_⟩, by simp⟩
      · rw [List.map_cons, List.nodup_cons]
        refine ⟨fun hmem => ?_, nodup⟩
        obtain ⟨other, hother, hname⟩ := List.mem_map.1 hmem
        exact news other hother (by simp [hname])
      · intro other hother hold
        exact news other hother (by simp only [List.map_append, List.mem_append, hold, true_or])
    · rintro ⟨shapes, nodup, news, rfl⟩
      obtain ⟨shape, shapes⟩ := List.forall_mem_cons.1 shapes
      obtain ⟨new, news⟩ := List.forall_mem_cons.1 news
      rw [List.map_cons, List.nodup_cons] at nodup
      refine ⟨_, readChecksum_eq_ok.2 ⟨shape, new, rfl⟩,
        ih.2 ⟨shapes, nodup.2, fun other hother hmem => ?_, by simp⟩⟩
      rw [List.map_append, List.mem_append] at hmem
      obtain hold | hown := hmem
      · exact news other hother hold
      · apply nodup.1
        obtain hown : (checksumOf other).1 = (checksumOf line).1 := by simpa using hown
        rw [← hown]
        exact List.mem_map_of_mem hother

/-- A line is the one of what is read of it. -/
theorem ChecksumShape.line_eq (h : ChecksumShape line) (ascii : isAscii line = true) :
    checksumLine (checksumOf line) = line := by
  rw [isAscii, List.all_eq_true] at ascii
  have digest : isAscii (line.take 64) = true :=
    List.all_eq_true.2 fun byte hbyte => ascii byte (List.mem_of_mem_take hbyte)
  have name : isAscii (line.drop 66) = true :=
    List.all_eq_true.2 fun byte hbyte => ascii byte (List.mem_of_mem_drop hbyte)
  rw [checksumLine, checksumOf]
  show Text.bytes (asciiText (line.take 64)) ++ [32, 32] ++ Text.bytes (asciiText (line.drop 66)) = line
  rw [bytes_asciiText digest, bytes_asciiText name, ← h.separator]
  calc line.take 64 ++ (line.drop 64).take 2 ++ line.drop 66
      = line.take 64 ++ ((line.drop 64).take 2 ++ (line.drop 64).drop 2) := by
        rw [List.append_assoc, List.drop_drop]
    _ = line := by rw [List.take_append_drop, List.take_append_drop]

/-- The line of an entry has its shape, and the entry is read of it. -/
theorem checksumLine_shape (name : FileName entry.1) (digest : isLowerHex entry.2 64 = true) :
    ChecksumShape (checksumLine entry) ∧ checksumOf (checksumLine entry) = entry := by
  obtain ⟨ascii, length, -⟩ := isAscii_of_isLowerHex digest
  have take : (checksumLine entry).take 64 = Text.bytes entry.2 := by
    rw [checksumLine, List.append_assoc, ← length, List.take_left]
  have rest : (checksumLine entry).drop 64 = [32, 32] ++ Text.bytes entry.1 := by
    rw [checksumLine, List.append_assoc, ← length, List.drop_left]
  have drop : (checksumLine entry).drop 66 = Text.bytes entry.1 := by
    rw [show 66 = 64 + 2 from rfl, ← List.drop_drop, rest]
    rfl
  have long : 0 < (Text.bytes entry.1).length :=
    List.length_pos_iff.2 fun h => name.nonempty (bytes_eq_nil_iff.1 h)
  have read : checksumOf (checksumLine entry) = entry := by
    rw [checksumOf, take, drop, asciiText_bytes name.ascii, asciiText_bytes ascii]
  refine ⟨⟨?_, ?_, ?_, ?_⟩, read⟩
  · simp only [checksumLine, List.length_append, length, List.length_cons, List.length_nil]
    omega
  · rw [rest]
    rfl
  · rw [take, asciiText_bytes ascii]
    exact digest
  · rw [drop, asciiText_bytes name.ascii]
    exact name.nonempty

/-- Lines that are each ended by a newline are lines between newlines with one more at the end. -/
theorem flatMap_newline (h : lines ≠ []) :
    (lines.flatMap fun line => line ++ [10]) = [10].intercalate lines ++ [10] := by
  induction lines with
  | nil => exact absurd rfl h
  | cons line lines ih =>
    cases lines with
    | nil => simp [List.intercalate]
    | cons next rest =>
      rw [List.flatMap_cons, ih (List.cons_ne_nil _ _)]
      simp [List.intercalate, List.intersperse]

theorem renderChecksums_eq (h : table ≠ []) :
    renderChecksums table = [10].intercalate (table.map checksumLine) ++ [10] := by
  rw [renderChecksums, ← flatMap_newline (by simpa using h), List.flatMap_map]

theorem isAscii_append {a b : List UInt8} :
    isAscii (a ++ b) = true ↔ isAscii a = true ∧ isAscii b = true := by
  rw [isAscii, List.all_append, Bool.and_eq_true]
  rfl

/-- The bytes of a line are ASCII and do not end it. -/
theorem checksumLine_bytes (name : FileName entry.1) (digest : isLowerHex entry.2 64 = true) :
    isAscii (checksumLine entry) = true ∧ 10 ∉ checksumLine entry ∧ 13 ∉ checksumLine entry := by
  obtain ⟨ascii, -, other⟩ := isAscii_of_isLowerHex digest
  refine ⟨?_, fun h => ?_, fun h => ?_⟩
  · rw [checksumLine, isAscii_append, isAscii_append]
    exact ⟨⟨ascii, by decide⟩, name.ascii⟩
  · rw [checksumLine, List.mem_append, List.mem_append] at h
    obtain (h | h) | h := h
    · exact (other 10 h).1 rfl
    · exact absurd h (by decide)
    · exact name.newline h
  · rw [checksumLine, List.mem_append, List.mem_append] at h
    obtain (h | h) | h := h
    · exact (other 13 h).2 rfl
    · exact absurd h (by decide)
    · exact name.carriageReturn h

theorem renderChecksums_bytes
    (entries : ∀ entry ∈ table, FileName entry.1 ∧ isLowerHex entry.2 64 = true) :
    isAscii (renderChecksums table) = true ∧ 13 ∉ renderChecksums table := by
  constructor
  · rw [isAscii, List.all_eq_true]
    intro byte hbyte
    obtain ⟨entry, hentry, hbyte⟩ := List.mem_flatMap.1 hbyte
    have ascii := (checksumLine_bytes (entries entry hentry).1 (entries entry hentry).2).1
    have line : isAscii (checksumLine entry ++ [10]) = true := isAscii_append.2 ⟨ascii, by decide⟩
    exact List.all_eq_true.1 line byte hbyte
  · intro h
    obtain ⟨entry, hentry, hbyte⟩ := List.mem_flatMap.1 h
    obtain hline | hnewline := List.mem_append.1 hbyte
    · exact (checksumLine_bytes (entries entry hentry).1 (entries entry hentry).2).2.2 hline
    · exact absurd hnewline (by decide)

/-- What is read of the bytes, and that they are the lines of it. -/
theorem parseChecksums_eq_ok {bytes : List UInt8} {names : List String} :
    parseChecksums bytes names = .ok table ↔
      bytes ≠ [] ∧ bytes.length ≤ maxChecksumBytes ∧ 13 ∉ bytes ∧ isAscii bytes = true ∧
        bytes.getLast? = some 10 ∧ bytes.dropLast ≠ [] ∧ bytes.dropLast.getLast? ≠ some 10 ∧
        (∀ line ∈ bytes.dropLast.splitOn 10, ChecksumShape line) ∧
        ((bytes.dropLast.splitOn 10).map fun line => (checksumOf line).1).Nodup ∧
        table = (bytes.dropLast.splitOn 10).map checksumOf ∧ table.map Prod.fst = names := by
  simp only [parseChecksums, check_bind_eq_ok, rejectIf_eq_ok, not_or, not_not, not_lt,
    bind_eq_ok (α := List (String × String)), foldlM_readChecksum_eq_ok, pure_eq_ok, List.nil_append]
  constructor
  · rintro ⟨⟨nonempty, small, plain, ascii⟩, newline, ⟨content, final⟩, _,
      ⟨shapes, nodup, -, rfl⟩, names, rfl⟩
    exact ⟨nonempty, small, plain, ascii, newline, content, final, shapes, nodup, rfl, names⟩
  · rintro ⟨nonempty, small, plain, ascii, newline, content, final, shapes, nodup, rfl, names⟩
    exact ⟨⟨nonempty, small, plain, ascii⟩, newline, ⟨content, final⟩, _,
      ⟨shapes, nodup, by simp, rfl⟩, names, rfl⟩

/-- Reading what was written gives it back. -/
theorem parseChecksums_render (nonempty : table ≠ []) (sorted : (table.map Prod.fst).Pairwise (· < ·))
    (entries : ∀ entry ∈ table, FileName entry.1 ∧ isLowerHex entry.2 64 = true)
    (small : (renderChecksums table).length ≤ maxChecksumBytes) :
    parseChecksums (renderChecksums table) (table.map Prod.fst) = .ok table := by
  have render := renderChecksums_eq nonempty
  have lines : ∀ line ∈ table.map checksumLine, 10 ∉ line := by
    intro line hline
    obtain ⟨entry, hentry, rfl⟩ := List.mem_map.1 hline
    exact (checksumLine_bytes (entries entry hentry).1 (entries entry hentry).2).2.1
  have split : ([10].intercalate (table.map checksumLine)).splitOn 10 = table.map checksumLine :=
    List.splitOn_intercalate 10 lines (by simpa using nonempty)
  have shapes : ∀ line ∈ table.map checksumLine, ChecksumShape line := by
    intro line hline
    obtain ⟨entry, hentry, rfl⟩ := List.mem_map.1 hline
    exact (checksumLine_shape (entries entry hentry).1 (entries entry hentry).2).1
  have read : (table.map checksumLine).map checksumOf = table := by
    have self : ∀ entry ∈ table, (checksumOf ∘ checksumLine) entry = id entry := fun entry hentry =>
      (checksumLine_shape (entries entry hentry).1 (entries entry hentry).2).2
    rw [List.map_map, List.map_congr_left self, List.map_id]
  have names : (table.map checksumLine).map (fun line => (checksumOf line).1) = table.map Prod.fst := by
    calc (table.map checksumLine).map (fun line => (checksumOf line).1)
        = ((table.map checksumLine).map checksumOf).map Prod.fst := List.map_map.symm
      _ = table.map Prod.fst := by rw [read]
  obtain ⟨ascii, plain⟩ := renderChecksums_bytes entries
  have empty : [] ∉ table.map checksumLine := fun h => absurd (shapes [] h).long (by decide)
  rw [parseChecksums_eq_ok, render, List.dropLast_concat, split]
  refine ⟨by simp, ?_, ?_, ?_, by simp, fun h => ?_, fun h => ?_, shapes, ?_, read.symm, rfl⟩
  · rw [← render]
    exact small
  · rw [← render]
    exact plain
  · rw [← render]
    exact ascii
  · rw [h, List.splitOn_nil] at split
    exact empty (by rw [← split]; exact List.mem_singleton_self _)
  · obtain ⟨before, hbefore⟩ := List.getLast?_eq_some_iff.1 h
    rw [hbefore, List.splitOn_append_cons_self, List.splitOn_nil] at split
    exact empty (by rw [← split]; simp)
  · rw [names]
    exact sorted.imp fun h => ne_of_lt h

/-- The bytes are the lines, each ended by a newline. -/
theorem lines_of_newline {bytes : List UInt8} (newline : bytes.getLast? = some 10) :
    bytes = (bytes.dropLast.splitOn 10).flatMap fun line => line ++ [10] := by
  rw [flatMap_newline (List.splitOn_ne_nil _ _), List.intercalate_splitOn]
  exact (List.dropLast_append_getLast? 10 newline).symm

theorem isAscii_line {bytes : List UInt8} (ascii : isAscii bytes = true)
    (newline : bytes.getLast? = some 10) (hline : line ∈ bytes.dropLast.splitOn 10) :
    isAscii line = true := by
  rw [isAscii, List.all_eq_true] at ascii ⊢
  intro byte hbyte
  apply ascii
  rw [lines_of_newline newline]
  exact List.mem_flatMap.2 ⟨line, hline, List.mem_append_left _ hbyte⟩

/-- What was read is all there was. -/
theorem render_parseChecksums {bytes : List UInt8} {names : List String}
    (h : parseChecksums bytes names = .ok table) :
    bytes = renderChecksums table ∧ table.map Prod.fst = names := by
  obtain ⟨-, -, -, ascii, newline, -, -, shapes, -, rfl, hnames⟩ := parseChecksums_eq_ok.1 h
  refine ⟨?_, hnames⟩
  rw [renderChecksums, List.flatMap_map]
  conv_lhs => rw [lines_of_newline newline]
  apply List.flatMap_congr
  intro line hline
  rw [(shapes line hline).line_eq (isAscii_line ascii newline hline)]

end

/-! ## Slices in range -/

section

variable {line : List UInt8} {checksums : List (String × String)}

theorem isCharBoundary_of_isAscii (ascii : isAscii line = true) {offset : ℕ} (h : offset ≤ line.length) :
    isCharBoundary line offset = true := by
  rw [isAscii, List.all_eq_true] at ascii
  rw [isCharBoundary, decide_eq_true_eq]
  by_cases hend : offset = line.length
  · exact Or.inr (Or.inl hend)
  · have hlt : offset < line.length := by omega
    refine Or.inr (Or.inr ?_)
    rw [List.getElem?_eq_getElem hlt, Option.any_some, decide_eq_true_eq]
    exact Or.inl (of_decide_eq_true (ascii _ (List.getElem_mem hlt)))

theorem slice_of_isAscii (ascii : isAscii line = true) {start stop : ℕ} (order : start ≤ stop)
    (inside : stop ≤ line.length) : slice line start stop = some ((line.take stop).drop start) := by
  rw [slice, if_pos ⟨order, isCharBoundary_of_isAscii ascii (order.trans inside),
    isCharBoundary_of_isAscii ascii inside, inside⟩]

/-- The steps of two readers agree, and so do the rests. -/
theorem unsliced_bind {α β : Type} {x : ExceptT UpdateError Option α} {y : Except UpdateError α}
    {f : α → ExceptT UpdateError Option β} {g : α → Except UpdateError β} (hx : x = unsliced y)
    (hf : ∀ a, y = .ok a → f a = unsliced (g a)) : x >>= f = unsliced (y >>= g) := by
  subst hx
  cases y with
  | error e => rfl
  | ok a => exact hf a rfl

/-- A slice in range goes on with its bytes. -/
theorem slice_bind {β : Type} {bytes : List UInt8} {o : Option (List UInt8)} (h : o = some bytes)
    (f : List UInt8 → ExceptT UpdateError Option β) :
    ((o : ExceptT UpdateError Option (List UInt8)) >>= f) = f bytes := by
  subst h
  rfl

theorem readChecksumSliced_eq (ascii : isAscii line = true) :
    readChecksumSliced checksums line = unsliced (readChecksum checksums line) := by
  unfold readChecksumSliced readChecksum
  by_cases short : line.length < 67
  · rw [rejectIf, rejectIf, if_pos short, if_pos (Or.inl short)]
    rfl
  have take : ((line.take 66).drop 64) = (line.drop 64).take 2 := by
    rw [List.drop_take]
  have drop : (line.take line.length).drop 66 = line.drop 66 := by
    rw [List.take_length]
  rw [rejectIf, if_neg short]
  show (do
    let separator ← slice line 64 66
    unsliced (rejectIf (separator ≠ [32, 32]) .schema)
    let digest := asciiText (← slice line 0 64)
    let name := asciiText (← slice line 66 line.length)
    unsliced (rejectIf (¬isLowerHex digest 64 ∨ name = "" ∨ name ∈ checksums.map Prod.fst) .schema)
    return checksums ++ [(name, digest)] : ExceptT UpdateError Option (List (String × String))) = _
  rw [slice_bind ((slice_of_isAscii ascii (by omega) (by omega)).trans (congrArg some take))]
  apply unsliced_bind
  · unfold rejectIf
    simp only [short, false_or]
  intro _ _
  rw [slice_bind (slice_of_isAscii ascii (by omega) (by omega)),
    slice_bind ((slice_of_isAscii ascii (by omega) le_rfl).trans (congrArg some drop))]
  exact unsliced_bind rfl fun _ _ => rfl

theorem foldlM_readChecksumSliced {lines : List (List UInt8)}
    (ascii : ∀ line ∈ lines, isAscii line = true) :
    lines.foldlM readChecksumSliced checksums = unsliced (lines.foldlM readChecksum checksums) := by
  induction lines generalizing checksums with
  | nil => rfl
  | cons line lines ih =>
    obtain ⟨hline, hlines⟩ := List.forall_mem_cons.1 ascii
    rw [List.foldlM_cons, List.foldlM_cons]
    exact unsliced_bind (readChecksumSliced_eq hline) fun checksums₁ _ => ih hlines

/-- No slice of the source is out of range. -/
theorem parseChecksumsSliced_eq (bytes : List UInt8) (names : List String) :
    parseChecksumsSliced bytes names = unsliced (parseChecksums bytes names) := by
  unfold parseChecksumsSliced parseChecksums
  refine unsliced_bind rfl fun _ plain => ?_
  refine unsliced_bind rfl fun _ newline => ?_
  refine unsliced_bind rfl fun _ _ => ?_
  simp only [rejectIf_eq_ok, not_or, not_not] at plain newline
  refine unsliced_bind (foldlM_readChecksumSliced fun line hline => ?_) fun _ _ => ?_
  · exact isAscii_line plain.2.2.2 newline hline
  · exact unsliced_bind rfl fun _ _ => rfl

end

/-! ## The law -/

/-- A table is read of its rendering and of nothing else, and no slice is out of range. -/
theorem parseChecksums_canonical :
    (∀ table : List (String × String), table ≠ [] → (table.map Prod.fst).Pairwise (· < ·) →
      (∀ entry ∈ table, FileName entry.1 ∧ isLowerHex entry.2 64 = true) →
      (renderChecksums table).length ≤ maxChecksumBytes →
        parseChecksums (renderChecksums table) (table.map Prod.fst) = .ok table) ∧
    (∀ bytes names table, parseChecksums bytes names = .ok table →
      bytes = renderChecksums table ∧ table.map Prod.fst = names) ∧
    ∀ bytes names, (parseChecksumsSliced bytes names).run = some (parseChecksums bytes names) :=
  ⟨fun _ nonempty sorted entries small => parseChecksums_render nonempty sorted entries small,
    fun _ _ _ h => render_parseChecksums h, fun bytes names =>
      congrArg ExceptT.run (parseChecksumsSliced_eq bytes names)⟩

/-- The digest of nothing in particular. -/
def zeroDigest : String := String.ofList (List.replicate 64 '0')

/-- No table of no names is read, none with an empty name, and none with a carriage return. -/
theorem parseChecksums_render_refused :
    (¬∀ table : List (String × String), (table.map Prod.fst).Pairwise (· < ·) →
      (∀ entry ∈ table, isAscii (Text.bytes entry.1) = true ∧ 10 ∉ Text.bytes entry.1 ∧
        isLowerHex entry.2 64 = true) → (renderChecksums table).length ≤ maxChecksumBytes →
        parseChecksums (renderChecksums table) (table.map Prod.fst) = .ok table) ∧
    parseChecksums (renderChecksums []) [] = .error .schema ∧
    parseChecksums (renderChecksums [("", zeroDigest)]) [""] = .error .schema ∧
    parseChecksums (renderChecksums [("\r", zeroDigest)]) ["\r"] = .error .schema := by
  refine ⟨fun h => ?_, by decide, by decide +kernel, by decide +kernel⟩
  exact absurd (h [] .nil (by simp) (by decide)) (by decide)

end Calcifer.Update
