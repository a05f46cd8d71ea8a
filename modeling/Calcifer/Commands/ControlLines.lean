import Calcifer.Commands.SplitLeaseSafety
import Calcifer.Update.Checksums

/-!
# Reading control lines

`read_control_line` takes bytes from a buffered stream, which comes in pieces of any size. What it reads
does not depend on the pieces (`readControlBytes_line`, `readControlBytes_end`,
`readControlBytes_long`), so that a reader of a stream of written lines is the reader of lines that the
lease is proved with (`control_lines_agree`).
-/

namespace Calcifer.SplitLease

def controlLineLimit : ℕ := 128

inductive ControlError where
  | incomplete
  | limit
  | utf8
  | io
deriving DecidableEq, Repr

/-- A buffered stream, with what its next reads give: some bytes, none at the end, or an error. -/
structure ControlReader where
  buffer : List UInt8
  reads : List (Option (List UInt8))
deriving DecidableEq, Repr

/-- The byte that ends a line. -/
def newline : UInt8 := 10

/-- A line and what follows it. -/
def cutLine (buffer : List UInt8) : Option (List UInt8 × List UInt8) :=
  (buffer.idxOf? newline).map fun position => (buffer.take position, buffer.drop (position + 1))

/-- The text of a line. -/
def lineText (bytes : List UInt8) : Except ControlError (Option String) :=
  match String.fromUTF8? ⟨bytes.toArray⟩ with
  | some text => .ok (some text)
  | none => .error .utf8

/-- What is read at the end of the stream. -/
def endOfStream (bytes : List UInt8) : Except ControlError (Option String) :=
  if bytes = [] then .ok none else .error .incomplete

/-- `read_control_line`, with the bytes of the line so far and those of the buffer. -/
def readControlBytes (bytes buffer : List UInt8) (reads : List (Option (List UInt8))) :
    Except ControlError (Option String) × ControlReader :=
  match cutLine buffer with
  | some (line, rest) =>
    if controlLineLimit < bytes.length + line.length then (.error .limit, ⟨buffer, reads⟩)
    else (lineText (bytes ++ line), ⟨rest, reads⟩)
  | none =>
    if controlLineLimit < bytes.length + buffer.length then (.error .limit, ⟨buffer, reads⟩)
    else match reads with
      | [] => (endOfStream (bytes ++ buffer), ⟨[], []⟩)
      | none :: reads => (.error .io, ⟨[], reads⟩)
      | some [] :: reads => (endOfStream (bytes ++ buffer), ⟨[], reads⟩)
      | some (byte :: chunk) :: reads => readControlBytes (bytes ++ buffer) (byte :: chunk) reads

def ControlReader.readLine (r : ControlReader) : Except ControlError (Option String) × ControlReader :=
  readControlBytes [] r.buffer r.reads

/-! ## Pieces -/

section

variable {bytes buffer line rest : List UInt8} {reads : List (Option (List UInt8))}

theorem cutLine_append (plain : newline ∉ line) :
    cutLine (line ++ newline :: rest) = some (line, rest) := by
  have position : (line ++ newline :: rest).idxOf? newline = some line.length := by
    refine List.idxOf?_eq_some_iff.2 ⟨by simp, by simp, fun other earlier => ?_⟩
    rw [List.getElem_append_left earlier]
    exact fun same => plain (same ▸ List.getElem_mem earlier)
  rw [cutLine, position]
  simp

theorem cutLine_eq_none (plain : newline ∉ buffer) : cutLine buffer = none := by
  rw [cutLine, List.idxOf?_eq_none_iff.2 plain]
  rfl

/-- The bytes that a stream still delivers. -/
def bytesOf (reads : List (Option (List UInt8))) : List UInt8 := reads.flatMap fun read => read.getD []

/-- No read fails, and none ends the stream before its end. -/
def Flows (reads : List (Option (List UInt8))) : Prop :=
  ∀ read ∈ reads, ∃ byte chunk, read = some (byte :: chunk)

/-- A buffer without a newline is followed by the next piece. -/
theorem readControlBytes_next {byte : UInt8} {chunk : List UInt8} (plain : newline ∉ buffer)
    (fits : bytes.length + buffer.length ≤ controlLineLimit) :
    readControlBytes bytes buffer (some (byte :: chunk) :: reads) =
      readControlBytes (bytes ++ buffer) (byte :: chunk) reads := by
  rw [readControlBytes, cutLine_eq_none plain]
  simp only [if_neg (not_lt.2 fits)]

theorem bytesOf_cons (piece : List UInt8) (reads : List (Option (List UInt8))) :
    bytesOf (some piece :: reads) = piece ++ bytesOf reads :=
  List.flatMap_cons

/-- A line is read whole, whatever the pieces are. -/
theorem readControlBytes_line (flows : Flows reads)
    (same : buffer ++ bytesOf reads = line ++ newline :: rest) (plain : newline ∉ line)
    (fits : bytes.length + line.length ≤ controlLineLimit) :
    ∃ r : ControlReader, readControlBytes bytes buffer reads = (lineText (bytes ++ line), r) ∧
      r.buffer ++ bytesOf r.reads = rest ∧ Flows r.reads := by
  induction reads generalizing bytes buffer line with
  | nil =>
    rw [bytesOf, List.flatMap_nil, List.append_nil] at same
    rw [same]
    refine ⟨⟨rest, []⟩, ?_, List.append_nil _, flows⟩
    rw [readControlBytes.eq_def, cutLine_append plain]
    simp only [if_neg (not_lt.2 fits)]
  | cons read reads ih =>
    obtain ⟨byte, chunk, rfl⟩ := flows read List.mem_cons_self
    have flows' : Flows reads := fun read mem => flows read (List.mem_cons_of_mem _ mem)
    by_cases whole : ∃ tail, buffer = line ++ newline :: tail
    · obtain ⟨tail, rfl⟩ := whole
      rw [List.append_assoc, List.cons_append] at same
      have later := (List.cons.inj (List.append_cancel_left same)).2
      refine ⟨⟨tail, some (byte :: chunk) :: reads⟩, ?_, later, flows⟩
      rw [readControlBytes.eq_def, cutLine_append plain]
      simp only [if_neg (not_lt.2 fits)]
    · -- The line goes on behind the buffer.
      have onward : ∃ more, line = buffer ++ more ∧
          bytesOf (some (byte :: chunk) :: reads) = more ++ newline :: rest := by
        obtain ⟨more, split, later⟩ | ⟨tail, split, later⟩ := List.append_eq_append_iff.1 same
        · exact ⟨more, split, later⟩
        · cases tail with
          | nil => exact ⟨[], by rw [split, List.append_nil, List.append_nil], later.symm⟩
          | cons first tail =>
            obtain ⟨rfl, -⟩ := List.cons.inj later
            exact absurd ⟨tail, split⟩ whole
      obtain ⟨more, rfl, later⟩ := onward
      rw [List.length_append] at fits
      have unread : newline ∉ buffer := fun mem => plain (List.mem_append_left _ mem)
      rw [bytesOf_cons] at later
      rw [readControlBytes_next unread (by omega), ← List.append_assoc]
      exact ih flows' later (fun mem => plain (List.mem_append_right _ mem))
        (by rw [List.length_append]; omega)

/-- What is read where the stream ends within a line, or before one. -/
theorem readControlBytes_end (flows : Flows reads) (plain : newline ∉ buffer ++ bytesOf reads)
    (fits : bytes.length + (buffer ++ bytesOf reads).length ≤ controlLineLimit) :
    readControlBytes bytes buffer reads =
      (endOfStream (bytes ++ (buffer ++ bytesOf reads)), ⟨[], []⟩) := by
  induction reads generalizing bytes buffer with
  | nil =>
    rw [bytesOf, List.flatMap_nil, List.append_nil] at plain fits ⊢
    rw [readControlBytes, cutLine_eq_none plain]
    simp only [if_neg (not_lt.2 fits)]
  | cons read reads ih =>
    obtain ⟨byte, chunk, rfl⟩ := flows read List.mem_cons_self
    rw [bytesOf_cons] at plain fits ⊢
    rw [List.length_append] at fits
    have unread : newline ∉ buffer := fun mem => plain (List.mem_append_left _ mem)
    rw [readControlBytes_next unread (by omega), ← List.append_assoc bytes]
    exact ih (fun read mem => flows read (List.mem_cons_of_mem _ mem))
      (fun mem => plain (List.mem_append_right _ mem)) (by rw [List.length_append]; omega)

/-- What begins a stream without a newline lies within its first line. -/
theorem front_within {front tail : List UInt8} (begins : front <+: line ++ newline :: tail)
    (plain : newline ∉ front) : front.length ≤ line.length := by
  have first : line ++ [newline] <+: line ++ newline :: tail := ⟨tail, by simp⟩
  obtain within | covers := List.prefix_or_prefix_of_prefix begins first
  · obtain rfl | within := List.prefix_concat_iff.1 within
    · exact absurd (List.mem_append_right _ (List.mem_singleton_self _)) plain
    · exact within.length_le
  · exact absurd (covers.subset (List.mem_append_right _ (List.mem_singleton_self _))) plain

/-- A line that is too long is refused, whatever the pieces are. -/
theorem readControlBytes_long (flows : Flows reads) {front : List UInt8}
    (begins : front <+: buffer ++ bytesOf reads) (plain : newline ∉ front)
    (long : controlLineLimit < bytes.length + front.length) :
    (readControlBytes bytes buffer reads).1 = .error .limit := by
  induction reads generalizing bytes buffer front with
  | nil =>
    rw [bytesOf, List.flatMap_nil, List.append_nil] at begins
    have short := begins.length_le
    by_cases mem : newline ∈ buffer
    · obtain ⟨line, tail, rfl, first⟩ := List.eq_append_cons_of_mem mem
      have within := front_within begins plain
      rw [readControlBytes, cutLine_append first]
      simp only [if_pos (show controlLineLimit < bytes.length + line.length by omega)]
    · rw [readControlBytes, cutLine_eq_none mem]
      simp only [if_pos (show controlLineLimit < bytes.length + buffer.length by omega)]
  | cons read reads ih =>
    obtain ⟨byte, chunk, rfl⟩ := flows read List.mem_cons_self
    have flows' : Flows reads := fun read mem => flows read (List.mem_cons_of_mem _ mem)
    by_cases mem : newline ∈ buffer
    · obtain ⟨line, tail, rfl, first⟩ := List.eq_append_cons_of_mem mem
      rw [List.append_assoc, List.cons_append] at begins
      have within := front_within begins plain
      rw [readControlBytes, cutLine_append first]
      simp only [if_pos (show controlLineLimit < bytes.length + line.length by omega)]
    · by_cases full : controlLineLimit < bytes.length + buffer.length
      · rw [readControlBytes, cutLine_eq_none mem]
        simp only [if_pos full]
      · have covers : buffer <+: front := by
          obtain within | covers := List.prefix_or_prefix_of_prefix begins (List.prefix_append _ _)
          · have short := within.length_le
            omega
          · exact covers
        obtain ⟨more, rfl⟩ := covers
        rw [List.length_append] at long
        rw [bytesOf_cons, List.prefix_append_right_inj] at begins
        rw [readControlBytes_next mem (not_lt.1 full)]
        exact ih flows' begins (fun mem => plain (List.mem_append_right _ mem))
          (by rw [List.length_append]; omega)

end

/-! ## Lines -/

/-- The bytes of a written line. -/
def lineBytes (text : String) : List UInt8 := Text.bytes text ++ [newline]

/-- A line that a process may write. -/
def Writable (text : String) : Prop :=
  newline ∉ Text.bytes text ∧ (Text.bytes text).length ≤ controlLineLimit

theorem lineText_bytes (text : String) : lineText (Text.bytes text) = .ok (some text) := by
  have same : (⟨(Text.bytes text).toArray⟩ : ByteArray) = text.toByteArray := by
    simp [Text.bytes]
  rw [lineText, same, String.fromUTF8?, dif_pos text.isValidUTF8]
  rfl

/-- A stream of written lines, with the beginning of one that was cut. -/
structure Carries (r : ControlReader) (lines : List String) (cut : List UInt8) : Prop where
  flows : Flows r.reads
  bytes : r.buffer ++ bytesOf r.reads = lines.flatMap lineBytes ++ cut
  writable : ∀ text ∈ lines, Writable text
  plain : newline ∉ cut
  fits : cut.length ≤ controlLineLimit

namespace ControlReader

variable {r : ControlReader} {text : String} {lines : List String} {cut : List UInt8}

theorem readLine_line (h : Carries r (text :: lines) cut) :
    ∃ r' : ControlReader, r.readLine = (.ok (some text), r') ∧ Carries r' lines cut := by
  obtain ⟨plain, fits⟩ := h.writable text List.mem_cons_self
  have same : r.buffer ++ bytesOf r.reads =
      Text.bytes text ++ newline :: (lines.flatMap lineBytes ++ cut) := by
    rw [h.bytes, List.flatMap_cons, lineBytes]
    simp
  have reads : ∃ r' : ControlReader, r.readLine = (lineText ([] ++ Text.bytes text), r') ∧
      r'.buffer ++ bytesOf r'.reads = lines.flatMap lineBytes ++ cut ∧ Flows r'.reads :=
    readControlBytes_line h.flows same plain (by simpa using fits)
  obtain ⟨r', read, later, flows⟩ := reads
  rw [List.nil_append, lineText_bytes] at read
  exact ⟨r', read, flows, later, fun text mem => h.writable text (List.mem_cons_of_mem _ mem), h.plain,
    h.fits⟩

theorem readLine_end (h : Carries r [] cut) : r.readLine = (endOfStream cut, ⟨[], []⟩) := by
  have same : r.buffer ++ bytesOf r.reads = cut := h.bytes
  have read : r.readLine = (endOfStream ([] ++ (r.buffer ++ bytesOf r.reads)), ⟨[], []⟩) :=
    readControlBytes_end h.flows (by rw [same]; exact h.plain) (by rw [same]; simpa using h.fits)
  rwa [same] at read

/-- Some reads, one after the other. -/
def readLines : ℕ → ControlReader → List (Except ControlError (Option String))
  | 0, _ => []
  | count + 1, r => r.readLine.1 :: r.readLine.2.readLines count

theorem readLines_carries (h : Carries r lines cut) :
    r.readLines (lines.length + 1) = lines.map (fun text => .ok (some text)) ++ [endOfStream cut] := by
  induction lines generalizing r with
  | nil =>
    rw [List.length_nil, readLines, readLine_end h]
    rfl
  | cons text lines ih =>
    obtain ⟨r', read, later⟩ := readLine_line h
    rw [List.length_cons, readLines, read, ih later]
    rfl

end ControlReader

/-- The lines of the handshake. -/
inductive Written : String → Prop where
  | ready : Written readyLine
  | go : Written goLine
  | abort : Written abortLine
  | done : Written doneLine
  | start (pid : Pid) : Written (startLine pid)

/-- The bytes of an ASCII text are its characters. -/
theorem flatMap_utf8EncodeChar {cs : List Char} (ascii : ∀ c ∈ cs, c.toNat < 128) :
    cs.flatMap String.utf8EncodeChar = cs.map fun c => c.toNat.toUInt8 := by
  induction cs with
  | nil => rfl
  | cons c cs ih =>
    rw [List.flatMap_cons, Update.utf8EncodeChar_ascii (ascii c List.mem_cons_self),
      ih fun c mem => ascii c (List.mem_cons_of_mem _ mem)]
    rfl

/-- A text of printable ASCII characters that is not too long. -/
theorem writable_of_printable {text : String}
    (printable : ∀ c ∈ text.toList, 32 ≤ c.toNat ∧ c.toNat < 128)
    (fits : text.toList.length ≤ controlLineLimit) : Writable text := by
  have bytes : Text.bytes text = text.toList.map fun c => c.toNat.toUInt8 := by
    rw [← flatMap_utf8EncodeChar fun c mem => (printable c mem).2, ← Text.bytes_ofList,
      String.ofList_toList]
  refine ⟨fun mem => ?_, by rw [bytes, List.length_map]; exact fits⟩
  rw [bytes] at mem
  obtain ⟨c, within, same⟩ := List.mem_map.1 mem
  obtain ⟨low, high⟩ := printable c within
  have value := congrArg UInt8.toNat same
  rw [Nat.toUInt8_eq, UInt8.toNat_ofNat', Nat.mod_eq_of_lt (by omega)] at value
  have ten : newline.toNat = 10 := rfl
  omega

theorem writable_of_written {text : String} (written : Written text) : Writable text := by
  cases written with
  | ready | go | abort | done => exact ⟨by decide, by decide⟩
  | start pid =>
    have text : (startLine pid).toList = "START ".toList ++ Nat.toDigits 10 pid.raw := by
      rw [startLine, String.toList_append]
      exact congrArg _ Nat.toList_repr
    have digits : (Nat.toDigits 10 pid.raw).length ≤ 10 :=
      (Nat.length_toDigits_le_iff (by decide) (by decide)).2 (lt_trans pid.bounded (by decide))
    refine writable_of_printable (fun c mem => ?_) ?_
    · rw [text] at mem
      obtain label | digit := List.mem_append.1 mem
      · rw [show "START ".toList = ['S', 'T', 'A', 'R', 'T', ' '] from rfl] at label
        fin_cases label <;> decide
      · have isDigit := Nat.isDigit_of_mem_toDigits (by decide) (by decide) digit
        rw [Char.isDigit, Bool.and_eq_true, decide_eq_true_eq, decide_eq_true_eq] at isDigit
        have low : 48 ≤ c.toNat := isDigit.1
        have high : c.toNat ≤ 57 := isDigit.2
        omega
    · rw [text, List.length_append]
      have label : "START ".toList.length = 6 := by decide
      have limit : controlLineLimit = 128 := rfl
      omega

/-- What a supervisor or a guardian makes of a read. -/
def heard : Except ControlError (Option String) → ControlLine
  | .ok (some text) => .line text
  | .ok none => .eof
  | .error _ => .failed

/-- The reader of bytes is the reader of lines that the lease is proved with, where the peer has closed
its end: a write that was cut is a read that fails. -/
theorem control_lines_agree {r : ControlReader} {lines : List String} {cut : List UInt8}
    (h : Carries r lines cut) :
    readControlLine lines true (lines = [] ∧ cut ≠ []) = some (heard r.readLine.1, lines.tail) := by
  cases lines with
  | nil =>
    rw [ControlReader.readLine_end h]
    by_cases whole : cut = []
    · subst whole
      rfl
    · simp [readControlLine, endOfStream, whole, heard]
  | cons text lines =>
    obtain ⟨r', read, -⟩ := ControlReader.readLine_line h
    rw [read]
    simp [readControlLine, heard]

/-- Whatever the pieces of the stream are, the lines of the handshake are read as they were written, and
then its end, or an error where the last write was cut. -/
theorem control_stream_read {r : ControlReader} {lines : List String} {cut : List UInt8}
    (written : ∀ text ∈ lines, Written text) (flows : Flows r.reads)
    (bytes : r.buffer ++ bytesOf r.reads = lines.flatMap lineBytes ++ cut)
    (plain : newline ∉ cut) (fits : cut.length ≤ controlLineLimit) :
    r.readLines (lines.length + 1) = lines.map (fun text => .ok (some text)) ++ [endOfStream cut] :=
  r.readLines_carries
    ⟨flows, bytes, fun text mem => writable_of_written (written text mem), plain, fits⟩

/-- `READY` and `GO` in three pieces, with a cut `DONE`. -/
theorem control_stream_read_cut :
    ControlReader.readLines 3
        ⟨[82, 69], [some [65, 68], some [89, 10, 71, 79, 10, 68], some [79]]⟩ =
      [.ok (some readyLine), .ok (some goLine), .error .incomplete] :=
  @control_stream_read ⟨[82, 69], [some [65, 68], some [89, 10, 71, 79, 10, 68], some [79]]⟩
    [readyLine, goLine] [68, 79]
    (by simp only [List.mem_cons, List.not_mem_nil, or_false]; rintro text (rfl | rfl) <;> constructor)
    (by simp [Flows]) (by decide) (by decide) (by decide)

end Calcifer.SplitLease
