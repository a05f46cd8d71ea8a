import Mathlib

/-!
# Exact codecs

`Inverse encode decode` says that a fallible decoder accepts exactly the encodings of a fallible
encoder and gives back what was encoded. The big-endian bytes of a number (`bigEndian`,
`ofBigEndian`) are such a pair for every width.
-/

namespace Codec

/-! ## Inverses -/

section

variable {α β ε ε' : Type}

/-- `decode` undoes `encode`, and accepts nothing else. -/
def Inverse (encode : α → Except ε β) (decode : β → Except ε' α) : Prop :=
  ∀ a b, decode b = .ok a ↔ encode a = .ok b

/-- A decoder of the entries of a table. -/
def Table (encode : α → β) (decode : β → Except ε' α) : Prop :=
  ∀ a b, decode b = .ok a ↔ encode a = b

theorem Table.of {encode : α → β} {decode : β → Except ε' α}
    (decode_encode : ∀ a, decode (encode a) = .ok a)
    (encode_of_decode : ∀ a b, decode b = .ok a → encode a = b) : Table encode decode := by
  intro a b
  refine ⟨encode_of_decode a b, ?_⟩
  rintro rfl
  exact decode_encode a

end

/-! ## Big-endian numbers -/

/-- The last `width` bytes of a number, the most significant first. -/
def bigEndian : ℕ → ℕ → List UInt8
  | 0, _ => []
  | width + 1, n => bigEndian width (n / 256) ++ [UInt8.ofNat n]

/-- The number with given bytes. -/
def ofBigEndian (bytes : List UInt8) : ℕ := bytes.foldl (fun n byte => n * 256 + byte.toNat) 0

@[simp] theorem length_bigEndian (width n : ℕ) : (bigEndian width n).length = width := by
  induction width generalizing n with
  | zero => rfl
  | succ width ih => simp [bigEndian, ih]

theorem ofBigEndian_concat (bytes : List UInt8) (byte : UInt8) :
    ofBigEndian (bytes ++ [byte]) = ofBigEndian bytes * 256 + byte.toNat := by
  simp [ofBigEndian]

theorem ofBigEndian_lt (bytes : List UInt8) : ofBigEndian bytes < 256 ^ bytes.length := by
  induction bytes using List.reverseRecOn with
  | nil => simp [ofBigEndian]
  | append_singleton bytes byte ih =>
    have hbyte : byte.toNat < 256 := byte.toNat_lt
    rw [ofBigEndian_concat, List.length_append, List.length_singleton, pow_succ]
    omega

/-- A number that fits is read back. -/
theorem ofBigEndian_bigEndian {width n : ℕ} (h : n < 256 ^ width) :
    ofBigEndian (bigEndian width n) = n := by
  induction width generalizing n with
  | zero =>
    rw [pow_zero] at h
    have zero : n = 0 := by omega
    rw [zero]
    rfl
  | succ width ih =>
    have fits : n / 256 < 256 ^ width := by
      rw [pow_succ] at h
      omega
    rw [bigEndian, ofBigEndian_concat, ih fits, UInt8.toNat_ofNat']
    omega

/-- Bytes are the bytes of their number. -/
theorem bigEndian_ofBigEndian (bytes : List UInt8) :
    bigEndian bytes.length (ofBigEndian bytes) = bytes := by
  induction bytes using List.reverseRecOn with
  | nil => rfl
  | append_singleton bytes byte ih =>
    have hbyte : byte.toNat < 256 := byte.toNat_lt
    have high : (ofBigEndian bytes * 256 + byte.toNat) / 256 = ofBigEndian bytes := by omega
    have low : UInt8.ofNat (ofBigEndian bytes * 256 + byte.toNat) = byte := by
      apply UInt8.toNat_inj.1
      rw [UInt8.toNat_ofNat']
      omega
    rw [List.length_append, List.length_singleton, bigEndian, ofBigEndian_concat, high, low, ih]

theorem bigEndian_of_length {bytes : List UInt8} {width : ℕ} (h : bytes.length = width) :
    bigEndian width (ofBigEndian bytes) = bytes := by
  rw [← h]
  exact bigEndian_ofBigEndian bytes

end Codec
