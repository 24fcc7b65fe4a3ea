/-
Module: ColumnarSql.Proofs.BytePositions
Purpose: Places in a text as positions in its UTF-8 form.
Main exports:
  utf8ByteSize_eq_byteLength, isValid_byteLength, bytePosition, ByteSlice,
  byteSlice_append
-/
import ColumnarSql.Text.Blank

namespace ColumnarSql.Text

/-!
Positions are counted in bytes of the UTF-8 form, while texts are lists of
characters.  A position is valid if it is the byte length of a start of the
text: it lies between two characters and never inside of one.
-/

/-- The length in bytes is the size of the encoded string. -/
theorem utf8ByteSize_eq_byteLength (s : List Char) :
    (String.ofList s).utf8ByteSize = byteLength s := by
  induction s with
  | nil => rfl
  | cons c rest inductionHypothesis =>
      rw [← List.singleton_append, String.ofList_append, String.utf8ByteSize_append,
        inductionHypothesis, byteLength_append, ← String.singleton_eq_ofList,
        String.utf8ByteSize_singleton]
      rfl

/-- The length in bytes counts the bytes of the encoding. -/
theorem byteLength_eq_size (s : List Char) : byteLength s = s.utf8Encode.size := by
  rw [← utf8ByteSize_eq_byteLength, ← String.size_toByteArray, String.toByteArray_ofList]

/-- The end of any start of a text is a position between two characters. -/
theorem isValid_byteLength (before after : List Char) :
    (String.Pos.Raw.mk (byteLength before)).IsValid (String.ofList (before ++ after)) := by
  rw [String.ofList_append, ← utf8ByteSize_eq_byteLength]
  exact String.Pos.Raw.isValid_rawEndPos.append_right (String.ofList after)

theorem byteLength_le {before after : List Char} :
    byteLength before ≤ byteLength (before ++ after) := by
  rw [byteLength_append]
  exact Nat.le_add_right _ _

/-- The byte position behind the first `place` characters of a text. -/
def bytePosition (s : List Char) (place : Nat) : Nat :=
  byteLength (s.take place)

/-- The byte position behind a first part is the length of that part. -/
theorem bytePosition_append (before after : List Char) :
    bytePosition (before ++ after) before.length = byteLength before := by
  rw [bytePosition, List.take_left]

/-- From one byte to another a text can be cut, and what is cut out is `part`. -/
structure ByteSlice (s : List Char) (start stop : Nat) (part : List Char) : Prop where
  ordered : start ≤ stop
  startValid : (String.Pos.Raw.mk start).IsValid (String.ofList s)
  stopValid : (String.Pos.Raw.mk stop).IsValid (String.ofList s)
  spells : (String.ofList s).toByteArray.extract start stop = part.utf8Encode

/-- A part of a text is cut out between its own two ends. -/
theorem byteSlice_append (before part after : List Char) :
    ByteSlice (before ++ (part ++ after)) (byteLength before) (byteLength (before ++ part)) part where
  ordered := byteLength_le
  startValid := isValid_byteLength before (part ++ after)
  stopValid := by
    rw [← List.append_assoc]
    exact isValid_byteLength (before ++ part) after
  spells := by
    rw [String.toByteArray_ofList, List.utf8Encode_append, List.utf8Encode_append,
      byteLength_append, byteLength_eq_size, byteLength_eq_size]
    calc
      (before.utf8Encode ++ (part.utf8Encode ++ after.utf8Encode)).extract
          (before.utf8Encode.size + 0) (before.utf8Encode.size + part.utf8Encode.size) =
        (part.utf8Encode ++ after.utf8Encode).extract 0 part.utf8Encode.size :=
          ByteArray.extract_append_size_add
      _ = part.utf8Encode := ByteArray.extract_append_eq_left rfl

end ColumnarSql.Text
