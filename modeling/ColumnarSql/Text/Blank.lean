/-
Module: ColumnarSql.Text.Blank
Purpose: Blank characters, trimming, splitting into words, byte lengths.
Main exports:
  isBlank, isSpacing, isWordChar, trim, trimmed, words, byteLength, joinWith
-/

namespace ColumnarSql.Text

/-!
Two notions of blank meet in SQL texts.  Trimming and word splitting follow
the Unicode property White_Space.  The layout inside a type name is narrower:
only space, tab, carriage return and line feed separate its parts.
-/

/-- The Unicode property White_Space. -/
def isBlank (c : Char) : Bool :=
  let n := c.toNat
  (9 ≤ n && n ≤ 13) || n == 0x20 || n == 0x85 || n == 0xA0 || n == 0x1680 ||
    (0x2000 ≤ n && n ≤ 0x200A) || n == 0x2028 || n == 0x2029 || n == 0x202F ||
    n == 0x205F || n == 0x3000

/-- The four characters that may stand freely between the parts of a type
name. -/
def isSpacing (c : Char) : Bool :=
  c == ' ' || c == '\t' || c == '\r' || c == '\n'

/-- ASCII letters, ASCII digits and the underscore: the characters of a plain
name. -/
def isWordChar (c : Char) : Bool :=
  c.isAlphanum || c == '_'

/-- Spacing is blank. -/
theorem isBlank_of_isSpacing {c : Char} (h : isSpacing c = true) : isBlank c = true := by
  simp only [isSpacing, Bool.or_eq_true, beq_iff_eq] at h
  rcases h with ((h | h) | h) | h <;> subst h <;> decide

/-- The text without the blanks at its start. -/
def trimStart (s : List Char) : List Char :=
  s.dropWhile isBlank

/-- The text without the blanks at its end. -/
def trimEnd (s : List Char) : List Char :=
  (s.reverse.dropWhile isBlank).reverse

/-- The text without the blanks at either end. -/
def trim (s : List Char) : List Char :=
  trimEnd (trimStart s)

/-- `trim` on strings. -/
def trimmed (s : String) : String :=
  String.ofList (trim s.toList)

/-- Collect maximal runs of characters that are not blank; `word` is the run
being read. -/
def wordsFrom (word : List Char) : List Char → List (List Char)
  | [] => if word.isEmpty then [] else [word]
  | c :: rest =>
      if isBlank c then
        if word.isEmpty then wordsFrom [] rest else word :: wordsFrom [] rest
      else
        wordsFrom (word ++ [c]) rest

/-- The words of a text: its maximal runs of characters that are not blank. -/
def words (s : List Char) : List (List Char) :=
  wordsFrom [] s

/-- Length of a text in bytes of its UTF-8 form, the unit of every reported
position. -/
def byteLength : List Char → Nat
  | [] => 0
  | c :: rest => c.utf8Size + byteLength rest

@[simp] theorem byteLength_append (a b : List Char) :
    byteLength (a ++ b) = byteLength a + byteLength b := by
  induction a with
  | nil => simp [byteLength]
  | cons c rest ih => simp [byteLength, ih, Nat.add_assoc]

/-- Write strings one after the other with `separator` between neighbours. -/
def joinWith (separator : String) : List String → String
  | [] => ""
  | [item] => item
  | item :: next :: rest => item ++ separator ++ joinWith separator (next :: rest)

/-- Cut a text at every occurrence of a character; the pieces exclude it, and
there is one more piece than there are occurrences. -/
def splitAtChar (mark : Char) : List Char → List (List Char)
  | [] => [[]]
  | c :: rest =>
      if c == mark then
        [] :: splitAtChar mark rest
      else
        match splitAtChar mark rest with
        | [] => [[c]]
        | piece :: pieces => (c :: piece) :: pieces

/-- The text before and after the first occurrence of a character. -/
def splitOnce (mark : Char) : List Char → Option (List Char × List Char)
  | [] => none
  | c :: rest =>
      if c == mark then
        some ([], rest)
      else
        (splitOnce mark rest).map fun (before, after) => (c :: before, after)

/-- Remove a given start from a text. -/
def dropStart? : List Char → List Char → Option (List Char)
  | [], s => some s
  | _ :: _, [] => none
  | p :: ps, c :: cs => if p == c then dropStart? ps cs else none

/-- Remove a given end from a text. -/
def dropEnd? (suffix s : List Char) : Option (List Char) :=
  (dropStart? suffix.reverse s.reverse).map List.reverse

/-- The text before and after the last occurrence of `mark`. -/
def splitAtLast (mark : List Char) : List Char → Option (List Char × List Char)
  | [] => if mark.isEmpty then some ([], []) else none
  | c :: rest =>
      match splitAtLast mark rest with
      | some (before, after) => some (c :: before, after)
      | none => (dropStart? mark (c :: rest)).map fun after => ([], after)

/-- Whether every character is a word character and there is at least one. -/
def isWord (s : List Char) : Bool :=
  !s.isEmpty && s.all isWordChar

end ColumnarSql.Text
