/-
Module: ColumnarSql.Proofs.PercentSigns
Purpose: Counting and doubling percent signs in texts and in literals.
Main exports:
  percents, percentsIn, doubledText, DoublesText, Value.literal_doubles
-/
import ColumnarSql.Proofs.NumeralTexts
import ColumnarSql.Proofs.TypeRoundTrip

namespace ColumnarSql

open Text

/-! ### Counting percent signs -/

/-- The number of percent signs in a text. -/
def percents (s : String) : Nat :=
  s.toList.count '%'

/-- The number of percent signs in some texts. -/
def percentsIn : List String → Nat
  | [] => 0
  | s :: texts => percents s + percentsIn texts

/-- A text with its percent signs doubled. -/
def doubledText (s : String) : String :=
  String.ofList (doublePercents s.toList)

@[simp] theorem percents_append (s t : String) : percents (s ++ t) = percents s + percents t := by
  simp [percents]

@[simp] theorem percentsIn_nil : percentsIn [] = 0 := rfl

@[simp] theorem percentsIn_cons (s : String) (texts : List String) :
    percentsIn (s :: texts) = percents s + percentsIn texts := rfl

@[simp] theorem percentsIn_append (texts texts' : List String) :
    percentsIn (texts ++ texts') = percentsIn texts + percentsIn texts' := by
  induction texts with
  | nil => simp
  | cons s texts inductionHypothesis =>
      rw [List.cons_append, percentsIn_cons, percentsIn_cons, inductionHypothesis, Nat.add_assoc]

/-- The count is zero exactly if no percent sign occurs. -/
theorem percents_eq_zero_iff {s : String} : percents s = 0 ↔ '%' ∉ s.toList :=
  List.count_eq_zero

/-- Texts have no percent signs together if none of them has one. -/
theorem percentsIn_eq_zero_iff {texts : List String} :
    percentsIn texts = 0 ↔ ∀ s ∈ texts, '%' ∉ s.toList := by
  induction texts with
  | nil => simp
  | cons s rest inductionHypothesis =>
      rw [percentsIn_cons, Nat.add_eq_zero_iff, percents_eq_zero_iff, inductionHypothesis,
        List.forall_mem_cons]

/-- Doubling goes character by character. -/
theorem doublePercents_append (s t : List Char) :
    doublePercents (s ++ t) = doublePercents s ++ doublePercents t := by
  induction s with
  | nil => rfl
  | cons c rest inductionHypothesis =>
      by_cases percent : c = '%'
      · simp [doublePercents, percent, inductionHypothesis]
      · simp [doublePercents, percent, inductionHypothesis]

/-- Doubling changes nothing where there is nothing to double. -/
theorem doublePercents_eq_self {s : List Char} (free : '%' ∉ s) : doublePercents s = s := by
  induction s with
  | nil => rfl
  | cons c rest inductionHypothesis =>
      simp only [List.mem_cons, not_or] at free
      simp [doublePercents, Ne.symm free.1, inductionHypothesis free.2]

/-- Doubling doubles the number of percent signs. -/
theorem count_doublePercents (s : List Char) :
    (doublePercents s).count '%' = 2 * s.count '%' := by
  induction s with
  | nil => rfl
  | cons c rest inductionHypothesis =>
      by_cases percent : c = '%'
      · simp [doublePercents, percent, inductionHypothesis]
        omega
      · simp [doublePercents, percent, inductionHypothesis]

/-- Texts in a row are doubled one by one. -/
theorem doubledText_append (s t : String) : doubledText (s ++ t) = doubledText s ++ doubledText t := by
  simp [doubledText, doublePercents_append]

theorem doubledText_eq_self {s : String} (free : percents s = 0) : doubledText s = s := by
  rw [doubledText, doublePercents_eq_self (percents_eq_zero_iff.mp free), String.ofList_toList]

/-- A doubled text has twice as many percent signs. -/
theorem percents_doubledText (s : String) : percents (doubledText s) = 2 * percents s := by
  simp [percents, doubledText, count_doublePercents]

/-- Two writings of one text, without and with doubling.  All percent signs are
doubled but those in `names`. -/
structure DoublesText (names : List String) (s t : String) : Prop where
  count : percents t + percentsIn names = 2 * percents s
  doubles : percentsIn names = 0 → t = doubledText s

namespace DoublesText

variable {xs ys : List String} {s t s' t' : String}

/-- A text that is the same in both writings lacks the doubling of its own
percent signs. -/
theorem verbatim {names : List String} (same : percents s = percentsIn names) :
    DoublesText names s s := by
  refine ⟨by omega, ?_⟩
  intro free
  rw [doubledText_eq_self (same.trans free)]

/-- A fixed text without percent signs needs no doubling. -/
theorem fixed (free : percents s = 0) : DoublesText [] s s :=
  verbatim free

/-- A text against its doubled form: nothing lacks the doubling. -/
theorem ofDoubled (s : String) : DoublesText [] s (doubledText s) :=
  ⟨by rw [percents_doubledText]; rfl, fun _ => rfl⟩

/-- Two texts in a row lack the doubling that either of them lacks. -/
theorem append (first : DoublesText xs s t) (second : DoublesText ys s' t') :
    DoublesText (xs ++ ys) (s ++ s') (t ++ t') := by
  refine ⟨?_, ?_⟩
  · have firstCount := first.count
    have secondCount := second.count
    rw [percents_append, percents_append, percentsIn_append]
    omega
  · intro free
    rw [percentsIn_append] at free
    rw [first.doubles (by omega), second.doubles (by omega), doubledText_append]

theorem after (first : DoublesText xs s t) (second : DoublesText [] s' t') :
    DoublesText xs (s ++ s') (t ++ t') := by
  have whole := first.append second
  rwa [List.append_nil] at whole

/-- Joined texts lack the doubling that their items lack, if the separator has
no percent sign. -/
theorem joinMap {α : Type} {separator : String} (free : percents separator = 0)
    {names : α → List String} {write write' : α → String}
    (doubles : ∀ item, DoublesText (names item) (write item) (write' item)) :
    ∀ list : List α, DoublesText (list.flatMap names) (joinWith separator (list.map write))
      (joinWith separator (list.map write'))
  | [] => fixed rfl
  | [item] => by simpa [joinWith] using doubles item
  | item :: next :: rest =>
      ((doubles item).after (fixed free)).append (joinMap free doubles (next :: rest))

end DoublesText

/-! ### Literals

Numbers and dates have no percent signs, and strings double theirs. -/

/-- Numbers and dates have no percent signs. -/
theorem percents_of_numerals {s : String} (numerals : Numerals s.toList) : percents s = 0 :=
  percents_eq_zero_iff.mpr (numerals.not_mem rfl)

namespace Value

mutual

/-- A literal doubles every percent sign in it. -/
theorem literal_doubles : ∀ value : Value,
    DoublesText [] (value.literal false) (value.literal true)
  | .null => .fixed rfl
  | .bool b => .fixed (by cases b <;> rfl)
  | .int n => .fixed (percents_of_numerals (.int _))
  | .uint n => .fixed (percents_of_numerals (.nat _))
  | .float x => .fixed (percents_of_numerals (.floatLiteral x))
  | .string s => by
      have quoted := DoublesText.ofDoubled (quotedString s)
      rwa [doubledText, quotedString, String.toList_ofList] at quoted
  | .decimal d => .fixed (percents_of_numerals (.decimal d))
  | .date d => .fixed (by
      have date : '%' ∉ d.chars := (Numerals.date d).not_mem rfl
      rw [percents_eq_zero_iff, literal, Date.text]
      simp [date])
  | .dateTime moment => .fixed (by
      have date : '%' ∉ moment.date.chars := (Numerals.date moment.date).not_mem rfl
      have time : '%' ∉ moment.time.chars := (Numerals.time moment.time).not_mem rfl
      rw [percents_eq_zero_iff, literal, DateTime.text]
      simp [date, time])
  | .array items => ((DoublesText.fixed rfl).append (literals_doubles items)).append (.fixed rfl)
  | .tuple [] => .fixed rfl
  | .tuple [item] => ((DoublesText.fixed rfl).append (literal_doubles item)).append (.fixed rfl)
  | .tuple (item :: next :: rest) =>
      ((DoublesText.fixed rfl).append (literals_doubles (item :: next :: rest))).append (.fixed rfl)
  | .map entries =>
      ((DoublesText.fixed rfl).append (entryLiterals_doubles entries)).append (.fixed rfl)

/-- The same for the joined literals of some values. -/
theorem literals_doubles : ∀ items : List Value,
    DoublesText [] (joinWith ", " (literals false items)) (joinWith ", " (literals true items))
  | [] => .fixed rfl
  | [item] => literal_doubles item
  | item :: next :: rest =>
      ((literal_doubles item).append (.fixed rfl)).append (literals_doubles (next :: rest))

/-- The same for the joined entries of a map. -/
theorem entryLiterals_doubles : ∀ entries : List (Value × Value),
    DoublesText [] (joinWith ", " (entryLiterals false entries))
      (joinWith ", " (entryLiterals true entries))
  | [] => .fixed rfl
  | [(key, value)] => ((literal_doubles key).append (.fixed rfl)).append (literal_doubles value)
  | (key, value) :: next :: rest =>
      ((literal_doubles key).append (.fixed rfl)).append
        (((literal_doubles value).append (.fixed rfl)).append (entryLiterals_doubles (next :: rest)))

end

end Value

end ColumnarSql
