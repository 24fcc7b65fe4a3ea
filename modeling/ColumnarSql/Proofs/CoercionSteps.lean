/-
Module: ColumnarSql.Proofs.CoercionSteps
Purpose: What every conversion of a value does when it succeeds, said once for
  all that is proved about coercion.
Main exports:
  wholeDigits_le_iff, Decimal.storedAt, toInteger_iff, toDecimal_iff,
  toText_iff, ItemsConverted, coerce_nullable_iff, coerce_scalar_iff,
  coerce_array_iff, coerce_tuple_iff, coerce_namedTuple_iff, coerce_map_iff
-/
import ColumnarSql.ColumnType.Coercion
import ColumnarSql.Proofs.DigitStrings
import Mathlib.Data.List.Forall2

namespace ColumnarSql

open Text

/-! ### NULL -/

namespace ColumnType

open Coercion

/-- A nullable column keeps NULL, and otherwise stores what its inner type
does. -/
theorem coerce_nullable_iff {inner : ColumnType} {value stored : Value} :
    (nullable inner).coerce value = .ok stored ↔
      (value = .null ∧ stored = .null) ∨ (value ≠ .null ∧ inner.coerce value = .ok stored) := by
  cases value <;> simp [coerce, eq_comm]

/-- A scalar column refuses NULL and converts everything else. -/
theorem coerce_scalar_iff {type : Scalar} {value stored : Value} :
    (scalar type).coerce value = .ok stored ↔
      value ≠ .null ∧ toScalar type value = .ok stored := by
  cases value <;> simp [coerce]

end ColumnType

/-! ### Scalars -/

namespace Coercion

/-- An integer is stored exactly if the value denotes one in the range of the
type. -/
theorem toInteger_iff {type : IntegerType} {value stored : Value} :
    toInteger type value = .ok stored ↔
      ∃ n, integerOf? value = some n ∧ type.range.1 ≤ n ∧ n ≤ type.range.2 ∧
        stored = .ofInteger n := by
  rw [toInteger]
  cases integerOf? value with
  | none => simp [unfit]
  | some n =>
      simp only [Bool.or_eq_true, decide_eq_true_eq, Option.some.injEq, exists_eq_left']
      split
      · rename_i outside
        constructor
        · intro impossible
          cases impossible
        · rintro ⟨lower, upper, -⟩
          omega
      · rename_i inside
        simp only [Except.ok.injEq, eq_comm (a := stored)]
        constructor
        · rintro rfl
          exact ⟨by omega, by omega, rfl⟩
        · exact fun facts => facts.2.2

/-- Types of integers hold nothing that 64 bits cannot. -/
theorem range_within (type : IntegerType) :
    -(Int.pow 2 63) ≤ type.range.1 ∧ type.range.2 < Int.pow 2 64 := by
  cases type <;> exact ⟨by decide, by decide⟩

/-- An integer of a column is kept exactly, and it is unsigned only where it is
too large to be signed. -/
theorem ofInteger_cases {type : IntegerType} {n : Int} (lower : type.range.1 ≤ n)
    (upper : n ≤ type.range.2) :
    (∃ i : Int64, Value.ofInteger n = .int i ∧ i.toInt = n) ∨
      ∃ u : UInt64, Value.ofInteger n = .uint u ∧ (u.toNat : Int) = n ∧
        Int64.maxValue.toInt < u.toNat := by
  obtain ⟨least, greatest⟩ := range_within type
  have signedBound : Int.pow 2 63 = 9223372036854775808 := rfl
  have unsignedBound : Int.pow 2 64 = 18446744073709551616 := rfl
  rw [signedBound] at least
  rw [unsignedBound] at greatest
  rw [Value.ofInteger, signedBound]
  split
  · left
    refine ⟨_, rfl, Int64.toInt_ofInt_of_le ?_ ?_⟩
    · omega
    · omega
  · right
    have small : n.toNat < UInt64.size := by
      have size : UInt64.size = 18446744073709551616 := rfl
      omega
    refine ⟨_, rfl, ?_, ?_⟩
    · rw [UInt64.toNat_ofNat_of_lt' small]
      omega
    · have greatestSigned : Int64.maxValue.toInt = 9223372036854775807 := rfl
      rw [UInt64.toNat_ofNat_of_lt' small]
      omega

/-- Counting the digits before the point compares the whole part with a power
of ten. -/
theorem wholeDigits_le_iff {d : Decimal} {allowed : Nat} :
    wholeDigits d ≤ allowed ↔ d.wholePart < 10 ^ allowed := by
  rw [wholeDigits]
  by_cases whole : d.wholePart = 0
  · simp [whole]
  · rw [if_neg (by simpa using whole)]
    cases allowed with
    | zero =>
        have digits := List.length_pos_iff.mpr (digitsOf_ne_nil d.wholePart)
        rw [Nat.pow_zero]
        omega
    | succ allowed => exact length_digitsOf_le_iff (Nat.succ_pos _)

end Coercion

/-- What a column with `scale` fraction digits keeps of a decimal. -/
def Decimal.storedAt (d : Decimal) (scale : Nat) : Decimal :=
  if scale ≤ maxScale then (d.truncateTo scale).growScale scale else d.truncateTo scale

namespace Coercion

/-- A decimal is stored exactly if its digits before the point fit, cut off at
the scale. -/
theorem toDecimal_iff {precision scale : UInt32} {value stored : Value} :
    toDecimal precision scale value = .ok stored ↔
      ∃ d, decimalOf? value = some d ∧
        (d.truncateTo scale.toNat).wholePart < 10 ^ (precision.toNat - scale.toNat) ∧
        stored = .decimal (d.storedAt scale.toNat) := by
  rw [toDecimal]
  cases decimalOf? value with
  | none => simp [unfit]
  | some d =>
      simp only [Option.some.injEq, exists_eq_left', ← wholeDigits_le_iff]
      split
      · rename_i tooLarge
        constructor
        · intro impossible
          cases impossible
        · rintro ⟨fits, -⟩
          omega
      · rename_i fits
        rw [Nat.not_lt] at fits
        rw [Decimal.storedAt]
        split <;> simp [fits, eq_comm]

theorem toScalar_float_iff {width : FloatWidth} {value stored : Value} :
    toScalar (.float width) value = .ok stored ↔
      ∃ x, floatOf? value = some x ∧ stored = .float x := by
  rw [toScalar]
  cases floatOf? value <;> simp [unfit, eq_comm]

theorem toScalar_bool_iff {value stored : Value} :
    toScalar .bool value = .ok stored ↔ ∃ b, boolOf? value = some b ∧ stored = .bool b := by
  rw [toScalar]
  cases boolOf? value <;> simp [unfit, eq_comm]

theorem toScalar_string_iff {declared : Option UInt32} {value stored : Value} :
    toScalar (.string declared) value = .ok stored ↔
      ∃ s, value = .string s ∧ stored = .string s := by
  cases value <;> simp [toScalar, unfit, eq_comm]

/-- A text with a form is stored unchanged, exactly if it has that form. -/
theorem toText_iff {type : Scalar} {test : String → Bool} {fault : String → ValueFault}
    {value stored : Value} :
    toText type test fault value = .ok stored ↔
      ∃ s, value = .string s ∧ test s = true ∧ stored = .string s := by
  cases value with
  | string s =>
      rw [toText]
      split
      · rename_i passes
        simp only [Except.ok.injEq, Value.string.injEq, exists_eq_left', passes, true_and]
        exact eq_comm
      · rename_i fails
        simp [fails]
  | _ => simp [toText, unfit]

/-- Whatever is stored as a date is one. -/
theorem toDate_eq_ok {value stored : Value} (converted : toDate value = .ok stored) :
    ∃ d, stored = .date d := by
  unfold toDate at converted
  split at converted
  · exact ⟨_, (Except.ok.inj converted).symm⟩
  · exact ⟨_, (Except.ok.inj converted).symm⟩
  · split at converted
    · exact ⟨_, (Except.ok.inj converted).symm⟩
    · cases converted
  · cases converted

theorem toDateTime_eq_ok {value stored : Value} (converted : toDateTime value = .ok stored) :
    ∃ moment, stored = .dateTime moment := by
  unfold toDateTime at converted
  split at converted
  · exact ⟨_, (Except.ok.inj converted).symm⟩
  · exact ⟨_, (Except.ok.inj converted).symm⟩
  · split at converted
    · exact ⟨_, (Except.ok.inj converted).symm⟩
    · cases converted
  · cases converted

/-- What an enumeration stores is the name of one of its members. -/
theorem toMember_eq_ok {width : EnumWidth} {members : List (String × Int16)} {value stored : Value}
    (converted : toMember width members value = .ok stored) :
    ∃ m ∈ members, stored = .string m.1 := by
  unfold toMember at converted
  split at converted
  · rename_i m found
    refine ⟨m, ?_, (Except.ok.inj converted).symm⟩
    unfold memberOf? at found
    split at found
    · exact List.mem_of_find?_eq_some found
    · exact List.mem_of_find?_eq_some found
    · cases found
  · cases converted

/-! ### Composites

The items of a composite are converted one by one, and the results stand where
the items stood. -/

theorem map_eq_ok_iff {ε α β : Type} {f : α → β} {result : Except ε α} {b : β} :
    result.map f = .ok b ↔ ∃ a, result = .ok a ∧ b = f a := by
  cases result <;> simp [Except.map, eq_comm]

/-- A list is converted exactly if each item is, and the results keep their
places. -/
theorem collect_iff_forall₂ {ε α β : Type} {step : α → Except ε β} {items : List α}
    {kept : List β} :
    collect step items = .ok kept ↔
      List.Forall₂ (fun item result => step item = .ok result) items kept := by
  rw [collect_eq_ok_iff, ← List.forall₂_eq_eq_eq, List.forall₂_map_left_iff,
    List.forall₂_map_right_iff]

/-- An entry is converted exactly if its key and its value are. -/
theorem toEntry_iff {key value : Value → Except ValueFault Value} {entry stored : Value × Value} :
    toEntry key value entry = .ok stored ↔
      key entry.1 = .ok stored.1 ∧ value entry.2 = .ok stored.2 := by
  obtain ⟨k, v⟩ := stored
  rw [toEntry]
  cases key entry.1 with
  | error fault => simp
  | ok convertedKey => cases value entry.2 <;> simp

theorem consItem_iff {first : Except ValueFault Value} {rest : Except ValueFault (List Value)}
    {kept : List Value} :
    consItem first rest = .ok kept ↔
      ∃ item items, first = .ok item ∧ rest = .ok items ∧ kept = item :: items := by
  cases first with
  | error fault => simp [consItem]
  | ok item => cases rest <;> simp [consItem, eq_comm]

end Coercion

namespace ColumnType

open Coercion

/-- As many items as types, and every item converted for the type at its
place. -/
inductive ItemsConverted : List ColumnType → List Value → List Value → Prop where
  | nil : ItemsConverted [] [] []
  | cons {type : ColumnType} {types : List ColumnType} {item result : Value}
      {items results : List Value} (first : type.coerce item = .ok result)
      (others : ItemsConverted types items results) :
      ItemsConverted (type :: types) (item :: items) (result :: results)

/-- Items are converted type by type exactly if there are as many of them as
types and each conversion succeeds. -/
theorem itemsConverted_iff {types : List ColumnType} {items kept : List Value} :
    ItemsConverted types items kept ↔
      items.length = types.length ∧ coerceItems types items = .ok kept := by
  induction types generalizing items kept with
  | nil =>
      constructor
      · rintro ⟨⟩
        exact ⟨rfl, rfl⟩
      · rintro ⟨short, converted⟩
        cases List.length_eq_zero_iff.mp short
        cases converted
        exact .nil
  | cons type types inductionHypothesis =>
      constructor
      · rintro (_ | ⟨first, others⟩)
        obtain ⟨short, converted⟩ := inductionHypothesis.mp others
        exact ⟨congrArg (· + 1) short, consItem_iff.mpr ⟨_, _, first, converted, rfl⟩⟩
      · rintro ⟨short, converted⟩
        cases items with
        | nil => cases short
        | cons item items =>
            obtain ⟨_, _, first, others, rfl⟩ := consItem_iff.mp converted
            exact .cons first (inductionHypothesis.mpr ⟨Nat.succ.inj short, others⟩)

/-- The names of tuple elements play no part. -/
theorem coerceElements_eq (elements : List (String × ColumnType)) (items : List Value) :
    coerceElements elements items = coerceItems (elements.map Prod.snd) items := by
  induction elements generalizing items with
  | nil => cases items <;> rfl
  | cons element elements inductionHypothesis =>
      obtain ⟨name, type⟩ := element
      cases items with
      | nil => rfl
      | cons item items =>
          rw [coerceElements, inductionHypothesis, List.map_cons, coerceItems]

variable {inner key val : ColumnType} {types : List ColumnType}
  {elements : List (String × ColumnType)} {value stored : Value}

/-- An array is stored exactly if each of its items is. -/
theorem coerce_array_iff :
    (array inner).coerce value = .ok stored ↔
      ∃ items kept, value = .array items ∧ stored = .array kept ∧
        List.Forall₂ (fun item result => inner.coerce item = .ok result) items kept := by
  cases value with
  | array items => simp [coerce, map_eq_ok_iff, collect_iff_forall₂, and_comm]
  | _ => simp [coerce]

/-- A tuple is stored exactly if it has an item for each type and each item is
stored. -/
theorem coerce_tuple_iff :
    (tuple types).coerce value = .ok stored ↔
      ∃ items kept, value = .tuple items ∧ stored = .tuple kept ∧
        ItemsConverted types items kept := by
  cases value with
  | tuple items =>
      rw [coerce]
      by_cases fits : items.length = types.length
      · simp [fits, map_eq_ok_iff, itemsConverted_iff, and_comm]
      · simp [fits, Ne.symm fits, itemsConverted_iff]
  | _ => simp [coerce]

/-- A tuple with names is converted as one without. -/
theorem coerce_namedTuple_iff :
    (namedTuple elements).coerce value = .ok stored ↔
      (tuple (elements.map Prod.snd)).coerce value = .ok stored := by
  rw [coerce_tuple_iff]
  cases value with
  | tuple items =>
      rw [coerce]
      by_cases fits : items.length = elements.length
      · simp [fits, map_eq_ok_iff, coerceElements_eq, itemsConverted_iff, and_comm]
      · simp [fits, Ne.symm fits, itemsConverted_iff]
  | _ => simp [coerce]

/-- A map is stored exactly if the key and the value of each entry are. -/
theorem coerce_map_iff :
    (map key val).coerce value = .ok stored ↔
      ∃ entries kept, value = .map entries ∧ stored = .map kept ∧
        List.Forall₂ (fun entry result => key.coerce entry.1 = .ok result.1 ∧
          val.coerce entry.2 = .ok result.2) entries kept := by
  cases value with
  | map entries => simp [coerce, map_eq_ok_iff, collect_iff_forall₂, toEntry_iff, and_comm]
  | _ => simp [coerce]

end ColumnType

end ColumnarSql
