/-
Module: ColumnarSql.Proofs.Conformance
Purpose: What it means that a value is of the type of a column, and that
  coercion yields only such values, item for item.
Main exports:
  Scalar.Holds, ColumnType.Conforms, ColumnType.KeepsItems,
  ColumnType.coerce_conforms
-/
import ColumnarSql.Proofs.AddressForms
import ColumnarSql.Proofs.CoercionSteps
import ColumnarSql.Proofs.DecimalScaling

namespace ColumnarSql

open Text Network

/-! ### Values of a type -/

/-- An integer in the range of the type.  It is unsigned only where it is too
large to be signed. -/
def IntegerType.Holds (type : IntegerType) : Value → Prop
  | .int n => type.range.1 ≤ n.toInt ∧ n.toInt ≤ type.range.2
  | .uint n => Int64.maxValue.toInt < n.toNat ∧ (n.toNat : Int) ≤ type.range.2
  | _ => False

/-- A number with at most `precision` digits, `scale` of them behind the point.
If all digits stand behind the point, there is none before it. -/
structure Decimal.Fits (precision scale : Nat) (d : Decimal) : Prop where
  whole : ⌊|d.toRat|⌋₊ < 10 ^ (precision - scale)
  fraction : ∃ k : ℤ, d.toRat * 10 ^ scale = k

/-- The values of a scalar type. -/
def Scalar.Holds : Scalar → Value → Prop
  | .integer type, value => type.Holds value
  | .float _, value => ∃ x, value = .float x
  | .bool, value => ∃ b, value = .bool b
  | .string _, value => ∃ s, value = .string s
  | .fixedString length, value => ∃ s, value = .string s ∧ s.utf8ByteSize ≤ length.toNat
  | .uuid, value => ∃ s, value = .string s ∧ UuidText s.toList
  | .ipv4, value => ∃ s, value = .string s ∧ IPv4Text s.toList
  | .ipv6, value => ∃ s, value = .string s ∧ IPv6Text s.toList
  | .date, value => ∃ d, value = .date d
  | .date32, value => ∃ d, value = .date d
  | .dateTime _, value => ∃ moment, value = .dateTime moment
  | .dateTime64 _ _, value => ∃ moment, value = .dateTime moment
  | .decimal precision scale, value =>
      ∃ d, value = .decimal d ∧ d.Fits precision.toNat scale.toNat
  | .enumeration _ members, value => ∃ m ∈ members, value = .string m.1

namespace ColumnType

mutual

/-- The values of a type. -/
def Conforms : ColumnType → Value → Prop
  | .scalar type, value => type.Holds value
  | .nullable inner, value => value = .null ∨ Conforms inner value
  | .lowCardinality inner, value => Conforms inner value
  | .array inner, value => ∃ items, value = .array items ∧ ∀ item ∈ items, Conforms inner item
  | .tuple types, value => ∃ items, value = .tuple items ∧ ConformItems types items
  | .namedTuple elements, value => ∃ items, value = .tuple items ∧ ConformElements elements items
  | .map key val, value =>
      ∃ entries, value = .map entries ∧
        ∀ entry ∈ entries, Conforms key entry.1 ∧ Conforms val entry.2

/-- One value for each type. -/
def ConformItems : List ColumnType → List Value → Prop
  | [], [] => True
  | type :: types, item :: items => Conforms type item ∧ ConformItems types items
  | _, _ => False

/-- One value for each element of a tuple with names. -/
def ConformElements : List (String × ColumnType) → List Value → Prop
  | [], [] => True
  | (_, type) :: elements, item :: items => Conforms type item ∧ ConformElements elements items
  | _, _ => False

end

/-- Every item of a composite value is converted for its own type, and the
results stand where the items stood. -/
def KeepsItems : ColumnType → Value → Value → Prop
  | .scalar _, _, _ => True
  | .nullable inner, value, stored =>
      (value = .null ∧ stored = .null) ∨ KeepsItems inner value stored
  | .lowCardinality inner, value, stored => KeepsItems inner value stored
  | .array inner, value, stored =>
      ∃ items kept, value = .array items ∧ stored = .array kept ∧
        List.Forall₂ (fun item result => inner.coerce item = .ok result) items kept
  | .tuple types, value, stored =>
      ∃ items kept, value = .tuple items ∧ stored = .tuple kept ∧ ItemsConverted types items kept
  | .namedTuple elements, value, stored =>
      ∃ items kept, value = .tuple items ∧ stored = .tuple kept ∧
        ItemsConverted (elements.map Prod.snd) items kept
  | .map key val, value, stored =>
      ∃ entries kept, value = .map entries ∧ stored = .map kept ∧
        List.Forall₂ (fun entry result => key.coerce entry.1 = .ok result.1 ∧
          val.coerce entry.2 = .ok result.2) entries kept

end ColumnType

/-! ### Scalars -/

namespace Coercion

/-- A stored integer is in the range of its type. -/
theorem toInteger_holds {type : IntegerType} {value stored : Value}
    (converted : toInteger type value = .ok stored) : type.Holds stored := by
  obtain ⟨n, -, lower, upper, rfl⟩ := toInteger_iff.mp converted
  rcases ofInteger_cases lower upper with ⟨i, kept, same⟩ | ⟨u, kept, same, large⟩
  · rw [kept, IntegerType.Holds, same]
    exact ⟨lower, upper⟩
  · rw [kept, IntegerType.Holds, same]
    exact ⟨same ▸ large, upper⟩

/-- A stored decimal has no more digits than its type. -/
theorem toDecimal_fits {precision scale : UInt32} {value stored : Value}
    (converted : toDecimal precision scale value = .ok stored) :
    ∃ d, stored = .decimal d ∧ d.Fits precision.toNat scale.toNat := by
  obtain ⟨d, -, fits, rfl⟩ := toDecimal_iff.mp converted
  have short := d.scale_truncateTo_le scale.toNat
  refine ⟨_, rfl, ?_⟩
  rw [Decimal.storedAt]
  -- Zeros behind the point change neither the number nor its whole part.
  split
  · constructor
    · rw [Decimal.floor_abs_toRat, Decimal.wholePart_growScale]
      exact fits
    · exact Decimal.toRat_mul_pow_eq_intCast (Decimal.scale_growScale_le short)
  · constructor
    · rw [Decimal.floor_abs_toRat]
      exact fits
    · exact Decimal.toRat_mul_pow_eq_intCast short

/-- What is stored in a scalar column is a value of its type. -/
theorem toScalar_holds {type : Scalar} {value stored : Value}
    (converted : toScalar type value = .ok stored) : type.Holds stored := by
  cases type with
  | integer type => exact toInteger_holds converted
  | float width =>
      obtain ⟨x, -, rfl⟩ := toScalar_float_iff.mp converted
      exact ⟨x, rfl⟩
  | bool =>
      obtain ⟨b, -, rfl⟩ := toScalar_bool_iff.mp converted
      exact ⟨b, rfl⟩
  | string declared =>
      obtain ⟨s, -, rfl⟩ := toScalar_string_iff.mp converted
      exact ⟨s, rfl⟩
  | fixedString length =>
      obtain ⟨s, -, passes, rfl⟩ := toText_iff.mp converted
      exact ⟨s, rfl, of_decide_eq_true passes⟩
  | uuid =>
      obtain ⟨s, -, passes, rfl⟩ := toText_iff.mp converted
      exact ⟨s, rfl, uuidText_of_isUuid passes⟩
  | ipv4 =>
      obtain ⟨s, -, passes, rfl⟩ := toText_iff.mp converted
      exact ⟨s, rfl, ipv4Text_of_isIPv4 passes⟩
  | ipv6 =>
      obtain ⟨s, -, passes, rfl⟩ := toText_iff.mp converted
      exact ⟨s, rfl, ipv6Text_of_isIPv6 passes⟩
  | date => exact toDate_eq_ok converted
  | date32 => exact toDate_eq_ok converted
  | dateTime zone => exact toDateTime_eq_ok converted
  | dateTime64 precision zone => exact toDateTime_eq_ok converted
  | decimal precision scale => exact toDecimal_fits converted
  | enumeration width members => exact toMember_eq_ok converted

end Coercion

/-! ### Composites -/

namespace ColumnType

open Coercion

/-- Every result of a conversion item by item comes from some item. -/
theorem forall_mem_of_converted {α β : Type} {Converted : α → β → Prop} {Property : β → Prop}
    {items : List α} {kept : List β} (converted : List.Forall₂ Converted items kept)
    (holds : ∀ item result, Converted item result → Property result) :
    ∀ result ∈ kept, Property result := by
  induction converted with
  | nil => simp
  | cons first _ inductionHypothesis =>
      intro result member
      rcases List.mem_cons.mp member with rfl | later
      · exact holds _ _ first
      · exact inductionHypothesis result later

mutual

/-- What coercion stores is of the type of the column. -/
theorem conforms_of_coerce : ∀ (type : ColumnType) {value stored : Value},
    type.coerce value = .ok stored → type.Conforms stored
  | .scalar type, _, _, converted => by
      rw [Conforms]
      exact toScalar_holds (coerce_scalar_iff.mp converted).2
  | .nullable inner, _, _, converted => by
      rw [Conforms]
      rcases coerce_nullable_iff.mp converted with ⟨-, isNull⟩ | ⟨-, converted⟩
      · exact .inl isNull
      · exact .inr (conforms_of_coerce inner converted)
  | .lowCardinality inner, _, _, converted => by
      rw [Conforms]
      exact conforms_of_coerce inner (by simpa [coerce] using converted)
  | .array inner, _, _, converted => by
      obtain ⟨items, kept, -, rfl, itemwise⟩ := coerce_array_iff.mp converted
      rw [Conforms]
      refine ⟨kept, rfl, forall_mem_of_converted itemwise ?_⟩
      intro item result converted
      exact conforms_of_coerce inner converted
  | .tuple types, _, _, converted => by
      obtain ⟨items, kept, -, rfl, itemwise⟩ := coerce_tuple_iff.mp converted
      rw [Conforms]
      exact ⟨kept, rfl, conformItems_of_converted types itemwise⟩
  | .namedTuple elements, _, _, converted => by
      rw [coerce_namedTuple_iff] at converted
      obtain ⟨items, kept, -, rfl, itemwise⟩ := coerce_tuple_iff.mp converted
      rw [Conforms]
      exact ⟨kept, rfl, conformElements_of_converted elements itemwise⟩
  | .map key val, _, _, converted => by
      obtain ⟨entries, kept, -, rfl, itemwise⟩ := coerce_map_iff.mp converted
      rw [Conforms]
      refine ⟨kept, rfl, forall_mem_of_converted itemwise ?_⟩
      rintro entry result ⟨convertedKey, convertedValue⟩
      exact ⟨conforms_of_coerce key convertedKey, conforms_of_coerce val convertedValue⟩

/-- Items that are converted type by type conform to their types. -/
theorem conformItems_of_converted : ∀ (types : List ColumnType) {items kept : List Value},
    ItemsConverted types items kept → ConformItems types kept
  | [], _, _, .nil => trivial
  | type :: types, _, _, .cons first others =>
      ⟨conforms_of_coerce type first, conformItems_of_converted types others⟩

theorem conformElements_of_converted :
    ∀ (elements : List (String × ColumnType)) {items kept : List Value},
      ItemsConverted (elements.map Prod.snd) items kept → ConformElements elements kept
  | [], _, _, .nil => trivial
  | (_, type) :: elements, _, _, .cons first others =>
      ⟨conforms_of_coerce type first, conformElements_of_converted elements others⟩

end

/-- Conversion moves no item of a composite value. -/
theorem keepsItems_of_coerce : ∀ (type : ColumnType) {value stored : Value},
    type.coerce value = .ok stored → type.KeepsItems value stored
  | .scalar _, _, _, _ => trivial
  | .nullable inner, _, _, converted => by
      rcases coerce_nullable_iff.mp converted with isNull | ⟨-, converted⟩
      · exact .inl isNull
      · exact .inr (keepsItems_of_coerce inner converted)
  | .lowCardinality inner, _, _, converted =>
      keepsItems_of_coerce inner (by simpa [coerce] using converted)
  | .array _, _, _, converted => coerce_array_iff.mp converted
  | .tuple _, _, _, converted => coerce_tuple_iff.mp converted
  | .namedTuple _, _, _, converted => coerce_tuple_iff.mp (coerce_namedTuple_iff.mp converted)
  | .map _ _, _, _, converted => coerce_map_iff.mp converted

/-- NULL can be stored exactly where the type says so. -/
theorem exists_coerce_null_iff : ∀ type : ColumnType,
    (∃ stored, type.coerce .null = .ok stored) ↔ type.isNullable = true
  | .nullable inner => by simp [coerce, isNullable]
  | .lowCardinality inner => by
      rw [isNullable, ← exists_coerce_null_iff inner]
      simp [coerce]
  | .scalar _ => by simp [coerce, isNullable]
  | .array _ => by simp [coerce, isNullable]
  | .tuple _ => by simp [coerce, isNullable]
  | .namedTuple _ => by simp [coerce, isNullable]
  | .map _ _ => by simp [coerce, isNullable]

/-- Coercion yields only values of the type of the column, loses no item of a
composite value and moves none; and it takes NULL exactly for nullable types. -/
theorem coerce_conforms (type : ColumnType) (value : Value) :
    (∀ stored, type.coerce value = .ok stored →
        type.Conforms stored ∧ type.KeepsItems value stored) ∧
      ((∃ stored, type.coerce .null = .ok stored) ↔ type.isNullable = true) := by
  refine ⟨?_, exists_coerce_null_iff type⟩
  intro stored converted
  exact ⟨conforms_of_coerce type converted, keepsItems_of_coerce type converted⟩

/-- Lists of prices by server: addresses, and decimals that may be NULL. -/
def priceLists : ColumnType :=
  .map (.scalar .ipv4) (.array (.nullable (.scalar (.decimal 4 2))))

/-- A list with a price that is written as text and has a digit too many. -/
def prices : Value :=
  .map [(.string "10.0.0.1", .array [.string " -1.999", .null, .int 7])]

/-- The list as it is stored. -/
def storedPrices : Value :=
  .map [(.string "10.0.0.1", .array [.decimal ⟨true, 199, 2, by decide, by decide⟩, .null,
    .decimal ⟨false, 700, 2, by decide, by decide⟩])]

/-- The prices are stored with their digits cut off, and what is stored
conforms. -/
theorem coerce_conforms_prices :
    priceLists.coerce prices = .ok storedPrices ∧ priceLists.Conforms storedPrices ∧
      priceLists.KeepsItems prices storedPrices :=
  ⟨rfl, (coerce_conforms priceLists prices).1 storedPrices rfl⟩

end ColumnType

end ColumnarSql
