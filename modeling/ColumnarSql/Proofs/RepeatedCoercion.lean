/-
Module: ColumnarSql.Proofs.RepeatedCoercion
Purpose: A stored value is its own stored form: coercing it again changes
  nothing.
Main exports:
  Decimal.storedAt_storedAt, Coercion.toScalar_stored,
  ColumnType.coerce_idempotent
-/
import ColumnarSql.Proofs.Conformance

namespace ColumnarSql

/-! ### Scalars

A conversion may change the kind of a value, so a stored value takes another
way through it than the value it came from: integers come back as they are,
members of enumerations as their names, and decimals with the fraction digits
of the column. -/

/-- A decimal as a column keeps it has nothing to cut off and no room to
grow. -/
theorem Decimal.storedAt_storedAt (d : Decimal) (scale : Nat) :
    (d.storedAt scale).storedAt scale = d.storedAt scale := by
  have short := d.scale_truncateTo_le scale
  by_cases within : scale ≤ maxScale
  · simp only [storedAt, if_pos within]
    rw [truncateTo_of_scale_le (scale_growScale_le short), growScale_growScale short]
  · simp only [storedAt, if_neg within]
    rw [truncateTo_of_scale_le short]

/-- The digits before the point stay as they are. -/
theorem Decimal.wholePart_truncateTo_storedAt (d : Decimal) (scale : Nat) :
    ((d.storedAt scale).truncateTo scale).wholePart = (d.truncateTo scale).wholePart := by
  have short := d.scale_truncateTo_le scale
  rw [storedAt]
  split
  · rw [truncateTo_of_scale_le (scale_growScale_le short), wholePart_growScale]
  · rw [truncateTo_of_scale_le short]

namespace Coercion

/-- A stored integer is stored again as it is. -/
theorem toInteger_stored {type : IntegerType} {value stored : Value}
    (converted : toInteger type value = .ok stored) : toInteger type stored = .ok stored := by
  obtain ⟨n, -, lower, upper, rfl⟩ := toInteger_iff.mp converted
  refine toInteger_iff.mpr ⟨n, ?_, lower, upper, rfl⟩
  rcases ofInteger_cases lower upper with ⟨i, kept, same⟩ | ⟨u, kept, same, -⟩
  · rw [kept, integerOf?, same]
  · rw [kept, integerOf?, same]

/-- A stored decimal has been cut off already and is stored again as it is. -/
theorem toDecimal_stored {precision scale : UInt32} {value stored : Value}
    (converted : toDecimal precision scale value = .ok stored) :
    toDecimal precision scale stored = .ok stored := by
  obtain ⟨d, -, fits, rfl⟩ := toDecimal_iff.mp converted
  refine toDecimal_iff.mpr ⟨d.storedAt scale.toNat, rfl, ?_, ?_⟩
  · rwa [Decimal.wholePart_truncateTo_storedAt]
  · rw [Decimal.storedAt_storedAt]

/-- A name finds the first member with that name, which may be another member
than before, but not another name. -/
theorem toMember_stored {width : EnumWidth} {members : List (String × Int16)}
    {value stored : Value} (converted : toMember width members value = .ok stored) :
    toMember width members stored = .ok stored := by
  obtain ⟨m, member, rfl⟩ := toMember_eq_ok converted
  have present : (members.find? fun other => other.1 == m.1).isSome := by
    rw [List.find?_isSome]
    exact ⟨m, member, beq_self_eq_true m.1⟩
  obtain ⟨other, found⟩ := Option.isSome_iff_exists.mp present
  have sameName : other.1 = m.1 := by
    have named := List.find?_some found
    exact eq_of_beq named
  rw [toMember, memberOf?, found, ← sameName]

/-- A stored text passes its own test again. -/
theorem toText_stored {type : Scalar} {test : String → Bool} {fault : String → ValueFault}
    {value stored : Value} (converted : toText type test fault value = .ok stored) :
    toText type test fault stored = .ok stored := by
  obtain ⟨s, -, passes, rfl⟩ := toText_iff.mp converted
  exact toText_iff.mpr ⟨s, rfl, passes, rfl⟩

/-- What a scalar column stores it stores again as it is. -/
theorem toScalar_stored {type : Scalar} {value stored : Value}
    (converted : toScalar type value = .ok stored) : toScalar type stored = .ok stored := by
  cases type with
  | integer type => exact toInteger_stored converted
  | float width =>
      obtain ⟨x, -, rfl⟩ := toScalar_float_iff.mp converted
      rfl
  | bool =>
      obtain ⟨b, -, rfl⟩ := toScalar_bool_iff.mp converted
      rfl
  | string declared =>
      obtain ⟨s, -, rfl⟩ := toScalar_string_iff.mp converted
      rfl
  | fixedString length => exact toText_stored converted
  | uuid => exact toText_stored converted
  | ipv4 => exact toText_stored converted
  | ipv6 => exact toText_stored converted
  | date =>
      obtain ⟨d, rfl⟩ := toDate_eq_ok converted
      rfl
  | date32 =>
      obtain ⟨d, rfl⟩ := toDate_eq_ok converted
      rfl
  | dateTime zone =>
      obtain ⟨moment, rfl⟩ := toDateTime_eq_ok converted
      rfl
  | dateTime64 precision zone =>
      obtain ⟨moment, rfl⟩ := toDateTime_eq_ok converted
      rfl
  | decimal precision scale => exact toDecimal_stored converted
  | enumeration width members => exact toMember_stored converted

end Coercion

/-! ### Composites -/

/-- NULL is of no scalar type. -/
theorem Scalar.not_holds_null (type : Scalar) : ¬ type.Holds .null := by
  cases type <;> simp [Scalar.Holds, IntegerType.Holds]

namespace ColumnType

open Coercion

mutual

/-- What a column stores it stores again as it is, by recursion on the type. -/
theorem coerce_stored : ∀ (type : ColumnType) {value stored : Value},
    type.coerce value = .ok stored → type.coerce stored = .ok stored
  | .scalar type, _, _, converted => by
      have scalar := (coerce_scalar_iff.mp converted).2
      refine coerce_scalar_iff.mpr ⟨?_, toScalar_stored scalar⟩
      rintro rfl
      exact type.not_holds_null (toScalar_holds scalar)
  | .nullable inner, _, stored, converted => by
      rw [coerce_nullable_iff]
      by_cases isNull : stored = .null
      · exact .inl ⟨isNull, isNull⟩
      · rcases coerce_nullable_iff.mp converted with ⟨-, becameNull⟩ | ⟨-, inside⟩
        · exact absurd becameNull isNull
        · exact .inr ⟨isNull, coerce_stored inner inside⟩
  | .lowCardinality inner, _, _, converted => by
      simp only [coerce] at converted ⊢
      exact coerce_stored inner converted
  | .array inner, _, _, converted => by
      obtain ⟨items, kept, -, rfl, itemwise⟩ := coerce_array_iff.mp converted
      refine coerce_array_iff.mpr ⟨kept, kept, rfl, rfl, List.forall₂_same.mpr ?_⟩
      refine forall_mem_of_converted itemwise ?_
      intro item result converted
      exact coerce_stored inner converted
  | .tuple types, _, _, converted => by
      obtain ⟨items, kept, -, rfl, itemwise⟩ := coerce_tuple_iff.mp converted
      exact coerce_tuple_iff.mpr ⟨kept, kept, rfl, rfl, itemsConverted_stored types itemwise⟩
  | .namedTuple elements, _, _, converted => by
      rw [coerce_namedTuple_iff] at converted ⊢
      obtain ⟨items, kept, -, rfl, itemwise⟩ := coerce_tuple_iff.mp converted
      exact coerce_tuple_iff.mpr ⟨kept, kept, rfl, rfl, elementsConverted_stored elements itemwise⟩
  | .map key val, _, _, converted => by
      obtain ⟨entries, kept, -, rfl, itemwise⟩ := coerce_map_iff.mp converted
      refine coerce_map_iff.mpr ⟨kept, kept, rfl, rfl, List.forall₂_same.mpr ?_⟩
      refine forall_mem_of_converted itemwise ?_
      rintro entry result ⟨convertedKey, convertedValue⟩
      exact ⟨coerce_stored key convertedKey, coerce_stored val convertedValue⟩

/-- Converted items convert to themselves. -/
theorem itemsConverted_stored : ∀ (types : List ColumnType) {items kept : List Value},
    ItemsConverted types items kept → ItemsConverted types kept kept
  | [], _, _, .nil => .nil
  | type :: types, _, _, .cons first others =>
      .cons (coerce_stored type first) (itemsConverted_stored types others)

theorem elementsConverted_stored :
    ∀ (elements : List (String × ColumnType)) {items kept : List Value},
      ItemsConverted (elements.map Prod.snd) items kept →
        ItemsConverted (elements.map Prod.snd) kept kept
  | [], _, _, .nil => .nil
  | (_, type) :: elements, _, _, .cons first others =>
      .cons (coerce_stored type first) (elementsConverted_stored elements others)

end

/-- A stored value is stored as it is. -/
theorem coerce_idempotent (type : ColumnType) (value stored : Value)
    (converted : type.coerce value = .ok stored) : type.coerce stored = .ok stored :=
  coerce_stored type converted

/-- A grade, and decimals with more fraction digits than fit behind ten digits
before the point. -/
def gradedAmounts : ColumnType :=
  .tuple [.scalar (.enumeration .enum8 [("low", 1), ("high", 2)]),
    .array (.scalar (.decimal 38 28))]

/-- The grade as its name, and the amount with 19 of the 28 digits. -/
def storedAmounts : Value :=
  .tuple [.string "high",
    .array [.decimal ⟨false, 12345678900000000000000000000, 19, by decide, by decide⟩]]

/-- A member of an enumeration and a decimal in an array, stored twice. -/
theorem coerce_idempotent_amounts :
    gradedAmounts.coerce (.tuple [.int 2, .array [.int 1234567890]]) = .ok storedAmounts ∧
      gradedAmounts.coerce storedAmounts = .ok storedAmounts :=
  ⟨rfl, coerce_idempotent gradedAmounts (.tuple [.int 2, .array [.int 1234567890]]) storedAmounts rfl⟩

end ColumnType

end ColumnarSql
