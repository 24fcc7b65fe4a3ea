/-
Module: ColumnarSql.Proofs.EnumerationMembers
Purpose: A valid enumeration pairs names and values one to one, and a name or a
  value is stored as the name of its pair.
Main exports:
  FreshAfter, EnumWidth.Holds, checkMembers_eq_ok_iff, IsEnumeration,
  validate_enumeration_iff, find?_key, coerce_member, coerce_notMember,
  enumeration_bijection
-/
import ColumnarSql.ColumnType.Coercion
import ColumnarSql.ColumnType.Validity
import Mathlib.Data.List.Nodup

namespace ColumnarSql

/-! ### The check of the members

The check goes through the members once and keeps the names and the values of
those before.  What it still demands of the members to come is that their names
and values are new to both lists and differ among themselves. -/

/-- Items that differ from each other and from all that were seen before. -/
def FreshAfter {α : Type} (seen items : List α) : Prop :=
  items.Nodup ∧ ∀ item ∈ items, item ∉ seen

theorem freshAfter_nil {α : Type} (seen : List α) : FreshAfter seen [] := by
  simp [FreshAfter]

/-- Once the first item is seen, the others must differ from it as well. -/
theorem freshAfter_cons_iff {α : Type} {seen items : List α} {item : α} :
    FreshAfter seen (item :: items) ↔ item ∉ seen ∧ FreshAfter (item :: seen) items := by
  constructor
  · rintro ⟨distinct, unseen⟩
    rw [List.nodup_cons] at distinct
    refine ⟨unseen item (by simp), distinct.2, ?_⟩
    intro other member among
    rcases List.mem_cons.mp among with rfl | before
    · exact distinct.1 member
    · exact unseen other (by simp [member]) before
  · rintro ⟨unseen, distinct, others⟩
    have first : item ∉ items := by
      intro member
      exact others item member (by simp)
    refine ⟨List.nodup_cons.mpr ⟨first, distinct⟩, ?_⟩
    intro other member before
    rcases List.mem_cons.mp member with rfl | later
    · exact unseen before
    · exact others other later (by simp [before])

/-- The values that fit the width of an enumeration. -/
def EnumWidth.Holds (width : EnumWidth) (value : Int16) : Prop :=
  match width with
  | .enum8 => Int8.minValue.toInt ≤ value.toInt ∧ value.toInt ≤ Int8.maxValue.toInt
  | .enum16 => Int16.minValue.toInt ≤ value.toInt ∧ value.toInt ≤ Int16.maxValue.toInt

/-- A value fits exactly if it is not below or above the range of its width. -/
theorem EnumWidth.holds_iff {width : EnumWidth} {value : Int16} :
    width.Holds value ↔ ¬ (value.toInt < width.range.1 ∨ width.range.2 < value.toInt) := by
  rw [not_or, Int.not_lt, Int.not_lt]
  cases width with
  | enum8 => rfl
  | enum16 => rfl

namespace ColumnType

/-- The check passes if all values fit and all names and values are new. -/
theorem checkMembers_eq_ok_iff {width : EnumWidth} {names : List String} {values : List Int16}
    {members : List (String × Int16)} :
    checkMembers width names values members = .ok () ↔
      (∀ m ∈ members, width.Holds m.2) ∧ FreshAfter names (members.map Prod.fst) ∧
        FreshAfter values (members.map Prod.snd) := by
  induction members generalizing names values with
  | nil => simp [checkMembers, freshAfter_nil]
  | cons member rest inductionHypothesis =>
      obtain ⟨name, value⟩ := member
      simp only [checkMembers, Bool.or_eq_true, decide_eq_true_eq, List.contains_iff_mem,
        List.map_cons, freshAfter_cons_iff, List.forall_mem_cons, EnumWidth.holds_iff]
      split
      · rename_i outside
        simp [outside]
      · rename_i inside
        split
        · rename_i repeated
          simp [repeated]
        · rename_i newName
          split
          · rename_i repeated
            simp [repeated]
          · rename_i newValue
            rw [inductionHypothesis]
            simp only [inside, newName, newValue, not_false_eq_true, true_and,
              EnumWidth.holds_iff]

/-- The members that an enumeration can have: at least one, with values of its
width, and no name and no value twice. -/
structure IsEnumeration (width : EnumWidth) (members : List (String × Int16)) : Prop where
  nonempty : members ≠ []
  holds : ∀ m ∈ members, width.Holds m.2
  distinctNames : (members.map Prod.fst).Nodup
  distinctValues : (members.map Prod.snd).Nodup

/-- An enumeration is valid exactly if its members can be those of one. -/
theorem validate_enumeration_iff {width : EnumWidth} {members : List (String × Int16)} :
    validate (.scalar (.enumeration width members)) = .ok () ↔ IsEnumeration width members := by
  rw [validate, checkScalar, checkEnumeration]
  cases members with
  | nil =>
      constructor
      · intro failed
        cases failed
      · intro isEnumeration
        exact absurd rfl isEnumeration.nonempty
  | cons first rest =>
      rw [if_neg (by simp), checkMembers_eq_ok_iff]
      constructor
      · rintro ⟨holds, names, values⟩
        exact ⟨by simp, holds, names.1, values.1⟩
      · intro isEnumeration
        exact ⟨isEnumeration.holds, ⟨isEnumeration.distinctNames, by simp⟩,
          ⟨isEnumeration.distinctValues, by simp⟩⟩

end ColumnType

/-! ### Looking members up

The lookup takes the first member that fits.  Where names and values are
distinct, there is no other. -/

/-- Where keys are distinct, looking up the key of an item finds the item. -/
theorem find?_key {α κ : Type} [BEq κ] [LawfulBEq κ] {items : List α} {key : α → κ}
    (distinct : (items.map key).Nodup) {item : α} (member : item ∈ items) :
    items.find? (fun other => key other == key item) = some item := by
  have present : (items.find? fun other => key other == key item).isSome := by
    rw [List.find?_isSome]
    exact ⟨item, member, beq_self_eq_true _⟩
  obtain ⟨other, found⟩ := Option.isSome_iff_exists.mp present
  have sameKey : key other = key item := by
    have fits := List.find?_some found
    exact eq_of_beq fits
  have same : other = item :=
    List.inj_on_of_nodup_map distinct (List.mem_of_find?_eq_some found) member sameKey
  rw [found, same]

namespace ColumnType

open Coercion

theorem coerce_enumeration {width : EnumWidth} {members : List (String × Int16)} {value : Value}
    (notNull : value ≠ .null) :
    coerce (.scalar (.enumeration width members)) value = toMember width members value := by
  cases value with
  | null => exact absurd rfl notNull
  | _ => rfl

/-- The value of a member and its name are both stored as its name. -/
theorem coerce_member {width : EnumWidth} {members : List (String × Int16)}
    (isEnumeration : IsEnumeration width members) {name : String} {value : Int16}
    (member : (name, value) ∈ members) :
    coerce (.scalar (.enumeration width members)) (.int value.toInt64) = .ok (.string name) ∧
      coerce (.scalar (.enumeration width members)) (.string name) = .ok (.string name) := by
  have distinctIntegers : (members.map fun m => m.2.toInt).Nodup := by
    have integers := isEnumeration.distinctValues.map fun (a b : Int16) same => Int16.toInt_inj.mp same
    rwa [List.map_map] at integers
  have byName : memberOf? members (.string name) = some (name, value) :=
    find?_key isEnumeration.distinctNames member
  have byValue : memberOf? members (.int value.toInt64) = some (name, value) := by
    rw [memberOf?, Int16.toInt_toInt64]
    exact find?_key distinctIntegers member
  rw [coerce_enumeration (by simp), coerce_enumeration (by simp), toMember, toMember, byValue,
    byName]
  exact ⟨rfl, rfl⟩

/-- A name or a number of no member is refused, with the value and the type
reported. -/
theorem coerce_notMember {width : EnumWidth} {members : List (String × Int16)} :
    (∀ n : Int64, (∀ m ∈ members, m.2.toInt64 ≠ n) →
      coerce (.scalar (.enumeration width members)) (.int n) =
        .error (.notMember (.int n) (.scalar (.enumeration width members)))) ∧
    (∀ s : String, (∀ m ∈ members, m.1 ≠ s) →
      coerce (.scalar (.enumeration width members)) (.string s) =
        .error (.notMember (.string s) (.scalar (.enumeration width members)))) := by
  constructor
  · intro n different
    have nothing : memberOf? members (.int n) = none := by
      rw [memberOf?, List.find?_eq_none]
      intro m member same
      apply different m member
      rw [← Int64.toInt_inj, Int16.toInt_toInt64]
      exact eq_of_beq same
    rw [coerce_enumeration (by simp), toMember, nothing]
  · intro s different
    have nothing : memberOf? members (.string s) = none := by
      rw [memberOf?, List.find?_eq_none]
      intro m member same
      exact different m member (eq_of_beq same)
    rw [coerce_enumeration (by simp), toMember, nothing]

/-- An enumeration is valid exactly if it has members, all of its width, and
repeats neither names nor values.  In a valid one, the value of each member and
its name stand for the same stored name, and no other integer and no other text
stands for anything. -/
theorem enumeration_bijection (width : EnumWidth) (members : List (String × Int16)) :
    (validate (.scalar (.enumeration width members)) = .ok () ↔ IsEnumeration width members) ∧
    (validate (.scalar (.enumeration width members)) = .ok () →
      (∀ name value, (name, value) ∈ members →
        coerce (.scalar (.enumeration width members)) (.int value.toInt64) = .ok (.string name) ∧
        coerce (.scalar (.enumeration width members)) (.string name) = .ok (.string name)) ∧
      (∀ n : Int64, (∀ m ∈ members, m.2.toInt64 ≠ n) →
        coerce (.scalar (.enumeration width members)) (.int n) =
          .error (.notMember (.int n) (.scalar (.enumeration width members)))) ∧
      (∀ s : String, (∀ m ∈ members, m.1 ≠ s) →
        coerce (.scalar (.enumeration width members)) (.string s) =
          .error (.notMember (.string s) (.scalar (.enumeration width members))))) := by
  refine ⟨validate_enumeration_iff, ?_⟩
  intro valid
  have isEnumeration := validate_enumeration_iff.mp valid
  exact ⟨fun _ _ member => coerce_member isEnumeration member, coerce_notMember⟩

/-- The least and the greatest value of 8 bits, and a name with a quote. -/
theorem enumeration_bijection_extremes :
    let type : ColumnType :=
      .scalar (.enumeration .enum8 [("low", -128), ("it's", 0), ("high", 127)])
    validate type = .ok () ∧ coerce type (.int (-128)) = .ok (.string "low") ∧
      coerce type (.string "it's") = .ok (.string "it's") ∧
      coerce type (.int 128) = .error (.notMember (.int 128) type) ∧
      coerce type (.string "Low") = .error (.notMember (.string "Low") type) := by
  have valid : validate (.scalar (.enumeration .enum8 [("low", -128), ("it's", 0), ("high", 127)])) =
      .ok () := rfl
  obtain ⟨stored, noInteger, noText⟩ := (enumeration_bijection _ _).2 valid
  exact ⟨valid, (stored "low" (-128) (by decide)).1, (stored "it's" 0 (by decide)).2,
    noInteger 128 (by decide), noText "Low" (by decide)⟩

end ColumnType

end ColumnarSql
