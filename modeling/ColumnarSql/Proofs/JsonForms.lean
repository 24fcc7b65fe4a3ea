/-
Module: ColumnarSql.Proofs.JsonForms
Purpose: Values, column types and expressions are decoded from their JSON
  forms.
Main exports:
  Number, Value.numbers, Value.unsignedZeros, Json.Restores, Value.restores,
  ColumnType.restores, Expr.numbers, Expr.unsignedZeros, Expr.restores
-/
import ColumnarSql.Json.ExprForm
import ColumnarSql.Proofs.JsonText
import ColumnarSql.Proofs.ValueTexts
import Mathlib.Data.List.Nodup

namespace ColumnarSql

open Json

/-! ### What a form keeps

The text of a decimal does not keep the sign of a zero, and a floating-point
number has a text only if it is finite.  All else is kept. -/

/-- A number whose text is not a whole number's. -/
inductive Number where
  | float (x : Double)
  | decimal (d : Decimal)

/-- The number can be written in JSON. -/
def Number.HasText : Number → Prop
  | .float x => x.isFinite = true
  | .decimal _ => True

/-- The number is not a zero with a sign that its text does not keep. -/
def Number.Settled : Number → Prop
  | .float _ => True
  | .decimal d => d.unsignedZero = d

namespace Value

mutual

/-- The floating-point and decimal numbers in a value. -/
def numbers : Value → List Number
  | .float x => [.float x]
  | .decimal d => [.decimal d]
  | .array items => itemsNumbers items
  | .tuple items => itemsNumbers items
  | .map entries => entriesNumbers entries
  | _ => []

/-- The numbers in some values. -/
def itemsNumbers : List Value → List Number
  | [] => []
  | item :: rest => numbers item ++ itemsNumbers rest

/-- The numbers in some map entries. -/
def entriesNumbers : List (Value × Value) → List Number
  | [] => []
  | (key, value) :: rest => numbers key ++ numbers value ++ entriesNumbers rest

end

mutual

/-- A value without the signs of its decimal zeros. -/
def unsignedZeros : Value → Value
  | .decimal d => .decimal d.unsignedZero
  | .array items => .array (itemsUnsigned items)
  | .tuple items => .tuple (itemsUnsigned items)
  | .map entries => .map (entriesUnsigned entries)
  | value => value

/-- Itemwise `unsignedZeros`. -/
def itemsUnsigned : List Value → List Value
  | [] => []
  | item :: rest => unsignedZeros item :: itemsUnsigned rest

/-- Entrywise `unsignedZeros`. -/
def entriesUnsigned : List (Value × Value) → List (Value × Value)
  | [] => []
  | (key, value) :: rest => (unsignedZeros key, unsignedZeros value) :: entriesUnsigned rest

end

end Value

/-! ### Scalars -/

namespace Json

@[simp] theorem depth_tagged (name : String) (content : Json) :
    (tagged name content).depth = content.depth + 1 := by
  simp [tagged, depth, fieldsDepth]

/-- An integer within its bounds is decoded. -/
theorem integerWithin?_of_bounds {min max n : Int} (least : min ≤ n) (most : n ≤ max) :
    integerWithin? min max (.integer n) = some n := by
  simp [integerWithin?, least, most]

@[simp] theorem int64?_integer (n : Int64) : int64? (.integer n.toInt) = some n := by
  have least : -(Int.pow 2 63) ≤ n.toInt := n.le_toInt
  have most : n.toInt ≤ Int.pow 2 63 - 1 := Int.le_sub_one_of_lt n.toInt_lt
  rw [int64?, integerWithin?_of_bounds least most, Option.map_some, Int64.ofInt_toInt]

@[simp] theorem int16?_integer (n : Int16) : int16? (.integer n.toInt) = some n := by
  have least : -(Int.pow 2 15) ≤ n.toInt := n.le_toInt
  have most : n.toInt ≤ Int.pow 2 15 - 1 := Int.le_sub_one_of_lt n.toInt_lt
  rw [int16?, integerWithin?_of_bounds least most, Option.map_some, Int16.ofInt_toInt]

theorem toNat_le_sub_one {n bound : Nat} {limit : Int} (same : limit = bound) (below : n < bound) :
    (n : Int) ≤ limit - 1 := by
  omega

@[simp] theorem uint64?_integer (n : UInt64) : uint64? (.integer n.toNat) = some n := by
  have most : (n.toNat : Int) ≤ Int.pow 2 64 - 1 := toNat_le_sub_one rfl n.toNat_lt
  rw [uint64?, integerWithin?_of_bounds (Int.natCast_nonneg _) most, Option.map_some,
    Int.toNat_natCast, UInt64.ofNat_toNat]

@[simp] theorem uint32?_integer (n : UInt32) : uint32? (.integer n.toNat) = some n := by
  have most : (n.toNat : Int) ≤ Int.pow 2 32 - 1 := toNat_le_sub_one rfl n.toNat_lt
  rw [uint32?, integerWithin?_of_bounds (Int.natCast_nonneg _) most, Option.map_some,
    Int.toNat_natCast, UInt32.ofNat_toNat]

/-- A tag adds nothing that could lack a text. -/
theorem writable_tagged {name : String} {content : Json} :
    (tagged name content).Writable ↔ content.Writable := by
  simp [tagged, Writable, FieldsWritable]

/-- Every 64-bit integer has a text. -/
theorem writable_int64 (n : Int64) : (Json.integer n.toInt).Writable := by
  have least : -(Int.pow 2 63) ≤ n.toInt := n.le_toInt
  have most : n.toInt < Int.pow 2 64 := Int.lt_trans n.toInt_lt (by decide)
  exact ⟨least, most⟩

theorem writable_int16 (n : Int16) : (Json.integer n.toInt).Writable := by
  have least : -(Int.pow 2 63) ≤ n.toInt := Int.le_trans (by decide) n.le_toInt
  have most : n.toInt < Int.pow 2 64 := Int.lt_trans n.toInt_lt (by decide)
  exact ⟨least, most⟩

/-- Every natural number below the bound for unsigned numbers has a text. -/
theorem writable_nat {n : Nat} (below : n < Nat.pow 2 64) : (Json.integer n).Writable := by
  have least : -(Int.pow 2 63) ≤ (n : Int) := Int.le_trans (by decide) (Int.natCast_nonneg n)
  have most : (n : Int) < Int.pow 2 64 := Int.ofNat_lt.mpr below
  exact ⟨least, most⟩

theorem writable_uint64 (n : UInt64) : (Json.integer n.toNat).Writable :=
  writable_nat n.toNat_lt

/-- A JSON form is decoded as what it was made from, but for the signs of
decimal zeros, and has a text if the numbers in it do. -/
structure Restores {α : Type} (encode : α → Json) (decode : Json → Option α)
    (numbers : α → List Number) (settle : α → α) : Prop where
  decodes : ∀ a, decode (encode a) = some (settle a)
  writable : ∀ a, (∀ n ∈ numbers a, n.HasText) → (encode a).Writable
  kept : ∀ a, (∀ n ∈ numbers a, n.Settled) → settle a = a

namespace Restores

variable {α β : Type} {encode : α → Json} {decode : Json → Option α} {numbers : α → List Number}
  {settle : α → α}

/-- A form in which no number loses anything. -/
theorem plain (decodes : ∀ a, decode (encode a) = some a) (writable : ∀ a, (encode a).Writable) :
    Restores encode decode (fun _ => []) id where
  decodes := decodes
  writable a _ := writable a
  kept _ _ := rfl

/-- The members of a list are decoded one by one. -/
theorem traverse?_map (restores : Restores encode decode numbers settle) (items : List α) :
    traverse? decode (items.map encode) = some (items.map settle) := by
  induction items with
  | nil => rfl
  | cons item rest inductionHypothesis =>
      rw [List.map_cons, traverse?, restores.decodes, inductionHypothesis]
      rfl

/-- The members of a list have texts if the numbers in them do. -/
theorem itemsWritable_map (restores : Restores encode decode numbers settle) (items : List α)
    (finite : ∀ n ∈ items.flatMap numbers, n.HasText) : ItemsWritable (items.map encode) := by
  induction items with
  | nil => trivial
  | cons item rest inductionHypothesis =>
      rw [List.flatMap_cons, List.forall_mem_append] at finite
      exact ⟨restores.writable item finite.1, inductionHypothesis finite.2⟩

/-- Nothing is settled in a list whose numbers are settled. -/
theorem map_settle (restores : Restores encode decode numbers settle) (items : List α)
    (settled : ∀ n ∈ items.flatMap numbers, n.Settled) : items.map settle = items := by
  induction items with
  | nil => rfl
  | cons item rest inductionHypothesis =>
      rw [List.flatMap_cons, List.forall_mem_append] at settled
      rw [List.map_cons, restores.kept item settled.1, inductionHypothesis settled.2]

/-- An array of forms. -/
theorem list (restores : Restores encode decode numbers settle) :
    Restores (fun items => .array (items.map encode)) (list? decode)
      (fun items => items.flatMap numbers) (List.map settle) where
  decodes := restores.traverse?_map
  writable := restores.itemsWritable_map
  kept := restores.map_settle

/-- A form or null, if null is not a form already. -/
theorem option (restores : Restores encode decode numbers settle) (notNull : decode .null = none) :
    Restores (ofOption encode) (option? decode) (fun a => a.toList.flatMap numbers)
      (Option.map settle) where
  decodes a := by
    cases a with
    | none => rfl
    | some a =>
        have decoded := restores.decodes a
        rw [ofOption, option?.eq_def]
        split
        · rename_i null
          rw [null, notNull] at decoded
          cases decoded
        · rw [decoded]
          rfl
  writable a finite := by
    cases a with
    | none => trivial
    | some a => exact restores.writable a (by simpa using finite)
  kept a settled := by
    cases a with
    | none => rfl
    | some a => exact congrArg some (restores.kept a (by simpa using settled))

/-- A form without numbers always has a text. -/
theorem writable_plain (restores : Restores encode decode (fun _ => []) settle) (a : α) :
    (encode a).Writable :=
  restores.writable a (by simp)

/-- As `option`, for a form in which no number loses anything. -/
theorem plainOption (restores : Restores encode decode (fun _ => []) id)
    (notNull : decode .null = none) :
    Restores (ofOption encode) (option? decode) (fun _ => []) id := by
  apply Restores.plain
  · intro a
    have decoded := (restores.option notNull).decodes a
    rwa [Option.map_id] at decoded
  · intro a
    exact (restores.option notNull).writable a (by simp)

/-- An array of two forms. -/
theorem pair {encode' : β → Json} {decode' : Json → Option β} {numbers' : β → List Number}
    {settle' : β → β} (first : Restores encode decode numbers settle)
    (second : Restores encode' decode' numbers' settle') :
    Restores (fun (a, b) => .array [encode a, encode' b]) (pair? decode decode')
      (fun (a, b) => numbers a ++ numbers' b) (Prod.map settle settle') where
  decodes := by
    rintro ⟨a, b⟩
    simp only [pair?, first.decodes, second.decodes]
    rfl
  writable := by
    rintro ⟨a, b⟩ finite
    rw [List.forall_mem_append] at finite
    exact ⟨first.writable a finite.1, second.writable b finite.2, trivial⟩
  kept := by
    rintro ⟨a, b⟩ settled
    rw [List.forall_mem_append] at settled
    rw [Prod.map_apply, first.kept a settled.1, second.kept b settled.2]

end Restores

theorem restores_string : Restores Json.string string? (fun _ => []) id :=
  .plain (fun _ => rfl) fun _ => trivial

theorem option?_ofString? (s : Option String) : option? string? (ofString? s) = some s := by
  cases s <;> rfl

theorem writable_ofString? (s : Option String) : (ofString? s).Writable := by
  cases s <;> trivial

/-- An optional string is restored, and so is its absence. -/
theorem restores_ofString? : Restores ofString? (option? string?) (fun _ => []) id :=
  .plain option?_ofString? writable_ofString?

theorem restores_bool : Restores Json.bool bool? (fun _ => []) id :=
  .plain (fun _ => rfl) fun _ => trivial

end Json

/-! ### Records -/

namespace Fields

/-- A record that goes on with an object of just its fields. -/
theorem ofJson?_object_bind {α : Type} {names : List String} {entries : List (String × Json)}
    {next : Fields → Option α} (same : entries.map Prod.fst = names) (distinct : names.Nodup) :
    (ofJson? names (.object entries) >>= next) = next ⟨false, entries⟩ := by
  have once : ∀ name, occurrences name entries ≤ 1 := by
    intro name
    have counted : occurrences name entries = (entries.map Prod.fst).count name := by
      rw [occurrences, List.count, List.countP_map]
      rfl
    rw [counted, same]
    exact List.nodup_iff_count_le_one.mp distinct name
  simp [ofJson?, once]

/-- Fields are looked up by name, and the first one of a name counts. -/
theorem get?_cons (positional : Bool) (name other : String) (json : Json)
    (entries : List (String × Json)) :
    get? ⟨positional, (other, json) :: entries⟩ name =
      if other == name then some json else get? ⟨positional, entries⟩ name := by
  cases found : other == name <;> simp [get?, found]

end Fields

namespace Json.Restores

variable {α : Type} {encode : α → Json} {decode : Json → Option α} {numbers : α → List Number}
  {settle : α → α} {fields : Fields} {name : String} {a : α}

/-- A field that must be there is restored. -/
theorem required (restores : Restores encode decode numbers settle)
    (found : fields.get? name = some (encode a)) :
    fields.required name decode = some (settle a) := by
  rw [Fields.required, found]
  exact restores.decodes a

/-- A field with a default is restored if it is there, and does not fall back.
-/
theorem defaulted (restores : Restores encode decode numbers settle) {default : α}
    (found : fields.get? name = some (encode a)) :
    fields.defaulted name decode default = some (settle a) := by
  rw [Fields.defaulted, found]
  exact restores.decodes a

/-- A field that may be absent is restored with its absence. -/
theorem optional {encode : Option α → Json} {numbers : Option α → List Number}
    {settle : Option α → Option α} {a : Option α}
    (restores : Restores encode (option? decode) numbers settle)
    (found : fields.get? name = some (encode a)) :
    fields.optional name decode = some (settle a) := by
  rw [Fields.optional, found]
  exact restores.decodes a

end Json.Restores

/-! ### Values -/

namespace Value

/-- A decimal is decoded by reading its text. -/
theorem decode?_decimal (text : String) (fuel : Nat) :
    decode? (fuel + 1) (tagged "Decimal" (.string text)) =
      (Decimal.read? text.toList).map .decimal :=
  rfl

/-- A date is decoded by reading its text. -/
theorem decode?_date (text : String) (fuel : Nat) :
    decode? (fuel + 1) (tagged "Date" (.string text)) = (Date.readLoose? text.toList).map .date :=
  rfl

theorem decode?_dateTime (text : String) (fuel : Nat) :
    decode? (fuel + 1) (tagged "DateTime" (.string text)) =
      (DateTime.readLoose? text.toList).map .dateTime :=
  rfl

mutual

/-- A value is decoded from its form, within its depth. -/
theorem decode?_toJson : ∀ (value : Value) (fuel : Nat), value.toJson.depth < fuel →
    decode? fuel value.toJson = some value.unsignedZeros
  | .null, _ + 1, _ => rfl
  | .bool _, _ + 1, _ => rfl
  | .int n, _ + 1, _ => congrArg (Option.map Value.int) (int64?_integer n)
  | .uint n, _ + 1, _ => congrArg (Option.map Value.uint) (uint64?_integer n)
  | .float _, _ + 1, _ => rfl
  | .string _, _ + 1, _ => rfl
  | .decimal d, fuel + 1, _ => by
      rw [toJson, decode?_decimal, d.read?_text]
      rfl
  | .date d, fuel + 1, _ => by
      rw [toJson, decode?_date, d.readLoose?_text]
      rfl
  | .dateTime moment, fuel + 1, _ => by
      rw [toJson, decode?_dateTime, moment.readLoose?_text]
      rfl
  | .array items, fuel + 1, shallow => by
      rw [toJson, depth_tagged, depth] at shallow
      exact congrArg (Option.map Value.array) (traverse?_itemsToJson items fuel (by omega))
  | .tuple items, fuel + 1, shallow => by
      rw [toJson, depth_tagged, depth] at shallow
      exact congrArg (Option.map Value.tuple) (traverse?_itemsToJson items fuel (by omega))
  | .map entries, fuel + 1, shallow => by
      rw [toJson, depth_tagged, depth] at shallow
      exact congrArg (Option.map Value.map) (traverse?_entriesToJson entries fuel (by omega))

/-- Items are decoded with the fuel that their depth asks for. -/
theorem traverse?_itemsToJson : ∀ (items : List Value) (fuel : Nat),
    itemsDepth (itemsToJson items) < fuel →
      traverse? (decode? fuel) (itemsToJson items) = some (itemsUnsigned items)
  | [], _, _ => rfl
  | item :: rest, fuel, shallow => by
      rw [itemsToJson, itemsDepth] at shallow
      rw [itemsToJson, traverse?, decode?_toJson item fuel (by omega),
        traverse?_itemsToJson rest fuel (by omega)]
      rfl

/-- The entries of a map are decoded as pairs. -/
theorem traverse?_entriesToJson : ∀ (entries : List (Value × Value)) (fuel : Nat),
    itemsDepth (entriesToJson entries) ≤ fuel →
      traverse? (pair? (decode? fuel) (decode? fuel)) (entriesToJson entries) =
        some (entriesUnsigned entries)
  | [], _, _ => rfl
  | (key, value) :: rest, fuel, shallow => by
      rw [entriesToJson, itemsDepth, depth, itemsDepth, itemsDepth] at shallow
      rw [entriesToJson, traverse?, pair?, decode?_toJson key fuel (by omega),
        decode?_toJson value fuel (by omega), traverse?_entriesToJson rest fuel (by omega)]
      rfl

end

mutual

/-- The form of a value has a text if its numbers do. -/
theorem writable_toJson : ∀ value : Value, (∀ n ∈ value.numbers, n.HasText) →
    value.toJson.Writable
  | .null, _ => trivial
  | .bool _, _ => writable_tagged.mpr trivial
  | .int n, _ => writable_tagged.mpr (writable_int64 n)
  | .uint n, _ => writable_tagged.mpr (writable_uint64 n)
  | .float x, finite => writable_tagged.mpr (finite (.float x) (by simp [numbers]))
  | .string _, _ => writable_tagged.mpr trivial
  | .decimal _, _ => writable_tagged.mpr trivial
  | .date _, _ => writable_tagged.mpr trivial
  | .dateTime _, _ => writable_tagged.mpr trivial
  | .array items, finite => writable_tagged.mpr (writable_itemsToJson items finite)
  | .tuple items, finite => writable_tagged.mpr (writable_itemsToJson items finite)
  | .map entries, finite => writable_tagged.mpr (writable_entriesToJson entries finite)

theorem writable_itemsToJson : ∀ items : List Value, (∀ n ∈ itemsNumbers items, n.HasText) →
    ItemsWritable (itemsToJson items)
  | [], _ => trivial
  | item :: rest, finite => by
      rw [itemsNumbers, List.forall_mem_append] at finite
      exact ⟨writable_toJson item finite.1, writable_itemsToJson rest finite.2⟩

theorem writable_entriesToJson : ∀ entries : List (Value × Value),
    (∀ n ∈ entriesNumbers entries, n.HasText) → ItemsWritable (entriesToJson entries)
  | [], _ => trivial
  | (key, value) :: rest, finite => by
      rw [entriesNumbers, List.forall_mem_append, List.forall_mem_append] at finite
      exact ⟨⟨writable_toJson key finite.1.1, writable_toJson value finite.1.2, trivial⟩,
        writable_entriesToJson rest finite.2⟩

end

mutual

/-- A value whose decimal zeros have no sign is kept as it is. -/
theorem unsignedZeros_eq_self : ∀ value : Value, (∀ n ∈ value.numbers, n.Settled) →
    value.unsignedZeros = value
  | .null, _ => rfl
  | .bool _, _ => rfl
  | .int _, _ => rfl
  | .uint _, _ => rfl
  | .float _, _ => rfl
  | .string _, _ => rfl
  | .decimal d, settled => congrArg Value.decimal (settled (.decimal d) (by simp [numbers]))
  | .date _, _ => rfl
  | .dateTime _, _ => rfl
  | .array items, settled => congrArg Value.array (itemsUnsigned_eq_self items settled)
  | .tuple items, settled => congrArg Value.tuple (itemsUnsigned_eq_self items settled)
  | .map entries, settled => congrArg Value.map (entriesUnsigned_eq_self entries settled)

theorem itemsUnsigned_eq_self : ∀ items : List Value, (∀ n ∈ itemsNumbers items, n.Settled) →
    itemsUnsigned items = items
  | [], _ => rfl
  | item :: rest, settled => by
      rw [itemsNumbers, List.forall_mem_append] at settled
      rw [itemsUnsigned, unsignedZeros_eq_self item settled.1, itemsUnsigned_eq_self rest settled.2]

theorem entriesUnsigned_eq_self : ∀ entries : List (Value × Value),
    (∀ n ∈ entriesNumbers entries, n.Settled) → entriesUnsigned entries = entries
  | [], _ => rfl
  | (key, value) :: rest, settled => by
      rw [entriesNumbers, List.forall_mem_append, List.forall_mem_append] at settled
      rw [entriesUnsigned, unsignedZeros_eq_self key settled.1.1,
        unsignedZeros_eq_self value settled.1.2, entriesUnsigned_eq_self rest settled.2]

end

/-- A value is restored, but for the signs of decimal zeros. -/
theorem restores : Restores toJson ofJson? numbers unsignedZeros where
  decodes value := decode?_toJson value _ (Nat.lt_succ_self _)
  writable := writable_toJson
  kept := unsignedZeros_eq_self

end Value

/-! ### Column types -/

theorem uint32?_natJson (n : UInt32) : uint32? (natJson n) = some n :=
  uint32?_integer n

theorem writable_natJson (n : UInt32) : (natJson n).Writable :=
  writable_nat (Nat.lt_trans n.toNat_lt (by decide))

/-- The members of an enumeration are restored with their numbers. -/
theorem restores_member :
    Restores memberToJson (pair? string? int16?) (fun _ => []) id := by
  refine .plain ?_ ?_
  · rintro ⟨name, value⟩
    simp [memberToJson, pair?, string?]
  · rintro ⟨name, value⟩
    exact ⟨trivial, writable_int16 value, trivial⟩

/-- A precision and a time zone are decoded from their record. -/
theorem dateTime64OfJson?_object (precision : UInt32) (zone : Option String) :
    dateTime64OfJson? (.object [("precision", natJson precision), ("timezone", ofString? zone)]) =
      some (.dateTime64 precision zone) := by
  rw [dateTime64OfJson?, Fields.ofJson?_object_bind (by rfl) (by decide)]
  simp [Fields.required, Fields.optional, Fields.get?_cons, uint32?_natJson, option?_ofString?]

/-- A precision and a scale are decoded from their record. -/
theorem decimalTypeOfJson?_object (precision scale : UInt32) :
    decimalTypeOfJson? (.object [("precision", natJson precision), ("scale", natJson scale)]) =
      some (.decimal precision scale) := by
  rw [decimalTypeOfJson?, Fields.ofJson?_object_bind (by rfl) (by decide)]
  simp [Fields.required, Fields.get?_cons, uint32?_natJson]

namespace ColumnType

/-- Scalar types are decoded from their names or tagged records. -/
theorem decode?_scalar (type : Scalar) (fuel : Nat) :
    decode? (fuel + 1) type.toJson = some (.scalar type) := by
  -- What stands for the content of a scalar type is wrapped as a column type.
  have content {found : Option Scalar} {type : Scalar} (decoded : found = some type) :
      found.map ColumnType.scalar = some (.scalar type) := by
    rw [decoded]
    rfl
  cases type with
  | integer type => cases type <;> rfl
  | float width => cases width <;> rfl
  | bool => rfl
  | string declared =>
      cases declared with
      | none => rfl
      | some n =>
          exact content (congrArg (Option.map fun n => Scalar.string (some n)) (uint32?_natJson n))
  | fixedString n => exact content (congrArg (Option.map Scalar.fixedString) (uint32?_natJson n))
  | uuid => rfl
  | date => rfl
  | date32 => rfl
  | dateTime zone => exact content (congrArg (Option.map Scalar.dateTime) (option?_ofString? zone))
  | dateTime64 precision zone => exact content (dateTime64OfJson?_object precision zone)
  | ipv4 => rfl
  | ipv6 => rfl
  | decimal precision scale => exact content (decimalTypeOfJson?_object precision scale)
  | enumeration width members =>
      have decoded := restores_member.list.decodes members
      rw [List.map_id] at decoded
      cases width with
      | enum8 => exact content (congrArg (Option.map (Scalar.enumeration .enum8)) decoded)
      | enum16 => exact content (congrArg (Option.map (Scalar.enumeration .enum16)) decoded)

/-- Every scalar type has a text. -/
theorem writable_scalar (type : Scalar) : type.toJson.Writable := by
  cases type with
  | integer _ => trivial
  | float _ => trivial
  | bool => trivial
  | string declared =>
      cases declared with
      | none => trivial
      | some n => exact writable_tagged.mpr (writable_natJson n)
  | fixedString n => exact writable_tagged.mpr (writable_natJson n)
  | uuid => trivial
  | date => trivial
  | date32 => trivial
  | dateTime zone => exact writable_tagged.mpr (writable_ofString? zone)
  | dateTime64 precision zone =>
      exact writable_tagged.mpr ⟨writable_natJson precision, writable_ofString? zone, trivial⟩
  | ipv4 => trivial
  | ipv6 => trivial
  | decimal precision scale =>
      exact writable_tagged.mpr ⟨writable_natJson precision, writable_natJson scale, trivial⟩
  | enumeration _ members =>
      exact writable_tagged.mpr (restores_member.list.writable members (by simp))

mutual

/-- A type is decoded from its form, within its depth. -/
theorem decode?_toJson : ∀ (type : ColumnType) (fuel : Nat), type.toJson.depth < fuel →
    decode? fuel type.toJson = some type
  | .scalar type, fuel + 1, _ => decode?_scalar type fuel
  | .array inner, fuel + 1, shallow => by
      rw [toJson, depth_tagged] at shallow
      exact congrArg (Option.map ColumnType.array) (decode?_toJson inner fuel (by omega))
  | .nullable inner, fuel + 1, shallow => by
      rw [toJson, depth_tagged] at shallow
      exact congrArg (Option.map ColumnType.nullable) (decode?_toJson inner fuel (by omega))
  | .lowCardinality inner, fuel + 1, shallow => by
      rw [toJson, depth_tagged] at shallow
      exact congrArg (Option.map ColumnType.lowCardinality) (decode?_toJson inner fuel (by omega))
  | .tuple items, fuel + 1, shallow => by
      rw [toJson, depth_tagged, depth] at shallow
      exact congrArg (Option.map ColumnType.tuple) (traverse?_itemsToJson items fuel (by omega))
  | .namedTuple items, fuel + 1, shallow => by
      rw [toJson, depth_tagged, depth] at shallow
      exact congrArg (Option.map ColumnType.namedTuple)
        (traverse?_elementsToJson items fuel (by omega))
  | .map key value, fuel + 1, shallow => by
      rw [toJson, depth_tagged, depth, itemsDepth, itemsDepth] at shallow
      have decoded : pair? (decode? fuel) (decode? fuel) (.array [key.toJson, value.toJson]) =
          some (key, value) := by
        rw [pair?, decode?_toJson key fuel (by omega), decode?_toJson value fuel (by omega)]
      exact congrArg (Option.map fun (key, value) => ColumnType.map key value) decoded

/-- The types in a tuple are decoded in order. -/
theorem traverse?_itemsToJson : ∀ (items : List ColumnType) (fuel : Nat),
    itemsDepth (itemsToJson items) < fuel →
      traverse? (decode? fuel) (itemsToJson items) = some items
  | [], _, _ => rfl
  | item :: rest, fuel, shallow => by
      rw [itemsToJson, itemsDepth] at shallow
      rw [itemsToJson, traverse?, decode?_toJson item fuel (by omega),
        traverse?_itemsToJson rest fuel (by omega)]

/-- The elements of a tuple are decoded with their names. -/
theorem traverse?_elementsToJson : ∀ (items : List (String × ColumnType)) (fuel : Nat),
    itemsDepth (elementsToJson items) ≤ fuel →
      traverse? (pair? string? (decode? fuel)) (elementsToJson items) = some items
  | [], _, _ => rfl
  | (name, item) :: rest, fuel, shallow => by
      rw [elementsToJson, itemsDepth, depth, itemsDepth, itemsDepth] at shallow
      rw [elementsToJson, traverse?, pair?, string?, decode?_toJson item fuel (by omega),
        traverse?_elementsToJson rest fuel (by omega)]

end

mutual

/-- Every column type has a text. -/
theorem writable_toJson : ∀ type : ColumnType, type.toJson.Writable
  | .scalar type => writable_scalar type
  | .array inner => writable_tagged.mpr (writable_toJson inner)
  | .nullable inner => writable_tagged.mpr (writable_toJson inner)
  | .lowCardinality inner => writable_tagged.mpr (writable_toJson inner)
  | .tuple items => writable_tagged.mpr (writable_itemsToJson items)
  | .namedTuple items => writable_tagged.mpr (writable_elementsToJson items)
  | .map key value => writable_tagged.mpr ⟨writable_toJson key, writable_toJson value, trivial⟩

theorem writable_itemsToJson : ∀ items : List ColumnType, ItemsWritable (itemsToJson items)
  | [] => trivial
  | item :: rest => ⟨writable_toJson item, writable_itemsToJson rest⟩

theorem writable_elementsToJson :
    ∀ items : List (String × ColumnType), ItemsWritable (elementsToJson items)
  | [] => trivial
  | (_, item) :: rest =>
      ⟨⟨trivial, writable_toJson item, trivial⟩, writable_elementsToJson rest⟩

end

/-- A column type is restored as it is. -/
theorem restores : Restores toJson ofJson? (fun _ => []) id :=
  .plain (fun type => decode?_toJson type _ (Nat.lt_succ_self _)) writable_toJson

end ColumnType

/-! ### Expressions -/

/-- An operator is decoded from its name. -/
theorem BinaryOp.ofJson?_jsonName (op : BinaryOp) :
    BinaryOp.ofJson? (.string op.jsonName) = some op := by
  cases op <;> rfl

namespace Expr

mutual

/-- The floating-point and decimal numbers in an expression. -/
def numbers : Expr → List Number
  | .column _ _ => []
  | .star => []
  | .literal value => value.numbers
  | .bind _ value => value.numbers
  | .label e _ => numbers e
  | .function _ args => listNumbers args
  | .binary left _ right => numbers left ++ numbers right
  | .not e => numbers e
  | .isNull e _ => numbers e
  | .inList e list _ => numbers e ++ listNumbers list
  | .distinctFrom left right _ => numbers left ++ numbers right
  | .tuple items => listNumbers items
  | .extract _ e => numbers e
  | .cast e _ => numbers e
  | .lambda _ body => numbers body
  | .raw _ => []

/-- The numbers in some expressions. -/
def listNumbers : List Expr → List Number
  | [] => []
  | e :: rest => numbers e ++ listNumbers rest

end

mutual

/-- An expression without the signs of its decimal zeros. -/
def unsignedZeros : Expr → Expr
  | .column table name => .column table name
  | .star => .star
  | .literal value => .literal value.unsignedZeros
  | .bind key value => .bind key value.unsignedZeros
  | .label e name => .label (unsignedZeros e) name
  | .function name args => .function name (listUnsigned args)
  | .binary left op right => .binary (unsignedZeros left) op (unsignedZeros right)
  | .not e => .not (unsignedZeros e)
  | .isNull e negated => .isNull (unsignedZeros e) negated
  | .inList e list negated => .inList (unsignedZeros e) (listUnsigned list) negated
  | .distinctFrom left right negated =>
      .distinctFrom (unsignedZeros left) (unsignedZeros right) negated
  | .tuple items => .tuple (listUnsigned items)
  | .extract field e => .extract field (unsignedZeros e)
  | .cast e type => .cast (unsignedZeros e) type
  | .lambda param body => .lambda param (unsignedZeros body)
  | .raw sql => .raw sql

/-- Itemwise `unsignedZeros`. -/
def listUnsigned : List Expr → List Expr
  | [] => []
  | e :: rest => unsignedZeros e :: listUnsigned rest

end

/-! The variants that are records, given what the decoder makes of the
expressions inside. -/

section

variable {inner : Json → Option Expr} {e e' left left' right right' : Expr}
  {list list' : List Expr}

/-- A column is decoded with its table, or without one. -/
theorem columnOfJson?_object (table : Option String) (name : String) :
    columnOfJson? (.object [("table", ofString? table), ("name", .string name)]) =
      some (.column table name) := by
  rw [columnOfJson?, Fields.ofJson?_object_bind (by rfl) (by decide)]
  simp [Fields.required, Fields.optional, Fields.get?_cons, option?_ofString?, string?]

/-- A bound value is decoded with its key, and loses the signs of decimal
zeros. -/
theorem bindOfJson?_object (key : Option String) (value : Value) :
    bindOfJson? (.object [("key", ofString? key), ("value", value.toJson)]) =
      some (.bind key value.unsignedZeros) := by
  rw [bindOfJson?, Fields.ofJson?_object_bind (by rfl) (by decide)]
  simp [Fields.required, Fields.optional, Fields.get?_cons, option?_ofString?,
    Value.restores.decodes]

/-- A record is decoded from its fields once its parts are; this one and those
that follow leave open how parts are decoded. -/
theorem labelOfJson?_object (decoded : inner e.toJson = some e') (name : String) :
    labelOfJson? inner (.object [("expr", e.toJson), ("name", .string name)]) =
      some (.label e' name) := by
  rw [labelOfJson?, Fields.ofJson?_object_bind (by rfl) (by decide)]
  simp [Fields.required, Fields.get?_cons, decoded, string?]

theorem functionOfJson?_object (name : String)
    (decoded : traverse? inner (listToJson list) = some list') :
    functionOfJson? inner (.object [("name", .string name), ("args", .array (listToJson list))]) =
      some (.function name list') := by
  rw [functionOfJson?, Fields.ofJson?_object_bind (by rfl) (by decide)]
  simp [Fields.required, Fields.get?_cons, decoded, string?, list?]

theorem binaryOfJson?_object (first : inner left.toJson = some left')
    (second : inner right.toJson = some right') (op : BinaryOp) :
    binaryOfJson? inner (.object
      [("left", left.toJson), ("op", .string op.jsonName), ("right", right.toJson)]) =
        some (.binary left' op right') := by
  rw [binaryOfJson?, Fields.ofJson?_object_bind (by rfl) (by decide)]
  simp [Fields.required, Fields.get?_cons, first, second, BinaryOp.ofJson?_jsonName]

theorem isNullOfJson?_object (decoded : inner e.toJson = some e') (negated : Bool) :
    isNullOfJson? inner (.object [("expr", e.toJson), ("negated", .bool negated)]) =
      some (.isNull e' negated) := by
  rw [isNullOfJson?, Fields.ofJson?_object_bind (by rfl) (by decide)]
  simp [Fields.required, Fields.get?_cons, decoded, bool?]

theorem inListOfJson?_object (first : inner e.toJson = some e')
    (second : traverse? inner (listToJson list) = some list') (negated : Bool) :
    inListOfJson? inner (.object
      [("expr", e.toJson), ("list", .array (listToJson list)), ("negated", .bool negated)]) =
        some (.inList e' list' negated) := by
  rw [inListOfJson?, Fields.ofJson?_object_bind (by rfl) (by decide)]
  simp [Fields.required, Fields.get?_cons, first, second, bool?, list?]

theorem distinctFromOfJson?_object (first : inner left.toJson = some left')
    (second : inner right.toJson = some right') (negated : Bool) :
    distinctFromOfJson? inner (.object
      [("left", left.toJson), ("right", right.toJson), ("negated", .bool negated)]) =
        some (.distinctFrom left' right' negated) := by
  rw [distinctFromOfJson?, Fields.ofJson?_object_bind (by rfl) (by decide)]
  simp [Fields.required, Fields.get?_cons, first, second, bool?]

theorem extractOfJson?_object (field : String) (decoded : inner e.toJson = some e') :
    extractOfJson? inner (.object [("field", .string field), ("expr", e.toJson)]) =
      some (.extract field e') := by
  rw [extractOfJson?, Fields.ofJson?_object_bind (by rfl) (by decide)]
  simp [Fields.required, Fields.get?_cons, decoded, string?]

theorem castOfJson?_object (decoded : inner e.toJson = some e') (type : ColumnType) :
    castOfJson? inner (.object [("expr", e.toJson), ("ty", type.toJson)]) =
      some (.cast e' type) := by
  rw [castOfJson?, Fields.ofJson?_object_bind (by rfl) (by decide)]
  simp [Fields.required, Fields.get?_cons, decoded, ColumnType.restores.decodes]

theorem lambdaOfJson?_object (param : String) (decoded : inner e.toJson = some e') :
    lambdaOfJson? inner (.object [("param", .string param), ("body", e.toJson)]) =
      some (.lambda param e') := by
  rw [lambdaOfJson?, Fields.ofJson?_object_bind (by rfl) (by decide)]
  simp [Fields.required, Fields.get?_cons, decoded, string?]

end

mutual

/-- An expression is decoded from its form, within its depth. -/
theorem decode?_toJson : ∀ (e : Expr) (fuel : Nat), e.toJson.depth < fuel →
    decode? fuel e.toJson = some e.unsignedZeros
  | .column table name, _ + 1, _ => columnOfJson?_object table name
  | .star, _ + 1, _ => rfl
  | .literal value, _ + 1, _ => congrArg (Option.map Expr.literal) (Value.restores.decodes value)
  | .bind key value, _ + 1, _ => bindOfJson?_object key value
  | .label e name, fuel + 1, shallow => by
      simp only [toJson, depth_tagged, depth, fieldsDepth] at shallow
      exact labelOfJson?_object (decode?_toJson e fuel (by omega)) name
  | .function name args, fuel + 1, shallow => by
      simp only [toJson, depth_tagged, depth, fieldsDepth] at shallow
      exact functionOfJson?_object name (traverse?_listToJson args fuel (by omega))
  | .binary left op right, fuel + 1, shallow => by
      simp only [toJson, depth_tagged, depth, fieldsDepth] at shallow
      exact binaryOfJson?_object (decode?_toJson left fuel (by omega))
        (decode?_toJson right fuel (by omega)) op
  | .not e, fuel + 1, shallow => by
      simp only [toJson, depth_tagged] at shallow
      exact congrArg (Option.map Expr.not) (decode?_toJson e fuel (by omega))
  | .isNull e negated, fuel + 1, shallow => by
      simp only [toJson, depth_tagged, depth, fieldsDepth] at shallow
      exact isNullOfJson?_object (decode?_toJson e fuel (by omega)) negated
  | .inList e list negated, fuel + 1, shallow => by
      simp only [toJson, depth_tagged, depth, fieldsDepth] at shallow
      exact inListOfJson?_object (decode?_toJson e fuel (by omega))
        (traverse?_listToJson list fuel (by omega)) negated
  | .distinctFrom left right negated, fuel + 1, shallow => by
      simp only [toJson, depth_tagged, depth, fieldsDepth] at shallow
      exact distinctFromOfJson?_object (decode?_toJson left fuel (by omega))
        (decode?_toJson right fuel (by omega)) negated
  | .tuple items, fuel + 1, shallow => by
      simp only [toJson, depth_tagged, depth] at shallow
      exact congrArg (Option.map Expr.tuple) (traverse?_listToJson items fuel (by omega))
  | .extract field e, fuel + 1, shallow => by
      simp only [toJson, depth_tagged, depth, fieldsDepth] at shallow
      exact extractOfJson?_object field (decode?_toJson e fuel (by omega))
  | .cast e type, fuel + 1, shallow => by
      simp only [toJson, depth_tagged, depth, fieldsDepth] at shallow
      exact castOfJson?_object (decode?_toJson e fuel (by omega)) type
  | .lambda param body, fuel + 1, shallow => by
      simp only [toJson, depth_tagged, depth, fieldsDepth] at shallow
      exact lambdaOfJson?_object param (decode?_toJson body fuel (by omega))
  | .raw sql, _ + 1, _ => rfl

/-- Lists of expressions are decoded with the fuel that their depth asks for. -/
theorem traverse?_listToJson : ∀ (list : List Expr) (fuel : Nat),
    itemsDepth (listToJson list) < fuel →
      traverse? (decode? fuel) (listToJson list) = some (listUnsigned list)
  | [], _, _ => rfl
  | e :: rest, fuel, shallow => by
      rw [listToJson, itemsDepth] at shallow
      rw [listToJson, traverse?, decode?_toJson e fuel (by omega),
        traverse?_listToJson rest fuel (by omega)]
      rfl

end

mutual

/-- The form of an expression has a text if its numbers do. -/
theorem writable_toJson : ∀ e : Expr, (∀ n ∈ e.numbers, n.HasText) → e.toJson.Writable
  | .column table _, _ => writable_tagged.mpr ⟨writable_ofString? table, trivial, trivial⟩
  | .star, _ => trivial
  | .literal value, finite => writable_tagged.mpr (Value.restores.writable value finite)
  | .bind key value, finite =>
      writable_tagged.mpr ⟨writable_ofString? key, Value.restores.writable value finite, trivial⟩
  | .label e _, finite => writable_tagged.mpr ⟨writable_toJson e finite, trivial, trivial⟩
  | .function _ args, finite =>
      writable_tagged.mpr ⟨trivial, writable_listToJson args finite, trivial⟩
  | .binary left _ right, finite => by
      rw [numbers, List.forall_mem_append] at finite
      exact writable_tagged.mpr
        ⟨writable_toJson left finite.1, trivial, writable_toJson right finite.2, trivial⟩
  | .not e, finite => writable_tagged.mpr (writable_toJson e finite)
  | .isNull e _, finite => writable_tagged.mpr ⟨writable_toJson e finite, trivial, trivial⟩
  | .inList e list _, finite => by
      rw [numbers, List.forall_mem_append] at finite
      exact writable_tagged.mpr
        ⟨writable_toJson e finite.1, writable_listToJson list finite.2, trivial, trivial⟩
  | .distinctFrom left right _, finite => by
      rw [numbers, List.forall_mem_append] at finite
      exact writable_tagged.mpr
        ⟨writable_toJson left finite.1, writable_toJson right finite.2, trivial, trivial⟩
  | .tuple items, finite => writable_tagged.mpr (writable_listToJson items finite)
  | .extract _ e, finite => writable_tagged.mpr ⟨trivial, writable_toJson e finite, trivial⟩
  | .cast e type, finite =>
      writable_tagged.mpr ⟨writable_toJson e finite, type.writable_toJson, trivial⟩
  | .lambda _ body, finite => writable_tagged.mpr ⟨trivial, writable_toJson body finite, trivial⟩
  | .raw _, _ => writable_tagged.mpr trivial

theorem writable_listToJson : ∀ list : List Expr, (∀ n ∈ listNumbers list, n.HasText) →
    ItemsWritable (listToJson list)
  | [], _ => trivial
  | e :: rest, finite => by
      rw [listNumbers, List.forall_mem_append] at finite
      exact ⟨writable_toJson e finite.1, writable_listToJson rest finite.2⟩

end

mutual

/-- An expression whose decimal zeros have no sign is kept as it is. -/
theorem unsignedZeros_eq_self : ∀ e : Expr, (∀ n ∈ e.numbers, n.Settled) → e.unsignedZeros = e
  | .column _ _, _ => rfl
  | .star, _ => rfl
  | .literal value, settled => congrArg Expr.literal (value.unsignedZeros_eq_self settled)
  | .bind key value, settled => congrArg (Expr.bind key) (value.unsignedZeros_eq_self settled)
  | .label e name, settled => congrArg (Expr.label · name) (unsignedZeros_eq_self e settled)
  | .function name args, settled =>
      congrArg (Expr.function name) (listUnsigned_eq_self args settled)
  | .binary left op right, settled => by
      rw [numbers, List.forall_mem_append] at settled
      rw [unsignedZeros, unsignedZeros_eq_self left settled.1,
        unsignedZeros_eq_self right settled.2]
  | .not e, settled => congrArg Expr.not (unsignedZeros_eq_self e settled)
  | .isNull e negated, settled => congrArg (Expr.isNull · negated) (unsignedZeros_eq_self e settled)
  | .inList e list negated, settled => by
      rw [numbers, List.forall_mem_append] at settled
      rw [unsignedZeros, unsignedZeros_eq_self e settled.1, listUnsigned_eq_self list settled.2]
  | .distinctFrom left right negated, settled => by
      rw [numbers, List.forall_mem_append] at settled
      rw [unsignedZeros, unsignedZeros_eq_self left settled.1,
        unsignedZeros_eq_self right settled.2]
  | .tuple items, settled => congrArg Expr.tuple (listUnsigned_eq_self items settled)
  | .extract field e, settled => congrArg (Expr.extract field) (unsignedZeros_eq_self e settled)
  | .cast e type, settled => congrArg (Expr.cast · type) (unsignedZeros_eq_self e settled)
  | .lambda param body, settled =>
      congrArg (Expr.lambda param) (unsignedZeros_eq_self body settled)
  | .raw _, _ => rfl

theorem listUnsigned_eq_self : ∀ list : List Expr, (∀ n ∈ listNumbers list, n.Settled) →
    listUnsigned list = list
  | [], _ => rfl
  | e :: rest, settled => by
      rw [listNumbers, List.forall_mem_append] at settled
      rw [listUnsigned, unsignedZeros_eq_self e settled.1, listUnsigned_eq_self rest settled.2]

end

/-- An expression is restored, but for the signs of decimal zeros. -/
theorem restores : Restores toJson ofJson? numbers unsignedZeros where
  decodes e := decode?_toJson e _ (Nat.lt_succ_self _)
  writable := writable_toJson
  kept := unsignedZeros_eq_self

end Expr

end ColumnarSql
