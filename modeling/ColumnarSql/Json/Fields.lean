/-
Module: ColumnarSql.Json.Fields
Purpose: Decoding records, variants and lists.
Main exports:
  Fields, Fields.ofJson?, Fields.required, Fields.optional, Fields.defaulted,
  Json.variant?, Json.unit?, Json.list?, Json.pair?
-/
import ColumnarSql.Json.Basic

namespace ColumnarSql

/-!
A record is written as an object.  Fields that the record does not have are
ignored, and a field of the record may not occur twice.  A record may also be
written as the array of its fields in order.

A variant is written as an object whose one field is named for the variant; a
variant without content may be written as its name alone.
-/

/-- Apply a step that may fail to every item of a list. -/
def traverse? {α β : Type} (step : α → Option β) : List α → Option (List β)
  | [] => some []
  | item :: rest =>
      match step item, traverse? step rest with
      | some value, some values => some (value :: values)
      | _, _ => none

/-- The fields of a record.  In the positional form only fields with a default
may be missing. -/
structure Fields where
  positional : Bool
  entries : List (String × Json)
deriving Inhabited

namespace Fields

/-- Number of fields with a name. -/
def occurrences (name : String) (entries : List (String × Json)) : Nat :=
  entries.countP fun entry => entry.1 == name

/-- The fields of a record that has fields with these names. -/
def ofJson? (names : List String) : Json → Option Fields
  | .object entries =>
      if names.all fun name => occurrences name entries ≤ 1 then some ⟨false, entries⟩ else none
  | .array items => if items.length ≤ names.length then some ⟨true, names.zip items⟩ else none
  | _ => none

/-- The content of a field. -/
def get? (fields : Fields) (name : String) : Option Json :=
  (fields.entries.find? fun entry => entry.1 == name).map Prod.snd

/-- A field that must be there. -/
def required {α : Type} (fields : Fields) (name : String) (decode : Json → Option α) :
    Option α :=
  (fields.get? name).bind decode

/-- A field with a default. -/
def defaulted {α : Type} (fields : Fields) (name : String) (decode : Json → Option α)
    (default : α) : Option α :=
  match fields.get? name with
  | some json => decode json
  | none => some default

end Fields

namespace Json

/-- Decode something that may be null. -/
def option? {α : Type} (decode : Json → Option α) : Json → Option (Option α)
  | .null => some none
  | json => (decode json).map some

/-- Decode an array of things. -/
def list? {α : Type} (decode : Json → Option α) : Json → Option (List α)
  | .array items => traverse? decode items
  | _ => none

/-- Decode an array of two things. -/
def pair? {α β : Type} (first : Json → Option α) (second : Json → Option β) :
    Json → Option (α × β)
  | .array [a, b] =>
      match first a, second b with
      | some a, some b => some (a, b)
      | _, _ => none
  | _ => none

/-- Decode a truth value. -/
def bool? : Json → Option Bool
  | .bool b => some b
  | _ => none

/-- Decode a string. -/
def string? : Json → Option String
  | .string s => some s
  | _ => none

/-- Decode an integer between two bounds. -/
def integerWithin? (min max : Int) : Json → Option Int
  | .integer n => if min ≤ n && n ≤ max then some n else none
  | _ => none

/-- Decode an unsigned integer of 32 bits. -/
def uint32? (json : Json) : Option UInt32 :=
  (integerWithin? 0 (Int.pow 2 32 - 1) json).map fun n => UInt32.ofNat n.toNat

/-- Decode an unsigned integer of 64 bits. -/
def uint64? (json : Json) : Option UInt64 :=
  (integerWithin? 0 (Int.pow 2 64 - 1) json).map fun n => UInt64.ofNat n.toNat

/-- Decode a signed integer of 16 bits. -/
def int16? (json : Json) : Option Int16 :=
  (integerWithin? (-(Int.pow 2 15)) (Int.pow 2 15 - 1) json).map Int16.ofInt

/-- Decode a signed integer of 64 bits. -/
def int64? (json : Json) : Option Int64 :=
  (integerWithin? (-(Int.pow 2 63)) (Int.pow 2 63 - 1) json).map Int64.ofInt

/-- Decode a floating-point number, which may be written as an integer. -/
def double? : Json → Option Double
  | .float x => some x
  | .integer n => some (Double.ofInt n)
  | _ => none

/-- The name and content of a variant; a bare name has no content. -/
def variant? : Json → Option (String × Option Json)
  | .string name => some (name, none)
  | .object [(name, content)] => some (name, some content)
  | _ => none

/-- The content of a variant without content may be null. -/
def unit? {α : Type} (value : α) : Option Json → Option α
  | none => some value
  | some .null => some value
  | some _ => none

/-- A variant with content. -/
def tagged (name : String) (content : Json) : Json :=
  .object [(name, content)]

/-- A string or null. -/
def ofString? : Option String → Json
  | none => .null
  | some s => .string s

/-- Something or null. -/
def ofOption {α : Type} (encode : α → Json) : Option α → Json
  | none => .null
  | some a => encode a

end Json

/-- A field that may be missing or null.  In the positional form it may not be
missing. -/
def Fields.optional {α : Type} (fields : Fields) (name : String) (decode : Json → Option α) :
    Option (Option α) :=
  match fields.get? name with
  | some json => Json.option? decode json
  | none => if fields.positional then none else some none

end ColumnarSql
