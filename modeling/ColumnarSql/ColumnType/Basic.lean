/-
Module: ColumnarSql.ColumnType.Basic
Purpose: The types of table columns.
Main exports:
  IntegerType, FloatWidth, EnumWidth, Scalar, ColumnType,
  ColumnType.isNullable, ColumnType.same
-/

namespace ColumnarSql

/-!
A column type is a scalar type or is built from other column types.  Names of
scalar types carry the parameters that the server writes behind them.
-/

/-- Integer types by sign and number of bits. -/
inductive IntegerType where
  | int8
  | int16
  | int32
  | int64
  | int128
  | int256
  | uint8
  | uint16
  | uint32
  | uint64
  | uint128
  | uint256
deriving DecidableEq, Repr, Inhabited

/-- Floating-point types by number of bits. -/
inductive FloatWidth where
  | float32
  | float64
deriving DecidableEq, Repr, Inhabited

/-- Enumeration types by the number of bits of their values. -/
inductive EnumWidth where
  | enum8
  | enum16
deriving DecidableEq, Repr, Inhabited

/-- A type that is not built from other types. -/
inductive Scalar where
  | integer (type : IntegerType)
  | float (width : FloatWidth)
  | bool
  /-- A string, possibly with a declared length that is not enforced. -/
  | string (declared : Option UInt32)
  /-- A string of at most `length` bytes. -/
  | fixedString (length : UInt32)
  | uuid
  | date
  | date32
  | dateTime (timezone : Option String)
  | dateTime64 (precision : UInt32) (timezone : Option String)
  | ipv4
  | ipv6
  | decimal (precision scale : UInt32)
  /-- Named values, in order of declaration. -/
  | enumeration (width : EnumWidth) (members : List (String × Int16))
deriving DecidableEq, Repr, Inhabited

/-- The type of a column. -/
inductive ColumnType where
  | scalar (type : Scalar)
  | array (inner : ColumnType)
  | nullable (inner : ColumnType)
  | lowCardinality (inner : ColumnType)
  | tuple (items : List ColumnType)
  /-- A tuple whose elements have names. -/
  | namedTuple (items : List (String × ColumnType))
  | map (key value : ColumnType)
deriving Inhabited

namespace ColumnType

/-- Whether NULL can be stored in a column of this type. -/
def isNullable : ColumnType → Bool
  | .nullable _ => true
  | .lowCardinality inner => inner.isNullable
  | _ => false

mutual

/-- Equality of types. -/
def same : ColumnType → ColumnType → Bool
  | .scalar a, .scalar b => a == b
  | .array a, .array b => same a b
  | .nullable a, .nullable b => same a b
  | .lowCardinality a, .lowCardinality b => same a b
  | .tuple a, .tuple b => sameItems a b
  | .namedTuple a, .namedTuple b => sameElements a b
  | .map k v, .map k' v' => same k k' && same v v'
  | _, _ => false

/-- Itemwise `same`. -/
def sameItems : List ColumnType → List ColumnType → Bool
  | [], [] => true
  | a :: as, b :: bs => same a b && sameItems as bs
  | _, _ => false

/-- Elementwise `same`, names included. -/
def sameElements : List (String × ColumnType) → List (String × ColumnType) → Bool
  | [], [] => true
  | (n, a) :: as, (m, b) :: bs => n == m && same a b && sameElements as bs
  | _, _ => false

end

mutual

/-- `same` decides equality. -/
theorem same_iff : ∀ a b : ColumnType, same a b = true ↔ a = b
  | .scalar a, b => by cases b <;> simp [same]
  | .array a, b => by cases b <;> simp [same, same_iff a]
  | .nullable a, b => by cases b <;> simp [same, same_iff a]
  | .lowCardinality a, b => by cases b <;> simp [same, same_iff a]
  | .tuple a, b => by cases b <;> simp [same, sameItems_iff a]
  | .namedTuple a, b => by cases b <;> simp [same, sameElements_iff a]
  | .map k v, b => by cases b <;> simp [same, same_iff k, same_iff v]

theorem sameItems_iff : ∀ a b : List ColumnType, sameItems a b = true ↔ a = b
  | [], b => by cases b <;> simp [sameItems]
  | a :: as, b => by cases b <;> simp [sameItems, same_iff a, sameItems_iff as]

theorem sameElements_iff :
    ∀ a b : List (String × ColumnType), sameElements a b = true ↔ a = b
  | [], b => by cases b <;> simp [sameElements]
  | (n, a) :: as, b => by
      cases b with
      | nil => simp [sameElements]
      | cons head tail =>
          obtain ⟨m, b⟩ := head
          simp [sameElements, same_iff a, sameElements_iff as]

end

instance : DecidableEq ColumnType := fun a b =>
  decidable_of_iff (same a b = true) (same_iff a b)

end ColumnType

end ColumnarSql
