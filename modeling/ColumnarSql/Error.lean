/-
Module: ColumnarSql.Error
Purpose: Everything that can go wrong, and how it is reported.
Main exports:
  RequestFault, CompileFault, TypeFault, ValueFault, ParseFault, ConfigFault,
  FileFault, Error, Error.message
-/
import ColumnarSql.ColumnType.Printer
import ColumnarSql.Value.Literal

namespace ColumnarSql

/-!
An error is a cause.  Its wording stands in one place, the function
`Error.message`, so that the rest of the library never handles message texts.
-/

/-- A request that is refused before any SQL is written. -/
inductive RequestFault where
  | totalsWithoutGroups
  | unknownJoinType (text : String)
  | unknownStrictness (text : String)
  | unknownDistribution (text : String)
deriving DecidableEq, Repr, Inhabited

/-- A statement that cannot be written as SQL. -/
inductive CompileFault where
  | offsetWithoutLimit
  | finalWithoutFrom
  | sampleWithoutFrom
  | emptyArrayJoin
  | emptyLimitBy
  | unknownColumn (column table : String)
  | noInsertColumns (table : String)
  | deleteUnsupported
  | deleteWithoutFilter
  | noEngine (table : String)
  | noColumns (table : String)
deriving DecidableEq, Repr, Inhabited

/-- A column type with parameters that the server does not accept. -/
inductive TypeFault where
  | emptyFixedString
  | dateTimePrecision (precision : UInt32)
  | decimalPrecision (precision : UInt32)
  | decimalScale (scale precision : UInt32)
  | noMembers (width : EnumWidth)
  | memberOutOfRange (width : EnumWidth) (name : String) (value : Int16)
  | memberRepeated (width : EnumWidth) (name : String)
  | memberValueRepeated (width : EnumWidth) (value : Int16)
  | notNullable (inner : ColumnType)
  | emptyTuple
  | elementName (name : String)
  | elementRepeated (name : String)
deriving Inhabited

/-- A value that does not fit the column it is meant for. -/
inductive ValueFault where
  | nullNotAllowed (type : ColumnType)
  | mismatch (kind : String) (type : ColumnType)
  | outOfRange (number : Int) (type : ColumnType)
  | decimalTooLarge (number : Decimal) (type : ColumnType)
  | tooLong (text : String) (length : UInt32)
  | notUuid (text : String)
  | notIPv4 (text : String)
  | notIPv6 (text : String)
  | notDate (text : String)
  | notDateTime (text : String)
  | notMember (value : Value) (type : ColumnType)
  | tupleLength (type : ColumnType) (expected actual : Nat)
  | rowLength (row actual expected : Nat)
  | inColumn (column : String) (fault : ValueFault)
deriving Inhabited

/-- A text that cannot be read. -/
inductive ParseFault where
  | malformedType (source : String)
  | textAfterType (rest source : String)
  | noEngineName (source : String)
  | malformedArguments (text : String)
  | clauseRepeated (source : String)
  | malformedTtlTarget (text : String)
  | malformedSetting (text : String)
deriving DecidableEq, Repr, Inhabited

/-- A configuration that cannot be used. -/
inductive ConfigFault where
  | invalidVersion (text : String)
  | unknownStyle (text : String)
  | invalidToml
  | inFile (path : String)
deriving DecidableEq, Repr, Inhabited

/-- A file that cannot be read. -/
inductive FileFault where
  | missing
  | notADirectory
  | isADirectory
deriving DecidableEq, Repr, Inhabited

/-- An error with its cause. -/
inductive Error where
  | request (fault : RequestFault)
  | compile (fault : CompileFault)
  | type (fault : TypeFault)
  | value (fault : ValueFault)
  /-- A text that cannot be read, with the byte position of the fault. -/
  | parse (position : Nat) (fault : ParseFault)
  | config (fault : ConfigFault)
  | file (fault : FileFault)
deriving Inhabited

/-! ### Wording -/

/-- The least and the greatest value of a member. -/
def EnumWidth.range : EnumWidth → Int × Int
  | .enum8 => (-128, 127)
  | .enum16 => (-32768, 32767)

/-- A text in single quotes, as messages show it. -/
def shown (text : String) : String :=
  "'" ++ text ++ "'"

def RequestFault.message : RequestFault → String
  | .totalsWithoutGroups =>
      "Select::with_totals() can be used only with specified GROUP BY, call group_by()"
  | .unknownJoinType text => "Unknown join type: " ++ shown text
  | .unknownStrictness text => "Unknown join strictness: " ++ shown text
  | .unknownDistribution text => "Unknown join distribution: " ++ shown text

def CompileFault.message : CompileFault → String
  | .offsetWithoutLimit => "OFFSET without LIMIT is not supported"
  | .finalWithoutFrom => "FINAL requires a FROM clause"
  | .sampleWithoutFrom => "SAMPLE requires a FROM clause"
  | .emptyArrayJoin => "ARRAY JOIN requires at least one column"
  | .emptyLimitBy => "LIMIT BY requires at least one expression"
  | .unknownColumn column table =>
      "Unknown column " ++ shown column ++ " in table " ++ shown table
  | .noInsertColumns table => "No columns to insert into table " ++ shown table
  | .deleteUnsupported => "ALTER DELETE is not supported by this server version"
  | .deleteWithoutFilter => "WHERE clause is required"
  | .noEngine table => "No engine for table " ++ shown table
  | .noColumns table => "Table " ++ shown table ++ " has no columns"

def TypeFault.message : TypeFault → String
  | .emptyFixedString => "FixedString length must be positive"
  | .dateTimePrecision p => "DateTime64 precision " ++ toString p.toNat ++ " exceeds 9"
  | .decimalPrecision p => "Decimal precision " ++ toString p.toNat ++ " is outside 1..=38"
  | .decimalScale s p =>
      "Decimal scale " ++ toString s.toNat ++ " exceeds precision " ++ toString p.toNat
  | .noMembers width => width.name ++ " needs at least one member"
  | .memberOutOfRange width name value =>
      width.name ++ " value " ++ toString value.toInt ++ " for " ++ shown name ++
        " is outside " ++ toString width.range.1 ++ "..=" ++ toString width.range.2
  | .memberRepeated width name =>
      width.name ++ " member " ++ shown name ++ " is declared twice"
  | .memberValueRepeated width value =>
      width.name ++ " value " ++ toString value.toInt ++ " is declared twice"
  | .notNullable inner => inner.render ++ " cannot be inside Nullable"
  | .emptyTuple => "Tuple needs at least one element"
  | .elementName name => "Tuple element name " ++ shown name ++ " is not a plain identifier"
  | .elementRepeated name => "Tuple element " ++ shown name ++ " is declared twice"

def ValueFault.message : ValueFault → String
  | .nullNotAllowed type => "NULL is not allowed for " ++ type.render
  | .mismatch kind type => "cannot store a " ++ kind ++ " value in " ++ type.render
  | .outOfRange number type => toString number ++ " is out of range for " ++ type.render
  | .decimalTooLarge number type => number.text ++ " does not fit " ++ type.render
  | .tooLong text length => shown text ++ " is longer than " ++ toString length.toNat ++ " bytes"
  | .notUuid text => shown text ++ " is not a UUID"
  | .notIPv4 text => shown text ++ " is not an IPv4 address"
  | .notIPv6 text => shown text ++ " is not an IPv6 address"
  | .notDate text => shown text ++ " is not a date"
  | .notDateTime text => shown text ++ " is not a datetime"
  | .notMember value type => value.diagnostic ++ " is not a member of " ++ type.render
  | .tupleLength type expected actual =>
      type.render ++ " expects " ++ toString expected ++ " elements, got " ++ toString actual
  | .rowLength row actual expected =>
      "row " ++ toString row ++ " has " ++ toString actual ++ " values, expected " ++
        toString expected
  | .inColumn column fault =>
      "column " ++ shown column ++ ": Invalid value: " ++ fault.message

def ParseFault.message : ParseFault → String
  | .malformedType source => "Unknown or malformed type " ++ shown source
  | .textAfterType rest source =>
      "Unexpected " ++ shown rest ++ " after type in " ++ shown source
  | .noEngineName source => "Expected an engine name in " ++ shown source
  | .malformedArguments text => "Malformed engine arguments " ++ shown text
  | .clauseRepeated source => "Engine clause repeated in " ++ shown source
  | .malformedTtlTarget text => "Malformed TTL target in " ++ shown text
  | .malformedSetting text => "Malformed engine setting " ++ shown text

def ConfigFault.message : ConfigFault → String
  | .invalidVersion text => "Invalid server version " ++ shown text
  | .unknownStyle text =>
      "Unknown param style " ++ shown text ++ ". Expected: pyformat, named, qmark"
  | .invalidToml => "TOML parse error"
  | .inFile path => path ++ ": Configuration error: TOML parse error"

def FileFault.message : FileFault → String
  | .missing => "No such file or directory (os error 2)"
  | .notADirectory => "Not a directory (os error 20)"
  | .isADirectory => "Is a directory (os error 21)"

/-- The text of an error. -/
def Error.message : Error → String
  | .request fault => fault.message
  | .compile fault => fault.message
  | .type fault => "Invalid type: " ++ fault.message
  | .value fault => "Invalid value: " ++ fault.message
  | .parse position fault =>
      "Parse error at position " ++ toString position ++ ": " ++ fault.message
  | .config fault => "Configuration error: " ++ fault.message
  | .file fault => "IO error: " ++ fault.message

end ColumnarSql
