/-
Module: ColumnarSql.Config
Purpose: The configuration file.
Main exports:
  ServerSettings, Config, Config.parse, Config.capabilities
-/
import ColumnarSql.Server
import ColumnarSql.Sql.Parameter
import ColumnarSql.Toml.Reader

namespace ColumnarSql

/-!
A configuration has a section on the server and a section on the SQL that is
written.  Every section and every setting may be left out, and settings that
are not known are ignored.  A section is a table, or the array of its settings
in order.
-/

/-- What a configuration says of the server. -/
structure ServerSettings where
  version : Option String := none
  /-- Overrides what follows from the version. -/
  supportsDelete : Option Bool := none
deriving DecidableEq, Repr, Inhabited

/-- A configuration. -/
structure Config where
  server : ServerSettings := {}
  options : CompileOptions := {}
deriving DecidableEq, Repr, Inhabited

namespace Toml

/-- A string. -/
def string? : Toml → Option String
  | .string s => some s
  | _ => none

/-- A truth value. -/
def boolean? : Toml → Option Bool
  | .boolean b => some b
  | _ => none

/-- An array or table without content. -/
def isVoid : Toml → Bool
  | .array items => items.isEmpty
  | .inlineTable entries => entries.isEmpty
  | .table _ entries => entries.isEmpty
  | _ => false

/-- The name of a choice: a string, or a table whose only key is the name and
has no content. -/
def choice? : Toml → Option String
  | .string s => some s
  | .inlineTable [(name, content)] => if content.isVoid then some name else none
  | .table _ [(name, content)] => if content.isVoid then some name else none
  | _ => none

/-- The setting of a section that has the given name and position, if the value
is a section.  A date or time is a section without settings. -/
def setting? (position : Nat) (name : String) : Toml → Option (Option Toml)
  | .table _ entries => some (get? entries name)
  | .inlineTable entries => some (get? entries name)
  | .array items => some items[position]?
  | .tables elements => some (elements[position]?.map .inlineTable)
  | .moment _ => some none
  | _ => none

/-- Decode a setting that may be left out. -/
def optional? {α : Type} (decode : Toml → Option α) : Option Toml → Option (Option α)
  | none => some none
  | some value => (decode value).map some

end Toml

/-- Decode the section on the server. -/
def ServerSettings.ofToml? (value : Toml) : Option ServerSettings := do
  let version ← Toml.optional? Toml.string? (← value.setting? 0 "server_version")
  let supportsDelete ← Toml.optional? Toml.boolean? (← value.setting? 1 "supports_delete")
  return ⟨version, supportsDelete⟩

/-- Decode the section on the SQL that is written. -/
def CompileOptions.ofToml? (value : Toml) : Option CompileOptions := do
  let literalBinds ← Toml.optional? Toml.boolean? (← value.setting? 0 "literal_binds")
  let style ← Toml.optional? (fun v => v.choice?.bind ParameterStyle.ofName?)
    (← value.setting? 1 "param_style")
  return ⟨literalBinds.getD false, style.getD .pyformat⟩

namespace Config

/-- Decode a document. -/
def ofDocument? (document : Toml.Entries) : Option Config := do
  let server ← Toml.optional? ServerSettings.ofToml? (Toml.get? document "capabilities")
  let options ← Toml.optional? CompileOptions.ofToml? (Toml.get? document "compile")
  return ⟨server.getD {}, options.getD {}⟩

/-- Read a configuration. -/
def parse (text : String) : Except Error Config :=
  match (Toml.parse? text).bind ofDocument? with
  | some config => .ok config
  | none => .error (.config .invalidToml)

/-- What the server can do.  An explicit setting wins over the version. -/
def capabilities (config : Config) : Except Error Capabilities := do
  let derived ←
    match config.server.version with
    | some version => (ServerVersion.parse version).map Capabilities.ofVersion
    | none => .ok {}
  return { derived with
    supportsDelete := config.server.supportsDelete.getD derived.supportsDelete }

end Config

end ColumnarSql
