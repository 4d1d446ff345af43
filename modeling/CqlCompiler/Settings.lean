import CqlCompiler.Toml.Document

/-!
# Settings

What the command line program does unless its arguments say otherwise, read
from a TOML document.  Everything has a default; keys without a meaning are
ignored.
-/

namespace CqlCompiler

/-- How a compiled statement is shown. -/
inductive OutputFormat where
  /-- The CQL text alone. -/
  | cql
  /-- The statement and its CQL text in JSON. -/
  | json
  deriving DecidableEq, Repr

/-- How results are shown. -/
structure OutputSettings where
  format : OutputFormat := .cql
  color : Bool := true
  deriving DecidableEq, Repr

/-- The settings of the program. -/
structure Settings where
  /-- Which events are logged. -/
  logLevel : String := "warn"
  output : OutputSettings := {}
  deriving DecidableEq, Repr

namespace OutputFormat

/-- The name of the format. -/
def name : OutputFormat → String
  | .cql => "cql"
  | .json => "json"

/-- The format with exactly this name. -/
def named? (text : String) : Option OutputFormat :=
  [cql, json].find? (·.name == text)

/-- The format that a TOML value stands for: its name, or a table with the name
as its only key and nothing under it. -/
def ofToml? : Toml.Value → Option OutputFormat
  | .string text => named? text
  | .table [(key, .table [])] => named? key
  | .table [(key, .array [])] => named? key
  | _ => none

end OutputFormat

/-- The truth value that a TOML value stands for. -/
def boolOfToml? : Toml.Value → Option Bool
  | .boolean truth => some truth
  | _ => none

/-- The text that a TOML value stands for. -/
def textOfToml? : Toml.Value → Option String
  | .string text => some text
  | _ => none

/-- What a value that may be absent stands for, and the default if it is. -/
def orDefault? {α : Type} (decode? : Toml.Value → Option α) (default : α) :
    Option Toml.Value → Option α
  | none => some default
  | some value => decode? value

namespace OutputSettings

/-- The output settings with these parts. -/
def ofParts? (format color : Option Toml.Value) : Option OutputSettings := do
  let format ← orDefault? OutputFormat.ofToml? .cql format
  let color ← orDefault? boolOfToml? true color
  return { format, color }

/-- The output settings that a TOML value stands for: a table, or an array with
the parts in order.  A point in time says nothing about them. -/
def ofToml? : Toml.Value → Option OutputSettings
  | .table entries => ofParts? (entries.lookup "format") (entries.lookup "color")
  | .array items => ofParts? items[0]? items[1]?
  | .datetime => some {}
  | _ => none

end OutputSettings

namespace Settings

/-- The settings in a TOML document. -/
def ofToml? (text : String) : Option Settings := do
  let entries ← Toml.document? text
  let logLevel ← orDefault? textOfToml? "warn" (entries.lookup "log_level")
  let output ← orDefault? OutputSettings.ofToml? {} (entries.lookup "output")
  return { logLevel, output }

end Settings

end CqlCompiler
