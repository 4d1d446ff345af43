import CqlCompiler.Settings

/-!
# Where settings come from

Settings are read from the file that the user names, or else from the first
file that exists of `sql2cql.toml` in the working directory and
`sql2cql/config.toml` in the user's directory for settings.  Without any of
them the defaults hold.
-/

namespace CqlCompiler

/-- What is known about a path. -/
structure FileState where
  /-- Whether it leads to a file, and not to a directory or to nothing. -/
  isFile : Bool
  /-- The text there, or why it cannot be read. -/
  content : Except String String
  /-- Why no text can be written there, if that is so. -/
  refusal : Option String := none

/-- What a run depends on besides its arguments and its input: the variables of
the environment and the files. -/
structure Surroundings where
  environment : String → Option String
  file : String → FileState

/-- Why there are no settings. -/
inductive SettingsError where
  /-- The file cannot be read, for the reason given. -/
  | unreadable (reason : String)
  /-- The file is no TOML document or its values have the wrong types. -/
  | malformed (path : String)
  deriving DecidableEq, Repr

namespace SettingsError

/-- The wording of the error, from the general to the particular. -/
def message : SettingsError → String
  | .unreadable reason => "IO error: " ++ reason ++ ": " ++ reason
  | .malformed path => "Configuration error: " ++ path ++ ": malformed settings"

end SettingsError

namespace Surroundings

/-- The directory for settings in the user's home directory. -/
def homeSettingsDirectory? (surroundings : Surroundings) : Option String :=
  (surroundings.environment "HOME").map (· ++ "/.config")

/-- The user's directory for settings.  A relative path in the environment does
not count. -/
def settingsDirectory? (surroundings : Surroundings) : Option String :=
  match surroundings.environment "XDG_CONFIG_HOME" with
  | some path =>
    if path.startsWith "/" then some path else surroundings.homeSettingsDirectory?
  | none => surroundings.homeSettingsDirectory?

/-- The file that remembers the lines of sessions. -/
def historyFile (surroundings : Surroundings) : String :=
  match surroundings.environment "HOME" with
  | some home => home ++ "/.sql2cql_history"
  | none => ""

/-- Why the lines of a session cannot be remembered, if that is so. -/
def historyRefusal? (surroundings : Surroundings) : Option String :=
  (surroundings.file surroundings.historyFile).refusal

end Surroundings

namespace Settings

/-- The files that settings are read from if the user names none. -/
def candidates (surroundings : Surroundings) : List String :=
  "sql2cql.toml" ::
    surroundings.settingsDirectory?.toList.map (· ++ "/sql2cql/config.toml")

/-- The settings in a file. -/
def load (surroundings : Surroundings) (path : String) : Except SettingsError Settings :=
  match (surroundings.file path).content with
  | .error reason => .error (.unreadable reason)
  | .ok text =>
    match ofToml? text with
    | some settings => .ok settings
    | none => .error (.malformed path)

/-- The settings of a run for which the user may have named a file. -/
def discover (surroundings : Surroundings) (named : Option String) :
    Except SettingsError Settings :=
  match named with
  | some path => load surroundings path
  | none =>
    match (candidates surroundings).find? fun path => (surroundings.file path).isFile with
    | some path => load surroundings path
    | none => .ok {}

end Settings

end CqlCompiler
