import ArgRules.Rule.Reading

/-!
# Settings

The settings of a program are read from given fields and from environment variables. A given field
wins over a variable, names are compared without regard to letter case, and what is not a setting is
ignored.

## The reading contract

The mode and the log level are texts of any content, the debug mark is a truth value written
leniently. All settings that cannot be read are reported together. `Settings.Store` keeps the
settings once they have been read; settings that cannot be read are not kept.

## Main definitions

* `Settings`, `Settings.read` — the settings, and how they are read
* `Settings.Store`, `Settings.Store.fetch` — settings that are kept
-/

namespace ArgRules

/-- The settings of a program. -/
structure Settings where
  mode : String
  debug : Bool
  logLevel : String
deriving DecidableEq

namespace Settings

/-- The settings without fields and variables. -/
def default : Settings := ⟨"normal", false, "warning"⟩

/-- The names of the settings. -/
def modeName : String := "MODE"
@[inherit_doc modeName] def debugName : String := "DEBUG"
@[inherit_doc modeName] def logLevelName : String := "LOG_LEVEL"

/-- What the names of the environment variables begin with. -/
def variableMark : String := "ARGCHECK_"

/-- A name in lower case. -/
def folded (name : String) : List Nat := name.toList.map fun c => Text.lower c.toNat

/-- The last value under a name, without regard to letter case. -/
def lookUp? {α : Type} (name : String) (entries : List (String × α)) : Option α :=
  (entries.reverse.find? fun (key, _) => folded key = folded name).map (·.2)

/-- The value given for a field: that under its own name, or else under another spelling. -/
def field? (fields : Table String Value) (name : String) : Option Value :=
  fields.get? name <|> lookUp? name fields

/-- The value of a setting, from the fields or else from the environment. -/
def source? (environment : List (String × String)) (fields : Table String Value) (name : String) :
    Option Value :=
  field? fields name <|> (lookUp? (variableMark ++ name) environment).map .text

/-- Reads a setting; the default stands in for one that is missing or at fault. -/
def readOne {α : Type} (read : Value → Except Problem α) (name : String) (default : α) :
    Option Value → α × List Issue
  | none => (default, [])
  | some value =>
    match read value with
    | .ok result => (result, [])
    | .error problem => (default, [⟨[.name name], problem⟩])

/-- Reads the settings from the environment and the given fields. -/
def read (environment : List (String × String)) (fields : Table String Value) :
    Except Fault Settings :=
  let source? := source? environment fields
  let (mode, modeIssues) := readOne Reading.text modeName default.mode (source? modeName)
  let (debug, debugIssues) := readOne Reading.flag debugName default.debug (source? debugName)
  let (logLevel, levelIssues) :=
    readOne Reading.text logLevelName default.logLevel (source? logLevelName)
  let issues := modeIssues ++ debugIssues ++ levelIssues
  if issues.isEmpty then .ok ⟨mode, debug, logLevel⟩ else .error (.unusable "Settings" issues)

/-! ### Settings that are kept -/

/-- The settings that have been read, if they have. -/
abbrev Store := Option Settings

/-- The settings that are kept, or else those of the environment, which are kept from then on. -/
def Store.fetch (store : Store) (environment : List (String × String)) :
    Store × Except Fault Settings :=
  match store with
  | some settings => (some settings, .ok settings)
  | none =>
    match read environment [] with
    | .ok settings => (some settings, .ok settings)
    | .error fault => (none, .error fault)

end Settings

end ArgRules
