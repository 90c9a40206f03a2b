import FormRules.Form.Options
/-!
# Settings from the environment

Two variables set the level below which reports are dropped and the event that triggers validation
in forms whose definition does not name one.
-/
namespace FormRules

/-- Variables by name. -/
abbrev Environment := List (String × String)

/-- Settings of the tools. -/
structure Settings where
  logLevel : String
  validateOnEvent : Value
deriving Inhabited

namespace Settings

def levelVariable : String := "FORMFORGE_LOG_LEVEL"

def eventVariable : String := "FORMFORGE_VALIDATE_ON_EVENT"

/-- The settings that an environment asks for. -/
def ofEnvironment (env : Environment) : Settings where
  logLevel := String.ofList (Unicode.upper ((env.lookup levelVariable).getD "WARNING").toList)
  validateOnEvent := .str ((env.lookup eventVariable).getD defaultEvent)

/-- The levels that have names. -/
def namedLevels : List (String × Nat) :=
  [("CRITICAL", 50), ("FATAL", 50), ("ERROR", 40), ("WARN", 30), ("WARNING", 30), ("INFO", 20),
    ("DEBUG", 10), ("NOTSET", 0)]

/-- The level of warnings. -/
def warningLevel : Nat := 30

/-- The level below which reports are dropped; a level without a name is that of warnings. -/
def threshold (s : Settings) : Nat := (namedLevels.lookup s.logLevel).getD warningLevel

end Settings

end FormRules
