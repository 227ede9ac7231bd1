import ArgRules.Event
import ArgRules.Settings

/-!
# Logging

The settings decide which events are logged and how a line of the log is made. The level that is
asked for is given by name, in any letter case; a name that is not one of a level asks for the
warnings and whatever is more severe.

## Main definitions

* `Logging.threshold` — the rank that an event must have to be logged
* `Logging.logged` — the events that are logged
* `Logging.processors` — what a line of the log passes through
-/

namespace ArgRules.Logging

/-- The ranks of the levels that can be asked for. -/
def ranks : Table String Nat :=
  [("CRITICAL", 50), ("FATAL", 50), ("ERROR", 40), ("WARN", 30), ("WARNING", 30), ("INFO", 20),
    ("DEBUG", 10), ("NOTSET", 0)]

/-- The rank of the warnings. -/
def warningRank : Nat := 30

/-- A letter in upper case, as far as the names of levels have letters: the dotless i and the long s
have capitals among them. -/
def capital (c : Char) : Char :=
  if c.toNat = 0x131 then 'I' else if c.toNat = 0x17F then 'S' else c.toUpper

/-- The rank that a name of a level asks for. -/
def rankOf (name : String) : Nat := (ranks.get? (name.map capital)).getD warningRank

/-- The rank that an event must have to be logged. -/
def threshold (settings : Settings) : Nat := rankOf settings.logLevel

/-- The events that are logged. -/
def logged (settings : Settings) (events : List Event) : List Event :=
  events.filter fun event => threshold settings ≤ event.level.rank

/-- What writes a line of the log: for people when debugging, for programs otherwise. -/
def renderer (settings : Settings) : String :=
  if settings.debug then "ConsoleRenderer" else "JSONRenderer"

/-- What a line of the log passes through. -/
def processors (settings : Settings) : List String :=
  ["merge_contextvars", "add_log_level", "TimeStamper", renderer settings]

end ArgRules.Logging
