import ArgRules.Call
import ArgRules.Value.Marking

/-!
# Sessions

A session keeps several engines and several maps under names, so that calls can follow each other:
a mode that was set stays set, and what `validate` has written into a map is there for the next
call. One engine, under the name `default`, is always there, and others can be built.

It also keeps functions with checked arguments. Such a function remembers its rule map, and the name
of the engine that it was given, if any; which engine that is, and in which mode, is found out when
the function is called.

## The sharing contract

A name stands for a place that holds a map. A switched-off engine gives back the very map that it
was given, and when that is saved under another name, both names stand for the same place from then
on. The name of an engine stands for one engine from then on: an engine is built under a name only
if no engine has that name.

What a map holds is there for the next call. So a number that a rule has as its limit can come back
as an argument, if a call has written it into a map, and then the two are one and the same. Numbers
are marked for that when they are put into a map.

## Main definitions

* `Session` — the engines, maps and functions
* `Wrapper` — what a function with checked arguments remembers
* `Session.Step`, `Session.Answer` — what can be asked for, and what is answered
* `Session.perform` — the session after a step, with the answer
* `Session.after`, `Session.noted` — the session after several steps, and the events of a step
-/

namespace ArgRules

/-! ### Entry points -/

/-- The three ways to call an engine. -/
inductive EntryPoint
  | evaluate
  | normalize
  | validate
deriving DecidableEq

namespace EntryPoint

/-- What a call by an entry point gives if it gives a result. -/
inductive Result
  | checked (result : CheckResult)
  | normalized (args : Value)
  | validated

/-- A call by an entry point, and the caller's map after it. -/
def call (entryPoint : EntryPoint) (engine : Engine) (ruleMap argMap : Value) :
    Outcome Result × Value :=
  match entryPoint with
  | evaluate => ((engine.evaluate ruleMap argMap).map .checked, argMap)
  | normalize => ((engine.normalize ruleMap argMap).map .normalized, argMap)
  | validate =>
    let (after, outcome) := engine.validate ruleMap argMap
    (outcome.map fun _ => .validated, after)

end EntryPoint

/-! ### Sessions -/

/-- What a function with checked arguments remembers: the rule map, and the name of the engine that
it was given, if any. -/
structure Wrapper where
  ruleMap : Value
  engine : Option String

/-- Engines, maps and functions with checked arguments under names. A name of a map stands for a
place, and places are numbered. -/
structure Session where
  engines : Table String Engine
  names : Table String Nat
  places : List Value
  functions : Table String Wrapper
  /-- The next mark that no number in a map has. -/
  freeMark : Nat

/-- The name of the engine that is always there. -/
def Session.defaultName : String := "default"

/-- The name of the engine that checks the arguments of a function. -/
def Wrapper.checker (wrapper : Wrapper) : String := wrapper.engine.getD Session.defaultName

namespace Session

/-- The session with the given engines and maps. -/
def start (engines : Table String Engine) (maps : Table String Value) : Session :=
  let marked := (Value.markItems (maps.map (·.2))).run 0
  { engines := Table.putAll [(defaultName, Engine.default)] engines
    names := maps.zipIdx.map fun ((name, _), place) => (name, place)
    places := marked.1
    functions := []
    freeMark := marked.2 }

/-- A map that is given as it is or by its name. -/
inductive Operand
  | given (value : Value)
  | named (name : String)

/-- What can be asked for in a session. -/
inductive Step
  /-- Builds an engine under a name that no engine has. -/
  | build (engine : String) (mode : Option Value) (conventions : Value) (kinds : List Kind)
  | setMode (engine : String) (value : Value)
  | call (engine : String) (entryPoint : EntryPoint) (ruleMap argMap : Operand)
  | put (map : String) (key value : Value)
  | remove (map : String) (key : Value)
  /-- Stores what `normalize` gives under a name. -/
  | saveNormalized (engine map : String) (ruleMap argMap : Operand)
  /-- Calls a function with checked arguments. -/
  | callWrapped (engine : String) (ruleMap : Value) (positional : List Value) (named : Entries)
  /-- Has the arguments of a function checked from now on. -/
  | decorate (function : String) (ruleMap : Value) (engine : Option String)
  /-- Calls a function, which has its arguments checked if it was decorated. -/
  | callFunction (function : String) (positional : List Value) (named : Entries)

/-- The answer to a step. -/
inductive Answer
  /-- Something was set, such as a mode. -/
  | modeSet (events : List Event)
  /-- The answer of a call, whether the caller's map is given back as it is, and that map. -/
  | called (outcome : Outcome EntryPoint.Result) (givenBack : Bool) (argMap : Value)
  | map (value : Value)
  | stopped (stop : Stop)
  | wrapped (outcome : Outcome (List Value × Value))

/-- The events of an answer. -/
def Answer.events : Answer → List Event
  | modeSet events => events
  | called outcome _ _ => outcome.events
  | wrapped outcome => outcome.events
  | map _ | stopped _ => []

/-- The engine with a name. -/
def engine (session : Session) (name : String) : Engine :=
  (session.engines.get? name).getD .default

/-- The place that a name stands for; a name that is not in use stands for the next new place. -/
def place (session : Session) (name : String) : Nat :=
  (session.names.get? name).getD session.places.length

/-- The value of an operand. -/
def value (session : Session) : Operand → Value
  | .given value => value
  | .named name => session.places.getD (session.place name) .null

/-- Writes to a place that is in use. -/
def write (session : Session) (place : Nat) (value : Value) : Session :=
  { session with places := session.places.set place value }

/-- Lets a name stand for a new place. -/
def store (session : Session) (name : String) (value : Value) : Session :=
  { session with
    names := session.names.put name session.places.length
    places := session.places ++ [value] }

/-- Lets a name stand for the place of an operand. -/
def share (session : Session) (name : String) : Operand → Session
  | .given value => session.store name value
  | .named other => { session with names := session.names.put name (session.place other) }

/-- A map with one more entry written to it. -/
def putEntry (map key value : Value) : Except Fault Value :=
  match map with
  | .map entries => do
    key.checkKey
    return .map (Table.put entries key value)
  | map => .error (.readOnly map.typeName)

/-- A map with a key removed from it. -/
def removeKey (map key : Value) : Except Fault Value :=
  match map with
  | .map entries => do
    key.checkKey
    return .map (Table.erase entries key)
  | map => .error (.lacks map.qualifiedName "pop")

/-- Changes a named map. -/
def change (session : Session) (name : String) (f : Value → Except Fault Value) :
    Session × Answer :=
  match f (session.value (.named name)) with
  | .ok changed => (session.write (session.place name) changed, .map changed)
  | .error fault => (session, .stopped (.fault fault))

/-- Puts an entry into a named map. The numbers in it are marked, since they are kept there. -/
def put (session : Session) (map : String) (key value : Value) : Session × Answer :=
  let marked := value.mark.run session.freeMark
  { session with freeMark := marked.2 }.change map (putEntry · key marked.1)

/-- Builds an engine under a name. A name that is in use keeps its engine. -/
def build (session : Session) (name : String) (mode : Option Value) (conventions : Value)
    (kinds : List Kind) : Session × Answer :=
  if session.engines.contains name then (session, .modeSet [])
  else
    match Engine.build mode conventions kinds with
    | .ok engine => ({ session with engines := session.engines.put name engine }, .modeSet [])
    | .error fault => (session, .stopped (.fault fault))

/-- Calls a function. The engine that checks its arguments is looked up now. -/
def callFunction (session : Session) (function : String) (positional : List Value)
    (named : Entries) : Outcome (List Value × Value) :=
  match session.functions.get? function with
  | some wrapper =>
    (session.engine wrapper.checker).callWrapped wrapper.ruleMap positional named
  | none => .silent (positional, .map named)

/-- Performs a step. -/
def perform (session : Session) : Step → Session × Answer
  | .build name mode conventions kinds => session.build name mode conventions kinds
  | .setMode name value =>
    let (engine, events) := (session.engine name).setMode value
    ({ session with engines := session.engines.put name engine }, .modeSet events)
  | .call name entryPoint ruleMap argMap =>
    let engine := session.engine name
    let (outcome, after) := entryPoint.call engine (session.value ruleMap) (session.value argMap)
    let session := match argMap with
      | .named map => session.write (session.place map) after
      | .given _ => session
    (session, .called outcome engine.givesBack after)
  | .put map key value => session.put map key value
  | .remove map key => session.change map (removeKey · key)
  | .saveNormalized name map ruleMap argMap =>
    let engine := session.engine name
    let argValue := session.value argMap
    match (engine.normalize (session.value ruleMap) argValue).answer with
    | .error stop => (session, .stopped stop)
    | .ok args =>
      if engine.givesBack then (session.share map argMap, .map argValue)
      else (session.store map args, .map args)
  | .callWrapped name ruleMap positional named =>
    (session, .wrapped ((session.engine name).callWrapped ruleMap positional named))
  | .decorate function ruleMap engine =>
    ({ session with functions := session.functions.put function ⟨ruleMap, engine⟩ }, .modeSet [])
  | .callFunction function positional named =>
    (session, .wrapped (session.callFunction function positional named))

/-- The events that a step notes: those of its answer, and those of the call that is made to save
what it gives. -/
def noted (session : Session) (step : Step) : List Event :=
  match step with
  | .saveNormalized name _ ruleMap argMap =>
    ((session.engine name).normalize (session.value ruleMap) (session.value argMap)).events
  | step => (session.perform step).2.events

/-- The session after several steps. -/
def after (session : Session) (steps : List Step) : Session :=
  steps.foldl (fun session step => (session.perform step).1) session

/-- The modes of all engines. -/
def modes (session : Session) : List (String × Mode) :=
  session.engines.map fun (name, engine) => (name, engine.mode)

/-- Performs steps one after the other, with the answer to each and the modes after it. -/
def run (session : Session) : List Step → List (Answer × List (String × Mode))
  | [] => []
  | step :: rest =>
    let (next, answer) := session.perform step
    (answer, next.modes) :: next.run rest

end Session

end ArgRules
