import ArgRules.Verdict

/-!
# Evaluations

An evaluation passes over the entries of a rule map, one after the other. Each entry is judged, and
the verdict is recorded: the change in a working copy of the argument map and among the changes, the
violation among the violations. In the end the arguments without a rule are added to these.

## The working-copy contract

A pass carries a working copy of the argument map, and an entry is judged with the value that this
copy has under its name. The caller's map is not touched. The pass also carries the keys of the
argument map that have not been met so far, and the names that are claimed: those that are skipped,
and those of the entries judged so far. An entry whose name is claimed is passed over.

## The directive contract

Keys that begin with an underscore are no rules but directives. In normal mode three of them count:
a list of keys that are skipped, whether names are checked, and whether arguments without a rule are
allowed. In strict mode no directive counts: nothing is skipped, names are checked, and every
argument needs a rule. Whether arguments without a rule are allowed is asked last, after all entries
have been judged.

## Filing

The result of an evaluation is filed by names that are texts. Names that stand for no text cannot be
filed; names that stand for the same text share one place.

## Main definitions

* `Policy` — what the directives of a rule map ask for
* `Pass`, `Engine.step`, `Engine.walk` — how far an evaluation has come, and how it goes on
* `Evaluation`, `Engine.evaluateMaps` — the outcome, and how it is reached
* `CheckResult`, `CheckResult.ofEvaluation` — the outcome as it is filed
-/

namespace ArgRules

/-! ### Directives -/

/-- What begins the key of a directive. -/
def Directive.mark : Char := '_'

/-- Whether a name is that of a directive. -/
def Directive.isName (name : String) : Bool := name.toList.head? = some mark

/-- Whether a key is that of a directive. -/
def Directive.isKey (key : Value) : Bool :=
  match key.asText? with
  | some name => isName name
  | none => false

/-- The key of the directive that lists skipped keys. -/
def Directive.skipKeys : Value := .text "_skip_keys"

/-- The key of the directive that has names checked. -/
def Directive.checkNames : Value := .text "_check_names"

/-- The key of the directive that allows arguments without a rule. -/
def Directive.allowExtraKeys : Value := .text "_allow_extra_keys"

/-- What the directives of a rule map ask for. -/
structure Policy where
  skipped : List Value
  checkNames : Bool
  /-- Whether arguments without a rule are allowed. Asking may be a fault, and it is asked last. -/
  allowExtra : Except Fault Bool

namespace Policy

/-- The policy of strict mode. -/
def strict : Policy := ⟨[], true, .ok false⟩

/-- The truth of a directive; one that is not there is false. -/
def directive (rules : Entries) (key : Value) : Except Fault Bool :=
  ((rules.get? key).getD .null).truth

/-- The keys that a value lists. A value that counts as false lists none. The keys are taken one by
one, so one that cannot be a key is met before the end of the list. -/
def skippedKeys (value : Value) : Except Fault (List Value) := do
  if !(← value.truth) then return []
  Value.checkKeys value.listing.items
  value.listing.ending
  return value.listing.items

/-- The policy of normal mode. -/
def ofRules (rules : Entries) : Except Fault Policy := do
  let skipped ← skippedKeys ((rules.get? Directive.skipKeys).getD .null)
  let checkNames ← directive rules Directive.checkNames
  return ⟨skipped, checkNames, directive rules Directive.allowExtraKeys⟩

/-- The policy of a mode. -/
def ofMode (mode : Mode) (rules : Entries) : Except Fault Policy :=
  if mode = .strict then .ok strict else ofRules rules

end Policy

/-! ### Passing over the entries -/

/-- How far an evaluation has come. -/
structure Pass where
  /-- The working copy of the argument map. -/
  args : Entries
  changes : Table Value Change
  violations : List Violation
  /-- The keys of the argument map that have not been met so far, in order. -/
  unseen : List Value
  /-- The names that are skipped and those of the entries judged so far. -/
  claimed : List Value

namespace Pass

/-- The start of a pass: nothing has been claimed. -/
def start (args : Entries) : Pass := ⟨args, [], [], args.keys, []⟩

/-- Whether a name is claimed. -/
def claims (pass : Pass) (name : Value) : Bool := pass.claimed.any (· == name)

/-- Claims a name. -/
def claim (pass : Pass) (name : Value) : Pass :=
  { pass with
    unseen := pass.unseen.filter fun key => !(name == key)
    claimed := name :: pass.claimed }

/-- Claims several names. -/
def claimAll (pass : Pass) (names : List Value) : Pass := names.foldl claim pass

/-- Writes a change, if there is one, to the working copy and to the changes. -/
def change (pass : Pass) (name : Value) : Option Change → Pass
  | some change =>
    { pass with
      args := pass.args.put name change.after
      changes := pass.changes.put name change }
  | none => pass

/-- Records the verdict on an entry. -/
def record (pass : Pass) (name : Value) (verdict : Verdict) : Pass :=
  let pass := pass.change name verdict.change
  { pass with violations := pass.violations ++ verdict.violation.toList }

end Pass

/-- The outcome of an evaluation. -/
structure Evaluation where
  args : Entries
  changes : Table Value Change
  violations : List Violation

namespace Engine

/-- The value that an argument map has under a name. -/
def argument (args : Entries) (name : Value) : Value := (args.get? name).getD .undefined

/-- Goes on with the next entry. Directives and claimed names are passed over. -/
def step (engine : Engine) (checkNames : Bool) (pass : Pass) (name entry : Value) :
    Except Fault Pass := do
  if Directive.isKey name || pass.claims name then return pass
  let verdict ← engine.judge checkNames name entry (argument pass.args name)
  return (pass.claim name).record name verdict

/-- Goes on with all entries, in order. -/
def walk (engine : Engine) (checkNames : Bool) : Pass → Entries → Except Fault Pass
  | pass, [] => return pass
  | pass, (name, entry) :: rest => do
    walk engine checkNames (← engine.step checkNames pass name entry) rest

/-- The violations of names that no rule speaks of. -/
def unexpectedAll : List Value → Except Fault (List Violation)
  | [] => return []
  | name :: rest => return (← Violation.unexpected name) :: (← unexpectedAll rest)

/-- Evaluates a rule map and an argument map under a policy. -/
def evaluateUnder (engine : Engine) (policy : Policy) (rules args : Entries) :
    Except Fault Evaluation := do
  let pass ← engine.walk policy.checkNames ((Pass.start args).claimAll policy.skipped) rules
  let extra ← if ← policy.allowExtra then pure [] else unexpectedAll pass.unseen
  return ⟨pass.args, pass.changes, pass.violations ++ extra⟩

/-- Evaluates a rule map and an argument map. -/
def evaluateMaps (engine : Engine) (rules args : Entries) : Except Fault Evaluation := do
  engine.evaluateUnder (← Policy.ofMode engine.mode rules) rules args

end Engine

/-! ### Filing -/

/-- The outcome of an evaluation as it is filed. -/
structure CheckResult where
  args : Table String Value
  changes : Table String Change
  violations : List Violation

/-- The name of an entry as it is filed, or the issue with it. -/
def Filing.entryName (place : String) (name : Value) : Except Issue String :=
  (Reading.text name).mapError fun problem =>
    ⟨[.name place, Locator.ofKey name, .name "[key]"], problem⟩

/-- Files one more entry by its name, or notes the issue with the name. -/
def Filing.step {α : Type} (place : String) (filed : Table String α × List Issue)
    (entry : Value × α) : Table String α × List Issue :=
  match entryName place entry.1 with
  | .ok s => (filed.1.put s entry.2, filed.2)
  | .error issue => (filed.1, filed.2 ++ [issue])

/-- Files entries by their names. The issues are those of names that cannot be filed. -/
def Filing.table {α : Type} (place : String) (entries : List (Value × α)) :
    Table String α × List Issue :=
  entries.foldl (step place) ([], [])

namespace CheckResult

/-- Whether there are no violations. -/
def passed (result : CheckResult) : Bool := result.violations.isEmpty

/-- The messages of the violations. -/
def messages (result : CheckResult) : List String := result.violations.map (·.message)

/-- The arguments as a map. -/
def argMap (result : CheckResult) : Value :=
  .map (result.args.map fun (name, value) => (.text name, value))

/-- Files an evaluation; one with names that cannot be filed is a fault. -/
def ofEvaluation (evaluation : Evaluation) : Except Fault CheckResult :=
  let (args, argIssues) := Filing.table "args" evaluation.args
  let (changes, changeIssues) := Filing.table "changes" evaluation.changes
  let issues := argIssues ++ changeIssues
  if issues.isEmpty then .ok ⟨args, changes, evaluation.violations⟩
  else .error (.unusable "CheckResult" issues)

/-- The result of an engine that is switched off: the argument map as it is. What is no map has no
arguments. -/
def bypass (argMap : Value) : Except Fault CheckResult :=
  ofEvaluation ⟨argMap.asMap?.getD [], [], []⟩

end CheckResult

end ArgRules
