import ArgRules.Session
import ArgRules.Proofs.Bypass

/-!
# The mode of an engine is a register

In a session many engines are called, in any order, and calls may stop. This module shows that the
mode of an engine is what was last asked for by `setMode` on that engine, or else what the engine
was built with: nothing else writes to it, neither a call of the engine nor anything that is done
with another one.

## The step and the run

`engines_perform` says what one step does to an engine, with one case for each kind of step;
`engines_after` follows by induction on the steps. The events go the same way: `leads_noted` for one
step, `leads_notedOn` for a run.

## What is looked up when

A function with checked arguments holds no engine and no mode, but the name of an engine. So a
function that was decorated long ago follows the mode that its engine has now, and one that was
given no engine follows the default engine.

## Main definitions

* `Session.modeAfter` — the mode that was asked for last
* `Event.Leads` — the changes of mode among events form a chain
* `Session.Begins` — where an engine comes from: it is there, or a step builds it
* `Session.ModeKept` — all that is said of an engine and its mode after some steps

## Main results

* `Session.engines_after` — what a run does to an engine
* `Session.leads_notedOn` — the events of the calls of an engine form a chain
* `Session.modeKept_of_begins` — the mode of an engine is a register
-/

namespace ArgRules

/-! ### Chains of events -/

namespace Event

/-- Whether an event is a change of mode. -/
def isModeChange : Event → Bool
  | modeChanged .. => true
  | badInput .. | evaluationComplete .. | validationFailed .. => false

/-- The changes of mode among events lead from one mode to another: each starts at the mode before
it and ends at a different one. -/
def Leads : Mode → List Event → Mode → Prop
  | first, [], last => first = last
  | first, modeChanged previous next :: rest, last =>
    previous = first ∧ previous ≠ next ∧ Leads next rest last
  | first, badInput .. :: rest, last => Leads first rest last
  | first, evaluationComplete .. :: rest, last => Leads first rest last
  | first, validationFailed .. :: rest, last => Leads first rest last

theorem Leads.append {first middle last : Mode} {events more : List Event}
    (h : Leads first events middle) (hmore : Leads middle more last) :
    Leads first (events ++ more) last := by
  induction events generalizing first with
  | nil =>
    obtain rfl : first = middle := h
    exact hmore
  | cons event rest ih =>
    cases event with
    | modeChanged previous next => exact ⟨h.1, h.2.1, ih h.2.2⟩
    | badInput => exact ih h
    | evaluationComplete => exact ih h
    | validationFailed => exact ih h

/-- Events without a change of mode lead nowhere. -/
theorem leads_self {mode : Mode} {events : List Event}
    (h : ∀ event ∈ events, event.isModeChange = false) : Leads mode events mode := by
  induction events with
  | nil => rfl
  | cons event rest ih =>
    have hrest := ih fun other hother => h other (List.mem_cons_of_mem _ hother)
    have hevent := h event (List.mem_cons_self ..)
    cases event with
    | modeChanged => contradiction
    | badInput => exact hrest
    | evaluationComplete => exact hrest
    | validationFailed => exact hrest

theorem leads_modeEvents (previous mode : Mode) :
    Leads previous (Engine.modeEvents previous mode) mode := by
  rw [Engine.modeEvents]
  split
  · assumption
  · next hne => exact ⟨rfl, hne, rfl⟩

end Event

/-! ### Calls note no change of mode -/

namespace Outcome

/-- Among the events of an outcome there is no change of mode. -/
def Steady {α : Type} (outcome : Outcome α) : Prop :=
  ∀ event ∈ outcome.events, event.isModeChange = false

variable {α β : Type}

theorem steady_silent (a : α) : (silent a).Steady := by simp [Steady, silent]

theorem steady_ofExcept (answer : Except Fault α) : (ofExcept answer).Steady := by
  simp [Steady, ofExcept]

theorem Steady.andThen {outcome : Outcome α} {next : α → Outcome β} (h : outcome.Steady)
    (hnext : ∀ a, (next a).Steady) : (outcome.andThen next).Steady := by
  rw [Outcome.andThen]
  split
  · next a _ =>
    intro event hevent
    rcases List.mem_append.mp hevent with hmem | hmem
    · exact h event hmem
    · exact hnext a event hmem
  · exact h

theorem Steady.map {outcome : Outcome α} (h : outcome.Steady) (f : α → β) :
    (outcome.map f).Steady := h

end Outcome

namespace Engine

variable (engine : Engine) (ruleMap argMap : Value)

theorem steady_evaluate : (engine.evaluate ruleMap argMap).Steady := by
  rw [evaluate]
  split
  · exact Outcome.steady_ofExcept _
  · split
    · rw [evaluateFiled]
      split
      · simp [Outcome.Steady]
      · split <;> simp [Outcome.Steady, completion, Event.isModeChange]
    · simp [Outcome.Steady, refuse, Event.isModeChange]

theorem steady_check : (engine.check ruleMap argMap).Steady := by
  refine (engine.steady_evaluate ruleMap argMap).andThen fun result => ?_
  rw [insist]
  split
  · exact Outcome.steady_silent _
  · simp [Outcome.Steady, Event.isModeChange]

theorem steady_normalize : (engine.normalize ruleMap argMap).Steady := by
  rw [normalize]
  split
  · exact Outcome.steady_silent _
  · exact (engine.steady_check ruleMap argMap).map _

theorem steady_validate : (engine.validate ruleMap argMap).2.Steady := by
  have hcheck := engine.steady_check ruleMap argMap
  rw [validate]
  split
  · exact Outcome.steady_silent _
  · simp only
    split <;> exact hcheck

theorem steady_callWrapped (positional : List Value) (named : Entries) :
    (engine.callWrapped ruleMap positional named).Steady :=
  (engine.steady_normalize ruleMap (.map named)).andThen fun _ => Outcome.steady_silent _

theorem steady_call (entryPoint : EntryPoint) :
    (entryPoint.call engine ruleMap argMap).1.Steady := by
  cases entryPoint with
  | evaluate => exact (engine.steady_evaluate ruleMap argMap).map _
  | normalize => exact (engine.steady_normalize ruleMap argMap).map _
  | validate => exact (engine.steady_validate ruleMap argMap).map _

end Engine

namespace Session

/-! ### What is asked for -/

/-- The value that a step gives to `setMode` of an engine. -/
def Step.asks? (name : String) : Step → Option Value
  | setMode engine value => if engine = name then some value else none
  | build .. | call .. | put .. | remove .. | saveNormalized .. | callWrapped .. | decorate ..
  | callFunction .. => none

/-- The mode of an engine after some steps: what it was asked for last, or else the mode that it
begins with. -/
def modeAfter (name : String) (initial : Mode) (steps : List Step) : Mode :=
  ((steps.filterMap (·.asks? name)).getLast?.map Mode.ofValue).getD initial

@[simp] theorem modeAfter_nil (name : String) (initial : Mode) :
    modeAfter name initial [] = initial := rfl

theorem modeAfter_singleton (name : String) (initial : Mode) (step : Step) :
    modeAfter name initial [step] = ((step.asks? name).map Mode.ofValue).getD initial := by
  rw [modeAfter]
  cases h : step.asks? name <;> simp [h]

theorem modeAfter_append (name : String) (initial : Mode) (steps more : List Step) :
    modeAfter name initial (steps ++ more) = modeAfter name (modeAfter name initial steps) more := by
  rw [modeAfter, modeAfter, modeAfter, List.filterMap_append, List.getLast?_append]
  cases (more.filterMap (·.asks? name)).getLast? <;> rfl

theorem modeAfter_cons (name : String) (initial : Mode) (step : Step) (rest : List Step) :
    modeAfter name initial (step :: rest) =
      modeAfter name (modeAfter name initial [step]) rest :=
  modeAfter_append name initial [step] rest

/-! ### What a step does to the engines -/

@[simp] theorem after_nil (session : Session) : session.after [] = session := rfl

@[simp] theorem after_cons (session : Session) (step : Step) (rest : List Step) :
    session.after (step :: rest) = (session.perform step).1.after rest := rfl

theorem after_append (session : Session) (steps more : List Step) :
    session.after (steps ++ more) = (session.after steps).after more :=
  List.foldl_append ..

variable {session : Session} {name : String} {engine : Engine}

@[simp] theorem change_engines (session : Session) (map : String)
    (f : Value → Except Fault Value) : (session.change map f).1.engines = session.engines := by
  rw [change]
  split <;> rfl

@[simp] theorem put_engines (session : Session) (map : String) (key value : Value) :
    (session.put map key value).1.engines = session.engines := by
  simp [put]

@[simp] theorem change_events (session : Session) (map : String)
    (f : Value → Except Fault Value) : (session.change map f).2.events = [] := by
  rw [change]
  split <;> rfl

@[simp] theorem share_engines (session : Session) (map : String) (operand : Operand) :
    (session.share map operand).engines = session.engines := by
  cases operand <;> rfl

/-- **What a step does to an engine:** it is there as before, in the mode that it was asked for. -/
theorem engines_perform (h : session.engines.get? name = some engine) (step : Step) :
    (session.perform step).1.engines.get? name =
      some (engine.inMode (modeAfter name engine.mode [step])) := by
  rw [modeAfter_singleton]
  cases step with
  | build other mode conventions kinds =>
    rw [perform, build]
    split
    · exact h
    · next hfree =>
      -- The name is in use and the other one is not, so they are different.
      have hne : other ≠ name := by
        rintro rfl
        simp [Table.contains, h] at hfree
      split
      · exact (Table.get?_put_of_ne _ _ hne).trans h
      · exact h
  | setMode other value =>
    by_cases hne : other = name
    · subst hne
      simp [perform, Step.asks?, Session.engine, h, Engine.setMode, Engine.inMode]
    · simpa [perform, Step.asks?, hne] using (Table.get?_put_of_ne _ _ hne).trans h
  | call other entryPoint ruleMap argMap =>
    rw [perform]
    cases argMap <;> exact h
  | put | remove => simpa [perform, Step.asks?] using h
  | saveNormalized other map ruleMap argMap =>
    simp only [perform]
    split
    · exact h
    · split
      · simpa [Step.asks?] using h
      · exact h
  | callWrapped | decorate | callFunction => exact h

/-- **What a run does to an engine:** it is there as before, in the mode that it was asked for
last. -/
theorem engines_after (h : session.engines.get? name = some engine) (steps : List Step) :
    (session.after steps).engines.get? name =
      some (engine.inMode (modeAfter name engine.mode steps)) := by
  induction steps generalizing session engine with
  | nil => exact h
  | cons step rest ih =>
    rw [after_cons, ih (engines_perform h step), modeAfter_cons name engine.mode step rest,
      Engine.inMode_inMode, Engine.inMode_mode]

/-! ### The events of an engine -/

/-- The engine that a step calls. -/
def callee? (session : Session) : Step → Option String
  | .setMode engine _ | .call engine .. | .saveNormalized engine .. | .callWrapped engine .. =>
    some engine
  | .callFunction function .. => (session.functions.get? function).map (·.checker)
  | .build .. | .put .. | .remove .. | .decorate .. => none

/-- The events that the calls of an engine note in a run. -/
def notedOn (name : String) : Session → List Step → List Event
  | _, [] => []
  | session, step :: rest =>
    (if session.callee? step = some name then session.noted step else []) ++
      notedOn name (session.perform step).1 rest

/-- A step that asks for a mode notes the change it makes, and any other step notes no change. -/
theorem noted_cases (session : Session) (step : Step) :
    (∃ other value, step = .setMode other value ∧
        session.noted step = Engine.modeEvents (session.engine other).mode (Mode.ofValue value)) ∨
      (∀ name, step.asks? name = none) ∧
        ∀ event ∈ session.noted step, event.isModeChange = false := by
  cases step with
  | setMode other value => exact Or.inl ⟨other, value, rfl, rfl⟩
  | build other mode conventions kinds =>
    refine Or.inr ⟨fun _ => rfl, ?_⟩
    rw [noted, perform, build]
    · split
      · simp [Answer.events]
      · split <;> simp [Answer.events]
    · simp
  | call other entryPoint ruleMap argMap =>
    exact Or.inr ⟨fun _ => rfl, Engine.steady_call _ _ _ _⟩
  | put map key value => exact Or.inr ⟨fun _ => rfl, by simp [noted, perform, put]⟩
  | remove map key => exact Or.inr ⟨fun _ => rfl, by simp [noted, perform]⟩
  | saveNormalized other map ruleMap argMap =>
    exact Or.inr ⟨fun _ => rfl, Engine.steady_normalize _ _ _⟩
  | callWrapped other ruleMap positional named =>
    exact Or.inr ⟨fun _ => rfl, Engine.steady_callWrapped _ _ _ _⟩
  | decorate function ruleMap given =>
    exact Or.inr ⟨fun _ => rfl, by simp [noted, perform, Answer.events]⟩
  | callFunction function positional named =>
    refine Or.inr ⟨fun _ => rfl, ?_⟩
    show (session.callFunction function positional named).Steady
    rw [callFunction]
    split
    · exact Engine.steady_callWrapped _ _ _ _
    · exact Outcome.steady_silent _

/-- **A call of an engine notes the change of its mode,** if there is one. -/
theorem filter_noted (h : session.engines.get? name = some engine) {step : Step}
    (hcallee : session.callee? step = some name) :
    (session.noted step).filter Event.isModeChange =
      Engine.modeEvents engine.mode (modeAfter name engine.mode [step]) := by
  rw [modeAfter_singleton]
  rcases session.noted_cases step with ⟨other, value, rfl, hnoted⟩ | ⟨hasks, hsteady⟩
  · obtain rfl : other = name := Option.some.inj hcallee
    have hengine : session.engine other = engine := by rw [Session.engine, h, Option.getD_some]
    rw [hnoted, hengine, Step.asks?, if_pos rfl, Engine.modeEvents]
    split <;> simp_all [Engine.modeEvents, Event.isModeChange]
  · rw [hasks, List.filter_eq_nil_iff.mpr fun event hevent => by simp [hsteady event hevent]]
    simp [Engine.modeEvents]

theorem leads_noted (h : session.engines.get? name = some engine) (step : Step) :
    Event.Leads engine.mode (if session.callee? step = some name then session.noted step else [])
      (modeAfter name engine.mode [step]) := by
  rw [modeAfter_singleton]
  rcases session.noted_cases step with ⟨other, value, rfl, hnoted⟩ | ⟨hasks, hsteady⟩
  · by_cases hne : other = name
    · subst hne
      have hengine : session.engine other = engine := by rw [Session.engine, h, Option.getD_some]
      have hcallee : session.callee? (.setMode other value) = some other := rfl
      rw [if_pos hcallee, hnoted, hengine, Step.asks?, if_pos rfl]
      exact Event.leads_modeEvents ..
    · rw [if_neg (by simpa [callee?] using hne), Step.asks?, if_neg hne]
      rfl
  · rw [hasks]
    refine Event.leads_self ?_
    split
    · exact hsteady
    · simp

/-- **The events of the calls of an engine form a chain,** from its first mode to its last one. -/
theorem leads_notedOn (h : session.engines.get? name = some engine) (steps : List Step) :
    Event.Leads engine.mode (session.notedOn name steps) (modeAfter name engine.mode steps) := by
  induction steps generalizing session engine with
  | nil => rfl
  | cons step rest ih =>
    rw [modeAfter_cons, notedOn]
    exact (leads_noted h step).append (ih (engines_perform h step))

/-! ### Functions with checked arguments -/

/-- Whether a step decorates a function. -/
def Step.decorates (function : String) : Step → Bool
  | decorate other .. => other = function
  | build .. | setMode .. | call .. | put .. | remove .. | saveNormalized .. | callWrapped ..
  | callFunction .. => false

@[simp] theorem change_functions (session : Session) (map : String)
    (f : Value → Except Fault Value) : (session.change map f).1.functions = session.functions := by
  rw [change]
  split <;> rfl

@[simp] theorem put_functions (session : Session) (map : String) (key value : Value) :
    (session.put map key value).1.functions = session.functions := by
  simp [put]

@[simp] theorem share_functions (session : Session) (map : String) (operand : Operand) :
    (session.share map operand).functions = session.functions := by
  cases operand <;> rfl

/-- A function stays as it was decorated. -/
theorem functions_perform {function : String} {step : Step}
    (h : step.decorates function = false) :
    (session.perform step).1.functions.get? function = session.functions.get? function := by
  cases step with
  | decorate other ruleMap given =>
    exact Table.get?_put_of_ne _ _ (by simpa [Step.decorates] using h)
  | build other mode conventions kinds =>
    rw [perform, build]
    split
    · rfl
    · split <;> rfl
  | call other entryPoint ruleMap argMap =>
    rw [perform]
    cases argMap <;> rfl
  | put | remove => simp [perform]
  | saveNormalized other map ruleMap argMap =>
    simp only [perform]
    split
    · rfl
    · split
      · simp
      · rfl
  | setMode | callWrapped | callFunction => rfl

theorem functions_after {function : String} {steps : List Step}
    (h : ∀ step ∈ steps, step.decorates function = false) :
    (session.after steps).functions.get? function = session.functions.get? function := by
  induction steps generalizing session with
  | nil => rfl
  | cons step rest ih =>
    rw [after_cons, ih fun other hother => h other (List.mem_cons_of_mem _ hother),
      functions_perform (h step (List.mem_cons_self ..))]

/-! ### The register -/

/-- Where an engine comes from: it is there before the first step, or a step builds it. Either way
it begins with a mode. -/
inductive Begins (session : Session) (name : String) : List Step → Engine → Mode → Prop
  | there {engine : Engine} (found : session.engines.get? name = some engine) :
      Begins session name [] engine engine.mode
  | built {before : List Step} {mode : Option Value} {conventions : Value} {kinds : List Kind}
      {engine : Engine} (free : (session.after before).engines.get? name = none)
      (made : Engine.build mode conventions kinds = .ok engine) :
      Begins session name (before ++ [.build name mode conventions kinds]) engine
        ((mode.map Mode.ofValue).getD .normal)

/-- All that is said of an engine and its mode after some steps. -/
structure ModeKept (session : Session) (name : String) (engine : Engine) (initial : Mode)
    (steps : List Step) : Prop where
  /-- The engine is there, in the mode that it was asked for last, and otherwise as it was. -/
  kept : (session.after steps).engines.get? name =
    some (engine.inMode (modeAfter name initial steps))
  /-- The changes of mode that its calls have noted lead from the first mode to the last. -/
  chained : Event.Leads initial (session.notedOn name steps) (modeAfter name initial steps)
  /-- The next call of the engine notes the change of its mode if there is one, and no other. -/
  noticed : ∀ step, (session.after steps).callee? step = some name →
    ((session.after steps).noted step).filter Event.isModeChange =
      Engine.modeEvents (modeAfter name initial steps) (modeAfter name initial (steps ++ [step]))
  /-- A call now is answered by the engine in its mode of now. -/
  calls : ∀ entryPoint ruleMap argMap,
    ((session.after steps).perform (.call name entryPoint ruleMap argMap)).2 =
      let now := engine.inMode (modeAfter name initial steps)
      let (outcome, map) := entryPoint.call now ((session.after steps).value ruleMap)
        ((session.after steps).value argMap)
      .called outcome now.givesBack map
  /-- What is saved now is what the engine gives in its mode of now. -/
  saves : ∀ map ruleMap argMap,
    ((session.after steps).perform (.saveNormalized name map ruleMap argMap)).2 =
      match ((engine.inMode (modeAfter name initial steps)).normalize
        ((session.after steps).value ruleMap) ((session.after steps).value argMap)).answer with
      | .ok args => .map args
      | .error stop => .stopped stop
  /-- A function remembers what it was decorated with, in whichever mode that was. -/
  remembers : ∀ before function ruleMap given later,
    steps = before ++ .decorate function ruleMap given :: later →
    (∀ step ∈ later, step.decorates function = false) →
    (session.after steps).functions.get? function = some ⟨ruleMap, given⟩
  /-- A function that goes by the engine has its arguments checked in the mode of now. -/
  wraps : ∀ function wrapper positional named,
    (session.after steps).functions.get? function = some wrapper → wrapper.checker = name →
    ((session.after steps).perform (.callFunction function positional named)).2 =
      .wrapped ((engine.inMode (modeAfter name initial steps)).callWrapped wrapper.ruleMap
        positional named)

variable {initial : Mode} {first : List Step}

/-- An engine that has begun is there. -/
theorem Begins.found (h : session.Begins name first engine initial) :
    (session.after first).engines.get? name = some engine := by
  cases h with
  | there found => exact found
  | @built before mode conventions kinds _ free made =>
    have hbuilt : ((session.after before).perform (.build name mode conventions kinds)).1.engines =
        (session.after before).engines.put name engine := by
      rw [perform, build, if_neg (by simp [Table.contains, free]), made]
    rw [after_append, after_cons, after_nil, hbuilt, Table.get?_put_self]

/-- An engine begins in the mode that it has. -/
theorem Begins.mode_eq (h : session.Begins name first engine initial) : engine.mode = initial := by
  cases h with
  | there found => rfl
  | @built before mode conventions kinds _ free made =>
    simp only [Engine.build] at made
    obtain ⟨read, -, made⟩ := bind_eq_ok.mp made
    obtain rfl := pure_eq_ok.mp made
    cases mode <;> rfl

/-- **The mode of an engine is a register** that only `setMode` of that engine writes. -/
theorem modeKept_of_begins (h : session.Begins name first engine initial) (steps : List Step) :
    (session.after first).ModeKept name engine initial steps := by
  obtain rfl := h.mode_eq
  have hfound := h.found
  generalize session.after first = session at hfound
  have hkept := engines_after hfound steps
  have hnow : (session.after steps).engine name =
      engine.inMode (modeAfter name engine.mode steps) := by
    rw [Session.engine, hkept, Option.getD_some]
  refine ⟨hkept, leads_notedOn hfound steps, ?noticed, ?calls, ?saves, ?remembers, ?wraps⟩
  case noticed =>
    intro step hcallee
    rw [filter_noted hkept hcallee, modeAfter_append, Engine.inMode_mode]
  case calls =>
    intro entryPoint ruleMap argMap
    rw [perform, hnow]
  case saves =>
    intro map ruleMap argMap
    rw [perform, hnow]
    generalize (session.after steps).value argMap = argValue
    generalize engine.inMode (modeAfter name engine.mode steps) = now
    split
    · next stop hstop => rw [hstop]
    · next args hargs =>
      rw [hargs]
      split
      · next hback =>
        -- a switched-off engine gives what it was given
        have hoff : now.mode = .off := by simpa [Engine.givesBack] using hback
        rw [Engine.normalize, if_pos hoff] at hargs
        rw [Except.ok.inj hargs]
      · rfl
  case remembers =>
    rintro before function ruleMap given later rfl hlater
    rw [after_append, after_cons, functions_after hlater]
    exact Table.get?_put_self ..
  case wraps =>
    rintro function wrapper positional named hfunction rfl
    simp only [perform, callFunction, hfunction, hnow]

end Session

/-- A run with a second engine. A function of this engine is decorated while it is switched off. -/
def Sample.steps : List Session.Step :=
  [.decorate "render" (.map Sample.rules) (some "own"), .setMode "own" (.text "strict"),
    .setMode Session.defaultName (.text "off"), .callFunction "render" [] Sample.args,
    .setMode "own" (.int 1)]

/-- The sample leaves the second engine in the normal mode, whatever the default engine was told. -/
theorem Session.modeKept_of_sample :
    (start [] []).Begins "own" [.build "own" (some (.text "disabled")) .null []]
        Sample.switchedOff .off ∧
      modeAfter "own" .off Sample.steps = .normal ∧
      ((start [] []).after [.build "own" (some (.text "disabled")) .null []]).ModeKept "own"
        Sample.switchedOff .off Sample.steps := by
  have hbegins : (start [] []).Begins "own" [.build "own" (some (.text "disabled")) .null []]
      Sample.switchedOff .off := by
    have hfree : ((start [] []).after []).engines.get? "own" = none := rfl
    exact .built hfree rfl
  exact ⟨hbegins, rfl, modeKept_of_begins hbegins Sample.steps⟩

end ArgRules
