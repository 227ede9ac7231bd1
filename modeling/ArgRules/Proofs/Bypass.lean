import ArgRules.Proofs.EntryPoints

/-!
# Engines that are switched off

An engine that is switched off lets everything pass. It asks neither whether it was given two maps
nor whether the rules are rules: `validate` leaves the argument map alone, `normalize` gives it
back, and a function with checked arguments is called as if its arguments were not checked. Nothing
is noted.

## Where the bypass has an end

`evaluate` has to make a result, and a result files its arguments by names that are texts. So an
argument map whose keys are texts comes back with all its entries, and what is no map has no
arguments. But a key that stands for no text stops the call, and keys that stand for the same text
share one place. No other stop is possible.

## Main definitions

* `Engine.Bypasses` — all that a switched-off engine does with a rule map and an argument map

## Main results

* `Engine.bypasses_of_off` — a switched-off engine does that, whatever it is given
* `Engine.bypass_stops_sample` — with a number as a key, `evaluate` stops
-/

namespace ArgRules

/-- All that a switched-off engine does with a rule map and an argument map. -/
structure Engine.Bypasses (engine : Engine) (ruleMap argMap : Value) : Prop where
  /-- `validate` returns and leaves the argument map as it was. -/
  validates : engine.validate ruleMap argMap = (argMap, .silent ())
  /-- `normalize` gives back the very map that it was given. -/
  normalizes : engine.normalize ruleMap argMap = .silent argMap ∧ engine.givesBack = true
  /-- A function with checked arguments is called with the arguments as they are. -/
  wraps : ∀ {α : Type} (function : List Value → Value → Outcome α) positional named,
    engine.wrap ruleMap function positional named = function positional (.map named)
  /-- `evaluate` notes nothing. -/
  quiet : (engine.evaluate ruleMap argMap).events = []
  /-- What is no map has no arguments. -/
  mapless : argMap.asMap? = none → (engine.evaluate ruleMap argMap).answer = .ok ⟨[], [], []⟩
  /-- A map with texts as keys has its entries as arguments. -/
  textKeyed : ∀ args, argMap.asMap? = some args → TextKeyed args →
    (engine.evaluate ruleMap argMap).answer = .ok ⟨args.named, [], []⟩
  /-- Any map whose keys can be filed has its entries, filed, as arguments. -/
  files : ∀ args, argMap.asMap? = some args → Fileable args →
    (engine.evaluate ruleMap argMap).answer = .ok ⟨Table.ofList args.filed, [], []⟩
  /-- A map with a key that cannot be filed stops the call, and each such key is an issue. -/
  stops : ∀ args, argMap.asMap? = some args → ¬ Fileable args →
    (engine.evaluate ruleMap argMap).answer =
      .error (.fault (.unusable "CheckResult" (Filing.table "args" args).2))

/-- A map with texts as keys can be filed. -/
theorem TextKeyed.fileable {α : Type} {table : Table Value α} (h : TextKeyed table) :
    Fileable table := by
  intro key hkey
  obtain ⟨name, hname⟩ := h.isText key hkey
  exact ⟨name, Reading.text_of_asText? hname⟩

namespace CheckResult

variable {argMap : Value} {args : Entries}

theorem bypass_of_fileable (h : Fileable (argMap.asMap?.getD [])) :
    bypass argMap = .ok ⟨Table.ofList (argMap.asMap?.getD []).filed, [], []⟩ :=
  ofEvaluation_eq_ok.mpr ⟨⟨h, by simp [Fileable]⟩, rfl⟩

theorem bypass_of_not_fileable (h : ¬ Fileable (argMap.asMap?.getD [])) :
    bypass argMap = .error (.unusable "CheckResult"
      (Filing.table "args" (argMap.asMap?.getD [])).2) := by
  have hissues : (Filing.table "args" (argMap.asMap?.getD [])).2 ≠ [] :=
    mt (Filing.table_snd_eq_nil_iff "args" _).mp h
  have hquiet : (Filing.table "changes" ([] : Table Value Change)).2 = [] := rfl
  simp only [bypass, ofEvaluation, hquiet, List.append_nil, List.isEmpty_iff, if_neg hissues]

end CheckResult

namespace Engine

variable {engine : Engine} {ruleMap argMap : Value}

/-- The answer of a switched-off engine is the argument map, filed. -/
theorem evaluate_of_off (hmode : engine.mode = .off) :
    engine.evaluate ruleMap argMap = .ofExcept (CheckResult.bypass argMap) := by
  rw [evaluate, if_pos hmode]

theorem normalize_of_off (hmode : engine.mode = .off) :
    engine.normalize ruleMap argMap = .silent argMap := by
  rw [normalize, if_pos hmode]

/-- **A switched-off engine bypasses everything,** maps or not, rules or not. -/
theorem bypasses_of_off (hmode : engine.mode = .off) : engine.Bypasses ruleMap argMap := by
  have hfiles {args : Entries} (hargs : argMap.asMap?.getD [] = args) (hfile : Fileable args) :
      (engine.evaluate ruleMap argMap).answer = .ok ⟨Table.ofList args.filed, [], []⟩ := by
    subst hargs
    rw [evaluate_of_off hmode, CheckResult.bypass_of_fileable hfile]
    rfl
  refine ⟨?validates, ⟨normalize_of_off hmode, ?givesBack⟩, ?wraps, ?quiet, ?mapless, ?textKeyed,
    ?files, ?stops⟩
  case validates => rw [validate, if_pos hmode]
  case givesBack => simp [givesBack, hmode]
  case wraps =>
    intro α function positional named
    rw [wrap, normalize_of_off hmode, Outcome.andThen]
    rfl
  case quiet => rw [evaluate_of_off hmode, Outcome.ofExcept]
  case mapless =>
    intro hmap
    exact hfiles (by rw [hmap, Option.getD_none]) (by simp [Fileable])
  case textKeyed =>
    intro args hargs htexts
    rw [hfiles (by rw [hargs, Option.getD_some]) htexts.fileable, htexts.filed_eq,
      Table.ofList_eq_self htexts.distinct]
  case files =>
    intro args hargs hfile
    exact hfiles (by rw [hargs, Option.getD_some]) hfile
  case stops =>
    intro args hargs hnot
    have hgetD : argMap.asMap?.getD [] = args := by rw [hargs, Option.getD_some]
    rw [evaluate_of_off hmode, CheckResult.bypass_of_not_fileable (hgetD ▸ hnot), hgetD]
    rfl

end Engine

/-- The default engine, switched off. -/
def Sample.switchedOff : Engine := Engine.default.inMode .off

/-- The sample is let pass, and without a rule map. -/
theorem Engine.bypasses_sample :
    Sample.switchedOff.mode = .off ∧ Sample.switchedOff.Bypasses .null (.map Sample.args) :=
  ⟨rfl, bypasses_of_off rfl⟩

/-- **With a number as a key, `evaluate` stops,** although the engine is switched off. -/
theorem Engine.bypass_stops_sample :
    Sample.switchedOff.mode = .off ∧
      ¬ ∃ result, (Sample.switchedOff.evaluate (.map []) (.map [(.int 1, .int 2)])).answer =
        .ok result := by
  refine ⟨rfl, ?_⟩
  rintro ⟨result, hresult⟩
  cases hresult

end ArgRules
