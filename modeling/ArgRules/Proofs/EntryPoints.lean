import ArgRules.Proofs.Account

/-!
# The entry points agree

`normalize` hands out the working copy of an evaluation, and `validate` writes the list of changes
into the caller's map. Here it is shown that both come to the same map, that they stop for the same
reasons, and that the caller's map is as it was when they stop.

## Where they could differ

The working copy is a map of values, and the list of changes is filed by names. A rule map with two
keys that are filed under the same name, such as a text and the bytes that encode it, can have both
of them change the working copy. The working copy then has two entries, one of which is hidden when
it is filed, and that need not be the one that was written first. With keys that are filed apart
there is no such case.

## Main definitions

* `FiledApart` — no two keys of a rule map are filed under the same name
* `EntryPointsAgree` — what it means that the entry points agree

## Main results

* `Engine.writeBack_map`, `Engine.writeBack_stops` — writing back is all or nothing
* `Engine.filed_args_of_evaluate` — the working copy, filed, is what the changes say
* `Engine.entryPoints_agree` — the entry points agree
-/

namespace ArgRules

/-! ### Tables of names as maps -/

namespace Table

variable {α : Type}

/-- A table of names as a map. -/
def texts (table : Table String α) : Table Value α :=
  table.map fun (name, value) => (.text name, value)

@[simp] theorem named_texts (table : Table String α) : table.texts.named = table := by
  induction table with
  | nil => rfl
  | cons entry rest ih =>
    obtain ⟨name, value⟩ := entry
    exact congrArg ((name, value) :: ·) ih

theorem isText_texts (table : Table String α) :
    ∀ key ∈ table.texts.keys, ∃ name, key.asText? = some name := by
  rintro key hkey
  obtain ⟨entry, hentry, rfl⟩ := List.mem_map.mp hkey
  obtain ⟨⟨name, value⟩, -, rfl⟩ := List.mem_map.mp hentry
  exact ⟨name, rfl⟩

theorem textKeyed_texts {table : Table String α} (h : table.keys.Nodup) : TextKeyed table.texts :=
  ⟨isText_texts table, by rwa [named_texts]⟩

end Table

namespace Engine

variable {engine : Engine} {ruleMap argMap : Value}

/-! ### Writing back -/

/-- All changes can be written into a map that is not read-only. -/
theorem writeBack_map (entries : Entries) (changes : Table String Change) :
    writeBack (.map entries) changes =
      (.map (entries.putAll (writesOf changes).texts), .ok ()) := by
  induction changes generalizing entries with
  | nil => rfl
  | cons entry rest ih => exact ih _

/-- Writing back stops before anything is written, or not at all. -/
theorem writeBack_stops {changes : Table String Change} {fault : Fault}
    (h : (writeBack argMap changes).2 = .error fault) :
    (writeBack argMap changes).1 = argMap := by
  cases changes with
  | nil => rfl
  | cons entry rest =>
    obtain ⟨name, change⟩ := entry
    cases argMap with
    | map entries => simp [writeBack_map] at h
    | _ => rfl

/-! ### The answers of the calls -/

theorem check_eq_ok {result : CheckResult} :
    (engine.check ruleMap argMap).answer = .ok result ↔
      (engine.evaluate ruleMap argMap).answer = .ok result ∧ result.passed = true := by
  rw [check, Outcome.andThen]
  cases (engine.evaluate ruleMap argMap).answer with
  | error stop => simp
  | ok evaluated =>
    by_cases hpassed : evaluated.passed = true
    · simp only [insist, if_pos hpassed, Outcome.silent, Except.ok.injEq]
      exact ⟨fun h => ⟨h, h ▸ hpassed⟩, And.left⟩
    · simp only [insist, if_neg hpassed, reduceCtorEq, Except.ok.injEq, false_iff, not_and]
      rintro rfl
      exact hpassed

theorem normalize_answer (hmode : engine.mode ≠ .off) :
    (engine.normalize ruleMap argMap).answer =
      (engine.check ruleMap argMap).answer.map (·.argMap) := by
  rw [normalize, if_neg hmode]
  rfl

theorem validate_of_error (hmode : engine.mode ≠ .off) {stop : Stop}
    (h : (engine.check ruleMap argMap).answer = .error stop) :
    engine.validate ruleMap argMap =
      (argMap, ⟨.error stop, (engine.check ruleMap argMap).events⟩) := by
  rw [validate, if_neg hmode]
  simp only [h]

theorem validate_of_ok (hmode : engine.mode ≠ .off) {args : Entries} {result : CheckResult}
    (h : (engine.check ruleMap (.map args)).answer = .ok result) :
    engine.validate ruleMap (.map args) =
      (.map (args.putAll (writesOf result.changes).texts),
        ⟨.ok (), (engine.check ruleMap (.map args)).events⟩) := by
  rw [validate, if_neg hmode]
  simp only [h, writeBack_map]
  rfl

/-- A call of `validate` that stops leaves the caller's map as it was, read-only or not. -/
theorem validate_stops {stop : Stop} (h : (engine.validate ruleMap argMap).2.answer = .error stop) :
    (engine.validate ruleMap argMap).1 = argMap := by
  rw [validate] at h ⊢
  split at h
  · simp [Outcome.silent] at h
  · next hmode =>
    rw [if_neg hmode]
    simp only at h ⊢
    split at h
    · rfl
    · next result _ =>
      cases hwrite : (writeBack argMap result.changes).2 with
      | error fault => exact writeBack_stops hwrite
      | ok _ => simp [hwrite, Except.mapError] at h

/-! ### The working copy and the changes -/

theorem exists_asMap?_of_evaluate (hmode : engine.mode ≠ .off) {result : CheckResult}
    (h : (engine.evaluate ruleMap argMap).answer = .ok result) :
    ∃ rules, ruleMap.asMap? = some rules := by
  rw [evaluate, if_neg hmode] at h
  split at h
  · next rules _ hrules _ => exact ⟨rules, hrules⟩
  · simp [refuse] at h

/-- For any rule map, a result is what the verdicts on some of its entries say, filed. -/
theorem exists_verdicts_of_evaluate (hmode : engine.mode ≠ .off) {rules args : Entries}
    {result : CheckResult} (hruleMap : ruleMap.asMap? = some rules)
    (h : (engine.evaluate ruleMap (.map args)).answer = .ok result) :
    ∃ verdicts, (Table.keys verdicts).Sublist rules.keys ∧ Fileable (changesOf verdicts) ∧
      result.args = Table.ofList (args.putAll (writesOf (changesOf verdicts))).filed ∧
      result.changes = Table.ofList (Table.ofList (changesOf verdicts)).filed := by
  obtain ⟨evaluation, heval, hfile⟩ := (evaluate_eq_ok hmode hruleMap rfl).mp h
  obtain ⟨policy, -, heval⟩ := bind_eq_ok.mp heval
  obtain ⟨pass, _, _, hpass, -, -, rfl⟩ := evaluateUnder_eq_ok.mp heval
  obtain ⟨verdicts, hsub, rfl⟩ := exists_recordAll_of_walk hpass
  obtain ⟨hargs, hchanges, -⟩ := Pass.claimAll_start args policy.skipped
  obtain ⟨⟨-, hfileable⟩, rfl⟩ := CheckResult.ofEvaluation_eq_ok.mp hfile
  generalize hstart : (Pass.start args).claimAll policy.skipped = start at *
  have hwritten : (start.recordAll verdicts).args =
      args.putAll (writesOf (changesOf verdicts)) := by
    rw [Pass.recordAll_args, hargs]
  have hnoted : (start.recordAll verdicts).changes = Table.ofList (changesOf verdicts) := by
    rw [Pass.recordAll_changes, hchanges, Table.ofList]
  simp only [hwritten, hnoted] at hfileable ⊢
  exact ⟨verdicts, hsub, hfileable.of_putAll, rfl, rfl⟩

end Engine

/-- No two keys of a rule map are filed under the same name. -/
def FiledApart (ruleMap : Value) : Prop := ∀ rules ∈ ruleMap.asMap?, rules.filed.keys.Nodup

namespace Engine

variable {engine : Engine} {ruleMap argMap : Value}

/-- **The working copy, filed, is what the changes say,** for keys that are filed apart. -/
theorem filed_args_of_evaluate (hmode : engine.mode ≠ .off) {args : Entries}
    {result : CheckResult} (hapart : FiledApart ruleMap) (hargs : TextKeyed args)
    (h : (engine.evaluate ruleMap (.map args)).answer = .ok result) :
    result.args = args.named.putAll (writesOf result.changes) := by
  obtain ⟨rules, hrules⟩ := exists_asMap?_of_evaluate hmode h
  obtain ⟨verdicts, hsub, hfile, hresult, hchanges⟩ := exists_verdicts_of_evaluate hmode hrules h
  have hnodup : (changesOf verdicts).filed.keys.Nodup := by
    rw [Table.keys_filed]
    refine (Table.keys_filed rules ▸ hapart rules hrules).sublist (List.Sublist.filterMap _ ?_)
    exact (keys_changesOf_sublist verdicts).trans hsub
  have hledger : result.changes = (changesOf verdicts).filed := by
    rw [hchanges]
    have hfiled : Table.ofList (Table.putAll [] (changesOf verdicts)).filed =
        Table.ofList (changesOf verdicts).filed :=
      Table.ofList_filed_putAll hfile hnodup (by simp)
    exact hfiled.trans (Table.ofList_eq_self hnodup)
  have hwrites : (writesOf (changesOf verdicts)).filed = writesOf (changesOf verdicts).filed :=
    Table.filed_map_snd Change.after (changesOf verdicts)
  rw [hresult, hledger, ← hwrites, Table.ofList_filed_putAll, hargs.filed_eq,
    Table.ofList_eq_self hargs.distinct]
  · rw [Fileable, writesOf, Table.keys_map_snd]
    exact hfile
  · rw [hwrites, writesOf, Table.keys_map_snd]
    exact hnodup
  · rw [hargs.filed_eq]
    exact fun name _ => List.nodup_iff_count_le_one.mp hargs.distinct name

end Engine

/-! ### Agreement -/

/-- The entry points of an engine agree on a rule map and an argument map. -/
structure EntryPointsAgree (engine : Engine) (ruleMap : Value) (args : Entries) : Prop where
  /-- `validate` and `normalize` return together. -/
  returns : (engine.validate ruleMap (.map args)).2.answer = .ok () ↔
    ∃ given, (engine.normalize ruleMap (.map args)).answer = .ok given
  /-- Unless the engine is switched off, they return exactly if an evaluation passes. -/
  passes : engine.mode ≠ .off →
    ((∃ given, (engine.normalize ruleMap (.map args)).answer = .ok given) ↔
      ∃ result, (engine.evaluate ruleMap (.map args)).answer = .ok result ∧ result.passed = true)
  /-- They stop for the same reason, with the same violations. -/
  stops : ∀ stop, (engine.validate ruleMap (.map args)).2.answer = .error stop ↔
    (engine.normalize ruleMap (.map args)).answer = .error stop
  /-- If `validate` stops, the caller's map is as it was. -/
  untouched : ∀ stop, (engine.validate ruleMap (.map args)).2.answer = .error stop →
    (engine.validate ruleMap (.map args)).1 = .map args
  /-- If they return, the caller's map has the entries of what `normalize` gives, in the same
  order. In a rule map that is evaluated, no two keys may be filed under the same name. -/
  entries : (engine.mode ≠ .off → FiledApart ruleMap) →
    ∀ given, (engine.normalize ruleMap (.map args)).answer = .ok given →
      ∃ written normalized : Entries, (engine.validate ruleMap (.map args)).1 = .map written ∧
        given = .map normalized ∧ TextKeyed written ∧ TextKeyed normalized ∧
        Table.named written = Table.named normalized
  /-- A function with checked arguments is called once if `normalize` returns, and else not. -/
  calls : ∀ {α : Type} (function : List Value → Value → Outcome α) (positional : List Value),
    engine.wrap ruleMap function positional args =
      match (engine.normalize ruleMap (.map args)).answer with
      | .ok given => ⟨(function positional given).answer,
          (engine.normalize ruleMap (.map args)).events ++ (function positional given).events⟩
      | .error stop => ⟨.error stop, (engine.normalize ruleMap (.map args)).events⟩
  /-- It is called with the arguments by position as they are, and with what `normalize` gives. -/
  called : ∀ positional arguments given,
    (engine.callWrapped ruleMap positional args).answer = .ok (arguments, given) ↔
      arguments = positional ∧ (engine.normalize ruleMap (.map args)).answer = .ok given

namespace Engine

variable {engine : Engine} {ruleMap : Value} {args : Entries}

/-- The call of a function with checked arguments, as `normalize` decides. -/
theorem wrap_eq {α : Type} {function : List Value → Value → Outcome α} {positional : List Value} :
    engine.wrap ruleMap function positional args =
      match (engine.normalize ruleMap (.map args)).answer with
      | .ok given => ⟨(function positional given).answer,
          (engine.normalize ruleMap (.map args)).events ++ (function positional given).events⟩
      | .error stop => ⟨.error stop, (engine.normalize ruleMap (.map args)).events⟩ := by
  rw [wrap, Outcome.andThen]
  cases (engine.normalize ruleMap (.map args)).answer <;> rfl

theorem callWrapped_eq_ok {positional arguments : List Value} {given : Value} :
    (engine.callWrapped ruleMap positional args).answer = .ok (arguments, given) ↔
      arguments = positional ∧ (engine.normalize ruleMap (.map args)).answer = .ok given := by
  rw [callWrapped, wrap, Outcome.andThen]
  cases (engine.normalize ruleMap (.map args)).answer with
  | error stop => simp
  | ok normalized => simp [Outcome.silent, eq_comm]

/-- A switched-off engine gives back and leaves what it was given. -/
theorem entryPoints_agree_off (hmode : engine.mode = .off) (hargs : TextKeyed args) :
    EntryPointsAgree engine ruleMap args := by
  have hvalidate : engine.validate ruleMap (.map args) = (.map args, .silent ()) := by
    rw [validate, if_pos hmode]
  have hnormalize : engine.normalize ruleMap (.map args) = .silent (.map args) := by
    rw [normalize, if_pos hmode]
  refine ⟨?_, fun hon => absurd hmode hon, ?_, fun _ => validate_stops, ?_, fun _ _ => wrap_eq,
    fun _ _ _ => callWrapped_eq_ok⟩
  · simp [hvalidate, hnormalize, Outcome.silent]
  · simp [hvalidate, hnormalize, Outcome.silent]
  · intro _ given hgiven
    rw [hnormalize] at hgiven
    obtain rfl := Except.ok.inj hgiven
    exact ⟨args, args, by rw [hvalidate], rfl, hargs, hargs, rfl⟩

/-- After `validate`, the caller's map has the entries of what `normalize` gives. -/
theorem entries_agree (hmode : engine.mode ≠ .off) (hapart : FiledApart ruleMap)
    (hargs : TextKeyed args) {result : CheckResult}
    (hcheck : (engine.check ruleMap (.map args)).answer = .ok result) :
    ∃ written normalized : Entries, (engine.validate ruleMap (.map args)).1 = .map written ∧
      result.argMap = .map normalized ∧ TextKeyed written ∧ TextKeyed normalized ∧
      Table.named written = Table.named normalized := by
  have hledger := filed_args_of_evaluate hmode hapart hargs (check_eq_ok.mp hcheck).1
  have hwritten := Table.isText_texts (writesOf result.changes)
  refine ⟨args.putAll (writesOf result.changes).texts, result.args.texts,
    by rw [validate_of_ok hmode hcheck], rfl, hargs.putAll hwritten, Table.textKeyed_texts ?_, ?_⟩
  · rw [hledger]
    exact Table.nodup_keys_putAll hargs.distinct _
  · rw [Table.named_putAll hwritten, Table.named_texts, Table.named_texts, hledger]

theorem entryPoints_agree_on (hmode : engine.mode ≠ .off) (hargs : TextKeyed args) :
    EntryPointsAgree engine ruleMap args := by
  have hnormalize : (engine.normalize ruleMap (.map args)).answer =
      (engine.check ruleMap (.map args)).answer.map (·.argMap) :=
    normalize_answer hmode
  cases hcheck : (engine.check ruleMap (.map args)).answer with
  | error stop =>
    rw [hcheck] at hnormalize
    have hvalidate := validate_of_error hmode hcheck
    refine ⟨?_, fun _ => ?_, ?_, fun _ => validate_stops, ?_, fun _ _ => wrap_eq,
      fun _ _ _ => callWrapped_eq_ok⟩
    · simp [hvalidate, hnormalize, Except.map]
    · simp only [hnormalize, Except.map, reduceCtorEq, exists_false, false_iff]
      rintro ⟨result, hresult⟩
      rw [check_eq_ok.mpr hresult] at hcheck
      contradiction
    · simp [hvalidate, hnormalize, Except.map]
    · intro _ given hgiven
      rw [hnormalize] at hgiven
      contradiction
  | ok result =>
    rw [hcheck] at hnormalize
    have hvalidate := validate_of_ok hmode hcheck
    refine ⟨?_, fun _ => ?_, ?_, fun _ => validate_stops, fun hapart given hgiven => ?_,
      fun _ _ => wrap_eq, fun _ _ _ => callWrapped_eq_ok⟩
    · simp [hvalidate, hnormalize, Except.map]
    · simp only [hnormalize, Except.map, Except.ok.injEq, exists_eq', true_iff]
      exact ⟨result, check_eq_ok.mp hcheck⟩
    · simp [hvalidate, hnormalize, Except.map]
    · rw [hnormalize] at hgiven
      obtain rfl := Except.ok.inj hgiven
      exact entries_agree hmode (hapart hmode) hargs hcheck

/-- **The entry points agree.** -/
theorem entryPoints_agree (hargs : TextKeyed args) : EntryPointsAgree engine ruleMap args := by
  by_cases hmode : engine.mode = .off
  · exact entryPoints_agree_off hmode hargs
  · exact entryPoints_agree_on hmode hargs

/-- The sample stops at both entry points, and the caller's map stays as it was. -/
theorem entryPoints_agree_sample :
    EntryPointsAgree Engine.default (.map Sample.rules) Sample.args ∧
      (Engine.default.validate (.map Sample.rules) (.map Sample.args)).1 = .map Sample.args := by
  have hagree : EntryPointsAgree Engine.default (.map Sample.rules) Sample.args :=
    entryPoints_agree Sample.textKeyed_args
  exact ⟨hagree, hagree.untouched _ rfl⟩

end Engine

/-- A rule map with two keys that are filed under the same name: a default for the bytes, and an
upper limit for the text. -/
def Sample.clashing : Value :=
  .map [(.bytes [0x78], .map [(.text "kind", .text "number"), (.text "default", .int 5)]),
    (.text "x", .map [(.text "kind", .text "number"), (.text "max_num", .int 6),
      (.text "autobound", .bool true)])]

/-- **With keys that are filed under the same name, the entry points differ:** `validate` writes
what the text is moved to, and `normalize` gives the default of the bytes. -/
theorem Engine.entryPoints_differ :
    TextKeyed [(Value.text "x", Value.int 10)] ∧
      (Engine.default.validate Sample.clashing (.map [(.text "x", .int 10)])).2.answer = .ok () ∧
      (Engine.default.validate Sample.clashing (.map [(.text "x", .int 10)])).1 =
        .map [(.text "x", .int 6)] ∧
      (Engine.default.normalize Sample.clashing (.map [(.text "x", .int 10)])).answer =
        .ok (.map [(.text "x", .int 5)]) ∧
      Value.int 6 ≠ Value.int 5 := by
  refine ⟨⟨by simp [Value.asText?], by decide⟩, ?_, ?_, ?_, by simp⟩
  · rfl
  · rfl
  · rfl

end ArgRules
