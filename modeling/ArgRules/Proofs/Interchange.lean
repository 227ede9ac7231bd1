import ArgRules.Proofs.Directives
import ArgRules.Proofs.Rereading

/-!
# Rules in place of the maps they are read from

An entry of a rule map may be a rule that has been read already, and it may be a map that says how
to read one. An evaluation reads every entry afresh, and after that it only knows the rule. So a map
that is a rule may be exchanged for that rule, or for its canonical form. The outcome is the same
but for one thing, and that has to do with numbers that are equal and not the same.

## The exchange contract

Any number of entries may be exchanged, each by itself, as long as the keys stay what they are and
the directives, which are no rules, are left alone. Both evaluations stop for the same reason, or
both give a result, with equal arguments and the same violations. The changes are the same as well,
except that a number may be moved to an equal one if the limits of its rule are in the wrong order,
and that such a move is no change if the number is the very limit it is moved to. A limit that has
just been read from a text cannot be that; a limit of a rule that is kept can.

## Main definitions

* `Rule.StandsFor` — a value that may take the place of a map that is a rule
* `Rule.Interchanged` — a rule map in which some entries have been exchanged
* `LimitAt` — a value is a limit of the rule under a name
* `CheckResult.Repeats` — what can be said of the result after an exchange

## Main results

* `Engine.judge_interchanged`, `Engine.judgeAll_interchanged` — verdicts on an exchanged rule map
* `CheckResult.repeats_ofVerdicts` — the results that such verdicts describe
* `Engine.rules_interchangeable` — the same for every evaluation, and reading is a projection
-/

namespace ArgRules

/-! ### Tables side by side -/

namespace Table

variable {κ α β : Type}

/-- Two tables have the same keys in the same order, and the values at each are related. -/
def Related (related : α → β → Prop) (s : Table κ α) (t : Table κ β) : Prop :=
  List.Forall₂ (fun a b => b.1 = a.1 ∧ related a.2 b.2) s t

variable {related : α → β → Prop}

theorem Related.self {same : α → α → Prop} (h : ∀ a, same a a) (t : Table κ α) :
    Related same t t := by
  induction t with
  | nil => exact .nil
  | cons entry rest ih => exact .cons ⟨rfl, h entry.2⟩ ih

theorem Related.named {s : Table Value α} {t : Table Value β} (h : Related related s t) :
    Related related s.named t.named := by
  induction h with
  | nil => exact .nil
  | @cons a b rest others head _ ih =>
    obtain ⟨key, value⟩ := a
    obtain ⟨key', value'⟩ := b
    obtain ⟨rfl, hvalue⟩ := head
    cases hname : key'.asText? with
    | none => rwa [named_cons_of_none hname, named_cons_of_none hname]
    | some name =>
      rw [named_cons_of_text hname, named_cons_of_text hname]
      exact .cons ⟨rfl, hvalue⟩ ih

theorem named_filter (keep : α → Bool) (table : Table Value α) :
    named (table.filter fun entry => keep entry.2) =
      table.named.filter fun entry => keep entry.2 := by
  induction table with
  | nil => rfl
  | cons entry rest ih =>
    obtain ⟨key, value⟩ := entry
    cases hname : key.asText? with
    | none =>
      rw [named_cons_of_none hname, ← ih, List.filter_cons]
      split
      · exact named_cons_of_none hname _ _
      · rfl
    | some name =>
      rw [named_cons_of_text hname, List.filter_cons, List.filter_cons, ← ih]
      split
      · exact named_cons_of_text hname _ _
      · rfl

variable [BEq κ]

/-- Related values are written to related tables. -/
theorem Related.put {s : Table κ α} {t : Table κ β} (h : Related related s t) (key : κ) {a : α}
    {b : β} (hab : related a b) : Related related (s.put key a) (t.put key b) := by
  induction h with
  | nil => exact .cons ⟨rfl, hab⟩ .nil
  | @cons entry other rest others head tail ih =>
    obtain ⟨k, old⟩ := entry
    obtain ⟨k', old'⟩ := other
    obtain ⟨rfl, hold⟩ := head
    rw [Table.put, Table.put]
    split
    · exact .cons ⟨rfl, hab⟩ tail
    · exact .cons ⟨rfl, hold⟩ ih

/-- A value is written that is related to the one that is there on the other side. -/
theorem Related.put_left {s : Table κ α} {t : Table κ β} (h : Related related s t) {key : κ} {a : α}
    {b : β} (hthere : t.get? key = some b) (hab : related a b) :
    Related related (s.put key a) t := by
  induction h with
  | nil => simp at hthere
  | @cons entry other rest others head tail ih =>
    obtain ⟨k, old⟩ := entry
    obtain ⟨k', old'⟩ := other
    obtain ⟨rfl, hold⟩ := head
    rw [get?_cons] at hthere
    rw [Table.put]
    split
    · next hkey =>
      rw [if_pos hkey] at hthere
      obtain rfl := Option.some.inj hthere
      exact .cons ⟨rfl, hab⟩ tail
    · next hkey =>
      rw [if_neg hkey] at hthere
      exact .cons ⟨rfl, hold⟩ (ih hthere)

end Table

/-! ### What may be exchanged -/

namespace Rule

/-- A value that may take the place of a map that is a rule: what is kept of the rule, or the
canonical form of that. -/
inductive StandsFor (entry : Value) : Value → Prop
  | model {rule kept : Rule} (map : entry.isMap = true)
      (parsed : ofEntry entry = .ok (.ok rule)) (keeps : rule.Kept kept) :
      StandsFor entry kept.toValue
  | canonical {rule kept : Rule} (map : entry.isMap = true)
      (parsed : ofEntry entry = .ok (.ok rule)) (keeps : rule.Kept kept) :
      StandsFor entry (.map kept.canonical)

/-- What stands for a rule is read as what is kept of it. -/
theorem StandsFor.exists_rule {entry given : Value} (h : StandsFor entry given) :
    ∃ rule kept, rule.Kept kept ∧ ofEntry entry = .ok (.ok rule) ∧
      ofEntry given = .ok (.ok kept) := by
  cases h with
  | @model rule kept _ parsed keeps => exact ⟨rule, kept, keeps, parsed, rfl⟩
  | @canonical rule kept map parsed keeps =>
    obtain ⟨entries, hentries⟩ := Option.isSome_iff_exists.mp map
    exact ⟨rule, kept, keeps, parsed, ofEntry_canonical hentries parsed keeps⟩

/-- A rule map in which some entries have been exchanged, and no directive. -/
def Interchanged (rules given : Entries) : Prop := Altered StandsFor rules given

/-- A value is a limit of the rule that an entry is. -/
def LimitOf (entry limit : Value) : Prop :=
  ∃ rule, ofEntry entry = .ok (.ok rule) ∧ rule.frame.constraint.HasLimit limit

end Rule

/-- A value is a limit of the rule under a name. -/
def LimitAt (rules : Entries) (name : String) (limit : Value) : Prop :=
  ∃ entry, (name, entry) ∈ rules.named ∧ Rule.LimitOf entry limit

/-- Changes after an exchange of rules: they are the same up to the boxes of numbers, but for those
that are idle. What a number is moved to is a limit of its rule. -/
def Change.RepeatAll (given args : Entries) (changes others : Table String Change) : Prop :=
  ∃ made : Table String Change, Table.Related Change.Alike changes made ∧
    others = made.filter (fun entry => !entry.2.isIdle) ∧
    ∀ entry ∈ made, entry.2.before = Engine.argument args (.text entry.1) ∧
      (entry.2.action = .clamp → LimitAt given entry.1 entry.2.after)

/-- After an exchange of rules, a result has the same arguments up to the boxes of numbers and the
same violations, and its changes repeat those of the result before. -/
structure CheckResult.Repeats (given args : Entries) (result other : CheckResult) : Prop where
  related_args : Table.Related Value.Alike result.args other.args
  repeated_changes : Change.RepeatAll given args result.changes other.changes
  violations_eq : other.violations = result.violations

/-! ### Verdicts on an exchanged rule map -/

/-- Verdicts on an exchanged rule map: each repeats the one on the same entry. -/
def Verdict.RepeatAll (given args : Entries) (verdicts others : Table Value Verdict) : Prop :=
  List.Forall₂ (fun entry other => other.1 = entry.1 ∧
    Repeats (fun limit => ∃ raw, (entry.1, raw) ∈ given ∧ Rule.LimitOf raw limit)
      (Engine.argument args entry.1) entry.2 other.2) verdicts others

namespace Engine

open Rule

variable {engine : Engine} {checkNames : Bool} {rules given : Entries}

theorem judge_interchanged {entry other : Value} (h : other = entry ∨ StandsFor entry other)
    (name value : Value) : Agree (Verdict.Repeats (LimitOf other) value)
      (engine.judge checkNames name entry value) (engine.judge checkNames name other value) := by
  have of_kept {rule kept : Rule} (hkept : rule.Kept kept)
      (hother : ofEntry other = .ok (.ok kept)) : Agree (Verdict.Repeats (LimitOf other) value)
        (engine.judgeRule checkNames name rule value)
        (engine.judgeRule checkNames name kept value) :=
    (judgeRule_kept hkept).imp fun _ _ hrepeats =>
      hrepeats.imp fun limit hlimit => ⟨kept, hother, hlimit⟩
  rcases h with rfl | hstands
  · -- The entry has not been exchanged. If it is no rule, there is no change.
    rw [judge]
    refine agree_bind fun found hparsed => ?_
    cases found with
    | ok rule => exact of_kept (.refl rule) hparsed
    | error reason => exact agree_bind fun violation _ => .give (.unchanged ..)
  · obtain ⟨rule, kept, hkept, hentry, hother⟩ := hstands.exists_rule
    rw [judge_of_rule hentry, judge_of_rule hother]
    exact of_kept hkept hother

/-- **Verdicts on an exchanged rule map** repeat those on the rule map, one by one. -/
theorem judgeAll_interchanged (engine : Engine) (checkNames : Bool) (args : Entries)
    {entries others : Entries} (h : Interchanged entries others)
    (hgiven : ∀ entry ∈ others, entry ∈ given) : Agree (Verdict.RepeatAll given args)
      (engine.judgeAll checkNames args entries) (engine.judgeAll checkNames args others) := by
  induction h with
  | nil => exact .give .nil
  | @cons entry other rest others head _ ih =>
    obtain ⟨key, raw⟩ := entry
    obtain ⟨key', raw'⟩ := other
    obtain ⟨rfl, hentry⟩ := head
    obtain ⟨hhere, hrest⟩ := List.forall_mem_cons.mp hgiven
    have hstands : raw' = raw ∨ StandsFor raw raw' := hentry.imp_right And.right
    rw [judgeAll_cons, judgeAll_cons]
    refine (judge_interchanged hstands key' _).bind fun verdict verdict' hverdict => ?_
    refine (ih hrest).bind fun verdicts verdicts' hverdicts => .give ?_
    exact .cons ⟨rfl, hverdict.imp fun limit hlimit => ⟨raw', hhere, hlimit⟩⟩ hverdicts

/-- The assessment of an exchanged rule map. -/
theorem assess_interchanged (engine : Engine) (args : Entries) (h : Interchanged rules given) :
    Agree (fun found other => Verdict.RepeatAll given args found.1 other.1 ∧ other.2 = found.2)
      (engine.assess rules args) (engine.assess given args) := by
  rw [assess, assess, Altered.ofMode_eq h]
  refine agree_bind fun policy _ => ?_
  have hjudged := judgeAll_interchanged engine policy.checkNames args (Altered.judged h policy)
    fun entry hentry => (List.mem_filter.mp hentry).1
  refine hjudged.bind fun verdicts others hverdicts => ?_
  rw [Altered.unclaimed_eq h]
  refine agree_bind fun allow _ => ?_
  cases allow with
  | true => exact .give ⟨hverdicts, rfl⟩
  | false => exact agree_bind fun extra _ => .give ⟨hverdicts, rfl⟩

end Engine

/-! ### Results that verdicts describe -/

/-- The changes of repeated verdicts repeat each other. -/
theorem changesOf_repeatAll {given args : Entries} {verdicts others : Table Value Verdict}
    (h : Verdict.RepeatAll given args verdicts others) :
    ∃ made : Table Value Change, Table.Related Change.Alike (changesOf verdicts) made ∧
      changesOf others = made.filter (fun entry => !entry.2.isIdle) ∧
      ∀ entry ∈ made, entry.2.before = Engine.argument args entry.1 ∧
        (entry.2.action = .clamp →
          ∃ raw, (entry.1, raw) ∈ given ∧ Rule.LimitOf raw entry.2.after) := by
  induction h with
  | nil => exact ⟨[], .nil, rfl, by simp⟩
  | @cons entry other rest others head _ ih =>
    obtain ⟨key, change, violation⟩ := entry
    obtain ⟨key', change', violation'⟩ := other
    obtain ⟨rfl, -, found, hfound, hchange, hlimit⟩ := head
    obtain ⟨made, hmade, hothers, hlimits⟩ := ih
    refine ⟨(found.map fun change => (key', change)).toList ++ made, ?_, ?_, ?_⟩
    · cases hfound with
      | none => exact hmade
      | some halike => exact .cons ⟨rfl, halike⟩ hmade
    · have hhead : changesOf ((key', ⟨change', violation'⟩) :: others) =
          (change'.map fun change => (key', change)).toList ++ changesOf others := by
        cases change' <;> rfl
      obtain rfl : change' = _ := hchange
      rw [hhead, hothers, List.filter_append]
      congr 1
      cases found with
      | none => rfl
      | some made => cases hidle : made.isIdle <;> simp [Option.filter, hidle]
    · intro entry hentry
      rcases List.mem_append.mp hentry with hhere | hthere
      · obtain ⟨change, hmem, rfl⟩ := Option.map_eq_some_iff.mp (Option.mem_toList.mp hhere)
        exact hlimit change hmem
      · exact hlimits entry hthere

theorem violationsOf_repeatAll {given args : Entries} {verdicts others : Table Value Verdict}
    (h : Verdict.RepeatAll given args verdicts others) :
    violationsOf others = violationsOf verdicts := by
  induction h with
  | nil => rfl
  | @cons entry other rest others head _ ih =>
    obtain ⟨key, change, violation⟩ := entry
    obtain ⟨key', change', violation'⟩ := other
    obtain rfl : violation' = violation := head.2.violation
    rw [violationsOf, violationsOf, List.filterMap_cons, List.filterMap_cons, ← violationsOf, ih,
      violationsOf]

/-- An idle change writes what is there: a value that is one and the same as a number is that
number. -/
theorem Change.get?_of_isIdle {given args : Entries} {change : Change} {name : String}
    (h : change.isIdle = true) (hbefore : change.before = Engine.argument args (.text name))
    (hlimit : change.action = .clamp → LimitAt given name change.after) :
    args.named.get? name = some change.after := by
  rw [isIdle, Bool.and_eq_true, decide_eq_true_iff] at h
  obtain ⟨_, -, _, -, m, hafter, -⟩ := hlimit h.1
  have hsame : change.before = change.after := by
    rw [hafter] at h ⊢
    cases hvalue : change.before with
    | number n =>
      rw [hvalue] at h
      exact congrArg _ (Number.eq_of_identical h.2)
    | _ => simp [hvalue, Value.identical] at h
  rw [Table.get?_named_text, ← hsame, hbefore, Engine.argument]
  cases hfound : Table.get? args (.text name) with
  | some value => rfl
  | none => simp [hbefore, Engine.argument, hfound, hafter] at hsame

/-- Idle changes write what is there. -/
theorem related_putAll {changes made : Table String Change}
    (h : Table.Related Change.Alike changes made) {s t : Table String Value}
    (hst : Table.Related Value.Alike s t) (hd : made.keys.Nodup)
    (hidle : ∀ entry ∈ made, entry.2.isIdle = true → t.get? entry.1 = some entry.2.after) :
    Table.Related Value.Alike (s.putAll (writesOf changes))
      (t.putAll (writesOf (made.filter fun entry => !entry.2.isIdle))) := by
  induction h generalizing s t with
  | nil => exact hst
  | @cons entry other rest others head _ ih =>
    obtain ⟨name, change⟩ := entry
    obtain ⟨name', change'⟩ := other
    obtain ⟨rfl, halike⟩ := head
    obtain ⟨hhere, hrest⟩ := List.forall_mem_cons.mp hidle
    obtain ⟨hfresh, hd⟩ := List.nodup_cons.mp hd
    cases hchange : change'.isIdle with
    | true =>
      rw [List.filter_cons_of_neg (by simp [hchange])]
      exact ih (hst.put_left (hhere hchange) halike.after) hd hrest
    | false =>
      rw [List.filter_cons_of_pos (by simp [hchange])]
      refine ih (hst.put _ halike.after) hd fun entry hentry hidle => ?_
      have hne : name' ≠ entry.1 := by
        rintro rfl
        exact hfresh (Table.mem_keys_of_mem hentry)
      rw [Table.get?_put_of_ne _ _ hne]
      exact hrest entry hentry hidle

/-- **The results that repeated verdicts describe** repeat each other. -/
theorem CheckResult.repeats_ofVerdicts {given args : Entries}
    {verdicts others : Table Value Verdict} (hverdicts : TextKeyed verdicts) (h : Verdict.RepeatAll given args verdicts others)
    (extra : List Violation) : CheckResult.Repeats given args (.ofVerdicts args verdicts extra)
      (.ofVerdicts args others extra) := by
  obtain ⟨made, hmade, hothers, hlimits⟩ := changesOf_repeatAll h
  have hnamed : (changesOf others).named = made.named.filter fun entry => !entry.2.isIdle := by
    rw [hothers]
    exact Table.named_filter (fun change => !change.isIdle) made
  have hmoves : ∀ entry ∈ made.named, entry.2.before = Engine.argument args (.text entry.1) ∧
      (entry.2.action = .clamp → LimitAt given entry.1 entry.2.after) := by
    intro entry hentry
    obtain ⟨key, hkey, hmem⟩ := Table.mem_named.mp hentry
    obtain ⟨hbefore, hlimit⟩ := hlimits _ hmem
    refine ⟨hbefore.trans (Engine.argument_eq hkey args), fun hclamp => ?_⟩
    obtain ⟨raw, hraw, hof⟩ := hlimit hclamp
    exact ⟨raw, Table.mem_named.mpr ⟨key, hkey, hraw⟩, hof⟩
  refine ⟨?_, ⟨made.named, hmade.named, hnamed, hmoves⟩, ?_⟩
  · have hkeys : made.named.keys.Nodup := by
      rw [Table.keys_of_forall₂ hmade.named]
      exact hverdicts.changesOf.distinct
    rw [ofVerdicts, ofVerdicts, writesOf, writesOf, Table.named_map_snd, Table.named_map_snd,
      hnamed]
    refine related_putAll hmade.named (.self .same _) hkeys fun entry hentry hidle => ?_
    exact Change.get?_of_isIdle hidle (hmoves entry hentry).1 (hmoves entry hentry).2
  · rw [ofVerdicts, ofVerdicts, violationsOf_repeatAll h]

/-- Where no argument is the very limit of its rule, the changes after an exchange are the same up
to the boxes of numbers. -/
theorem Change.RepeatAll.related {given args : Entries} {changes others : Table String Change}
    (h : RepeatAll given args changes others) (hfree : ∀ name limit, LimitAt given name limit →
      (Engine.argument args (.text name)).identical limit = false) :
    Table.Related Change.Alike changes others := by
  obtain ⟨made, hmade, rfl, hmoves⟩ := h
  rwa [List.filter_eq_self.mpr fun entry hentry => ?_]
  obtain ⟨hbefore, hlimit⟩ := hmoves entry hentry
  cases haction : entry.2.action with
  | default => simp [isIdle, haction]
  | clamp => simp [isIdle, haction, hbefore, hfree _ _ (hlimit haction)]

namespace Engine

open Rule

/-- **Rules and the maps that they are read from are interchangeable, and reading is a projection.**
The canonical form of what is kept of a rule that was read from a map has the fields that the map
has, with the values that are kept, and it is read as what was kept. If entries of a rule map are
exchanged for what is kept of their rules, or for the canonical forms of that, an evaluation stops
for the same reason, or else it has the same arguments, the same violations, and the same changes,
except that a number is not moved to itself. If no argument is the very limit of its rule, there is
no such exception. -/
theorem rules_interchangeable :
    (∀ entry entries rule kept, entry.asMap? = some entries → ofEntry entry = .ok (.ok rule) →
      rule.Kept kept →
        ofEntry (.map kept.canonical) = .ok (.ok kept) ∧
          kept.canonical.keys = kept.frame.given.map (fun field => .text field.name) ∧
          Restates kept.canonical entries (Value.ruleFields kept.frame kept.default)) ∧
    ∀ (engine : Engine) (ruleMap givenMap argMap : Value) (rules given args : Entries),
      engine.mode ≠ .off → ruleMap.asMap? = some rules → givenMap.asMap? = some given →
      argMap.asMap? = some args → TextKeyed rules → TextKeyed args → Interchanged rules given →
        Agree (fun result other => result.Repeats given args other ∧
            ((∀ name limit, LimitAt given name limit →
              (argument args (.text name)).identical limit = false) →
                Table.Related Change.Alike result.changes other.changes))
          (engine.evaluate ruleMap argMap).answer (engine.evaluate givenMap argMap).answer := by
  constructor
  · intro entry entries rule kept hmap hparsed hkept
    obtain ⟨kind, -, hread⟩ := read_of_ofEntry hmap hparsed
    exact ⟨ofEntry_canonical hmap hparsed hkept, keys_canonical hread hkept,
      restates_canonical hread hkept⟩
  · intro engine ruleMap givenMap argMap rules given args hmode hruleMap hgivenMap hargMap hrules
      hargs hinter
    have hgiven : TextKeyed given := hrules.of_keys_sublist (by rw [Altered.keys_eq hinter])
    rw [evaluate_eq_evaluateFiled hmode hruleMap hargMap,
      evaluate_eq_evaluateFiled hmode hgivenMap hargMap, evaluateFiled_eq_assess hrules hargs,
      evaluateFiled_eq_assess hgiven hargs]
    have hkeyed (verdicts extra) (h : engine.assess rules args = .ok (verdicts, extra)) :=
      textKeyed_of_assess hrules h
    have hagree := assess_interchanged engine args hinter
    generalize engine.assess rules args = found at hagree hkeyed
    generalize engine.assess given args = other at hagree
    cases hagree with
    | stop fault => exact .stop _
    | @give found other hrepeats =>
      obtain ⟨verdicts, extra⟩ := found
      obtain ⟨others, extra'⟩ := other
      obtain ⟨hverdicts, rfl⟩ := hrepeats
      have hresults := CheckResult.repeats_ofVerdicts (hkeyed _ _ rfl) hverdicts extra'
      exact .give ⟨hresults, hresults.repeated_changes.related⟩

end Engine

namespace Sample

/-- A rule map with two rules whose fields are written leniently. The first has an explicit default
of null. -/
def loose : Entries :=
  [(.text "_check_names", .bool true),
    (.text "count", .map [(.text "kind", .text "integer"), (.text "max_int", .text "1000"),
      (.text "autobound", .text "yes"), (.text "default", .null)]),
    (.text "label", .map [(.text "filter_pattern", .text "^a"), (.text "kind", .text "string"),
      (.text "is_optional", .int 1), (.text "max_length", .number (.double (.ofRat 5)))])]

/-- The first rule with a limit in a given box. -/
def tightCount (box : Option Nat) : Rule :=
  ⟨⟨false, false, .integer none (some ⟨1000, box⟩) true, [.default, .kind, .maxInt, .autobound]⟩,
    .null⟩

/-- The second rule as it is read. -/
def tightLabel : Rule :=
  ⟨⟨true, false, .string false (Pattern.compile (.text "^a") .empty).toOption none (some 5),
    [.isOptional, .kind, .filterPattern, .maxLength]⟩, .null⟩

/-- The rule map with one rule as a value and the other one in its canonical form. -/
def tight : Entries :=
  [(.text "_check_names", .bool true), (.text "count", (tightCount (some 0)).toValue),
    (.text "label", .map tightLabel.canonical)]

theorem tightCount_kept : (tightCount none).Kept (tightCount (some 0)) :=
  ⟨rfl, rfl, .integer .none (.some (.boxed rfl)), rfl, rfl⟩

theorem interchanged_loose : Rule.Interchanged loose tight :=
  .cons ⟨rfl, .inl rfl⟩ (.cons ⟨rfl, .inr ⟨by decide, .model rfl rfl tightCount_kept⟩⟩
    (.cons ⟨rfl, .inr ⟨by decide, .canonical rfl rfl (.refl tightLabel)⟩⟩ .nil))

theorem textKeyed_loose : TextKeyed loose := ⟨by simp [loose, Value.asText?], by decide⟩

end Sample

/-- The two rule maps have the same change of an argument that is out of bounds, and the first rule
is read again as it was kept, with the default that was given to it. -/
theorem Engine.rules_interchangeable_loose :
    (Rule.ofEntry (.map (Sample.tightCount (some 0)).canonical) =
        .ok (.ok (Sample.tightCount (some 0))) ∧
      (Sample.tightCount (some 0)).canonical.keys =
        [.text "default", .text "kind", .text "max_int", .text "autobound"]) ∧
      (Engine.default.evaluate (.map Sample.loose)
        (.map [(.text "count", .int 1200)])).answer.toOption.map (·.changes.keys) =
          some ["count"] ∧
      Agree (fun result other => Table.Related Value.Alike result.args other.args ∧
          Table.Related Change.Alike result.changes other.changes ∧
          other.violations = result.violations)
        (Engine.default.evaluate (.map Sample.loose) (.map [(.text "count", .int 1200)])).answer
        (Engine.default.evaluate (.map Sample.tight)
          (.map [(.text "count", .int 1200)])).answer := by
  obtain ⟨hread, hkeys, -⟩ := rules_interchangeable.1 (.map [(.text "kind", .text "integer"),
    (.text "max_int", .text "1000"), (.text "autobound", .text "yes"), (.text "default", .null)]) _
    (Sample.tightCount none) (Sample.tightCount (some 0)) rfl rfl Sample.tightCount_kept
  refine ⟨⟨hread, hkeys⟩, by decide +kernel, (rules_interchangeable.2 Engine.default
    (.map Sample.loose) (.map Sample.tight) (.map [(.text "count", .int 1200)]) _ _ _ (by decide)
    rfl rfl rfl Sample.textKeyed_loose ⟨by simp [Value.asText?], by decide⟩
    Sample.interchanged_loose).imp ?_⟩
  rintro result other ⟨hrepeats, hfree⟩
  refine ⟨hrepeats.related_args, hfree fun name limit hlimit => ?_, hrepeats.violations_eq⟩
  -- A number in a box without a mark is no other one.
  obtain ⟨_, -, _, -, m, rfl, -⟩ := hlimit
  rw [argument, Table.get?_cons]
  split <;> simp [Value.identical, Value.int, Number.identical, Amount.isShared]

namespace Sample

/-- A rule with its limits in the wrong order. The lower one is written as a text. -/
def reversed : Entries :=
  [(.text "a", .map [(.text "kind", .text "integer"), (.text "min_int", .text "1000"),
    (.text "max_int", .int 500), (.text "autobound", .bool true)])]

/-- The rule that has been read from it, with the lower limit in a given box. -/
def reversedRule (box : Option Nat) : Rule :=
  ⟨⟨false, false, .integer (some ⟨1000, box⟩) (some ⟨500, none⟩) true,
    [.kind, .minInt, .maxInt, .autobound]⟩, .null⟩

/-- The rule map with the rule as it was kept. -/
def reversedKept : Entries := [(.text "a", (reversedRule (some 0)).toValue)]

/-- The argument is the lower limit that was kept. -/
def met : Entries := [(.text "a", .number ⟨.int 1000, some 0⟩)]

end Sample

/-- An exchange for a rule that is kept may take a change away: the argument is moved to the upper
limit and back to the lower one, which it is. -/
theorem Engine.rules_not_interchangeable_reversed :
    Rule.Interchanged Sample.reversed Sample.reversedKept ∧
      (Engine.default.evaluate (.map Sample.reversed) (.map Sample.met)).answer.toOption.map
        (·.changes.keys) = some ["a"] ∧
      (Engine.default.evaluate (.map Sample.reversedKept) (.map Sample.met)).answer.toOption.map
        (·.changes.keys) = some [] := by
  have hkept : (Sample.reversedRule none).Kept (Sample.reversedRule (some 0)) :=
    ⟨rfl, rfl, .integer (.some (.boxed rfl)) (.some (.same _)), rfl, rfl⟩
  exact ⟨.cons ⟨rfl, .inr ⟨by decide, .model rfl rfl hkept⟩⟩ .nil, by decide +kernel,
    by decide +kernel⟩

end ArgRules
