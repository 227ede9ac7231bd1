import ArgRules.Proofs.Pass

/-!
# Directives and rules apart

A rule map holds directives and rules side by side, and the keys tell which is which. Here the two
are taken apart. An evaluation asks the directives for its policy and passes over them otherwise, so
it depends on the directives as a table and on the rules as a list: where the directives stand among
the rules does not matter.

Rule maps are also compared entry by entry. Where only rules are altered, and the keys stay, the
directives ask for the same policy, and the same entries are judged.

## Main definitions

* `Directive.among` — the directives of a rule map
* `Directive.without` — a rule map without its directives
* `Altered` — a rule map in which rules have been altered

## Main results

* `Policy.ofRules_of_perm` — the policy of normal mode depends on the directives alone
* `Engine.walk_without`, `Engine.evaluateUnder_without` — under a policy, directives do nothing
* `Altered.ofMode_eq`, `Altered.judged` — the policy and the judged entries of an altered rule map
-/

namespace ArgRules

namespace Directive

/-- The directives of a rule map. -/
def among (rules : Entries) : Entries := rules.filter fun entry => isKey entry.1

/-- A rule map without its directives. -/
def without (rules : Entries) : Entries := rules.filter fun entry => !isKey entry.1

theorem isKey_of_asText? {key : Value} {name : String} (h : key.asText? = some name) :
    isKey key = isName name := by
  simp [isKey, h]

/-- Equal keys are both keys of directives, or neither is. -/
theorem isKey_of_beq {key other : Value} (h : (key == other) = true) : isKey key = isKey other := by
  rw [isKey, isKey, Value.asText?_eq_of_beq h]

/-- A directive is read among the directives. -/
theorem get?_among {key : Value} (h : isKey key = true) (rules : Entries) :
    (among rules).get? key = rules.get? key :=
  Table.get?_filter_key (fun _ hk => (isKey_of_beq hk).trans h) rules

/-- Directives that are the same up to their order are read alike. -/
theorem get?_of_perm {rules given : Entries} (hrules : TextKeyed (among rules))
    (hperm : (among given).Perm (among rules)) {name : String} (h : isName name = true) :
    given.get? (.text name) = rules.get? (.text name) := by
  have hkey : isKey (.text name) = true := (isKey_of_asText? rfl).trans h
  rw [← get?_among hkey given, ← get?_among hkey rules, hrules.get?_of_perm hperm rfl]

/-- A rule map is its directives and its rules, up to the order. -/
theorem among_append_without (rules : Entries) : (among rules ++ without rules).Perm rules :=
  List.filter_append_perm _ rules

end Directive

/-! ### The policy -/

namespace Policy

/-- Rule maps with the same directives have the same policy in normal mode. -/
theorem ofRules_of_get? {rules given : Entries} (h : ∀ name, Directive.isName name = true →
    given.get? (.text name) = rules.get? (.text name)) : ofRules given = ofRules rules := by
  have hskip : given.get? Directive.skipKeys = rules.get? Directive.skipKeys := h _ (by decide)
  have hnames : given.get? Directive.checkNames = rules.get? Directive.checkNames :=
    h _ (by decide)
  have hextra : given.get? Directive.allowExtraKeys = rules.get? Directive.allowExtraKeys :=
    h _ (by decide)
  rw [ofRules, ofRules, directive, directive, directive, directive, hskip, hnames, hextra]

/-- **The policy of normal mode depends on the directives alone,** and not on their order. -/
theorem ofRules_of_perm {rules given : Entries} (hrules : TextKeyed (Directive.among rules))
    (hperm : (Directive.among given).Perm (Directive.among rules)) :
    ofRules given = ofRules rules :=
  ofRules_of_get? fun _ hname => Directive.get?_of_perm hrules hperm hname

/-- And so does the policy of any mode. -/
theorem ofMode_of_perm {mode : Mode} {rules given : Entries} (hrules : TextKeyed rules)
    (hperm : (Directive.among given).Perm (Directive.among rules)) :
    ofMode mode given = ofMode mode rules := by
  rw [ofMode, ofMode, ofRules_of_perm (hrules.of_keys_sublist (List.filter_sublist.map _)) hperm]

/-- The entries that are judged are the rules that are not skipped. -/
theorem judged_eq_filter (policy : Policy) (rules : Entries) :
    policy.judged rules =
      (Directive.without rules).filter fun entry => !policy.skips entry.1 := by
  rw [judged, Directive.without, List.filter_filter]
  refine List.filter_congr fun entry _ => ?_
  rw [Bool.not_or, Bool.and_comm]

end Policy

/-! ### The pass -/

namespace Engine

variable {engine : Engine} {checkNames : Bool}

/-- **A pass over a rule map is a pass over its rules.** -/
theorem walk_without (pass : Pass) (rules : Entries) :
    engine.walk checkNames pass (Directive.without rules) =
      engine.walk checkNames pass rules := by
  induction rules generalizing pass with
  | nil => rfl
  | cons entry rest ih =>
    obtain ⟨name, raw⟩ := entry
    cases h : Directive.isKey name with
    | true =>
      rw [walk, step_of_passed (by rw [h, Bool.true_or]), Directive.without,
        List.filter_cons_of_neg (by simp [h])]
      exact ih pass
    | false =>
      rw [walk, Directive.without, List.filter_cons_of_pos (by simp [h]), walk]
      exact congrArg _ (funext ih)

/-- Under a policy, the directives of a rule map do nothing. -/
theorem evaluateUnder_without (policy : Policy) (rules args : Entries) :
    engine.evaluateUnder policy (Directive.without rules) args =
      engine.evaluateUnder policy rules args := by
  rw [evaluateUnder, evaluateUnder, walk_without]

end Engine

/-! ### Altered rules -/

/-- A rule map in which the values of some entries have been altered, and neither the keys nor the
directives. -/
def Altered (related : Value → Value → Prop) (rules given : Entries) : Prop :=
  List.Forall₂ (fun entry other => other.1 = entry.1 ∧
    (other.2 = entry.2 ∨ Directive.isKey entry.1 = false ∧ related entry.2 other.2)) rules given

namespace Altered

variable {related : Value → Value → Prop} {rules given : Entries}

theorem keys_eq (h : Altered related rules given) : given.keys = rules.keys :=
  Table.keys_of_forall₂ h

/-- The entries with some of the keys are altered in the same way. -/
theorem filter (h : Altered related rules given) (keep : Value → Bool) :
    Altered related (rules.filter fun entry => keep entry.1)
      (given.filter fun entry => keep entry.1) := by
  induction h with
  | nil => exact .nil
  | @cons entry other rest others head _ ih =>
    rw [List.filter_cons, List.filter_cons, head.1]
    split
    · exact .cons head ih
    · exact ih

/-- The directives are not altered. -/
theorem among_eq (h : Altered related rules given) :
    Directive.among given = Directive.among rules := by
  have hsame : ∀ entry ∈ Directive.among rules, Directive.isKey entry.1 = true :=
    fun entry hentry => (List.mem_filter.mp hentry).2
  have hamong : Altered related (Directive.among rules) (Directive.among given) :=
    h.filter Directive.isKey
  generalize Directive.among rules = first at hsame hamong
  generalize Directive.among given = second at hamong
  induction hamong with
  | nil => rfl
  | @cons entry other rest others head _ ih =>
    obtain ⟨hentry, hrest⟩ := List.forall_mem_cons.mp hsame
    have hvalue : other.2 = entry.2 := head.2.resolve_right fun ⟨hrule, _⟩ => by
      rw [hentry] at hrule
      contradiction
    rw [Prod.ext head.1 hvalue, ih hrest]

/-- **An altered rule map has the same policy.** -/
theorem ofMode_eq (h : Altered related rules given) (mode : Mode) :
    Policy.ofMode mode given = Policy.ofMode mode rules := by
  have hread (name : String) (hname : Directive.isName name = true) :
      given.get? (.text name) = rules.get? (.text name) := by
    have hkey : Directive.isKey (.text name) = true :=
      (Directive.isKey_of_asText? rfl).trans hname
    rw [← Directive.get?_among hkey given, h.among_eq, Directive.get?_among hkey]
  rw [Policy.ofMode, Policy.ofMode, Policy.ofRules_of_get? hread]

/-- The same entries are judged, altered as they are. -/
theorem judged (h : Altered related rules given) (policy : Policy) :
    Altered related (policy.judged rules) (policy.judged given) :=
  h.filter fun key => !(Directive.isKey key || policy.skips key)

theorem unclaimed_eq (h : Altered related rules given) (policy : Policy) (args : Entries) :
    policy.unclaimed given args = policy.unclaimed rules args := by
  rw [Policy.unclaimed, Policy.unclaimed, (h.judged policy).keys_eq]

end Altered

end ArgRules
