import ArgRules.Pattern.Basic
import ArgRules.Proofs.Language
import Mathlib.Algebra.GroupWithZero.Nat

/-!
# Matching and the language of a pattern

An attempt to match works off its tasks with backtracking: it tries one way after the other, skips
ways of which it can be told that they fail, puts marks back, and has a bound on its steps. Whether
it succeeds depends on none of this. Here it is proved that it succeeds exactly if there is a way
at all, so that a question about a search becomes one about characters.

## Regular parts

A part is regular if it is made of tests of characters, anchors, sequences, choices, groups that are
not referred to, and greedy repetitions of one character. Such a part never asks for what was
remembered, and it never leaves a repetition open. So whether tasks can be done from a place is
independent of the marks, and a failed way has no influence on the next one; that is what carries
the induction in `attempt_iff`.

## Main definitions

* `Feasible` — tasks that can be done from a place
* `Node.isRegular` — the parts that are considered

## Main results

* `repeatChar_iff` — a repetition gives characters back until what follows succeeds, if it ever does
* `attempt_iff` — an attempt succeeds exactly if its tasks can be done
* `search_iff` — a search finds exactly what the pattern describes, anywhere in the text
-/

namespace ArgRules.Pattern

/-! ### Tasks that can be done -/

/-- An alternative is skipped only if it leads nowhere. -/
theorem not_leads_of_isBarred {node : Node} {p q : Place} (h : isBarred node p = true) :
    ¬ node.Leads p q := by
  intro hleads
  rw [isBarred] at h
  split at h
  · next test hlead =>
    rw [Node.sees_of_lead hlead hleads] at h
    simp at h
  · simp at h

/-- Tasks that can be done from a place, one after the other, outside of repetitions. -/
def Feasible : List Task → Place → Prop
  | [], _ => True
  | .run node :: rest, p => ∃ q, node.Leads p q ∧ Feasible rest q
  | .close _ :: rest, p => Feasible rest p
  | .onward :: rest, p => Feasible rest p
  | .endRound :: _, _ => False

/-- A place is given up for tasks only if they cannot be done from there. -/
theorem not_feasible_of_isHopeless {tasks : List Task} {p : Place}
    (h : isHopeless tasks p = true) : ¬ Feasible tasks p := by
  have hsees : ∀ tasks test, leadOf tasks = .char test → Feasible tasks p →
      p.sees test.accepts = true := by
    intro tasks test hlead hfeasible
    induction tasks with
    | nil => simp [leadOf] at hlead
    | cons task rest ih =>
      cases task with
      | run node =>
        obtain ⟨q, hleads, hrest⟩ := hfeasible
        rw [leadOf] at hlead
        split at hlead
        · next hnothing =>
          obtain rfl := Node.eq_of_lead_nothing hnothing hleads
          exact ih hlead hrest
        · exact Node.sees_of_lead hlead hleads
      | _ => simp [leadOf] at hlead
  intro hfeasible
  rw [isHopeless] at h
  split at h
  · next test hlead =>
    rw [hsees tasks test hlead hfeasible] at h
    simp at h
  · simp at h

/-! ### Repeating one character -/

/-- The run that is taken is the longest one. -/
theorem Place.reads_pastRun (accepts : Char → Bool) (limit : Option Nat) (p : Place) :
    ∃ chars, p.Reads chars (pastRun accepts limit p.before p.after p.position) ∧
      IsRun accepts limit chars ∧
      ∀ shorter q, p.Reads shorter q → IsRun accepts limit shorter → shorter <+: chars := by
  obtain ⟨before, after, position⟩ := p
  induction after generalizing limit before position with
  | nil =>
    refine ⟨[], reads_nil_iff.mpr rfl, isRun_nil, ?_⟩
    intro shorter q hreads _
    obtain ⟨rfl, -⟩ := List.append_eq_nil_iff.mp hreads.after.symm
    exact List.nil_prefix
  | cons c rest ih =>
    by_cases hgoes : limit ≠ some 0 ∧ accepts c = true
    · obtain ⟨chars, hreads, hrun, hlongest⟩ :=
        ih (limit.map (· - 1)) (c :: before) (position + 1)
      have hstep : Place.Reads ⟨before, c :: rest, position⟩ [c]
          ⟨c :: before, rest, position + 1⟩ := ⟨rfl, rfl, rfl⟩
      rw [pastRun, if_pos (by simpa using hgoes)]
      refine ⟨c :: chars, reads_append_iff.mpr ⟨_, hstep, hreads⟩,
        isRun_cons_iff.mpr ⟨hgoes.1, hgoes.2, hrun⟩, ?_⟩
      intro shorter q hq hshorter
      cases shorter with
      | nil => exact List.nil_prefix
      | cons d ds =>
        obtain ⟨r, hr, hq⟩ := reads_append_iff.mp
          (show Place.Reads ⟨before, c :: rest, position⟩ ([d] ++ ds) q from hq)
        obtain rfl : c = d := (List.cons.inj hr.after).1
        obtain rfl := hstep.unique hr
        exact List.cons_prefix_cons.mpr ⟨rfl, hlongest ds q hq (isRun_cons_iff.mp hshorter).2.2⟩
    · rw [pastRun, if_neg (by simpa using hgoes)]
      refine ⟨[], reads_nil_iff.mpr rfl, isRun_nil, ?_⟩
      intro shorter q hreads hrun
      cases shorter with
      | nil => exact List.nil_prefix
      | cons d ds =>
        obtain rfl : c = d := (List.cons.inj hreads.after).1
        obtain ⟨hmore, hc, -⟩ := isRun_cons_iff.mp hrun
        exact absurd ⟨hmore, hc⟩ hgoes

section Repeating

variable {resume : Place → Scan → Outcome} {succeeds : Place → Prop}
  {hopeless : Place → Bool} {marks : Marks} {inLoop : Bool}

/-- Giving back stops where the rest succeeds. -/
theorem giveBack_of_succeeds (hresume : ∀ q scan, (resume q scan).1 = true ↔ succeeds q)
    (hhopeless : ∀ q, hopeless q = true → ¬ succeeds q) (n : Nat) {q : Place}
    (h : succeeds q) (scan : Scan) :
    (giveBack resume hopeless marks inLoop n q scan).1 = true := by
  have hhope : hopeless q = false := by
    by_contra hne
    exact hhopeless q (by simpa using hne) h
  have hfound := (hresume q (scan.moved q)).mpr h
  cases n <;> simp [giveBack, hhope, hfound]

/-- Where the rest fails, giving back goes one character back. -/
theorem giveBack_of_fails (hresume : ∀ q scan, (resume q scan).1 = true ↔ succeeds q)
    {q : Place} (h : ¬ succeeds q) (scan : Scan) :
    (giveBack resume hopeless marks inLoop 0 q scan).1 = false ∧
      ∀ n r, q.back? 1 = some r → ∃ next, giveBack resume hopeless marks inLoop (n + 1) q scan =
        giveBack resume hopeless marks inLoop n r next := by
  have hfails : (resume q (scan.moved q)).1 = false := by
    rw [← Bool.not_eq_true, hresume]
    exact h
  constructor
  · rw [giveBack]
    cases hopeless q <;> simp [hfails]
  · intro n r hback
    rw [giveBack]
    cases hopeless q <;> simp [hfails, hback]

/-- **Giving back** finds the rest to succeed exactly if it does behind some part of the run from
which no more is missing than may be given back. -/
theorem giveBack_iff (hresume : ∀ q scan, (resume q scan).1 = true ↔ succeeds q)
    (hhopeless : ∀ q, hopeless q = true → ¬ succeeds q) {p q : Place} {chars : List Char}
    (hreads : p.Reads chars q) {n : Nat} (hn : n ≤ chars.length) (scan : Scan) :
    (giveBack resume hopeless marks inLoop n q scan).1 = true ↔
      ∃ kept r, kept <+: chars ∧ chars.length ≤ kept.length + n ∧ p.Reads kept r ∧
        succeeds r := by
  induction n generalizing q chars scan with
  | zero =>
    by_cases hhere : succeeds q
    · exact iff_of_true (giveBack_of_succeeds hresume hhopeless 0 hhere scan)
        ⟨chars, q, List.prefix_rfl, Nat.le_refl _, hreads, hhere⟩
    · rw [(giveBack_of_fails hresume hhere scan).1]
      refine iff_of_false Bool.false_ne_true ?_
      rintro ⟨kept, r, hprefix, hlength, hr, hsucceeds⟩
      obtain rfl := hprefix.eq_of_length_le hlength
      exact hhere (hreads.unique hr ▸ hsucceeds)
  | succ n ih =>
    by_cases hhere : succeeds q
    · exact iff_of_true (giveBack_of_succeeds hresume hhopeless _ hhere scan)
        ⟨chars, q, List.prefix_rfl, Nat.le_add_right _ _, hreads, hhere⟩
    · -- The last character of the run is given back.
      obtain ⟨front, c, rfl⟩ : ∃ front c, chars = front ++ [c] := by
        have hne : chars ≠ [] := by rintro rfl; simp at hn
        exact ⟨_, _, (List.dropLast_concat_getLast hne).symm⟩
      obtain ⟨r, hfront, hlast⟩ := Place.reads_append_iff.mp hreads
      obtain ⟨next, hnext⟩ :=
        (giveBack_of_fails hresume hhere scan).2 n r (Place.back?_of_reads hlast)
      rw [List.length_append, List.length_singleton] at hn
      rw [hnext, ih hfront (by omega) next]
      constructor
      · rintro ⟨kept, t, hprefix, hlength, ht, hsucceeds⟩
        refine ⟨kept, t, hprefix.trans (List.prefix_append _ _), ?_, ht, hsucceeds⟩
        rw [List.length_append, List.length_singleton]
        omega
      · rintro ⟨kept, t, hprefix, hlength, ht, hsucceeds⟩
        rw [List.length_append, List.length_singleton] at hlength
        rcases List.prefix_concat_iff.mp hprefix with rfl | hprefix
        · exact absurd (hreads.unique ht ▸ hsucceeds) hhere
        · exact ⟨kept, t, hprefix, by omega, ht, hsucceeds⟩

/-- **A greedy repetition of one character** and what follows succeed exactly if what follows does
behind a run that is long enough. -/
theorem repeatChar_iff (hresume : ∀ q scan, (resume q scan).1 = true ↔ succeeds q)
    {rest : List Task} (hhopeless : ∀ q, isHopeless rest q = true → ¬ succeeds q)
    {test : CharTest} {low : Nat} {high : Option Nat} {p : Place} {scan : Scan} :
    (repeatChar resume rest test low high .greedy inLoop p scan).1 = true ↔
      ∃ chars q, low ≤ chars.length ∧ IsRun test.accepts high chars ∧ p.Reads chars q ∧
        succeeds q := by
  obtain ⟨longest, hreads, hrun, hlongest⟩ := Place.reads_pastRun test.accepts high p
  have hposition := hreads.position
  rw [repeatChar, takeRun?]
  by_cases hahead : p.hasAhead low = true
  · simp only [hahead, Bool.not_true, Bool.false_eq_true, if_false]
    by_cases hshort : longest.length < low
    · -- Not even the longest run is long enough.
      rw [if_pos (by omega)]
      refine iff_of_false Bool.false_ne_true ?_
      rintro ⟨chars, q, hlow, hchars, hq, -⟩
      have hle := (hlongest chars q hq hchars).length_le
      omega
    · rw [if_neg (by omega)]
      simp only
      rw [giveBack_iff hresume hhopeless hreads (by omega)]
      constructor
      · rintro ⟨kept, r, hprefix, hlength, hr, hsucceeds⟩
        exact ⟨kept, r, by omega, hrun.of_prefix hprefix, hr, hsucceeds⟩
      · rintro ⟨chars, q, hlow, hchars, hq, hsucceeds⟩
        exact ⟨chars, q, hlongest chars q hq hchars, by omega, hq, hsucceeds⟩
  · simp only [hahead, Bool.not_false, if_true]
    refine iff_of_false Bool.false_ne_true ?_
    rintro ⟨chars, q, hlow, -, hq, -⟩
    refine hahead ?_
    rw [Place.hasAhead, hq.after, decide_eq_true_iff, List.length_take, List.length_append]
    omega

end Repeating

/-! ### Attempts -/

/-- Whether a part is regular. -/
def Node.isRegular : Node → Bool
  | empty | never | char _ | anchor _ => true
  | seq first second | alt first second => first.isRegular && second.isRegular
  | group _ body | scope body => body.isRegular
  | times _ _ .greedy body => body.unit?.isSome
  | _ => false

/-- Whether a task belongs to a regular part. -/
def Task.isRegular : Task → Bool
  | run node => node.isRegular
  | close _ | onward => true
  | endRound => false

/-- A bound of the steps that a task can take in a text of the given length. -/
def Task.steps (length : Nat) : Task → Nat
  | run node => node.steps length
  | close _ | onward | endRound => 1

theorem Node.steps_pos (node : Node) (length : Nat) : 0 < node.steps length := by
  cases node <;> simp only [steps] <;> omega

/-- The step that an attempt makes with a regular part, given that all shorter attempts are
right. -/
theorem attempt_run_iff {length fuel : Nat}
    (ih : ∀ {tasks : List Task}, (∀ task ∈ tasks, task.isRegular = true) →
      (tasks.map (Task.steps length)).sum < fuel → ∀ p scan,
        ((attempt fuel [] tasks p scan).1 = true ↔ Feasible tasks p))
    {node : Node} {rest : List Task} (hnode : node.isRegular = true)
    (hrest : ∀ task ∈ rest, task.isRegular = true)
    (hfuel : node.steps length + (rest.map (Task.steps length)).sum < fuel + 1) (p : Place)
    (scan : Scan) :
    (attempt (fuel + 1) [] (.run node :: rest) p scan).1 = true ↔
      Feasible (.run node :: rest) p := by
  have hpos := node.steps_pos length
  have hresume : ∀ q next, (attempt fuel [] rest q next).1 = true ↔ Feasible rest q :=
    ih hrest (by omega)
  cases node with
  | empty =>
    rw [attempt, hresume]
    simp [Feasible, Node.leads_empty_iff]
  | never => simp [attempt, Feasible, Node.not_leads_never]
  | char test =>
    simp only [Feasible, Node.leads_char_iff]
    rw [attempt]
    split
    · next c q hstep =>
      have hreads := Place.step?_eq_some_iff.mp hstep
      split
      · next haccepts =>
        rw [hresume]
        constructor
        · intro hfeasible
          exact ⟨q, ⟨c, haccepts, hreads⟩, hfeasible⟩
        · rintro ⟨r, ⟨d, -, hr⟩, hfeasible⟩
          obtain rfl : c = d := (List.cons.inj (hreads.after.symm.trans hr.after)).1
          exact hreads.unique hr ▸ hfeasible
      · next hrejects =>
        refine iff_of_false Bool.false_ne_true ?_
        rintro ⟨r, ⟨d, haccepts, hr⟩, -⟩
        obtain rfl : c = d := (List.cons.inj (hreads.after.symm.trans hr.after)).1
        exact hrejects haccepts
    · next hstep =>
      refine iff_of_false Bool.false_ne_true ?_
      rintro ⟨r, ⟨d, -, hr⟩, -⟩
      rw [Place.step?_eq_some_iff.mpr hr] at hstep
      contradiction
  | anchor place =>
    simp only [Feasible, Node.leads_anchor_iff]
    rw [attempt]
    split
    · next hholds =>
      rw [hresume]
      simp [hholds]
    · next hfails => simp [hfails]
  | seq first second =>
    obtain ⟨hfirst, hsecond⟩ : first.isRegular = true ∧ second.isRegular = true := by
      simpa [Node.isRegular] using hnode
    rw [Node.steps] at hfuel
    rw [attempt, ih (by simpa [Task.isRegular, hfirst, hsecond] using hrest)
      (by simp only [List.map_cons, List.sum_cons, Task.steps]; omega)]
    simp only [Feasible, Node.leads_seq_iff]
    tauto
  | alt first second =>
    obtain ⟨hfirst, hsecond⟩ : first.isRegular = true ∧ second.isRegular = true := by
      simpa [Node.isRegular] using hnode
    rw [Node.steps] at hfuel
    have hleft : ∀ next, (attempt fuel [] (.run first :: .onward :: rest) p next).1 = true ↔
        ∃ q, first.Leads p q ∧ Feasible rest q :=
      ih (by simpa [Task.isRegular, hfirst] using hrest)
        (by simp only [List.map_cons, List.sum_cons, Task.steps]; omega) p
    have hright : ∀ next, (attempt fuel [] (.run second :: rest) p next).1 = true ↔
        ∃ q, second.Leads p q ∧ Feasible rest q :=
      ih (by simpa [Task.isRegular, hsecond] using hrest)
        (by simp only [List.map_cons, List.sum_cons, Task.steps]; omega) p
    simp only [Feasible, Node.leads_alt_iff, or_and_right, exists_or]
    rw [attempt]
    split
    · next hbarred =>
      rw [hright]
      refine (or_iff_right ?_).symm
      rintro ⟨q, hleads, -⟩
      exact not_leads_of_isBarred hbarred hleads
    · rw [← hleft (scan.moved p)]
      split
      · next next heq => simp [heq]
      · next next heq =>
        rw [heq, hright]
        simp
  | group index body =>
    rw [Node.steps] at hfuel
    rw [attempt, ih (by simpa [Task.isRegular] using ⟨hnode, hrest⟩)
      (by simp only [List.map_cons, List.sum_cons, Task.steps]; omega)]
    simp only [Feasible, Node.leads_group_iff]
  | scope body =>
    rw [Node.steps] at hfuel
    rw [attempt, ih (by simpa [Task.isRegular] using ⟨hnode, hrest⟩)
      (by simp only [List.map_cons, List.sum_cons, Task.steps]; omega)]
    simp only [Feasible, Node.leads_scope_iff]
  | times low high greed body =>
    cases greed with
    | greedy =>
      obtain ⟨test, hunit⟩ := Option.isSome_iff_exists.mp hnode
      rw [attempt.eq_def]
      simp only [hunit]
      rw [repeatChar_iff hresume fun q => not_feasible_of_isHopeless]
      simp only [Feasible, Node.leads_times_iff hunit]
      constructor
      · rintro ⟨chars, q, hlow, hrun, hreads, hfeasible⟩
        exact ⟨q, ⟨chars, hlow, hrun, hreads⟩, hfeasible⟩
      · rintro ⟨q, ⟨chars, hlow, hrun, hreads⟩, hfeasible⟩
        exact ⟨chars, q, hlow, hrun, hreads, hfeasible⟩
    | _ => simp [Node.isRegular] at hnode
  | _ => simp [Node.isRegular] at hnode

/-- **An attempt succeeds exactly if its tasks can be done,** if they are regular and the bound on
the steps is large enough. The induction is on this bound. -/
theorem attempt_iff {length fuel : Nat} {tasks : List Task}
    (hregular : ∀ task ∈ tasks, task.isRegular = true)
    (hfuel : (tasks.map (Task.steps length)).sum < fuel) (p : Place) (scan : Scan) :
    (attempt fuel [] tasks p scan).1 = true ↔ Feasible tasks p := by
  induction fuel generalizing tasks p scan with
  | zero => omega
  | succ fuel ih =>
    cases tasks with
    | nil => simp [attempt, Feasible]
    | cons task rest =>
      obtain ⟨htask, hrest⟩ := List.forall_mem_cons.mp hregular
      rw [List.map_cons, List.sum_cons] at hfuel
      cases task with
      | onward => exact ih hrest (by rw [Task.steps] at hfuel; omega) p scan
      | close index => exact ih hrest (by rw [Task.steps] at hfuel; omega) p _
      | endRound => simp [Task.isRegular] at htask
      | run node => exact attempt_run_iff ih htask hrest hfuel p scan

/-- A tree is matched at a place exactly if it leads on from there. -/
theorem Node.attemptAt_iff {node : Node} (hregular : node.isRegular = true) (length : Nat)
    (p : Place) : (node.attemptAt length p).1 = true ↔ ∃ q, node.Leads p q := by
  have hfuel : (([.run node] : List Task).map (Task.steps length)).sum <
      node.steps length + 1 := by
    simp [Task.steps]
  rw [attemptAt, attempt_iff (by simpa [Task.isRegular] using hregular) hfuel]
  simp only [Feasible, and_true]

/-! ### Searches -/

variable {pattern : Pattern}

/-- A match is found exactly if there is one at a place that is tried. -/
theorem firstMatch?_isSome_iff (hregular : pattern.node.isRegular = true)
    (hfirst : pattern.firstTest? = none) {length left : Nat} {p : Place} :
    (pattern.firstMatch? length left p).isSome = true ↔
      ∃ chars q r, chars.length ≤ left ∧ p.Reads chars q ∧ pattern.node.Leads q r := by
  have hhere : ∀ q, (firstMatch?.here? pattern length q).isSome = true ↔
      ∃ r, pattern.node.Leads q r := by
    intro q
    rw [← Node.attemptAt_iff hregular length q, firstMatch?.here?, mayStart, hfirst]
    simp only [Option.all_none, if_true]
    split
    · next heq => simp [heq]
    · next heq => simp [heq]
  induction left generalizing p with
  | zero =>
    rw [firstMatch?, hhere]
    constructor
    · rintro ⟨r, hleads⟩
      exact ⟨[], p, r, Nat.le_refl _, Place.reads_nil_iff.mpr rfl, hleads⟩
    · rintro ⟨chars, q, r, hlength, hreads, hleads⟩
      obtain rfl := List.length_eq_zero_iff.mp (Nat.le_zero.mp hlength)
      exact ⟨r, Place.reads_nil_iff.mp hreads ▸ hleads⟩
  | succ left ih =>
    rw [firstMatch?]
    cases hfound : firstMatch?.here? pattern length p with
    | some scan =>
      obtain ⟨r, hleads⟩ := (hhere p).mp (by rw [hfound]; rfl)
      exact iff_of_true rfl
        ⟨[], p, r, Nat.zero_le _, Place.reads_nil_iff.mpr rfl, hleads⟩
    | none =>
      have hnone : ∀ r, ¬ pattern.node.Leads p r := by
        intro r hleads
        have hsome := (hhere p).mpr ⟨r, hleads⟩
        simp [hfound] at hsome
      cases hstep : p.step? with
      | none =>
        refine iff_of_false Bool.false_ne_true ?_
        rintro ⟨chars, q, r, -, hreads, hleads⟩
        cases chars with
        | nil => exact hnone r (Place.reads_nil_iff.mp hreads ▸ hleads)
        | cons c chars =>
          obtain ⟨t, ht, -⟩ :=
            Place.reads_append_iff.mp (show p.Reads ([c] ++ chars) q from hreads)
          rw [Place.step?_eq_some_iff.mpr ht] at hstep
          contradiction
      | some step =>
        obtain ⟨c, t⟩ := step
        have ht := Place.step?_eq_some_iff.mp hstep
        refine ih.trans ?_
        constructor
        · rintro ⟨chars, q, r, hlength, hreads, hleads⟩
          refine ⟨c :: chars, q, r, ?_, Place.reads_append_iff.mpr ⟨t, ht, hreads⟩, hleads⟩
          rw [List.length_cons]
          omega
        · rintro ⟨chars, q, r, hlength, hreads, hleads⟩
          cases chars with
          | nil => exact absurd (Place.reads_nil_iff.mp hreads ▸ hleads) (hnone r)
          | cons d chars =>
            obtain ⟨u, hu, hrest⟩ :=
              Place.reads_append_iff.mp (show p.Reads ([d] ++ chars) q from hreads)
            obtain rfl : c = d := (List.cons.inj (ht.after.symm.trans hu.after)).1
            obtain rfl := ht.unique hu
            rw [List.length_cons] at hlength
            exact ⟨chars, q, r, by omega, hrest, hleads⟩

/-- **A search finds exactly what the tree of the pattern leads through,** from any place of the
text. The least length must be one, and there must be no test that skips places. -/
theorem search_iff (hregular : pattern.node.isRegular = true)
    (hfirst : pattern.firstTest? = none) (hleast : ∀ n ∈ pattern.node.shortest?, pattern.least ≤ n)
    {text : List Char} {found : Bool} (h : pattern.search text = .ok found) :
    found = true ↔
      ∃ front rest q, text = front ++ rest ∧ pattern.node.Leads (.between front rest) q := by
  have hfits : ∀ front rest q, text = front ++ rest →
      pattern.node.Leads (.between front rest) q → front.length + pattern.least ≤ text.length := by
    rintro front rest q rfl hleads
    obtain ⟨n, chars, hn, hreads, hle⟩ := hleads.exists_reads
    have hrest : rest = chars ++ q.after := hreads.after
    have hle' := hleast n hn
    rw [hrest, List.length_append, List.length_append]
    omega
  rw [search] at h
  split at h
  · next hshort =>
    obtain rfl := Except.ok.inj h
    refine iff_of_false Bool.false_ne_true ?_
    rintro ⟨front, rest, q, htext, hleads⟩
    have := hfits front rest q htext hleads
    omega
  · have hfound : found = true ↔
        (pattern.firstMatch? text.length (pattern.lastStart text.length)
          (.start text)).isSome = true := by
      split at h
      · next scan heq =>
        split at h
        · contradiction
        · simp [← Except.ok.inj h, heq]
      · next heq => simp [← Except.ok.inj h, heq]
    rw [hfound, firstMatch?_isSome_iff hregular hfirst]
    constructor
    · rintro ⟨front, p, q, -, hreads, hleads⟩
      obtain ⟨rest, htext, rfl⟩ := Place.reads_start_iff.mp hreads
      exact ⟨front, rest, q, htext, hleads⟩
    · rintro ⟨front, rest, q, htext, hleads⟩
      have hle := hfits front rest q htext hleads
      refine ⟨front, _, q, ?_, Place.reads_start_iff.mpr ⟨rest, htext, rfl⟩, hleads⟩
      rw [lastStart]
      split <;> omega

end ArgRules.Pattern
