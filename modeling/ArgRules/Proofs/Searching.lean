import ArgRules.Naming
import Mathlib.Tactic.Common

/-!
# Searches that have an answer

A search has no answer if it succeeds with a remembered text that ends before it starts. That takes
a text that is remembered more than once. Here it is shown that a pattern that remembers at most one
text, and that one once, can be searched for in every text. The naming conventions are such
patterns, so every name can be compared with every one of them.

## The invariant

An attempt works off a list of tasks. `Stage` says how far the one remembered text has come: it is
still to be opened by one of the tasks, or it is open, not behind the current place, and still to be
closed by one of them, or it is not touched any more. Places only move forward, and a failed way
leaves behind the marks that were there and perhaps some more. That is what the induction in
`attempt_extends` carries along; a choice forgets the additional marks before it tries its next way.

## Main definitions

* `Pattern.Node.isPlain`, `Pattern.Node.remembersOnce` — the parts that are considered
* `Pattern.Marks.Sound` — nothing is remembered, or one text
* `Pattern.Stage` — how far the remembered text has come
* `Pattern.Searchable` — a pattern of text that can be searched for in every text

## Main results

* `Pattern.attempt_extends` — an attempt adds marks to sound ones, and they are sound
* `Pattern.searchable_of_remembersOnce` — patterns that can be searched for
* `Conventions.default_answers` — every name can be compared with the naming conventions
-/

namespace ArgRules

namespace Pattern

/-! ### The parts that are considered -/

/-- Whether a part remembers nothing and goes forward only. -/
def Node.isPlain : Node → Bool
  | empty | never | char _ | anchor _ => true
  | seq first second | alt first second => first.isPlain && second.isPlain
  | times _ _ .greedy body => body.unit?.isSome
  | _ => false

/-- Whether a part remembers at most one text, and that one once. -/
def Node.remembersOnce : Node → Bool
  | group index body => index = 1 && body.isPlain
  | seq first second =>
    first.isPlain && second.remembersOnce || first.remembersOnce && second.isPlain
  | node => node.isPlain

/-- Whether a task remembers nothing and goes forward only. -/
def Task.isPlain : Task → Bool
  | run node => node.isPlain
  | onward => true
  | _ => false

/-! ### Marks -/

/-- Nothing is remembered, or the start of one text, or one text that does not end before it
starts. -/
inductive Marks.Sound : Marks → Prop
  | nothing : Sound []
  | opened (p : Place) : Sound [some p]
  | closed {p q : Place} (h : p.position ≤ q.position) : Sound [some p, some q]

/-- Marks were added to others, and they are sound. -/
def Marks.Extends (before after : Marks) : Prop := Sound after ∧ before <+: after

theorem Marks.Sound.extends_self {marks : Marks} (h : Sound marks) : marks.Extends marks :=
  ⟨h, List.prefix_rfl⟩

theorem Marks.Extends.trans {first second third : Marks} (h : first.Extends second)
    (h' : second.Extends third) : first.Extends third :=
  ⟨h'.1, h.2.trans h'.2⟩

/-- No sound marks are those of a text that ends before it starts. -/
theorem Scan.not_hasCrossedGroup {scan : Scan} (h : Marks.Sound scan.marks) :
    scan.hasCrossedGroup = false := by
  obtain ⟨place, marks⟩ := scan
  cases h with
  | nothing => simp [hasCrossedGroup]
  | opened p => simp [hasCrossedGroup]
  | closed hle => simpa [hasCrossedGroup, edges?, List.range_succ] using hle

/-- Outside of repetitions, going back forgets the marks that were added. -/
theorem Scan.restore_marks {scan : Scan} {marks : Marks} (h : marks.Extends scan.marks) :
    (scan.restore marks false).marks = marks :=
  (List.prefix_iff_eq_take.mp h.2).symm

theorem Scan.marks_mark_opening (scan : Scan) (p : Place) (h : scan.marks = []) :
    (scan.mark (2 * 1 - 2) p).marks = [some p] := by
  simp [mark, h]

theorem Scan.marks_mark_closing (scan : Scan) (p : Place) {q : Place} (h : scan.marks = [some q]) :
    (scan.mark (2 * 1 - 1) p).marks = [some q, some p] := by
  simp [mark, h]

@[simp] theorem Scan.moved_marks (scan : Scan) (p : Place) : (scan.moved p).marks = scan.marks :=
  rfl

/-! ### Places -/

theorem Place.position_of_step? {p q : Place} {c : Char} (h : p.step? = some (c, q)) :
    q.position = p.position + 1 := by
  rw [step?] at h
  split at h
  · simp at h
  · rw [← (Prod.mk.inj (Option.some.inj h)).2]

theorem Place.position_of_back? {p q : Place} (h : p.back? 1 = some q) :
    q.position = p.position - 1 := by
  rw [back?] at h
  split at h
  · simp at h
  · rw [← Option.some.inj h]

theorem Place.le_position_pastRun (accepts : Char → Bool) (limit : Option Nat)
    (before after : List Char) (position : Nat) :
    position ≤ (pastRun accepts limit before after position).position := by
  induction after generalizing limit before position with
  | nil => exact Nat.le_refl _
  | cons c rest ih =>
    rw [pastRun]
    split
    · exact Nat.le_of_succ_le (ih ..)
    · exact Nat.le_refl _

/-- A run that is taken goes forward, and by at least as much as is required. -/
theorem takeRun?_spec (test : CharTest) (low : Nat) (limit : Option Nat) (p : Place)
    (scan : Scan) : (takeRun? test low limit p scan).2.marks = scan.marks ∧
      ∀ q ∈ (takeRun? test low limit p scan).1, p.position + low ≤ q.position := by
  rw [takeRun?]
  split
  · exact ⟨rfl, by simp⟩
  · refine ⟨rfl, fun q hq => ?_⟩
    have hle := Place.le_position_pastRun test.accepts limit p.before p.after p.position
    simp only [Option.mem_def, Option.ite_none_left_eq_some, Option.some.injEq] at hq
    obtain ⟨hlow, rfl⟩ := hq
    omega

/-! ### The stages -/

/-- How far the one remembered text has come when tasks are left at a place. -/
inductive Stage : List Task → Place → Marks → Prop
  /-- It is not touched any more. -/
  | past {tasks : List Task} {p : Place} {marks : Marks} (plain : ∀ task ∈ tasks, task.isPlain)
      (sound : marks.Sound) : Stage tasks p marks
  /-- It is open and will be closed. -/
  | inside (first : List Task) {rest : List Task} {p opening : Place}
      (plain : ∀ task ∈ first, task.isPlain) (le : opening.position ≤ p.position)
      (plainRest : ∀ task ∈ rest, task.isPlain) :
      Stage (first ++ .close 1 :: rest) p [some opening]
  /-- It will be opened. -/
  | ahead (first : List Task) {rest : List Task} {node : Node} {p : Place}
      (plain : ∀ task ∈ first, task.isPlain) (once : node.remembersOnce)
      (plainRest : ∀ task ∈ rest, task.isPlain) : Stage (first ++ .run node :: rest) p []

namespace Stage

variable {task : Task} {tasks : List Task} {p q : Place} {marks : Marks}

theorem sound (h : Stage tasks p marks) : marks.Sound := by
  cases h with
  | past plain sound => exact sound
  | inside first plain le plainRest => exact .opened _
  | ahead first plain once plainRest => exact .nothing

/-- A plain task can be replaced by others, further on in the text. -/
theorem replace (h : Stage (task :: tasks) p marks) (hplain : task.isPlain)
    (others : List Task) (hothers : ∀ other ∈ others, other.isPlain)
    (hle : p.position ≤ q.position) : Stage (others ++ tasks) q marks := by
  generalize hall : task :: tasks = all at h
  cases h with
  | past plain sound =>
    subst hall
    refine .past (fun other hother => ?_) sound
    rcases List.mem_append.mp hother with hmem | hmem
    · exact hothers other hmem
    · exact plain other (List.mem_cons_of_mem _ hmem)
  | @inside first rest _ opening plain le plainRest =>
    cases first with
    | nil =>
      obtain ⟨rfl, -⟩ := List.cons.inj hall
      simp [Task.isPlain] at hplain
    | cons head first =>
      obtain ⟨rfl, rfl⟩ := List.cons.inj hall
      rw [List.append_eq, ← List.append_assoc]
      refine .inside (_ ++ _) (fun other hother => ?_) (Nat.le_trans le hle) plainRest
      rcases List.mem_append.mp hother with hmem | hmem
      · exact hothers other hmem
      · exact plain other (List.mem_cons_of_mem _ hmem)
  | @ahead first rest node _ plain once plainRest =>
    cases first with
    | nil =>
      -- The part that might remember a text turns out to be plain.
      obtain ⟨rfl, rfl⟩ := List.cons.inj hall
      refine .past (fun other hother => ?_) .nothing
      rcases List.mem_append.mp hother with hmem | hmem
      · exact hothers other hmem
      · exact plainRest other hmem
    | cons head first =>
      obtain ⟨rfl, rfl⟩ := List.cons.inj hall
      rw [List.append_eq, ← List.append_assoc]
      refine .ahead (_ ++ _) (fun other hother => ?_) once plainRest
      rcases List.mem_append.mp hother with hmem | hmem
      · exact hothers other hmem
      · exact plain other (List.mem_cons_of_mem _ hmem)

/-- A plain task can be done, further on in the text. -/
theorem next (h : Stage (task :: tasks) p marks) (hplain : task.isPlain)
    (hle : p.position ≤ q.position) : Stage tasks q marks :=
  h.replace hplain [] (by simp) hle

/-- A task that is not plain is the one that closes the text, or the part that opens it. -/
theorem cases_of_not_plain (h : Stage (task :: tasks) p marks) (hplain : task.isPlain = false) :
    (∃ opening, task = .close 1 ∧ marks = [some opening] ∧ opening.position ≤ p.position ∧
        ∀ other ∈ tasks, other.isPlain) ∨
      ∃ node, task = .run node ∧ node.remembersOnce ∧ marks = [] ∧
        ∀ other ∈ tasks, other.isPlain := by
  generalize hall : task :: tasks = all at h
  cases h with
  | past plain sound =>
    subst hall
    rw [plain task (List.mem_cons_self ..)] at hplain
    contradiction
  | @inside first rest _ opening plain le plainRest =>
    cases first with
    | nil =>
      obtain ⟨rfl, rfl⟩ := List.cons.inj hall
      exact Or.inl ⟨opening, rfl, rfl, le, plainRest⟩
    | cons head first =>
      obtain ⟨rfl, rfl⟩ := List.cons.inj hall
      rw [plain task (List.mem_cons_self ..)] at hplain
      contradiction
  | @ahead first rest node _ plain once plainRest =>
    cases first with
    | nil =>
      obtain ⟨rfl, rfl⟩ := List.cons.inj hall
      exact Or.inr ⟨node, rfl, once, rfl, plainRest⟩
    | cons head first =>
      obtain ⟨rfl, rfl⟩ := List.cons.inj hall
      rw [plain task (List.mem_cons_self ..)] at hplain
      contradiction

end Stage

/-! ### Attempts -/

/-- Giving back characters until the rest succeeds keeps sound marks sound, if the rest does at all
places that are tried. -/
theorem giveBack_extends {resume : Place → Scan → Outcome} {hopeless : Place → Bool}
    {marks : Marks} (hsound : marks.Sound) {least : Nat}
    (hresume : ∀ q scan, least ≤ q.position → scan.marks = marks →
      marks.Extends (resume q scan).2.marks) (n : Nat) (q : Place) (scan : Scan)
    (hq : least + n ≤ q.position) (hmarks : scan.marks = marks) :
    marks.Extends (giveBack resume hopeless marks false n q scan).2.marks := by
  induction n generalizing q scan with
  | zero =>
    have htried := hresume q (scan.moved q) hq hmarks
    rw [giveBack]
    cases hopeless q with
    | true => simpa [hmarks] using hsound.extends_self
    | false =>
      cases hfound : (resume q (scan.moved q)).1 with
      | true => simpa [hfound] using htried
      | false => simpa [hfound, Scan.restore_marks htried] using hsound.extends_self
  | succ n ih =>
    have htried := hresume q (scan.moved q) (by omega) hmarks
    have hback {r : Place} (hr : q.back? 1 = some r) {next : Scan} (hnext : next.marks = marks) :
        marks.Extends (giveBack resume hopeless marks false n r next).2.marks := by
      have hposition := Place.position_of_back? hr
      exact ih r next (by omega) hnext
    rw [giveBack]
    cases hopeless q with
    | true =>
      simp only [if_true, Bool.false_eq_true, if_false]
      split
      · next r hr => exact hback hr hmarks
      · exact hmarks ▸ hsound.extends_self
    | false =>
      cases hfound : (resume q (scan.moved q)).1 with
      | true => simpa [hfound] using htried
      | false =>
        simp only [hfound, Bool.false_eq_true, if_false]
        split
        · next r hr => exact hback hr (Scan.restore_marks htried)
        · simpa [Scan.restore_marks htried] using hsound.extends_self

/-- Repeating one character, as often as possible, keeps sound marks sound. -/
theorem repeatChar_extends {resume : Place → Scan → Outcome} {rest : List Task} {test : CharTest}
    {low : Nat} {high : Option Nat} {p : Place} {scan : Scan} (hsound : scan.marks.Sound)
    (hresume : ∀ q next, p.position ≤ q.position → next.marks = scan.marks →
      scan.marks.Extends (resume q next).2.marks) :
    scan.marks.Extends
      (repeatChar resume rest test low high .greedy false p scan).2.marks := by
  obtain ⟨hmarks, hforward⟩ := takeRun?_spec test low high p scan
  rw [repeatChar]
  split
  · next next heq =>
    rw [heq] at hmarks
    exact hmarks ▸ hsound.extends_self
  · next q next heq =>
    rw [heq] at hmarks hforward
    have hq := hforward q rfl
    rw [show next.marks = scan.marks from hmarks]
    exact giveBack_extends hsound hresume _ q next (by omega) hmarks

/-- The step that an attempt makes with the part that opens the text, given that all shorter
attempts behave. -/
theorem attempt_extends_of_remembersOnce {fuel : Nat}
    (ih : ∀ {tasks : List Task} {p : Place} {scan : Scan}, Stage tasks p scan.marks →
      scan.marks.Extends (attempt fuel [] tasks p scan).2.marks)
    {node : Node} {tasks : List Task} {p : Place} {scan : Scan} (honce : node.remembersOnce)
    (hplain : node.isPlain = false) (hmarks : scan.marks = [])
    (hrest : ∀ task ∈ tasks, task.isPlain) :
    scan.marks.Extends (attempt (fuel + 1) [] (.run node :: tasks) p scan).2.marks := by
  cases node with
  | group index body =>
    obtain ⟨rfl, hbody⟩ : index = 1 ∧ body.isPlain = true := by
      simpa [Node.remembersOnce] using honce
    have hmarked := scan.marks_mark_opening p hmarks
    have hadded : scan.marks.Extends (scan.mark (2 * 1 - 2) p).marks := by
      rw [hmarks, hmarked]
      exact ⟨.opened p, List.nil_prefix⟩
    refine hadded.trans (ih ?_)
    rw [hmarked]
    exact .inside [.run body] (by simpa [Task.isPlain] using hbody) (Nat.le_refl _) hrest
  | seq first second =>
    have hstage : Stage (.run first :: .run second :: tasks) p scan.marks := by
      rw [hmarks]
      have heither : first.isPlain = true ∧ second.remembersOnce = true ∨
          first.remembersOnce = true ∧ second.isPlain = true := by
        simpa [Node.remembersOnce] using honce
      rcases heither with ⟨hfirst, honce⟩ | ⟨honce, hsecond⟩
      · exact .ahead [.run first] (by simpa [Task.isPlain] using hfirst) honce hrest
      · refine .ahead [] (by simp) honce fun task htask => ?_
        rcases List.mem_cons.mp htask with rfl | hmem
        · exact hsecond
        · exact hrest task hmem
    exact ih hstage
  | _ => simp_all [Node.remembersOnce]

/-- **An attempt adds marks to sound ones, and they are sound,** outside of repetitions and if the
tasks remember at most one text. The induction is on the number of steps. -/
theorem attempt_extends {fuel : Nat} {tasks : List Task} {p : Place} {scan : Scan}
    (h : Stage tasks p scan.marks) :
    scan.marks.Extends (attempt fuel [] tasks p scan).2.marks := by
  induction fuel generalizing tasks p scan with
  | zero => exact h.sound.extends_self
  | succ fuel ih =>
    have hself : scan.marks.Extends scan.marks := h.sound.extends_self
    cases tasks with
    | nil => exact hself
    | cons task tasks =>
      cases hplain : task.isPlain with
      | false =>
        rcases h.cases_of_not_plain hplain with
          ⟨opening, rfl, hmarks, hle, hrest⟩ | ⟨node, rfl, honce, hmarks, hrest⟩
        · have hmarked := scan.marks_mark_closing p hmarks
          have hadded : scan.marks.Extends (scan.mark (2 * 1 - 1) p).marks := by
            rw [hmarks, hmarked]
            exact ⟨.closed hle, List.prefix_append _ _⟩
          exact hadded.trans (ih (.past hrest hadded.1))
        · exact attempt_extends_of_remembersOnce ih honce hplain hmarks hrest
      | true =>
        cases task with
        | onward => exact ih (h.next hplain (Nat.le_refl _))
        | close index => simp [Task.isPlain] at hplain
        | endRound => simp [Task.isPlain] at hplain
        | run node =>
          cases node with
          | empty => exact ih (h.next hplain (Nat.le_refl _))
          | never => exact hself
          | char test =>
            rw [attempt]
            split
            · next c q hstep =>
              split
              · refine ih (h.next hplain ?_)
                rw [Place.position_of_step? hstep]
                omega
              · exact hself
            · exact hself
          | anchor place =>
            rw [attempt]
            split
            · exact ih (h.next hplain (Nat.le_refl _))
            · exact hself
          | seq first second =>
            refine ih (h.replace hplain [.run first, .run second] ?_ (Nat.le_refl _))
            simpa [Task.isPlain, Node.isPlain] using hplain
          | alt first second =>
            obtain ⟨hfirst, hsecond⟩ : first.isPlain = true ∧ second.isPlain = true := by
              simpa [Task.isPlain, Node.isPlain] using hplain
            have hlater {next : Scan} (hnext : next.marks = scan.marks) :
                scan.marks.Extends (attempt fuel [] (.run second :: tasks) p next).2.marks := by
              have hstage : Stage (.run second :: tasks) p scan.marks :=
                h.replace hplain [.run second] (by simpa [Task.isPlain] using hsecond)
                  (Nat.le_refl _)
              rw [← hnext] at hstage ⊢
              exact ih hstage
            rw [attempt]
            split
            · exact hlater rfl
            · have htried : (scan.moved p).marks.Extends
                  (attempt fuel [] ([.run first, .onward] ++ tasks) p (scan.moved p)).2.marks :=
                ih (h.replace hplain [.run first, .onward]
                  (by simpa [Task.isPlain] using hfirst) (Nat.le_refl _))
              split
              · next next heq =>
                rw [List.cons_append, List.cons_append, List.nil_append, heq] at htried
                exact htried
              · next next heq =>
                rw [List.cons_append, List.cons_append, List.nil_append, heq] at htried
                exact hlater (Scan.restore_marks htried)
          | times low high greed body =>
            cases greed with
            | greedy =>
              cases hunit : body.unit? with
              | none => simp [Task.isPlain, Node.isPlain, hunit] at hplain
              | some test =>
                rw [attempt.eq_def]
                simp only [hunit]
                exact repeatChar_extends hself.1 fun q next hle hnext =>
                  hnext ▸ ih (hnext ▸ h.next hplain hle)
            | _ => simp [Task.isPlain, Node.isPlain] at hplain
          | _ => simp [Task.isPlain, Node.isPlain] at hplain

/-! ### Searches -/

/-- A pattern of text that can be searched for in every text. -/
def Searchable (pattern : Pattern) : Prop :=
  (∃ source, pattern.source = .text source) ∧
    ∀ text, ∃ found, pattern.search text = .ok found

variable {pattern : Pattern} {length : Nat}

theorem not_hasCrossedGroup_of_here? (honce : pattern.node.remembersOnce) {p : Place} {scan : Scan}
    (h : firstMatch?.here? pattern length p = some scan) : scan.hasCrossedGroup = false := by
  have hstage : Stage [.run pattern.node] p [] := .ahead [] (by simp) honce (by simp)
  have hextends := @attempt_extends (pattern.node.steps length + 1) _ _ ⟨p, []⟩ hstage
  rw [firstMatch?.here?] at h
  split at h
  · split at h
    · next found heq =>
      obtain rfl := Option.some.inj h
      rw [Node.attemptAt] at heq
      rw [heq] at hextends
      exact Scan.not_hasCrossedGroup hextends.1
    · simp at h
  · simp at h

theorem not_hasCrossedGroup_of_firstMatch? (honce : pattern.node.remembersOnce) {left : Nat}
    {p : Place} {scan : Scan} (h : pattern.firstMatch? length left p = some scan) :
    scan.hasCrossedGroup = false := by
  induction left generalizing p with
  | zero => exact not_hasCrossedGroup_of_here? honce h
  | succ left ih =>
    rw [firstMatch?] at h
    split at h
    · next hhere =>
      obtain rfl := Option.some.inj h
      exact not_hasCrossedGroup_of_here? honce hhere
    · exact ih h
    · simp at h

/-- **A pattern that remembers at most one text, and that one once, can be searched for.** -/
theorem searchable_of_remembersOnce (honce : pattern.node.remembersOnce)
    (hsource : ∃ source, pattern.source = .text source) : pattern.Searchable := by
  refine ⟨hsource, fun text => ?_⟩
  rw [search]
  split
  · exact ⟨false, rfl⟩
  · split
    · next scan hmatch =>
      rw [not_hasCrossedGroup_of_firstMatch? honce hmatch]
      exact ⟨true, rfl⟩
    · exact ⟨false, rfl⟩

/-- A pattern that can be searched for is searched for by a check. -/
theorem Searchable.searchText (h : pattern.Searchable) (s : String) :
    ∃ found, Check.searchText pattern s = .ok found := by
  obtain ⟨⟨source, hsource⟩, hsearch⟩ := h
  obtain ⟨found, hfound⟩ := hsearch s.toList
  exact ⟨found, by rw [Check.searchText, hsource, Check.search, hfound]; rfl⟩

end Pattern

/-! ### Naming conventions -/

/-- The naming conventions are patterns that can be searched for. -/
theorem Kind.searchable_of_convention? {kind : Kind} {p : Pattern}
    (h : kind.convention? = some p) : p.Searchable := by
  cases kind <;> simp only [convention?, Option.some.injEq, reduceCtorEq] at h <;> subst h <;>
    exact Pattern.searchable_of_remembersOnce (by decide) ⟨_, rfl⟩

namespace Conventions

/-- Every name can be compared with the conventions. -/
def Answer (conventions : Conventions) : Prop :=
  ∀ (kind : Kind) (name : String), ∃ reasons, conventions.reasons kind (.text name) = .ok reasons

/-- Of a name that is a text, the conventions know the text only. -/
theorem reasons_eq_of_asText? (conventions : Conventions) (kind : Kind) {key : Value}
    {name : String} (h : key.asText? = some name) :
    conventions.reasons kind key = conventions.reasons kind (.text name) := by
  rw [reasons, reasons]
  split
  · next convention _ =>
    cases convention with
    | pattern p => rw [Convention.reasons, Convention.reasons, Convention.search, h]; rfl
    | unusable value => rfl
  · rfl

/-- **Every name can be compared with the naming conventions.** -/
theorem default_answers : default.Answer := by
  intro kind name
  rw [reasons, default]
  cases hconvention : kind.convention? with
  | none => exact ⟨[], rfl⟩
  | some p =>
    obtain ⟨found, hfound⟩ := (Kind.searchable_of_convention? hconvention).searchText name
    simp only [Option.map_some, Convention.reasons, Convention.search, Value.asText?, hfound]
    cases found
    · exact ⟨_, rfl⟩
    · exact ⟨[], rfl⟩

end Conventions

end ArgRules
