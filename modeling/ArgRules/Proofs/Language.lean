import ArgRules.Pattern.Place
import Mathlib.Tactic.Common

/-!
# What a pattern describes

A pattern describes texts, and to say which, no matcher is needed. `Node.Leads` is a relation
between two places of a text: a part leads from the one to the other. It has one rule for each way
to go, and a choice between two ways is simply two rules.

## Scope

Parts that look around or back at what was remembered, and parts that are not reconsidered, have no
rules here, and so they lead nowhere. The order in which ways are tried does not occur either; it
decides which way is found, but not whether there is one.

## Main definitions

* `Place.Reads` — the characters between two places
* `IsRun` — characters that a test accepts, within a limit
* `Node.Leads` — what a part describes
* `Node.shortest?` — how many characters that takes at least

## Main results

* `Node.leads_times_iff` — a repetition of one character describes the runs of such characters
* `Node.Leads.exists_reads` — where a part leads to, enough characters have been read
* `Node.sees_of_lead` — what a part starts with is what comes next
-/

namespace ArgRules.Pattern

/-! ### Reading characters -/

namespace Place

/-- The characters between a place and a later one of the same text. -/
structure Reads (p : Place) (chars : List Char) (q : Place) : Prop where
  after : p.after = chars ++ q.after
  before : q.before = chars.reverse ++ p.before
  position : q.position = p.position + chars.length

variable {p q r : Place} {chars more : List Char} {c : Char}

theorem reads_nil_iff : p.Reads [] q ↔ q = p := by
  constructor
  · rintro ⟨hafter, hbefore, hposition⟩
    obtain ⟨before, after, position⟩ := p
    obtain ⟨before', after', position'⟩ := q
    simp_all
  · rintro rfl
    exact ⟨rfl, rfl, rfl⟩

/-- Nothing else is behind the same characters. -/
theorem Reads.unique (h : p.Reads chars q) (h' : p.Reads chars r) : q = r := by
  obtain ⟨before, after, position⟩ := q
  obtain ⟨before', after', position'⟩ := r
  have hafter : after = after' := List.append_cancel_left (h.after.symm.trans h'.after)
  have hbefore : before = before' := h.before.trans h'.before.symm
  have hposition : position = position' := h.position.trans h'.position.symm
  rw [hafter, hbefore, hposition]

/-- What begins the rest of a text can be read. -/
theorem exists_reads {rest : List Char} (h : p.after = chars ++ rest) :
    ∃ q, p.Reads chars q ∧ q.after = rest :=
  ⟨⟨chars.reverse ++ p.before, rest, p.position + chars.length⟩, ⟨h, rfl, rfl⟩, rfl⟩

theorem reads_append_iff :
    p.Reads (chars ++ more) r ↔ ∃ q, p.Reads chars q ∧ q.Reads more r := by
  constructor
  · intro h
    obtain ⟨q, hq, hafter⟩ := exists_reads (h.after.trans (List.append_assoc ..))
    refine ⟨q, hq, hafter, ?_, ?_⟩
    · rw [h.before, hq.before, List.reverse_append, List.append_assoc]
    · rw [h.position, hq.position, List.length_append, Nat.add_assoc]
  · rintro ⟨q, hq, hr⟩
    refine ⟨?_, ?_, ?_⟩
    · rw [hq.after, hr.after, List.append_assoc]
    · rw [hr.before, hq.before, List.reverse_append, List.append_assoc]
    · rw [hr.position, hq.position, List.length_append, Nat.add_assoc]

theorem step?_eq_some_iff : p.step? = some (c, q) ↔ p.Reads [c] q := by
  obtain ⟨before, after, position⟩ := p
  obtain ⟨before', after', position'⟩ := q
  cases after with
  | nil =>
    simp only [step?, reduceCtorEq, false_iff]
    rintro ⟨hafter, -, -⟩
    simp at hafter
  | cons d rest =>
    simp only [step?, Option.some.injEq, Prod.mk.injEq, Place.mk.injEq]
    constructor
    · rintro ⟨rfl, rfl, rfl, rfl⟩
      exact ⟨rfl, rfl, rfl⟩
    · rintro ⟨hafter, hbefore, hposition⟩
      simp_all

theorem back?_of_reads (h : p.Reads [c] q) : q.back? 1 = some p := by
  obtain ⟨before, after, position⟩ := p
  obtain ⟨before', after', position'⟩ := q
  obtain ⟨hafter, hbefore, hposition⟩ := h
  simp_all [back?]

theorem sees_of_reads {accepts : Char → Bool} (h : p.Reads (c :: chars) q)
    (hc : accepts c = true) : p.sees accepts = true := by
  rw [sees, h.after, List.cons_append, List.head?_cons, Option.any_some]
  exact hc

/-- The place between two parts of a text. -/
def between (front rest : List Char) : Place := ⟨front.reverse, rest, front.length⟩

theorem reads_start_iff {text : List Char} :
    (start text).Reads chars q ↔ ∃ rest, text = chars ++ rest ∧ q = between chars rest := by
  constructor
  · rintro ⟨hafter, hbefore, hposition⟩
    obtain ⟨before, after, position⟩ := q
    simp_all [start, between]
  · rintro ⟨rest, rfl, rfl⟩
    exact ⟨rfl, by simp [start, between], by simp [start, between]⟩

end Place

/-! ### What parts match -/

/-- A part leads from one place of a text to another. -/
inductive Node.Leads : Node → Place → Place → Prop
  | empty {p : Place} : Leads .empty p p
  | char {test : CharTest} {c : Char} {p q : Place} (reads : p.Reads [c] q)
      (accepts : test.accepts c = true) : Leads (.char test) p q
  | anchor {place : Anchor} {p : Place} (holds : place.holds p = true) : Leads (.anchor place) p p
  | seq {first second : Node} {p q r : Place} (head : Leads first p q) (tail : Leads second q r) :
      Leads (.seq first second) p r
  | left {first second : Node} {p q : Place} (way : Leads first p q) :
      Leads (.alt first second) p q
  | right {first second : Node} {p q : Place} (way : Leads second p q) :
      Leads (.alt first second) p q
  | group {index : Nat} {body : Node} {p q : Place} (way : Leads body p q) :
      Leads (.group index body) p q
  | scope {body : Node} {p q : Place} (way : Leads body p q) : Leads (.scope body) p q
  /-- No further round is required. -/
  | stop {high : Option Nat} {greed : Greed} {body : Node} {p : Place} :
      Leads (.times 0 high greed body) p p
  /-- One more round, which is within the limit. -/
  | round {low : Nat} {high : Option Nat} {greed : Greed} {body : Node} {p q r : Place}
      (more : high ≠ some 0) (way : Leads body p q)
      (later : Leads (.times (low - 1) (high.map (· - 1)) greed body) q r) :
      Leads (.times low high greed body) p r

/-- Characters that a test accepts, no more than a limit allows. -/
structure IsRun (accepts : Char → Bool) (limit : Option Nat) (chars : List Char) : Prop where
  accepted : ∀ c ∈ chars, accepts c = true
  within : ∀ n ∈ limit, chars.length ≤ n

section Runs

variable {accepts : Char → Bool} {limit : Option Nat} {chars more : List Char} {c : Char}

theorem isRun_nil : IsRun accepts limit [] := ⟨by simp, by simp⟩

theorem isRun_cons_iff :
    IsRun accepts limit (c :: chars) ↔
      limit ≠ some 0 ∧ accepts c = true ∧ IsRun accepts (limit.map (· - 1)) chars := by
  constructor
  · rintro ⟨haccepted, hwithin⟩
    refine ⟨?_, haccepted c List.mem_cons_self, ⟨?_, ?_⟩⟩
    · rintro rfl
      simpa using hwithin 0 rfl
    · exact fun d hd => haccepted d (List.mem_cons_of_mem _ hd)
    · rintro n hn
      obtain ⟨m, rfl, rfl⟩ := Option.map_eq_some_iff.mp hn
      have hle := hwithin m rfl
      rw [List.length_cons] at hle
      omega
  · rintro ⟨hmore, hc, haccepted, hwithin⟩
    refine ⟨?_, ?_⟩
    · rintro d hd
      rcases List.mem_cons.mp hd with rfl | hd
      · exact hc
      · exact haccepted d hd
    · rintro n rfl
      have hle := hwithin (n - 1) rfl
      have hne : n ≠ 0 := fun h => hmore (by rw [h])
      rw [List.length_cons]
      omega

theorem IsRun.of_prefix (h : IsRun accepts limit more) (hle : chars <+: more) :
    IsRun accepts limit chars :=
  ⟨fun c hc => h.accepted c (hle.subset hc), fun n hn => Nat.le_trans hle.length_le (h.within n hn)⟩

end Runs

namespace Node

variable {p q r : Place}

theorem leads_empty_iff : empty.Leads p q ↔ q = p := by
  constructor
  · rintro ⟨⟩
    rfl
  · rintro rfl
    exact .empty

theorem leads_char_iff {test : CharTest} :
    (char test).Leads p q ↔ ∃ c, test.accepts c = true ∧ p.Reads [c] q := by
  constructor
  · rintro ⟨⟩
    exact ⟨_, ‹_›, ‹_›⟩
  · rintro ⟨c, haccepts, hreads⟩
    exact .char hreads haccepts

theorem leads_anchor_iff {place : Anchor} :
    (anchor place).Leads p q ↔ place.holds p = true ∧ q = p := by
  constructor
  · rintro ⟨⟩
    exact ⟨‹_›, rfl⟩
  · rintro ⟨hholds, rfl⟩
    exact .anchor hholds

theorem leads_seq_iff {first second : Node} :
    (seq first second).Leads p r ↔ ∃ q, first.Leads p q ∧ second.Leads q r := by
  constructor
  · rintro ⟨⟩
    exact ⟨_, ‹_›, ‹_›⟩
  · rintro ⟨q, hfirst, hsecond⟩
    exact .seq hfirst hsecond

theorem leads_alt_iff {first second : Node} :
    (alt first second).Leads p q ↔ first.Leads p q ∨ second.Leads p q := by
  constructor
  · rintro (_ | _)
    · exact Or.inl ‹_›
    · exact Or.inr ‹_›
  · rintro (hfirst | hsecond)
    · exact .left hfirst
    · exact .right hsecond

theorem leads_group_iff {index : Nat} {body : Node} :
    (group index body).Leads p q ↔ body.Leads p q := by
  constructor
  · rintro ⟨⟩
    assumption
  · exact .group

theorem leads_scope_iff {body : Node} : (scope body).Leads p q ↔ body.Leads p q := by
  constructor
  · rintro ⟨⟩
    assumption
  · exact .scope

theorem not_leads_never : ¬ never.Leads p q := nofun

/-- A part that consists of a test matches what the test does. -/
theorem leads_unit_iff {body : Node} {test : CharTest} (h : body.unit? = some test) :
    body.Leads p q ↔ ∃ c, test.accepts c = true ∧ p.Reads [c] q := by
  induction body with
  | char test' =>
    obtain rfl := Option.some.inj h
    exact leads_char_iff
  | scope body ih => exact leads_scope_iff.trans (ih h)
  | _ => simp [unit?] at h

/-- **A repetition of one character** matches the runs of the characters that its test accepts. -/
theorem leads_times_iff {body : Node} {test : CharTest} (h : body.unit? = some test) {low : Nat}
    {high : Option Nat} {greed : Greed} :
    (times low high greed body).Leads p q ↔
      ∃ chars, low ≤ chars.length ∧ IsRun test.accepts high chars ∧ p.Reads chars q := by
  constructor
  · intro hleads
    generalize hnode : times low high greed body = node at hleads
    induction hleads generalizing low high with
    | stop =>
      cases hnode
      exact ⟨[], Nat.le_refl _, isRun_nil, Place.reads_nil_iff.mpr rfl⟩
    | round hmore hround _ _ ih =>
      cases hnode
      obtain ⟨c, hc, hreads⟩ := (leads_unit_iff h).mp hround
      obtain ⟨chars, hlow, hrun, hrest⟩ := ih rfl
      refine ⟨c :: chars, ?_, isRun_cons_iff.mpr ⟨hmore, hc, hrun⟩, ?_⟩
      · rw [List.length_cons]
        omega
      · exact Place.reads_append_iff.mpr ⟨_, hreads, hrest⟩
    | _ => cases hnode
  · rintro ⟨chars, hlow, hrun, hreads⟩
    induction chars generalizing low high p with
    | nil =>
      obtain rfl := Place.reads_nil_iff.mp hreads
      obtain rfl := Nat.le_zero.mp hlow
      exact .stop
    | cons c chars ih =>
      obtain ⟨hmore, hc, hrun⟩ := isRun_cons_iff.mp hrun
      obtain ⟨r, hr, hrest⟩ := Place.reads_append_iff.mp (show p.Reads ([c] ++ chars) q from hreads)
      rw [List.length_cons] at hlow
      exact .round hmore ((leads_unit_iff h).mpr ⟨c, hc, hr⟩) (ih (by omega) hrun hrest)

/-! ### How much a part reads -/

/-- The least number of characters that a part matches; none if it matches nothing at all. -/
def shortest? : Node → Option Nat
  | never => none
  | char _ => some 1
  | seq first second => do return (← first.shortest?) + (← second.shortest?)
  | alt first second =>
    match first.shortest?, second.shortest? with
    | some n, some m => some (min n m)
    | n?, m? => n? <|> m?
  | group _ body | scope body => body.shortest?
  | _ => some 0

/-- Between the places that a part leads from and to there are enough characters. -/
theorem Leads.exists_reads {node : Node} {p q : Place} (h : node.Leads p q) :
    ∃ n chars, node.shortest? = some n ∧ p.Reads chars q ∧ n ≤ chars.length := by
  induction h with
  | empty => exact ⟨0, [], rfl, Place.reads_nil_iff.mpr rfl, Nat.le_refl _⟩
  | char hreads _ => exact ⟨1, _, rfl, hreads, Nat.le_refl _⟩
  | anchor _ => exact ⟨0, [], rfl, Place.reads_nil_iff.mpr rfl, Nat.le_refl _⟩
  | seq _ _ ihFirst ihSecond =>
    obtain ⟨n, chars, hn, hreads, hle⟩ := ihFirst
    obtain ⟨m, more, hm, hmore, hle'⟩ := ihSecond
    refine ⟨n + m, chars ++ more, by simp [shortest?, hn, hm],
      Place.reads_append_iff.mpr ⟨_, hreads, hmore⟩, ?_⟩
    rw [List.length_append]
    omega
  | @left first second _ _ _ ih =>
    obtain ⟨n, chars, hn, hreads, hle⟩ := ih
    cases hm : second.shortest? with
    | none => exact ⟨n, chars, by simp [shortest?, hn, hm], hreads, hle⟩
    | some m => exact ⟨min n m, chars, by simp [shortest?, hn, hm], hreads, by omega⟩
  | @right first second _ _ _ ih =>
    obtain ⟨m, chars, hm, hreads, hle⟩ := ih
    cases hn : first.shortest? with
    | none => exact ⟨m, chars, by simp [shortest?, hn, hm], hreads, hle⟩
    | some n => exact ⟨min n m, chars, by simp [shortest?, hn, hm], hreads, by omega⟩
  | group _ ih => exact ih
  | scope _ ih => exact ih
  | stop => exact ⟨0, [], rfl, Place.reads_nil_iff.mpr rfl, Nat.le_refl _⟩
  | round _ _ _ ihBody ihLater =>
    obtain ⟨_, chars, -, hreads, -⟩ := ihBody
    obtain ⟨_, more, -, hmore, -⟩ := ihLater
    exact ⟨0, chars ++ more, rfl, Place.reads_append_iff.mpr ⟨_, hreads, hmore⟩, Nat.zero_le _⟩

/-! ### What a part starts with -/

/-- A part in which there is nothing leads nowhere else. -/
theorem eq_of_lead_nothing {node : Node} (h : node.lead = .nothing) (hleads : node.Leads p q) :
    q = p := by
  induction node generalizing p q with
  | empty => exact leads_empty_iff.mp hleads
  | seq first second ihFirst ihSecond =>
    obtain ⟨r, hfirst, hsecond⟩ := leads_seq_iff.mp hleads
    rw [lead] at h
    split at h
    · next hnothing =>
      obtain rfl := ihFirst hnothing hfirst
      exact ihSecond h hsecond
    · next found hfound => exact absurd h hfound
  | scope body ih => exact ih h (leads_scope_iff.mp hleads)
  | _ => simp [lead] at h

/-- A part that starts with a test leads on only if the next character passes it. -/
theorem sees_of_lead {node : Node} {test : CharTest} (h : node.lead = .char test)
    (hleads : node.Leads p q) : p.sees test.accepts = true := by
  induction node generalizing p q with
  | char test' =>
    obtain rfl : test' = test := by simpa [lead] using h
    obtain ⟨c, hc, hreads⟩ := leads_char_iff.mp hleads
    exact Place.sees_of_reads hreads hc
  | seq first second ihFirst ihSecond =>
    obtain ⟨r, hfirst, hsecond⟩ := leads_seq_iff.mp hleads
    rw [lead] at h
    split at h
    · next hnothing =>
      obtain rfl := eq_of_lead_nothing hnothing hfirst
      exact ihSecond h hsecond
    · exact ihFirst h hfirst
  | scope body ih => exact ih h (leads_scope_iff.mp hleads)
  | _ => simp [lead] at h

end Node

end ArgRules.Pattern
