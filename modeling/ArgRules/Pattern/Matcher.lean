import ArgRules.Pattern.Place

/-!
# Matching

A pattern is matched by backtracking. What remains to be done is a list of tasks, and an attempt
works it off at a place in the text; where there is a choice, the first way that leads through all
tasks is taken. Alternatives are tried from left to right, repetitions as their greed says.

## The remembered-text contract

The edges of the remembered texts are marks, in the order of the pattern. A way that fails leaves its
marks behind: a choice inside a repetition puts all marks back before it goes on, but a choice
outside of any only forgets the marks that were new. A text whose end lies before its start is none.

## The empty-round contract

A repetition makes the rounds that are required in any case. Another round starts only where the
round before did not start, so a round that stays in place is the last one.

## The possessive contract

Each attempt also says which place was looked at last, whether it succeeds or not. A possessive
repetition goes on from there: behind its last round, or, if a further round was tried and failed,
from the place at which that round gave up. The manual of the engine that is modelled speaks of the
end of the last round in both cases; the engine itself does what is said here, and it finds no match
where the manual has one (see the example at `Pattern.search`).

## Main definitions

* `Pattern.Task` — what remains to be done
* `Pattern.Scan` — the marks and the place looked at last
* `Pattern.attempt` — the matcher
* `Pattern.Node.attemptAt` — an attempt to match a tree at a place
-/

namespace ArgRules.Pattern

/-! ### Tasks -/

/-- What remains to be done. -/
inductive Task
  | run (node : Node)
  /-- The text of a group ends here. -/
  | close (index : Nat)
  /-- An alternative ends here. -/
  | onward
  /-- A round of the innermost repetition ends here. -/
  | endRound

/-- A repetition that is under way. -/
structure Loop where
  low : Nat
  high : Option Nat
  isGreedy : Bool
  body : Node
  /-- What is to be done after the repetition. -/
  rest : List Task
  /-- The number of rounds made. -/
  rounds : Nat
  /-- Where the latest round beyond the required ones started. -/
  latest : Option Nat

/-- Whether a repetition may make another round. -/
def Loop.mayGoOn (loop : Loop) : Bool := loop.high.all (loop.rounds < ·)

/-- The repetition with one more round, which starts at a place. -/
def Loop.started (loop : Loop) (latest : Option Nat) : Loop :=
  { loop with rounds := loop.rounds + 1, latest }

/-- What the tasks start with. -/
def leadOf : List Task → Node.Lead
  | [] => .nothing
  | .run node :: rest =>
    match node.lead with
    | .nothing => leadOf rest
    | found => found
  | _ => .other

/-! ### Scans -/

/-- The edges of the remembered texts; of group `n` the start is number `2 * n - 2` and the end is
number `2 * n - 1`. -/
abbrev Marks := List (Option Place)

/-- The state of a scan. -/
structure Scan where
  /-- The place looked at last. -/
  place : Place
  marks : Marks

/-- The outcome of an attempt. -/
abbrev Outcome := Bool × Scan

namespace Scan

/-- The scan that looks at a place. -/
def moved (scan : Scan) (p : Place) : Scan := { scan with place := p }

/-- Sets a mark. The marks before it that were never set are set to nothing. -/
def mark (scan : Scan) (index : Nat) (p : Place) : Scan :=
  let marks := scan.marks
  if index < marks.length then { scan with marks := marks.set index (some p) }
  else { scan with marks := marks ++ List.replicate (index - marks.length) none ++ [some p] }

/-- The edges of the text of a group. -/
def edges? (scan : Scan) (index : Nat) : Option (Place × Place) :=
  match scan.marks[2 * index - 2]?, scan.marks[2 * index - 1]? with
  | some (some opening), some (some closing) => some (opening, closing)
  | _, _ => none

/-- The text of a group. -/
def groupText? (scan : Scan) (index : Nat) : Option (List Char) :=
  match scan.edges? index with
  | some (opening, closing) =>
    if closing.position < opening.position then none else some (opening.textUpTo closing)
  | none => none

/-- Goes back to earlier marks after a way has failed; see the remembered-text contract. -/
def restore (scan : Scan) (marks : Marks) (inLoop : Bool) : Scan :=
  { scan with marks := if inLoop then marks else scan.marks.take marks.length }

/-- Whether the text of some group ends before it starts. -/
def hasCrossedGroup (scan : Scan) : Bool :=
  (List.range (scan.marks.length / 2)).any fun n =>
    (scan.edges? (n + 1)).any fun (opening, closing) => closing.position < opening.position

end Scan

/-! ### Repeating one character -/

/-- Gives back up to `n` characters one by one until the rest succeeds. Places where it cannot are
not tried. -/
def giveBack (resume : Place → Scan → Outcome) (hopeless : Place → Bool) (marks : Marks)
    (inLoop : Bool) : Nat → Place → Scan → Outcome
  | n, p, scan =>
    let (found, next) :=
      if hopeless p then (false, scan)
      else
        let (found, next) := resume p (scan.moved p)
        (found, if found then next else next.restore marks inLoop)
    if found then (true, next)
    else match n with
      | 0 => (false, next)
      | n + 1 =>
        match p.back? 1 with
        | some q => giveBack resume hopeless marks inLoop n q next
        | none => (false, next)

/-- Takes up to `n` more characters one by one until the rest succeeds. -/
def takeMore (resume : Place → Scan → Outcome) (test : CharTest) (marks : Marks)
    (inLoop : Bool) : Nat → Place → Scan → Outcome
  | n, p, scan =>
    let (found, next) := resume p (scan.moved p)
    if found then (true, next)
    else
      let next := (next.restore marks inLoop).moved p
      match p.step? with
      | none => (false, next)
      | some (c, q) =>
        if !test.accepts c then (false, next)
        else
          let next := if test.looksUp then next.moved q else next
          match n with
          | 0 => (false, next)
          | n + 1 => takeMore resume test marks inLoop n q next

/-- Takes as many characters as a test accepts, within the bounds. The place looked at last is the
start of the run, or its end if the characters had to be looked up. -/
def takeRun? (test : CharTest) (low : Nat) (limit : Option Nat) (p : Place) (scan : Scan) :
    Option Place × Scan :=
  if !p.hasAhead low then (none, scan)
  else
    let q := Place.pastRun test.accepts limit p.before p.after p.position
    let next := scan.moved (if test.looksUp then q else p)
    (if q.position - p.position < low then none else some q, next)

/-- Whether tasks start with a character that does not come next. -/
def isHopeless (tasks : List Task) (p : Place) : Bool :=
  match leadOf tasks with
  | .char test => test.isLiteral && !p.sees test.accepts
  | _ => false

/-- Repeats one character and does the remaining tasks, as `resume` does them. -/
def repeatChar (resume : Place → Scan → Outcome) (rest : List Task) (test : CharTest) (low : Nat)
    (high : Option Nat) (greed : Greed) (inLoop : Bool) (p : Place) (scan : Scan) : Outcome :=
  match greed with
  | .greedy =>
    match takeRun? test low high p scan with
    | (none, next) => (false, next)
    | (some q, next) =>
      giveBack resume (isHopeless rest) next.marks inLoop (q.position - p.position - low) q next
  | .reluctant =>
    match takeRun? test low (some low) p scan with
    | (none, next) => (false, next)
    | (some q, next) =>
      let more := (high.map (· - low)).getD q.after.length
      takeMore resume test next.marks inLoop more q next
  | .possessive =>
    match takeRun? test low high p scan with
    | (none, next) => (false, next)
    | (some q, next) => resume q next

/-! ### Rounds that are not given back -/

/-- Makes exactly `n` rounds, each from the place looked at last. -/
def makeRounds (round : Scan → Outcome) : Nat → Scan → Outcome
  | 0, scan => (true, scan)
  | n + 1, scan =>
    match round scan with
    | (true, next) => makeRounds round n next
    | (false, next) => (false, next)

/-- Makes up to `n` rounds, until one fails or stays in place. -/
def makeMoreRounds (round : Scan → Outcome) : Nat → Scan → Scan
  | 0, scan => scan
  | n + 1, scan =>
    match round scan with
    | (true, next) =>
      if next.place.position = scan.place.position then next else makeMoreRounds round n next
    | (false, next) => next.restore scan.marks true

/-! ### The matcher -/

/-- Whether an alternative starts with a test that the next character does not pass, as far as that
can be told from the character as it is. -/
def isBarred (node : Node) (p : Place) : Bool :=
  match node.lead with
  | .char test => (test.isLiteral || test.isPlainSet) && !p.sees test.accepts
  | _ => false

/-- Works off tasks at a place, inside the given repetitions, innermost first. The first argument
bounds the number of steps. -/
def attempt : Nat → List Loop → List Task → Place → Scan → Outcome
  | 0, _, _, _, scan => (false, scan)
  | fuel + 1, loops, tasks, p, scan =>
    let inLoop := !loops.isEmpty
    match tasks with
    | [] => (true, scan.moved p)
    | .onward :: rest => attempt fuel loops rest p scan
    | .close index :: rest => attempt fuel loops rest p (scan.mark (2 * index - 1) p)
    | .endRound :: _ =>
      match loops with
      | [] => (false, scan)
      | loop :: outer =>
        let scan := scan.moved p
        let inRound (latest : Option Nat) : Outcome :=
          attempt fuel (loop.started latest :: outer) [.run loop.body, .endRound] p scan
        if loop.rounds < loop.low then
          match inRound loop.latest with
          | (true, next) => (true, next)
          | (false, next) => (false, next.moved p)
        else if loop.isGreedy then
          let (found, next) :=
            if loop.mayGoOn && loop.latest ≠ some p.position then
              match inRound (some p.position) with
              | (true, next) => (true, next)
              | (false, _) => (false, scan)
            else (false, scan)
          if found then (true, next)
          else
            match attempt fuel outer loop.rest p next with
            | (true, next) => (true, next)
            | (false, next) => (false, next.moved p)
        else
          match attempt fuel outer loop.rest p scan with
          | (true, next) => (true, next)
          | (false, next) =>
            let next := (next.restore scan.marks !outer.isEmpty).moved p
            if loop.mayGoOn && loop.latest ≠ some p.position then
              match attempt fuel (loop.started (some p.position) :: outer)
                  [.run loop.body, .endRound] p next with
              | (true, next) => (true, next)
              | (false, next) => (false, next.moved p)
            else (false, next)
    | .run node :: rest =>
      match node with
      | .empty => attempt fuel loops rest p scan
      | .never => (false, scan)
      | .char test =>
        match p.step? with
        | some (c, q) => if test.accepts c then attempt fuel loops rest q scan else (false, scan)
        | none => (false, scan)
      | .anchor place => if place.holds p then attempt fuel loops rest p scan else (false, scan)
      | .seq first second => attempt fuel loops (.run first :: .run second :: rest) p scan
      | .scope body => attempt fuel loops (.run body :: rest) p scan
      | .group index body =>
        attempt fuel loops (.run body :: .close index :: rest) p (scan.mark (2 * index - 2) p)
      | .again index rule =>
        match (scan.groupText? index).bind (p.expect? rule ·) with
        | some q => attempt fuel loops rest q scan
        | none => (false, scan)
      | .ifGroup index yes no =>
        if (scan.groupText? index).isSome then
          attempt fuel loops (.run yes :: if no = .empty then rest else .onward :: rest) p scan
        else attempt fuel loops (.run no :: rest) p scan
      | .alt first second =>
        if isBarred first p then attempt fuel loops (.run second :: rest) p scan
        else
          match attempt fuel loops (.run first :: .onward :: rest) p (scan.moved p) with
          | (true, next) => (true, next)
          | (false, next) =>
            attempt fuel loops (.run second :: rest) p (next.restore scan.marks inLoop)
      | .look back negated body =>
        match p.back? back with
        | none => if negated then attempt fuel loops rest p scan else (false, scan)
        | some q =>
          match attempt fuel loops [.run body] q (scan.moved q), negated with
          | (true, next), false => attempt fuel loops rest p next
          | (false, next), true => attempt fuel loops rest p (next.restore scan.marks inLoop)
          | (_, next), _ => (false, next)
      | .atomic body =>
        match attempt fuel loops [.run body] p (scan.moved p) with
        | (true, next) => attempt fuel loops rest next.place next
        | (false, next) => (false, next.moved p)
      | .times low high greed body =>
        match body.unit? with
        | some test =>
          repeatChar (attempt fuel loops rest) rest test low high greed inLoop p scan
        | none =>
          if greed = .possessive then
            let round (scan : Scan) : Outcome :=
              attempt fuel loops [.run body] scan.place scan
            match makeRounds round low (scan.moved p) with
            | (false, next) => (false, next.moved p)
            | (true, next) =>
              let limit := match high with
                | some high => high - low
                | none => p.position + p.after.length + 1
              let last := makeMoreRounds round limit next
              attempt fuel loops rest last.place last
          else
            let loop : Loop := ⟨low, high, greed = .greedy, body, rest, 0, none⟩
            attempt fuel (loop :: loops) [.endRound] p (scan.moved p)

/-! ### Attempts -/

/-- A bound of the steps that a part can take in a text of the given length. -/
def Node.steps (length : Nat) : Node → Nat
  | seq first second => 1 + first.steps length + second.steps length
  | alt first second => 2 + first.steps length + second.steps length
  | group _ body => 2 + body.steps length
  | scope body => 1 + body.steps length
  | ifGroup _ yes no => 2 + yes.steps length + no.steps length
  | look _ _ body => 2 + body.steps length
  | atomic body => 2 + body.steps length
  | times low _ _ body => 2 + (low + length + 3) * (body.steps length + 1)
  | _ => 1

/-- An attempt to match a tree at a place in a text of the given length. -/
def Node.attemptAt (node : Node) (length : Nat) (p : Place) : Outcome :=
  attempt (node.steps length + 1) [] [.run node] p ⟨p, []⟩

end ArgRules.Pattern
