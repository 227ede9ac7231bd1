import ArgRules.Proofs.Demands
import ArgRules.Proofs.Matching
import ArgRules.Proofs.Searching

/-!
# The grammar of names

The naming conventions are patterns, but what they ask for is simple: a word at the end of a name,
or at its beginning. This module states the grammar of each kind without patterns, and says which
names have nothing against them.

## The end of a name

The conventions that look at the end of a name ask for it with an anchor that also holds before a
line feed that ends the text. So next to the names of the grammar they accept these names with a
line feed behind them, and no other names. A grammar of beginnings has room for a line feed anyway.

## Main definitions

* `Naming.EndsIn`, `Naming.BeginsWith` — the two forms of names
* `Kind.Follows` — the grammar of a kind
* `Pattern.Node.Describes` — the texts that a part describes, wherever it stands

## Main results

* `Naming.leads_ending_iff` — how the conventions ask for the end of a name
* `Kind.search_iff` — what the convention of a kind finds
* `Conventions.default_reasons_of_grammar` — what is said against a name
-/

namespace ArgRules

/-! ### The grammar -/

namespace Naming

/-- A name ends in an underscore and one of a few words, with at most one more underscore. -/
def EndsIn (words : List String) (name : String) : Prop :=
  ∃ stem, ∃ word ∈ words, name = stem ++ "_" ++ word ∨ name = stem ++ "_" ++ word ++ "_"

/-- A name begins with one of a few words and an underscore. -/
def BeginsWith (words : List String) (name : String) : Prop :=
  ∃ word ∈ words, ∃ rest, name = word ++ "_" ++ rest

/-- An underscore that may be missing. -/
def MayTrail (tail : List Char) : Prop := tail = [] ∨ tail = ['_']

/-- A line feed that may be missing. -/
def MayBreak (last : List Char) : Prop := last = [] ∨ last = ['\n']

theorem endsIn_iff {words : List String} {name : String} :
    EndsIn words name ↔ ∃ front tail, ∃ word ∈ words,
      MayTrail tail ∧ name.toList = front ++ ('_' :: word.toList ++ tail) := by
  constructor
  · rintro ⟨stem, word, hword, rfl | rfl⟩
    · exact ⟨stem.toList, [], word, hword, Or.inl rfl, by simp⟩
    · exact ⟨stem.toList, ['_'], word, hword, Or.inr rfl, by simp⟩
  · rintro ⟨front, tail, word, hword, rfl | rfl, hname⟩
    · refine ⟨.ofList front, word, hword, Or.inl (String.toList_inj.mp ?_)⟩
      simp [hname]
    · refine ⟨.ofList front, word, hword, Or.inr (String.toList_inj.mp ?_)⟩
      simp [hname]

theorem beginsWith_iff {words : List String} {name : String} :
    BeginsWith words name ↔
      ∃ word ∈ words, ∃ rest, name.toList = word.toList ++ '_' :: rest := by
  constructor
  · rintro ⟨word, hword, rest, rfl⟩
    exact ⟨word, hword, rest.toList, by simp⟩
  · rintro ⟨word, hword, rest, hname⟩
    exact ⟨word, hword, .ofList rest, String.toList_inj.mp (by simp [hname])⟩

end Naming

open Naming in
/-- The names that follow the convention of a kind. -/
def Kind.Follows (name : String) : Kind → Prop
  | .any => name = "_data" ∨ name = "_data_"
  | .array => EndsIn ["list"] name
  | .boolean => BeginsWith booleanWords name
  | .map => EndsIn ["map"] name
  | .integer => EndsIn integerWords name
  | .number => EndsIn numberWords name
  | .string => EndsIn stringWords name
  | .function | .svgElement => True

/-! ### What the building blocks describe -/

namespace Pattern.Node

variable {p q r : Place} {body : Node} {test : CharTest} {greed : Greed}

/-- The texts that a part describes, wherever it stands. -/
def Describes (node : Node) (texts : List Char → Prop) : Prop :=
  ∀ p q, node.Leads p q ↔ ∃ chars, texts chars ∧ p.Reads chars q

theorem leads_sequence_cons_iff {node : Node} {rest : List Node} :
    (sequence (node :: rest)).Leads p r ↔
      ∃ q, node.Leads p q ∧ (sequence rest).Leads q r := by
  cases rest with
  | nil => simp [sequence, leads_empty_iff]
  | cons next rest => exact leads_seq_iff

theorem leads_sequence_append_iff {front back : List Node} :
    (sequence (front ++ back)).Leads p r ↔
      ∃ q, (sequence front).Leads p q ∧ (sequence back).Leads q r := by
  induction front generalizing p with
  | nil => simp [sequence, leads_empty_iff]
  | cons node front ih =>
    rw [List.cons_append, leads_sequence_cons_iff]
    simp only [ih, leads_sequence_cons_iff]
    constructor
    · rintro ⟨s, hs, q, hq, hr⟩
      exact ⟨q, ⟨s, hs, hq⟩, hr⟩
    · rintro ⟨q, ⟨s, hs, hq⟩, hr⟩
      exact ⟨s, hs, q, hq, hr⟩

theorem leads_choice_iff {nodes : List Node} :
    (choice nodes).Leads p q ↔ ∃ node ∈ nodes, node.Leads p q := by
  induction nodes with
  | nil => simp [choice, not_leads_never]
  | cons node rest ih => simp [choice, leads_alt_iff, ih]

theorem accepts_single_iff {c d : Char} : (CharTest.single c).accepts d = true ↔ d = c := by
  rw [CharTest.accepts_single, decide_eq_true_iff, Char.toNat_inj]

theorem leads_single_iff {c : Char} : (char (.single c)).Leads p q ↔ p.Reads [c] q := by
  simp only [leads_char_iff, accepts_single_iff, exists_eq_left]

/-- At the end, or before a line feed that is the last character. -/
theorem holds_lastLineEnd_iff :
    Anchor.lastLineEnd.holds p = true ↔ Naming.MayBreak p.after := by
  simp [Anchor.holds, Naming.MayBreak]

/-- A character that may be missing. -/
theorem describes_optional (h : body.unit? = some test) :
    (times 0 (some 1) greed body).Describes
      fun chars => chars = [] ∨ ∃ c, test.accepts c = true ∧ chars = [c] := by
  intro p q
  rw [leads_times_iff h]
  refine exists_congr fun chars => ?_
  have hrun : IsRun test.accepts (some 1) chars ↔
      chars = [] ∨ ∃ c, test.accepts c = true ∧ chars = [c] := by
    constructor
    · intro hrun
      match chars, hrun with
      | [], _ => exact Or.inl rfl
      | [c], hrun => exact Or.inr ⟨c, hrun.accepted c List.mem_cons_self, rfl⟩
      | _ :: _ :: _, hrun => simpa using hrun.within 1 rfl
    · rintro (rfl | ⟨c, hc, rfl⟩)
      · exact isRun_nil
      · exact ⟨by simpa using hc, by simp⟩
  rw [hrun]
  simp

/-- One character or more. -/
theorem describes_some (h : body.unit? = some test) :
    (times 1 none greed body).Describes
      fun chars => chars ≠ [] ∧ ∀ c ∈ chars, test.accepts c = true := by
  intro p q
  rw [leads_times_iff h]
  refine exists_congr fun chars => ?_
  rw [Nat.one_le_iff_ne_zero, ne_eq, List.length_eq_zero_iff, ← and_assoc]
  refine and_congr_left fun _ => and_congr_right fun _ => ?_
  exact ⟨fun hrun => hrun.accepted, fun haccepted => ⟨haccepted, by simp⟩⟩

theorem leads_letters_iff {text : String} :
    (sequence (Naming.letters text)).Leads p q ↔ p.Reads text.toList q := by
  rw [Naming.letters]
  induction text.toList generalizing p with
  | nil => exact leads_empty_iff.trans Place.reads_nil_iff.symm
  | cons c rest ih =>
    rw [List.map_cons, leads_sequence_cons_iff]
    simp only [leads_single_iff, ih]
    exact Place.reads_append_iff.symm

theorem describes_letters (text : String) :
    (sequence (Naming.letters text)).Describes (· = text.toList) := by
  intro p q
  rw [leads_letters_iff, exists_eq_left]

theorem describes_oneOf (words : List String) :
    (Naming.oneOf words).Describes fun chars => ∃ word ∈ words, chars = word.toList := by
  intro p q
  rw [Naming.oneOf, leads_group_iff, leads_choice_iff]
  constructor
  · rintro ⟨node, hnode, hleads⟩
    obtain ⟨word, hword, rfl⟩ := List.mem_map.mp hnode
    exact ⟨_, ⟨word, hword, rfl⟩, leads_letters_iff.mp hleads⟩
  · rintro ⟨_, ⟨word, hword, rfl⟩, hreads⟩
    exact ⟨_, List.mem_map_of_mem hword, leads_letters_iff.mpr hreads⟩

/-- An underscore and one of several words. -/
theorem describes_underscored (words : List String) :
    (sequence (Naming.letters "_" ++ [Naming.oneOf words])).Describes
      fun chars => ∃ word ∈ words, chars = '_' :: word.toList := by
  intro p q
  rw [leads_sequence_append_iff]
  simp only [leads_letters_iff, sequence, describes_oneOf words _ q]
  constructor
  · rintro ⟨r, hr, _, ⟨word, hword, rfl⟩, hq⟩
    exact ⟨_, ⟨word, hword, rfl⟩, Place.reads_append_iff.mpr ⟨r, hr, hq⟩⟩
  · rintro ⟨_, ⟨word, hword, rfl⟩, hq⟩
    obtain ⟨r, hr, hq⟩ := Place.reads_append_iff.mp (show p.Reads (['_'] ++ word.toList) q from hq)
    exact ⟨r, hr, _, ⟨word, hword, rfl⟩, hq⟩

end Pattern.Node

open Pattern (Node Place)

namespace Naming

/-- **The end of a name** is behind at most one underscore, and a line feed may follow it. -/
theorem leads_ending_iff {p q : Place} :
    (Node.sequence ending).Leads p q ↔
      ∃ tail, MayTrail tail ∧ p.Reads tail q ∧ MayBreak q.after := by
  have htrail : (Node.times 0 (some 1) .greedy (.char (.single '_'))).Describes MayTrail := by
    intro p q
    rw [Node.describes_optional rfl p q]
    simp only [Node.accepts_single_iff, exists_eq_left, MayTrail]
  rw [ending, Node.leads_sequence_cons_iff]
  simp only [Node.sequence, htrail _ _, Node.leads_anchor_iff, Node.holds_lastLineEnd_iff]
  constructor
  · rintro ⟨_, ⟨tail, htail, hreads⟩, hbreak, rfl⟩
    exact ⟨tail, htail, hreads, hbreak⟩
  · rintro ⟨tail, htail, hreads, hbreak⟩
    exact ⟨q, ⟨tail, htail, hreads⟩, hbreak, rfl⟩

/-- A pattern that asks for the end of a name behind some text. -/
theorem leads_last_iff {parts : List Node} {texts : List Char → Prop}
    (h : (Node.sequence parts).Describes texts) {p : Place} :
    (∃ q, (Node.sequence (parts ++ ending)).Leads p q) ↔
      ∃ chars tail last, texts chars ∧ MayTrail tail ∧ MayBreak last ∧
        p.after = chars ++ (tail ++ last) := by
  simp only [Node.leads_sequence_append_iff, leads_ending_iff, h _ _]
  constructor
  · rintro ⟨q, r, ⟨chars, hchars, hr⟩, tail, htail, hq, hbreak⟩
    exact ⟨chars, tail, q.after, hchars, htail, hbreak, by rw [hr.after, hq.after]⟩
  · rintro ⟨chars, tail, last, hchars, htail, hbreak, hafter⟩
    obtain ⟨r, hr, hrest⟩ := Place.exists_reads hafter
    obtain ⟨q, hq, rfl⟩ := Place.exists_reads hrest
    exact ⟨q, r, ⟨chars, hchars, hr⟩, tail, htail, hq, hbreak⟩

/-- Behind the start of a text there is the whole text. -/
theorem leads_first_iff {parts : List Node} {front rest : List Char} {q : Place} :
    (Node.sequence (.anchor .textStart :: parts)).Leads (.between front rest) q ↔
      front = [] ∧ (Node.sequence parts).Leads (.between [] rest) q := by
  rw [Node.leads_sequence_cons_iff]
  simp only [Node.leads_anchor_iff]
  constructor
  · rintro ⟨_, ⟨hstart, rfl⟩, hleads⟩
    obtain rfl : front = [] := by simpa [Pattern.Anchor.holds, Place.between] using hstart
    exact ⟨rfl, hleads⟩
  · rintro ⟨rfl, hleads⟩
    exact ⟨_, ⟨rfl, rfl⟩, hleads⟩

/-- A line feed behind a name that has a property, or none. -/
theorem breaks_iff {P : String → Prop} {name : String} :
    (P name ∨ ∃ stem, name = stem ++ "\n" ∧ P stem) ↔
      ∃ stem last, MayBreak last ∧ name.toList = stem.toList ++ last ∧ P stem := by
  constructor
  · rintro (h | ⟨stem, rfl, h⟩)
    · exact ⟨name, [], Or.inl rfl, by simp, h⟩
    · exact ⟨stem, ['\n'], Or.inr rfl, by simp, h⟩
  · rintro ⟨stem, last, rfl | rfl, hname, h⟩
    · rw [List.append_nil] at hname
      exact Or.inl (String.toList_inj.mp hname ▸ h)
    · exact Or.inr ⟨stem, String.toList_inj.mp (by simp [hname]), h⟩

/-- What a pattern for the ends of names describes somewhere in a name. -/
theorem endsIn_of_leads_iff {parts : List Node} {words : List String}
    (h : (Node.sequence parts).Describes fun chars => ∃ word ∈ words, chars = '_' :: word.toList)
    {name : String} :
    (∃ front rest q, name.toList = front ++ rest ∧
        (Node.sequence (parts ++ ending)).Leads (.between front rest) q) ↔
      EndsIn words name ∨ ∃ stem, name = stem ++ "\n" ∧ EndsIn words stem := by
  rw [breaks_iff]
  constructor
  · rintro ⟨front, rest, q, hname, hleads⟩
    obtain ⟨_, tail, last, ⟨word, hword, rfl⟩, htail, hbreak, hrest⟩ :=
      (leads_last_iff h).mp ⟨q, hleads⟩
    obtain rfl : rest = '_' :: word.toList ++ (tail ++ last) := hrest
    refine ⟨.ofList (front ++ ('_' :: word.toList ++ tail)), last, hbreak, ?_,
      endsIn_iff.mpr ⟨front, tail, word, hword, htail, String.toList_ofList⟩⟩
    rw [hname, String.toList_ofList, List.append_assoc, List.append_assoc]
  · rintro ⟨stem, last, hbreak, hname, hends⟩
    obtain ⟨front, tail, word, hword, htail, hstem⟩ := endsIn_iff.mp hends
    obtain ⟨q, hleads⟩ := (leads_last_iff h
        (p := .between front ('_' :: word.toList ++ (tail ++ last)))).mpr
      ⟨_, tail, last, ⟨word, hword, rfl⟩, htail, hbreak, rfl⟩
    refine ⟨front, _, q, ?_, hleads⟩
    rw [hname, hstem, List.append_assoc, List.append_assoc]

/-- What a pattern for whole names describes. -/
theorem whole_of_leads_iff {text name : String} :
    (∃ front rest q, name.toList = front ++ rest ∧
        (Node.sequence (.anchor .textStart :: letters text ++ ending)).Leads
          (.between front rest) q) ↔
      (name = text ∨ name = text ++ "_") ∨
        ∃ stem, name = stem ++ "\n" ∧ (stem = text ∨ stem = text ++ "_") := by
  rw [breaks_iff (P := fun stem => stem = text ∨ stem = text ++ "_")]
  simp only [List.cons_append, leads_first_iff]
  have hlast := fun rest => leads_last_iff (Node.describes_letters text) (p := .between [] rest)
  constructor
  · rintro ⟨_, rest, q, hname, rfl, hleads⟩
    obtain ⟨_, tail, last, rfl, htail, hbreak, hrest⟩ := (hlast rest).mp ⟨q, hleads⟩
    obtain rfl : rest = text.toList ++ (tail ++ last) := hrest
    refine ⟨.ofList (text.toList ++ tail), last, hbreak, ?_, ?_⟩
    · rw [hname, String.toList_ofList, List.append_assoc, List.nil_append]
    · rcases htail with rfl | rfl
      · exact Or.inl (String.toList_inj.mp (by simp))
      · exact Or.inr (String.toList_inj.mp (by simp))
  · rintro ⟨stem, last, hbreak, hname, hstem⟩
    obtain ⟨tail, htail, hstem⟩ : ∃ tail, MayTrail tail ∧ stem.toList = text.toList ++ tail := by
      rcases hstem with rfl | rfl
      · exact ⟨[], Or.inl rfl, by simp⟩
      · exact ⟨['_'], Or.inr rfl, by simp⟩
    obtain ⟨q, hleads⟩ := (hlast (text.toList ++ (tail ++ last))).mpr
      ⟨_, tail, last, rfl, htail, hbreak, rfl⟩
    refine ⟨[], _, q, ?_, rfl, hleads⟩
    rw [hname, hstem, List.append_assoc, List.nil_append]

/-- What a pattern for the beginnings of names describes. A line feed at the end does not matter. -/
theorem beginsWith_of_leads_iff {words : List String} {name : String} :
    (∃ front rest q, name.toList = front ++ rest ∧
        (Node.sequence (.anchor .textStart :: oneOf words :: letters "_")).Leads
          (.between front rest) q) ↔
      BeginsWith words name ∨ ∃ stem, name = stem ++ "\n" ∧ BeginsWith words stem := by
  have hwords : ∀ rest q, (Node.sequence (oneOf words :: letters "_")).Leads
      (.between [] rest) q ↔ ∃ word ∈ words, Place.Reads (.between [] rest)
        (word.toList ++ ['_']) q := by
    intro rest q
    rw [Node.leads_sequence_cons_iff]
    simp only [Node.leads_letters_iff, Node.describes_oneOf words _ _, Place.reads_append_iff]
    constructor
    · rintro ⟨r, ⟨_, ⟨word, hword, rfl⟩, hr⟩, hq⟩
      exact ⟨word, hword, r, hr, hq⟩
    · rintro ⟨word, hword, r, hr, hq⟩
      exact ⟨r, ⟨_, ⟨word, hword, rfl⟩, hr⟩, hq⟩
  have hmore : (∃ stem, name = stem ++ "\n" ∧ BeginsWith words stem) → BeginsWith words name := by
    rintro ⟨_, rfl, word, hword, rest, rfl⟩
    exact ⟨word, hword, rest ++ "\n", by simp [String.append_assoc]⟩
  rw [or_iff_left_of_imp hmore, beginsWith_iff]
  simp only [leads_first_iff, hwords]
  constructor
  · rintro ⟨_, rest, q, hname, rfl, word, hword, hreads⟩
    obtain rfl : rest = word.toList ++ ['_'] ++ q.after := hreads.after
    exact ⟨word, hword, q.after, by simp [hname]⟩
  · rintro ⟨word, hword, rest, hname⟩
    have hafter : (Place.between [] name.toList).after = (word.toList ++ ['_']) ++ rest := by
      simp [hname, Place.between]
    obtain ⟨q, hreads, -⟩ := Place.exists_reads hafter
    exact ⟨[], name.toList, q, rfl, rfl, word, hword, hreads⟩

end Naming

/-! ### Names against which nothing is said -/

/-- The conventions are regular, skip no place, and tell how long a match is at least. -/
theorem Kind.regular_convention (kind : Kind) : ∀ p ∈ kind.convention?,
    p.node.isRegular = true ∧ p.firstTest? = none ∧ ∀ n ∈ p.node.shortest?, p.least ≤ n := by
  cases kind <;> decide

/-- **The convention of a kind** finds the names that follow it, also with a line feed behind
them. -/
theorem Kind.search_iff {kind : Kind} {p : Pattern} (hp : kind.convention? = some p)
    {name : String} {found : Bool} (h : p.search name.toList = .ok found) :
    found = true ↔ kind.Follows name ∨ ∃ stem, name = stem ++ "\n" ∧ kind.Follows stem := by
  have hlanguage : found = true ↔
      ∃ front rest q, name.toList = front ++ rest ∧ p.node.Leads (.between front rest) q := by
    obtain ⟨hregular, hfirst, hleast⟩ := kind.regular_convention p hp
    exact Pattern.search_iff hregular hfirst hleast h
  rw [hlanguage]
  cases kind with
  | any =>
    obtain rfl := Option.some.inj hp
    exact Naming.whole_of_leads_iff
  | array =>
    obtain rfl := Option.some.inj hp
    refine Naming.endsIn_of_leads_iff fun p q => (Node.describes_letters "_list" p q).trans ?_
    simp
  | map =>
    obtain rfl := Option.some.inj hp
    refine Naming.endsIn_of_leads_iff fun p q => (Node.describes_letters "_map" p q).trans ?_
    simp
  | boolean =>
    obtain rfl := Option.some.inj hp
    exact Naming.beginsWith_of_leads_iff
  | integer =>
    obtain rfl := Option.some.inj hp
    exact Naming.endsIn_of_leads_iff (Node.describes_underscored Naming.integerWords)
  | number =>
    obtain rfl := Option.some.inj hp
    exact Naming.endsIn_of_leads_iff (Node.describes_underscored Naming.numberWords)
  | string =>
    obtain rfl := Option.some.inj hp
    exact Naming.endsIn_of_leads_iff (Node.describes_underscored Naming.stringWords)
  | function => contradiction
  | svgElement => contradiction

/-- A name is compared with a convention by a search. -/
theorem Convention.search_of_search {p : Pattern} {name : String} {found : Bool}
    (h : search p (.text name) = .ok found) : p.search name.toList = .ok found := by
  have hsearch : Check.searchText p name = .ok found := h
  rw [Check.searchText] at hsearch
  split at hsearch
  · rw [Check.search] at hsearch
    cases hfound : p.search name.toList with
    | ok answer =>
      rw [hfound] at hsearch
      exact congrArg _ (Except.ok.inj hsearch)
    | error problem =>
      rw [hfound] at hsearch
      contradiction
  · contradiction

namespace Conventions

/-- A name follows the grammar of its kind, with or without a line feed behind it, and nothing is
said against it; or it does not, and there is one reason. -/
theorem default_reasons_cases {kind : Kind} {name : String} {reasons : List String}
    (h : default.reasons kind (.text name) = .ok reasons) :
    (kind.Follows name ∨ ∃ stem, name = stem ++ "\n" ∧ kind.Follows stem) ∧ reasons = [] ∨
      ¬ (kind.Follows name ∨ ∃ stem, name = stem ++ "\n" ∧ kind.Follows stem) ∧
        ∃ p, kind.convention? = some p ∧
          reasons = ["name does not match convention - /" ++ p.sourceText ++ "/"] := by
  rw [Conventions.reasons, default] at h
  cases hp : kind.convention? with
  | none =>
    -- Only functions and elements of drawings have no convention.
    have hfree : kind.Follows name := by
      cases kind <;> first | exact trivial | simp [Kind.convention?] at hp
    rw [hp] at h
    exact Or.inl ⟨Or.inl hfree, (Except.ok.inj h).symm⟩
  | some p =>
    rw [hp, Option.map_some] at h
    simp only [Convention.reasons] at h
    obtain ⟨found, hfound, hanswer⟩ := bind_eq_ok.mp h
    have hiff := Kind.search_iff hp (Convention.search_of_search hfound)
    cases found with
    | true => exact Or.inl ⟨hiff.mp rfl, (pure_eq_ok.mp hanswer).symm⟩
    | false =>
      exact Or.inr ⟨fun hfollows => Bool.false_ne_true (hiff.mpr hfollows), p, rfl,
        (pure_eq_ok.mp hanswer).symm⟩

/-- **Nothing is said against a name exactly if it follows the grammar of its kind,** with or without
a line feed behind it, and otherwise there is one reason, which shows the convention. -/
theorem default_reasons_of_grammar (kind : Kind) (name : String) :
    ∃ reasons, default.reasons kind (.text name) = .ok reasons ∧
      (reasons = [] ↔ kind.Follows name ∨ ∃ stem, name = stem ++ "\n" ∧ kind.Follows stem) ∧
      (reasons ≠ [] → ∃ p, kind.convention? = some p ∧
        reasons = ["name does not match convention - /" ++ p.sourceText ++ "/"]) := by
  obtain ⟨reasons, hreasons⟩ := default_answers kind name
  refine ⟨reasons, hreasons, ?_⟩
  rcases default_reasons_cases hreasons with ⟨hfollows, rfl⟩ | ⟨hstrays, p, hp, rfl⟩
  · exact ⟨iff_of_true rfl hfollows, fun hne => absurd rfl hne⟩
  · exact ⟨iff_of_false (List.cons_ne_nil _ _) hstrays, fun _ => ⟨p, hp, rfl⟩⟩

/-- A line feed at the end of a name is overlooked, though the name does not follow the grammar. -/
theorem default_overlooks_sample :
    default.reasons .array (.text "x_list\n") = .ok [] ∧ ¬ Kind.Follows "x_list\n" .array := by
  have hstem : Kind.Follows "x_list" .array := ⟨"x", "list", by simp, Or.inl rfl⟩
  constructor
  · obtain ⟨reasons, hreasons⟩ := default_answers .array "x_list\n"
    rcases default_reasons_cases hreasons with ⟨-, rfl⟩ | ⟨hstrays, -⟩
    · exact hreasons
    · exact absurd (Or.inr ⟨"x_list", rfl, hstem⟩) hstrays
  · rintro ⟨stem, word, hword, h⟩
    obtain rfl := List.mem_singleton.mp hword
    have hlast : ∀ text : String, "x_list\n" = text → text.toList.getLast? = some '\n' := by
      rintro _ rfl
      decide
    rcases h with h | h
    · have := hlast _ h
      simp at this
    · have := hlast _ h
      simp at this

end Conventions

end ArgRules
