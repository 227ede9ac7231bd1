import ArgRules.Numeric.Shortest
import ArgRules.Value.Basic

/-!
# Texts of values

A value has two texts: the one it has on its own, `display`, and the one it has inside another value
or in a description, `shown`. They differ for texts, which are quoted inside other values, and for a
few other types.

## When there is no text

A whole number of more than 4300 digits has no text, nor has a value that holds one; and an object
may refuse to be shown on its own. These are the only faults.

## Main definitions

* `Value.shown` — the text of a value inside another one
* `Value.display` — the text of a value on its own
* `Value.formatted` — the text of a value put into a message
* `Rule.fieldValues` — the fields of a rule as values
-/

namespace ArgRules

/-! ### Numbers -/

/-- Whether a whole number is short enough to be written. -/
def Numeral.isWritable (n : Int) : Bool := n.natAbs < Nat.pow 10 Numeral.digitLimit

namespace Value

/-- The text of a whole number. -/
def intText (n : Int) : Except Fault String :=
  if Numeral.isWritable n then .ok (toString n) else .error .tooManyDigits

/-- The text of a fraction; one with the denominator one is written as a whole number. -/
def fractionText (q : Rat) : Except Fault String := do
  let numerator ← intText q.num
  if q.den = 1 then return numerator
  return numerator ++ "/" ++ (← intText q.den)

/-- The text of a number on its own. -/
def numberText (n : Number) : Except Fault String :=
  match n.content with
  | .int n => intText n
  | .double x => .ok x.text
  | .fraction q => fractionText q

/-- The text of a complex number. The real part is left out when it is the positive zero. -/
def complexText (re im : Double) : String :=
  let imaginary := im.layOut .component
  if re = .zero false then String.ofList (imaginary ++ ['j'])
  else
    let signed := if im.isNegative then imaginary else '+' :: imaginary
    String.ofList ('(' :: re.layOut .component ++ signed ++ ['j', ')'])

/-- The text of a number inside another value. -/
def numberShown (n : Number) : Except Fault String :=
  match n.content with
  | .fraction q => do
    return "Fraction(" ++ (← intText q.num) ++ ", " ++ (← intText q.den) ++ ")"
  | _ => numberText n

/-! ### Pieces -/

/-- A quoted text. -/
def quoted (s : String) : String := String.ofList (Text.quote s.toList)

/-- A quoted string of bytes. -/
def quotedBytes (data : List UInt8) : String := String.ofList (Text.quoteBytes data)

/-- The truth values as constants. -/
def boolText (b : Bool) : String := if b then "True" else "False"

/-- The text of a range; its step is shown when it is not one. -/
def rangeText (start stop step : Int) : Except Fault String := do
  let bounds := (← intText start) ++ ", " ++ (← intText stop)
  if step = 1 then return "range(" ++ bounds ++ ")"
  return "range(" ++ bounds ++ ", " ++ (← intText step) ++ ")"

/-- Items in a row. -/
def joined (items : List String) : String := String.intercalate ", " items

/-- The text of an element of a drawing. -/
def elementText (name : String) : String :=
  "<Element " ++ quoted (drawingNamespace ++ name) ++ " at 0x0>"

/-- What an object is shown as. -/
def objectText (facets : Facets) : String := facets.shown.getD "<duck>"

/-- The text of a limit. -/
def limitText : Option Limit → Except Fault String
  | none => .ok "None"
  | some limit => numberText limit.toNumber

/-- The text of a bound on a length or a whole number. -/
def boundText : Option Int → Except Fault String
  | none => .ok "None"
  | some n => intText n

/-- The fields of a constraint with their texts. -/
def constraintTexts : Constraint → Except Fault (List (Field × String))
  | .array allowEmpty low high => do
    return [(.allowEmpty, boolText allowEmpty), (.minLength, ← boundText low),
      (.maxLength, ← boundText high)]
  | .map allowEmpty => return [(.allowEmpty, boolText allowEmpty)]
  | .integer low high autobound => do
    return [(.minInt, ← boundText (low.map (·.content))),
      (.maxInt, ← boundText (high.map (·.content))), (.autobound, boolText autobound)]
  | .number low high autobound => do
    return [(.minNum, ← limitText low), (.maxNum, ← limitText high),
      (.autobound, boolText autobound)]
  | .string allowEmpty filter low high => do
    let filterText := match filter with
      | some p => p.described
      | none => "None"
    return [(.allowEmpty, boolText allowEmpty), (.filterPattern, filterText),
      (.minLength, ← boundText low), (.maxLength, ← boundText high)]
  | _ => return []

/-- The fields of a rule with their texts, given the text of its default. -/
def ruleTexts (frame : Rule.Frame) (defaultText : String) : Except Fault (List String) := do
  let kind := match frame.constraint.kind? with
    | some kind => [(Field.kind, quoted kind.name)]
    | none => []
  let fields := [(Field.isOptional, boolText frame.isOptional), (Field.default, defaultText),
    (Field.allowFalsey, boolText frame.allowFalsey)] ++ kind ++ (← constraintTexts frame.constraint)
  return fields.map fun (field, written) => field.name ++ "=" ++ written

/-! ### The text inside another value -/

mutual

/-- The text of a value inside another one. -/
def shown : Value → Except Fault String
  | null => .ok "None"
  | undefined => .ok "UNDEFINED"
  | bool b => .ok (boolText b)
  | number n => numberShown n
  | decimal d => .ok ("Decimal('" ++ d.text ++ "')")
  | complex re im => .ok (complexText re im)
  | text s => .ok (quoted s)
  | mode m => .ok ("<" ++ m.constantName ++ ": " ++ quoted m.name ++ ">")
  | bytes data => .ok (quotedBytes data)
  | byteArray data => .ok ("bytearray(" ++ quotedBytes data ++ ")")
  | list items => do return "[" ++ joined (← shownItems items) ++ "]"
  | tuple items => do
    match ← shownItems items with
    | [item] => return "(" ++ item ++ ",)"
    | items => return "(" ++ joined items ++ ")"
  | set items => do
    if items.isEmpty then return "set()"
    return "\x7b" ++ joined (← shownItems items) ++ "\x7d"
  | deque items => do return "deque([" ++ joined (← shownItems items) ++ "])"
  | range start stop step => rangeText start stop step
  | map entries => do return "\x7b" ++ joined (← shownEntries entries) ++ "\x7d"
  | frozenMap entries => do
    return "mappingproxy(\x7b" ++ joined (← shownEntries entries) ++ "\x7d)"
  | pattern p => .ok p.described
  | function name => .ok ("<built-in function " ++ name ++ ">")
  | type name => .ok ("<class '" ++ name ++ "'>")
  | element name _ => .ok (elementText name)
  | rule frame default => do
    return frame.constraint.recordName ++ "(" ++
      joined (← ruleTexts frame (← shown default)) ++ ")"
  | object facets _ => .ok (objectText facets)

/-- The texts of several values inside another one. -/
def shownItems : List Value → Except Fault (List String)
  | [] => .ok []
  | item :: rest => do return (← shown item) :: (← shownItems rest)

/-- The texts of the entries of a map. -/
def shownEntries : List (Value × Value) → Except Fault (List String)
  | [] => .ok []
  | (key, value) :: rest => do
    return ((← shown key) ++ ": " ++ (← shown value)) :: (← shownEntries rest)

end

/-! ### The text on its own -/

/-- The text of a value on its own. -/
def display : Value → Except Fault String
  | undefined => .ok ""
  | number n => numberText n
  | decimal d => .ok d.text
  | text s => .ok s
  | mode m => .ok m.constantName
  | frozenMap entries => shown (map entries)
  | rule frame default => do
    return String.intercalate " " (← ruleTexts frame (← shown default))
  | object facets _ => if facets.hidden then .error .textRefused else .ok (objectText facets)
  | value => shown value

@[simp] theorem display_text (s : String) : display (text s) = .ok s := rfl

@[simp] theorem display_int (n : Int) (box : Option Nat) :
    display (number ⟨.int n, box⟩) = intText n := rfl

end Value

end ArgRules
