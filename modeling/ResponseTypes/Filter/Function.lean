import ResponseTypes.Filter.Reader
import ResponseTypes.Filter.Search
import ResponseTypes.Text.Blank

/-!
# Functions on values

Some of the filters that are known everywhere are functions of their input and of the values of
their arguments.  They have no paths: what they give is a new value.

## Main definitions

- `Function`: a function with its name.
- `Function.table`: those that are known.
-/

namespace ResponseTypes
namespace Datum

/-! ## Size and keys -/

/-- The size of a value. -/
def length (value : Datum) : Calculation Datum :=
  match value.calculated with
  | null => .ok (integer 0)
  | boolean _ => complain (value.render ++ " has no length")
  | integer n => .ok (wrapped n.natAbs)
  | double x => .ok (double x.abs)
  | numeral _ => complain (value.render ++ " has no length")
  | text s => .ok (integer s.length)
  | array items => .ok (integer items.length)
  | object entries => .ok (integer entries.length)

/-- The keys of an object in order, or the indices of an array. -/
def sortedKeys : Datum → Calculation Datum
  | object entries => .ok (array ((Keyed.keys (sortEntries entries)).map text))
  | value => value.keys.map array

/-- Whether there is something under a key or an index. -/
def has (value key : Datum) : Calculation Datum :=
  match value, key with
  | object entries, text k => .ok (boolean (Keyed.contains entries k))
  | array items, integer i =>
    if i < 0 then value.cannotIndex key else .ok (boolean (decide (i < items.length)))
  | value, key => value.cannotIndex key

/-- The entries of an object, or the elements of an array, as objects of a key and a value. -/
def toEntries (value : Datum) : Calculation Datum := do
  return array (((← value.keys).zip (← value.elements)).map fun (k, v) =>
    object [("key", k), ("value", v)])

/-- An object of one entry, whose key must be a text. -/
def entry (key value : Datum) : Calculation Datum :=
  match key with
  | text k => .ok (object [(k, value)])
  | key => key.cannotUse "string"

/-- The object of entries that are objects of a key and a value. -/
def fromEntries (value : Datum) : Calculation Datum := do
  (← value.elements).foldlM (fun sum item => do
    calculate .add sum (← entry (← item.index (text "key")) (← item.index (text "value"))))
    (object [])

/-! ## Parts in other values -/

/-- Whether a text occurs in another one. -/
def occursIn (s : List Char) : List Char → Bool
  | [] => s.isEmpty
  | c :: rest => s.isPrefixOf (c :: rest) || occursIn s rest

/-- Whether everything in a value is also in another one, down to `depth` levels. -/
def containsTo : Nat → Datum → Datum → Bool
  | 0, a, b => a.same b
  | depth + 1, a, b =>
    match a, b with
    | text s, text t => occursIn t.toList s.toList
    | array as, array bs => bs.all fun b => as.any fun a => containsTo depth a b
    | object as, object bs =>
      bs.all fun (key, b) => (Keyed.get? as key).any fun a => containsTo depth a b
    | a, b => a.same b

/-- Whether everything in a value is also in another one. -/
def contains (a b : Datum) : Bool :=
  containsTo (b.depth + 1) a b

/-- The positions at which a list occurs in another one, counted from `i`. -/
def positionsOf {α : Type} (same : α → α → Bool) (part : List α) (i : Nat) : List α → List Nat
  | [] => []
  | a :: rest =>
    let window := (a :: rest).take part.length
    let here := decide (window.length = part.length) && (window.zip part).all fun (a, b) => same a b
    (if here then [i] else []) ++ positionsOf same part (i + 1) rest

/-- The positions at which a value occurs in another one.  An empty part occurs nowhere. -/
def indices (value part : Datum) : Calculation Datum :=
  let found := fun (positions : List Nat) =>
    Except.ok (array (positions.map fun (i : Nat) => integer i))
  match value, part with
  | text s, text t =>
    found (if t.isEmpty then [] else positionsOf (· == ·) t.toList 0 s.toList)
  | array items, array part =>
    found (if part.isEmpty then [] else positionsOf same part 0 items)
  | array items, part => found (positionsOf same [part] 0 items)
  | value, part => value.cannotIndex part

/-! ## Texts -/

/-- A value as a text: itself, or how it is written. -/
def toText : Datum → String
  | text s => s
  | value => value.render

/-- The value in a text. -/
def fromText (value : Datum) : Calculation Datum := do
  match ofText? (← value.asText) with
  | some found => return found
  | none => complain ("cannot parse " ++ value.render ++ " as JSON")

/-- A text with its characters changed. -/
def mapText (f : List Char → List Char) (value : Datum) : Calculation Datum := do
  return text (String.ofList (f (← value.asText).toList))

/-- A question about two texts. -/
def compareText (f : List Char → List Char → Datum) (value other : Datum) : Calculation Datum := do
  return f (← value.asText).toList (← other.asText).toList

/-- A text without another one at its front. -/
def withoutStart (s start : List Char) : Datum :=
  text (String.ofList (if start.isPrefixOf s then s.drop start.length else s))

/-- A text without another one at its end. -/
def withoutEnd (s ending : List Char) : Datum :=
  text (String.ofList (if ending.isSuffixOf s then s.take (s.length - ending.length) else s))

/-- The pieces of a text between the occurrences of another one. -/
def splitBy (value separator : Datum) : Calculation Datum := do
  return array ((splitText (← value.asText) (← separator.asText)).map text)

/-- The code points of a text. -/
def codePoints (value : Datum) : Calculation Datum := do
  return array ((← value.asText).toList.map fun c => integer c.toNat)

/-- The text of code points. -/
def ofCodePoints (value : Datum) : Calculation Datum := do
  let chars ← (← value.asArray).mapM fun item => do
    let n ← item.asInt
    if 0 ≤ n ∧ n.toNat.isValidChar then pure (Char.ofNat n.toNat)
    else complain ("cannot use " ++ item.render ++ " as character")
  return text (String.ofList chars)

/-! ## Numbers -/

/-- A number rounded to an integer. -/
def rounded (round : Float → Float) (value : Datum) : Calculation Datum :=
  match value.calculated with
  | integer n => .ok (integer n)
  | double x => .ok (integer (round x).toInt64.toInt)
  | _ => value.cannotUse "number"

/-- A function of doubles. -/
def onDouble (f : Float → Float) (value : Datum) : Calculation Datum :=
  if value.rank = 2 then .ok (double (f value.asDouble)) else value.cannotUse "number"

/-- The numbers from one to another by steps, the last one left out.  There are at most so many. -/
def range (stop step : Datum) : Nat → Datum → Outputs Datum
  | 0, _ => .done
  | n + 1, value =>
    let goesOn : Bool := match step.compare (integer 0) with
      | .gt => value.compare stop == .lt
      | .lt => value.compare stop == .gt
      | .eq => !value.same stop
    if goesOn then
      .emit value fun _ =>
        match calculate .add value step with
        | .ok next => range stop step n next
        | .error r => .raise r
    else .done

end Datum

/-! ## The table -/

/-- A function of an input and of the values of so many arguments. -/
structure Function where
  name : String
  arity : Nat
  apply : List Datum → Datum → Outputs Datum

namespace Function

open Datum

/-- A function without arguments. -/
def ofInput (name : String) (f : Datum → Calculation Datum) : Function where
  name
  arity := 0
  apply := fun _ value => .ofExcept (f value)

/-- A function of one argument. -/
def ofOne (name : String) (f : Datum → Datum → Calculation Datum) : Function where
  name
  arity := 1
  apply := fun arguments value =>
    match arguments with
    | [a] => .ofExcept (f value a)
    | _ => .done

/-- A function of two arguments. -/
def ofTwo (name : String) (f : Datum → Datum → Datum → Calculation Datum) : Function where
  name
  arity := 2
  apply := fun arguments value =>
    match arguments with
    | [a, b] => .ofExcept (f value a b)
    | _ => .done

/-- The numbers from the first argument to the second in steps of the third. -/
def numbers : Function where
  name := "range"
  arity := 3
  apply := fun arguments _ =>
    match arguments with
    | [start, stop, step] => Datum.range stop step 0x4000000000000000 start
    | _ => .done

/-- What else there is to read, of which there is nothing. -/
def nothing (name : String) : Function where
  name
  arity := 0
  apply := fun _ _ => .done

/-- Whether the input is of a kind. -/
def ofKind (name kind : String) : Function :=
  ofInput name fun v => .ok (boolean (v.kind == kind))

/-- A function that ends the program with a number, once something has been said: a text as it is,
and any other value in a line of its own. -/
def ending : Function :=
  ofOne "halt_error" fun value code => do
    let words := match value with
      | text s => s
      | value => value.render ++ "\n"
    .error (.final (.halt (← code.asInt) words))

/-- The functions.  Those that look at the environment of the program, that only log, and those for
formats, for dates and for mathematics beyond a square root are left out: a filter with one of their
names cannot be read. -/
def table : List Function :=
  [ofInput "null" fun _ => .ok null,
   ofInput "true" fun _ => .ok (boolean true),
   ofInput "false" fun _ => .ok (boolean false),
   ofInput "length" length,
   ofInput "utf8bytelength" fun v => do return integer (← v.asText).utf8ByteSize,
   ofInput "halt" fun _ => .error (.final (.halt 0 "")),
   ending,
   ofInput "not" fun v => .ok (boolean !v.holds),
   ofInput "type" fun v => .ok (text v.kind),
   ofKind "isboolean" "boolean",
   ofKind "isnumber" "number",
   ofKind "isstring" "string",
   ofKind "isarray" "array",
   ofKind "isobject" "object",
   ofInput "keys" sortedKeys,
   ofInput "keys_unsorted" fun v => v.keys.map array,
   ofInput "to_entries" toEntries,
   ofInput "from_entries" fromEntries,
   ofInput "tojson" fun v => .ok (text v.render),
   ofInput "fromjson" fromText,
   ofInput "sort" fun v => do return array (sort (← v.asArray)),
   ofInput "reverse" fun v => do return array (← v.asArray).reverse,
   ofInput "ascii_upcase" (mapText (·.map Text.asciiUpper)),
   ofInput "ascii_downcase" (mapText (·.map Text.asciiLower)),
   ofInput "trim" (mapText Text.trim),
   ofInput "ltrim" (mapText Text.trimStart),
   ofInput "rtrim" (mapText Text.trimEnd),
   ofInput "explode" codePoints,
   ofInput "implode" ofCodePoints,
   ofInput "floor" (rounded Float.floor),
   ofInput "ceil" (rounded Float.ceil),
   ofInput "round" (rounded Float.round),
   ofInput "sqrt" (onDouble Float.sqrt),
   ofOne "has" has,
   ofOne "contains" fun v a => .ok (boolean (v.contains a)),
   ofOne "indices" indices,
   ofOne "ltrimstr" (compareText withoutStart),
   ofOne "rtrimstr" (compareText withoutEnd),
   ofOne "startswith" (compareText fun s t => boolean (t.isPrefixOf s)),
   ofOne "endswith" (compareText fun s t => boolean (t.isSuffixOf s)),
   ofOne "split" splitBy,
   ofInput "capture_object" namedGroups,
   ofTwo "matches" findMatches,
   ofTwo "split_" (splitAtMatches false),
   ofTwo "split_matches" (splitAtMatches true),
   numbers,
   nothing "input",
   nothing "inputs"]

/-- The function of a name and number of arguments. -/
def find? (name : String) (arity : Nat) : Option Function :=
  table.find? fun f => f.name = name ∧ f.arity = arity

end Function
end ResponseTypes
