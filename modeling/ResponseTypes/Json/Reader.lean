import ResponseTypes.Json.Shape
import ResponseTypes.Json.Skip

/-!
# Reading JSON documents

A document is read from left to right against a shape, and the first fault ends the reading.  The
reader takes the value at the front of a text and leaves what follows, so a text may go on after
its document; `Json.parseWhole` takes only texts without such a rest.

Arrays and objects may be nested 127 deep.  The depth that is left is the measure of the recursion.

## Main definitions

- `Json.value`: reads a value of a shape from the front of bytes.
- `Json.parse`: the document at the front of a text.
- `Json.parseWhole`: the document that makes up a whole text.
-/

namespace ResponseTypes
namespace Json

/-- Reads a value of a shape from the front of bytes. -/
abbrev Reader := Shape → Bytes → Except Fault (Json × Bytes)

/-- Faults seen from one step further up. -/
def within {α : Type} (step : Step) (result : Except Fault α) : Except Fault α :=
  result.mapError (·.within step)

/-! ## Between values -/

/-- The start of an array's next element, or nothing before the closing bracket. -/
def nextItem (first : Bool) (bytes : Bytes) : Except Fault (Option Bytes × Bytes) :=
  match skipBlank bytes with
  | [] => stop .endInArray []
  | b :: rest =>
    if b = 93 then .ok (none, b :: rest)
    else if first then .ok (some (b :: rest), b :: rest)
    else if b = 44 then
      match skipBlank rest with
      | [] => stop .endInValue []
      | b :: rest =>
        if b = 93 then stopAfter .trailingComma (b :: rest) else .ok (some (b :: rest), b :: rest)
    else stopAfter .wantsCommaOrBracket (b :: rest)

/-- The bytes after the quote that opens an object's next key, or nothing before the closing
brace. -/
def nextKey (first : Bool) (bytes : Bytes) : Except Fault (Option Bytes × Bytes) :=
  match skipBlank bytes with
  | [] => stop .endInObject []
  | b :: rest =>
    if b = 125 then .ok (none, b :: rest)
    else if first then
      if b = 34 then .ok (some rest, rest) else stopAfter .wantsKey (b :: rest)
    else if b = 44 then
      match skipBlank rest with
      | [] => stop .endInValue []
      | b :: rest =>
        if b = 34 then .ok (some rest, rest)
        else stopAfter (if b = 125 then .trailingComma else .wantsKey) (b :: rest)
    else stopAfter .wantsCommaOrBrace (b :: rest)

/-- The bytes after the colon that follows a key. -/
def colon (bytes : Bytes) : Except Fault Bytes :=
  match skipBlank bytes with
  | [] => stop .endInObject []
  | b :: rest => if b = 58 then .ok rest else stopAfter .wantsColon (b :: rest)

/-- The bytes after the bracket that closes an array. -/
def closeArray (bytes : Bytes) : Except Fault Bytes :=
  match skipBlank bytes with
  | [] => stop .endInArray []
  | b :: rest =>
    if b = 93 then .ok rest
    else if b = 44 then
      let rest := skipBlank rest
      stopAfter (if rest.head? = some 93 then .trailingComma else .trailingCharacters) rest
    else stopAfter .trailingCharacters (b :: rest)

/-- The bytes after the brace that closes an object, or after white space where there is none. -/
def pastBrace (bytes : Bytes) : Bytes :=
  match skipBlank bytes with
  | [] => []
  | b :: rest => if b = 125 then rest else b :: rest

/-- The next key with the bytes after it, or the bytes before the closing brace. -/
def keyOrEnd (first : Bool) (bytes : Bytes) : Except Fault (Option String × Bytes) :=
  within .unknown do
    match ← nextKey first bytes with
    | (none, rest) => return (none, rest)
    | (some start, _) =>
      let (key, rest) ← text start
      return (some key, rest)

/-! ## Arrays and objects -/

/-- The elements of an array up to its closing bracket.  Each takes a byte or more, so the length of
the text is fuel enough. -/
def arrayItems {α : Type} (read : Bytes → Except Fault (α × Bytes)) (first : Bool) (i : Nat) :
    Nat → Bytes → Except Fault (List α × Bytes)
  | 0, _ => stop .endInArray []
  | fuel + 1, bytes => do
    match ← nextItem first bytes with
    | (none, rest) => return ([], rest.drop 1)
    | (some start, _) =>
      let (item, rest) ← within (.index i) (read start)
      let (items, rest) ← arrayItems read false (i + 1) fuel rest
      return (item :: items, rest)

/-- The entries of an object up to its closing brace, in the order of the text and with repeated
keys. -/
def objectEntries {α : Type} (read : Bytes → Except Fault (α × Bytes)) (first : Bool) :
    Nat → Bytes → Except Fault (List (String × α) × Bytes)
  | 0, _ => stop .endInObject []
  | fuel + 1, bytes => do
    match ← keyOrEnd first bytes with
    | (none, rest) => return ([], rest.drop 1)
    | (some key, rest) =>
      let start ← colon rest
      let (value, rest) ← within (.key key) (read start)
      let (entries, rest) ← objectEntries read false fuel rest
      return ((key, value) :: entries, rest)

/-- A field of a record: its name, whether it must be there, and its shape. -/
abbrev RecordField := String × Bool × Shape

/-- A record written as an array of its fields in order.  Fields that may be missing may be missing
at the end; a further element is a fault. -/
def recordItems (read : Reader) (name : String) (all : List RecordField) (first : Bool) (i : Nat) :
    List RecordField → Bytes → Except Fault (List (String × Json) × Bytes)
  | [], bytes => (closeArray bytes).map ([], ·)
  | (field, required, shape) :: rest, bytes => do
    match ← nextItem first bytes with
    | (none, after) =>
      if required then stop (.wrongLength i (Shape.expectedLength name all)) (after.drop 1)
      else recordItems read name all first (i + 1) rest bytes
    | (some start, _) =>
      let (value, after) ← within (.index i) (read shape start)
      let (entries, after) ← recordItems read name all false (i + 1) rest after
      return ((field, value) :: entries, after)

/-- The first field that must be there and is not. -/
def missingField? (all : List RecordField) (seen : List String) : Option String :=
  (all.find? fun (field, required, _) => required && !seen.contains field).map (·.1)

/-- A record written as an object, up to its closing brace.  A field may come once. -/
def recordEntries (read : Reader) (all : List RecordField) (seen : List String) (first : Bool) :
    Nat → Bytes → Except Fault (List (String × Json) × Bytes)
  | 0, _ => stop .endInObject []
  | fuel + 1, bytes => do
    match ← keyOrEnd first bytes with
    | (none, rest) =>
      match missingField? all seen with
      | some field => stop (.missingField field) (rest.drop 1)
      | none => return ([], rest.drop 1)
    | (some key, rest) =>
      match all.lookup key with
      | none =>
        let start ← colon rest
        let rest ← within (.key key) (skipValue start)
        recordEntries read all seen false fuel rest
      | some (_, shape) =>
        if seen.contains key then stop (.duplicateField key) (pastBrace rest)
        else
          let start ← colon rest
          let (value, rest) ← within (.key key) (read shape start)
          let (entries, rest) ← recordEntries read all (key :: seen) false fuel rest
          return ((key, value) :: entries, rest)

/-! ## Values -/

/-- A value without others in it, if the shape takes it. -/
def taken (shape : Shape) (value : Json) (rest : Bytes) : Except Fault (Json × Bytes) :=
  if shape.takes value then .ok (value, rest)
  else stop (.wrongType (describe value) shape.expected) rest

/-- What follows an opening bracket, with a reader for the elements. -/
def arrayOf (read : Reader) (shape : Shape) (bytes : Bytes) : Except Fault (Json × Bytes) :=
  match shape with
  | .list item => do
    let (items, rest) ← arrayItems (read item) true 0 (bytes.length + 1) bytes
    return (.array items, rest)
  | .record name fields => do
    let (entries, rest) ← recordItems read name fields true 0 fields bytes
    return (.object entries, rest)
  | _ => do
    let (items, rest) ← arrayItems (read .any) true 0 (bytes.length + 1) bytes
    return (.array items, rest)

/-- What follows an opening brace, with a reader for the values. -/
def objectOf (read : Reader) (shape : Shape) (bytes : Bytes) : Except Fault (Json × Bytes) :=
  match shape with
  | .table value => do
    let (entries, rest) ← objectEntries (read value) true (bytes.length + 1) bytes
    return (.object (Keyed.ofList entries), rest)
  | .record _ fields => do
    let (entries, rest) ← recordEntries read fields [] true (bytes.length + 1) bytes
    return (.object entries, rest)
  | _ => do
    let (entries, rest) ← objectEntries (read .any) true (bytes.length + 1) bytes
    return (.object (Keyed.ofList entries), rest)

/-- Whether a shape takes an array. -/
def Shape.takesArray : Shape → Bool
  | any | list _ | record _ _ => true
  | _ => false

/-- Whether a shape takes an object. -/
def Shape.takesObject : Shape → Bool
  | any | table _ | record _ _ => true
  | _ => false

/-- A value at the front of bytes, with a reader for the values inside it unless there are too many
arrays and objects around it already. -/
def valueWith (inner : Option Reader) (shape : Shape) (bytes : Bytes) :
    Except Fault (Json × Bytes) :=
  match skipBlank bytes with
  | [] => stop .endInValue []
  | b :: rest =>
    match Char.ofUInt8 b with
    | 'n' => do taken shape .null (← word "ull".toList rest)
    | 't' => do taken shape (.boolean true) (← word "rue".toList rest)
    | 'f' => do taken shape (.boolean false) (← word "alse".toList rest)
    | '-' => do
      let (n, rest) ← number true rest
      taken shape n rest
    | '"' => do
      let (s, rest) ← text rest
      taken shape (.string s) rest
    | '[' =>
      if shape.takesArray then
        match inner with
        | some read => arrayOf read shape rest
        | none => stopAfter .tooDeep (b :: rest)
      else stop (.wrongType (describe (.array [])) shape.expected) (b :: rest)
    | '{' =>
      if shape.takesObject then
        match inner with
        | some read => objectOf read shape rest
        | none => stopAfter .tooDeep (b :: rest)
      else stop (.wrongType (describe (.object [])) shape.expected) (b :: rest)
    | _ =>
      if isDigit b then do
        let (n, rest) ← number false (b :: rest)
        taken shape n rest
      else stopAfter .wantsValue (b :: rest)

/-- A value at the front of bytes, with at most `depth` arrays and objects nested in each other. -/
def value : Nat → Reader
  | 0 => valueWith none
  | depth + 1 => valueWith (some (value depth))

/-- How deep arrays and objects may be nested. -/
def maxDepth : Nat := 127

/-- The document at the front of a text; whatever follows it is left alone. -/
def parse (shape : Shape) (bytes : Bytes) : Except Fault Json :=
  (value maxDepth shape bytes).map (·.1)

/-- The document that makes up a whole text, with white space around it. -/
def parseWhole (bytes : Bytes) : Except Fault Json := do
  let (document, rest) ← value maxDepth .any bytes
  match skipBlank rest with
  | [] => return document
  | after => stopAfter .trailingCharacters after

end Json
end ResponseTypes
