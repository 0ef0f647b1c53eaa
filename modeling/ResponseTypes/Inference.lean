import ResponseTypes.DateShape
import ResponseTypes.Dialect
import ResponseTypes.Sample

/-!
# Annotations inferred from samples

One sampled value gives one annotation.  The guess is shallow: a sequence is judged by its first
element, a mapping is an object unless its keys are its own indices, and a string is a date when
it has the shape of one.

## Main definitions

- `Field`: a field name with its annotation.
- `Inference`: a dialect and a null policy.
- `Inference.typeOf`: the annotation of a sample.
- `Inference.fields`: the annotated fields of a record, in order.
-/

namespace ResponseTypes

/-- A field of a declaration. -/
structure Field where
  name : String
  type : String
deriving DecidableEq, Repr, Inhabited

/-- How samples are annotated.  One value serves a whole document, so that nulls are treated alike
everywhere. -/
structure Inference where
  dialect : Dialect := .typeScript
  nullPolicy : NullPolicy := .null
deriving DecidableEq, Repr, Inhabited

namespace Inference

mutual

/-- The annotation of a sample. -/
def typeOf (i : Inference) : Sample → String
  | .null => i.dialect.nullType i.nullPolicy
  | .boolean _ => i.dialect.boolean
  | .integer _ => i.dialect.number
  | .double _ => i.dialect.number
  | .text s => if DateShape.isDate s then i.dialect.date else i.dialect.string
  | .sequence items => i.dialect.arrayOf (i.firstItem items)
  | .mapping entries =>
    if Sample.areIndices 0 (Keyed.keys entries) then i.dialect.arrayOf (i.firstEntry entries)
    else i.dialect.object

/-- The annotation of a sequence's elements, told from the first. -/
def firstItem (i : Inference) : List Sample → String
  | [] => i.dialect.unknown
  | first :: _ => i.typeOf first

/-- The annotation of an index-keyed mapping's elements, told from the first. -/
def firstEntry (i : Inference) : List (String × Sample) → String
  | [] => i.dialect.unknown
  | (_, first) :: _ => i.typeOf first

end

/-- The annotated fields of a record, in the order of its keys. -/
def fields (i : Inference) (entries : Keyed Sample) : List Field :=
  entries.map fun (name, value) => ⟨name, i.typeOf value⟩

end Inference
end ResponseTypes
