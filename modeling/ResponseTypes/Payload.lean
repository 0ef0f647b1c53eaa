import ResponseTypes.Json.Value

/-!
# The record of a response

A response is often an envelope: the record stands under `data`, alone or as the first of a list,
or the response is a list of records itself.  The record to describe is looked for in these places
before the response as a whole is taken for it.

## Main definitions

- `Payload.record`: the record of a response, or why it has none.
-/

namespace ResponseTypes
namespace Payload

/-- Why a response has no record. -/
inductive Defect where
  | dataItemsNotObjects
  | dataEmpty
  | itemsNotObjects
  | empty
  | scalar
deriving DecidableEq, Repr, Inhabited

/-- The defect in words. -/
def Defect.message : Defect → String
  | dataItemsNotObjects => "`data` items are not objects"
  | dataEmpty => "`data` is empty"
  | itemsNotObjects => "array items are not objects"
  | empty => "array is empty"
  | scalar => "payload is not an object or array"

/-- The first of a list if it is an object. -/
def firstRecord (items : List Json) (ifEmpty ifOther : Defect) : Except Defect (Keyed Json) :=
  match items with
  | [] => .error ifEmpty
  | .object entries :: _ => .ok entries
  | _ :: _ => .error ifOther

/-- The entries of the record of a response. -/
def record : Json → Except Defect (Keyed Json)
  | .object entries =>
    match Keyed.get? entries "data" with
    | some (.array items) => firstRecord items .dataEmpty .dataItemsNotObjects
    | some (.object data) => .ok data
    | _ => .ok entries
  | .array items => firstRecord items .empty .itemsNotObjects
  | _ => .error .scalar

end Payload
end ResponseTypes
