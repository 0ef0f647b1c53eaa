import ResponseTypes.Proofs.CommentEnds
import ResponseTypes.Proofs.Envelopes
import ResponseTypes.Proofs.FilterRuns
import ResponseTypes.Proofs.WrittenDocuments

/-!
# The identity filter

The filter `.` gives its input back, and a run of it makes one document of a document: the one that
is read from its rendering, which is the same but for the last digits of its doubles.  A declaration
knows only that a number is one, so it is declared as before, and so is a document without a record.

## Main statements

- `Inference.typeOf_mapDoubles`: doubles do not change an annotation.
- `Generation.valueDeclaration_mapDoubles`: nor a declaration.
- `Filter.run_identity`: what a run of the filter makes of a document.
- `Generation.identity_transparent`: payloads are declared alike with the filter and without.
-/

namespace ResponseTypes

open Json (mapDoubles mapItems mapEntries reread)

/-! ## Doubles and declarations -/

theorem Inference.typeOf_mapDoubles (i : Inference) (f : Float → Float) (v : Json) :
    i.typeOf (Sample.ofJson (v.mapDoubles f)) = i.typeOf (Sample.ofJson v) := by
  match v with
  | .null => rfl
  | .boolean _ => rfl
  | .integer _ => rfl
  | .double _ => rfl
  | .string _ => rfl
  | .array [] => rfl
  | .array (first :: rest) => exact congrArg i.dialect.arrayOf (i.typeOf_mapDoubles f first)
  | .object entries =>
    have hfirst : i.firstEntry (Sample.ofEntries (mapEntries f entries)) =
        i.firstEntry (Sample.ofEntries entries) := by
      match entries with
      | [] => rfl
      | (key, value) :: rest => exact i.typeOf_mapDoubles f value
    have hkeys := Generation.keys_ofEntries (mapEntries f entries)
    rw [Json.keys_mapEntries, ← Generation.keys_ofEntries] at hkeys
    rw [mapDoubles, Sample.ofJson, Sample.ofJson, Inference.typeOf, Inference.typeOf, hkeys, hfirst]

namespace Payload

theorem get?_mapEntries (f : Float → Float) (entries : Keyed Json) (key : String) :
    Keyed.get? (mapEntries f entries) key = (Keyed.get? entries key).map (mapDoubles f) := by
  induction entries with
  | nil => rfl
  | cons entry rest ih =>
    rw [mapEntries, Keyed.get?, Keyed.get?, ih]
    split_ifs <;> rfl

theorem firstRecord_mapItems (f : Float → Float) (items : List Json) (ifEmpty ifOther : Defect) :
    firstRecord (mapItems f items) ifEmpty ifOther =
      (firstRecord items ifEmpty ifOther).map (mapEntries f) := by
  cases items with
  | nil => rfl
  | cons first rest => cases first <;> rfl

/-- A document with other doubles has its record with these doubles, or the same defect. -/
theorem record_mapDoubles (f : Float → Float) (document : Json) :
    record (document.mapDoubles f) = (record document).map (mapEntries f) := by
  cases document with
  | object entries =>
    rw [mapDoubles, record, record, get?_mapEntries]
    cases hdata : Keyed.get? entries "data" with
    | none => rfl
    | some data =>
      cases data with
      | array items => exact firstRecord_mapItems f items _ _
      | _ => rfl
  | array items => exact firstRecord_mapItems f items _ _
  | _ => rfl

end Payload

namespace Generation

theorem fields_mapEntries (i : Inference) (f : Float → Float) (record : Keyed Json) :
    i.fields (Sample.ofEntries (mapEntries f record)) = i.fields (Sample.ofEntries record) := by
  rw [fields_ofEntries, fields_ofEntries]
  induction record with
  | nil => rfl
  | cons entry rest ih =>
    have hfield : Field.mk entry.1 (i.typeOf (Sample.ofJson (entry.2.mapDoubles f))) =
        Field.mk entry.1 (i.typeOf (Sample.ofJson entry.2)) := by
      rw [i.typeOf_mapDoubles]
    rw [mapEntries, List.map_cons, List.map_cons, ih]
    exact congrArg (· :: _) hfield

/-- A document with other doubles is declared alike, or refused for the same reason. -/
theorem valueDeclaration_mapDoubles (settings : Settings) (name origin : String)
    (f : Float → Float) (document : Json) :
    valueDeclaration settings name origin (document.mapDoubles f) =
      valueDeclaration settings name origin document := by
  rw [valueDeclaration, valueDeclaration, Payload.record_mapDoubles]
  cases Payload.record document with
  | error defect => rfl
  | ok record =>
    simp only [Except.map, Except.mapError, bind, Except.bind, fields_mapEntries]

end Generation

/-! ## Runs of the filter -/

namespace Filter

/-- Whether a term is the one that gives its input. -/
def isIdentity : Term → Bool
  | .identity => true
  | _ => false

theorem read_identity : read "." = .ok .identity := by
  have hterm : (read ".").toOption.any isIdentity = true := by decide +kernel
  obtain ⟨t, hread, ht⟩ := exists_eq_ok hterm
  unfold isIdentity at ht
  split at ht
  · exact hread
  · cases ht

/-- The filter gives its input and nothing else. -/
theorem gives_identity (now : Int) (depth : Nat) (input : Datum) :
    (Term.run now (depth + 1) [] .identity input).Gives [.ok input] :=
  .emit _ .done

/-- A run makes of a document the one that is read from its rendering. -/
theorem run_identity (now : Int) {document : Json} (h : document.Bounded Json.maxDepth) :
    run now "." document = .ok (.ok [document.mapDoubles reread]) := by
  have hrendered : Json.Document (document.mapDoubles reread)
      (Datum.ofJson document).render.toUTF8.toList :=
    ⟨[], _, [], nofun, Json.text_render h, nofun, (List.append_nil _).symm⟩
  have hdocuments := documents_of_reads (gives_identity now 999999 (.ofJson document))
    (.cons (.value (Json.parseWhole_eq_ok.2 hrendered)) .nil)
  rw [run, read_identity]
  exact hdocuments

end Filter

namespace Payload

variable {session : Session} {path : String} {documents : List Json}

/-- Without a filter, what loads is the document in the file. -/
theorem exists_holds_of_load (h : (session.perform (load path none)).1 = .ok (.ok documents)) :
    ∃ document, Holds session.files path document ∧ documents = [document] := by
  rw [(load_yields path none session.files session.now session.stamp).perform_fst] at h
  by_cases hloads : Loads session.files path
  · obtain ⟨document, hholds⟩ := hloads
    rw [ofContent_of_holds hholds] at h
    exact ⟨document, hholds, (Except.ok.inj (Except.ok.inj h)).symm⟩
  · obtain ⟨failure, hfailure⟩ := ofContent_of_not_loads hloads session.now
    rw [hfailure] at h
    cases h

/-- What the file of a payload holds is bounded. -/
theorem Holds.bounded {files : Files} {document : Json} (h : Holds files path document) :
    document.Bounded Json.maxDepth := by
  obtain ⟨content, -, hparse⟩ := h
  obtain ⟨rest, before, text, -, htext, -⟩ := Json.parse_eq_ok.1 hparse
  exact Json.bounded_of_text htext

end Payload

namespace Generation

/-- The filter `.` is transparent.  A payload that loads without a filter has one document, and with
the filter it loads again, leaves the session as it was, and has one document again, which is the
first with its doubles written and read.  Whatever the settings are, and whatever name and origin
they are given, the two are declared alike: both are refused for the same reason, or both have one
declaration, with the same name and the same fields and annotations in the same order. -/
theorem identity_transparent {session : Session} {path : String} {documents : List Json}
    (hload : (session.perform (Payload.load path none)).1 = .ok (.ok documents)) :
    ∃ document, documents = [document] ∧
      session.perform (Payload.load path (some ".")) =
        (.ok (.ok [document.mapDoubles reread]), session) ∧
      ∀ (settings : Settings) (name origin : String),
        valueDeclaration settings name origin (document.mapDoubles reread) =
          valueDeclaration settings name origin document := by
  obtain ⟨document, hholds, hdocuments⟩ := Payload.exists_holds_of_load hload
  refine ⟨document, hdocuments, ?_, fun settings name origin =>
    valueDeclaration_mapDoubles settings name origin reread document⟩
  rw [Payload.perform_load_filter hholds, Filter.run_identity _ hholds.bounded]

/-- The payload `{"kg":1.1}`, in a session of its own. -/
def weighed : Session where
  files := {
    entries := [(["item.json".toList], .file [123, 34, 107, 103, 34, 58, 49, 46, 49, 125] 0)]
    home := [] }
  now := 7200000000000
  stamp := "2024-01-01 02:00:00"

/-- Whether a document has one double and nothing else, under a key. -/
def isDoubleUnder (key : String) : Json → Bool
  | .object [(found, .double _)] => found == key
  | _ => false

theorem exists_of_isDoubleUnder {key : String} {document : Json}
    (h : isDoubleUnder key document = true) : ∃ x, document = .object [(key, .double x)] := by
  unfold isDoubleUnder at h
  split at h
  · rw [eq_of_beq h]
    exact ⟨_, rfl⟩
  · cases h

/-- A double is declared as a number, with the filter and without. -/
theorem identity_transparent_weighed :
    ∃ document found,
      (weighed.perform (Payload.load "item.json" none)).1 = .ok (.ok [document]) ∧
      weighed.perform (Payload.load "item.json" (some ".")) = (.ok (.ok [found]), weighed) ∧
      valueDeclaration {} "item" "item.json" found = .ok {
        name := "ItemType", fields := [⟨"kg", "number"⟩], source := some "item.json" } := by
  have hread : weighed.files.read "item.json" =
      .ok [123, 34, 107, 103, 34, 58, 49, 46, 49, 125] := by
    decide +kernel
  have hdocument : (Json.parse .any [123, 34, 107, 103, 34, 58, 49, 46, 49, 125]).toOption.any
      (isDoubleUnder "kg") = true := by
    decide +kernel
  obtain ⟨document, hparse, hdouble⟩ := exists_eq_ok hdocument
  obtain ⟨x, rfl⟩ := exists_of_isDoubleUnder hdouble
  have hholds : Payload.Holds weighed.files "item.json" (.object [("kg", .double x)]) :=
    ⟨_, hread, hparse⟩
  have hload := (Payload.load_yields "item.json" none weighed.files weighed.now
    weighed.stamp).perform_fst
  rw [Payload.ofContent_of_holds hholds] at hload
  obtain ⟨document, hdocuments, hfound, halike⟩ := identity_transparent hload
  obtain rfl := List.singleton_inj.1 hdocuments
  refine ⟨_, _, hload, hfound, (halike {} "item" "item.json").trans ?_⟩
  have hname : Naming.typeName "item" ({} : Settings).valueSuffix = "ItemType" := by
    decide +kernel
  rw [valueDeclaration, hname]
  rfl

end Generation
end ResponseTypes
