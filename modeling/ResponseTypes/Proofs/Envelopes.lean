import ResponseTypes.Proofs.ExcludedFields

/-!
# Records in envelopes

The record of a response stands alone, as the first of a list, or in an object under `data`, where
again it is alone or the first of a list.  These are all the documents that have the record, and an
object has itself for its record only if nothing under `data` is taken for one.  What else such a
document holds, before the record or behind it, is not looked at, and only one envelope is opened:
a record that is an envelope of another is a record with a field `data`.

A payload is declared by its record alone, so all these documents are declared alike.

## Main definitions

- `Payload.Wraps`: the documents that have a record, by the place where it stands.

## Main statements

- `Payload.record_eq_ok`: these are the documents with this record.
- `Generation.valueDeclaration_of_wraps`: they are declared alike.
-/

namespace ResponseTypes

namespace Keyed

variable {α : Type}

theorem get?_append_cons {before : Keyed α} {key : String} (hbefore : key ∉ before.keys)
    (value : α) (after : Keyed α) : get? (before ++ (key, value) :: after) key = some value := by
  induction before with
  | nil => rw [List.nil_append, get?, if_pos rfl]
  | cons first before ih =>
    obtain ⟨hfirst, hrest⟩ := not_or.1 (mt List.mem_cons.2 hbefore)
    rw [List.cons_append, get?, if_neg (Ne.symm hfirst), ih hrest]

/-- The value under a key is that of its first entry. -/
theorem get?_eq_some_iff {entries : Keyed α} {key : String} {value : α} :
    entries.get? key = some value ↔
      ∃ before after, entries = before ++ (key, value) :: after ∧ key ∉ Keyed.keys before := by
  constructor
  · intro h
    induction entries with
    | nil => cases h
    | cons first rest ih =>
      rw [get?] at h
      split_ifs at h with hfirst
      · obtain rfl := Option.some.inj h
        exact ⟨[], rest, by rw [← hfirst, List.nil_append], List.not_mem_nil⟩
      · obtain ⟨before, after, rfl, hbefore⟩ := ih h
        exact ⟨first :: before, after, rfl,
          List.not_mem_cons_of_ne_of_not_mem (Ne.symm hfirst) hbefore⟩
  · rintro ⟨before, after, rfl, hbefore⟩
    exact get?_append_cons hbefore value after

end Keyed

namespace Payload

/-- A document has a record: under `data`, as the first of a list under `data`, as the first of a
list, or by being the record. -/
inductive Wraps (record : Keyed Json) : Json → Prop
  | member (before after : Keyed Json) (hbefore : "data" ∉ before.keys) :
      Wraps record (.object (before ++ ("data", .object record) :: after))
  | members (before after : Keyed Json) (items : List Json) (hbefore : "data" ∉ before.keys) :
      Wraps record (.object (before ++ ("data", .array (.object record :: items)) :: after))
  | list (items : List Json) : Wraps record (.array (.object record :: items))
  | bare (harray : ∀ items, Keyed.get? record "data" ≠ some (.array items))
      (hobject : ∀ data, Keyed.get? record "data" ≠ some (.object data)) :
      Wraps record (.object record)

theorem firstRecord_eq_ok {items : List Json} {ifEmpty ifOther : Defect} {record : Keyed Json} :
    firstRecord items ifEmpty ifOther = .ok record ↔ ∃ rest, items = .object record :: rest := by
  constructor
  · intro h
    rw [firstRecord.eq_def] at h
    split at h
    · cases h
    · rw [Except.ok.inj h]
      exact ⟨_, rfl⟩
    · cases h
  · rintro ⟨rest, rfl⟩
    rfl

/-- The documents with a record are those that wrap it. -/
theorem record_eq_ok {document : Json} {found : Keyed Json} :
    record document = .ok found ↔ Wraps found document := by
  constructor
  · intro h
    rw [record.eq_def] at h
    split at h
    · split at h
      · rename_i items hdata
        obtain ⟨rest, rfl⟩ := firstRecord_eq_ok.1 h
        obtain ⟨before, after, rfl, hbefore⟩ := Keyed.get?_eq_some_iff.1 hdata
        exact .members before after rest hbefore
      · rename_i data hdata
        obtain rfl := Except.ok.inj h
        obtain ⟨before, after, rfl, hbefore⟩ := Keyed.get?_eq_some_iff.1 hdata
        exact .member before after hbefore
      · rename_i harray hobject
        obtain rfl := Except.ok.inj h
        exact .bare harray hobject
    · obtain ⟨rest, rfl⟩ := firstRecord_eq_ok.1 h
      exact .list rest
    · cases h
  · intro h
    cases h with
    | member before after hbefore =>
      rw [record, Keyed.get?_append_cons hbefore]
    | members before after items hbefore =>
      rw [record, Keyed.get?_append_cons hbefore]
      rfl
    | list items => rfl
    | bare harray hobject =>
      rw [record]
      split
      · exact absurd ‹_› (harray _)
      · exact absurd ‹_› (hobject _)
      · rfl

end Payload

namespace Generation

open Payload

variable {settings : Settings}

/-- The fields of a record: each key with the annotation of what stands under it. -/
theorem fields_ofEntries (i : Inference) (record : Keyed Json) :
    i.fields (Sample.ofEntries record) =
      record.map fun (key, value) => ⟨key, i.typeOf (Sample.ofJson value)⟩ := by
  rw [Inference.fields, Sample.ofEntries_eq_map, List.map_map]
  rfl

/-- Envelopes do not change a declaration.  The documents whose member `data` is a record, or a list
that starts with it, the lists that start with it, and the record itself unless there is an object
or a list under its `data`, have one declaration, whatever else they hold.  Its name is made from
the name of the source, and its fields are the keys of the record, once each and in order, with the
annotations that are inferred for what stands under them. -/
theorem valueDeclaration_of_wraps (settings : Settings) (name origin : String) (record : Keyed Json)
    (hkeys : record.keys.Nodup) :
    ∃ declaration : Declaration,
      declaration.name = Naming.typeName name settings.valueSuffix ∧
      declaration.fields = record.map (fun (key, value) =>
        ⟨key, settings.inference.typeOf (Sample.ofJson value)⟩) ∧
      declaration.fields.map (·.name) = record.keys ∧ (declaration.fields.map (·.name)).Nodup ∧
      ∀ document, Wraps record document →
        valueDeclaration settings name origin document = .ok declaration := by
  have hnames : (settings.inference.fields (Sample.ofEntries record)).map (·.name) =
      record.keys := by
    rw [fields_ofEntries, List.map_map]
    rfl
  refine ⟨{ name := Naming.typeName name settings.valueSuffix
            fields := settings.inference.fields (Sample.ofEntries record)
            source := some origin }, rfl, fields_ofEntries _ _, hnames, hnames ▸ hkeys, ?_⟩
  intro document hdocument
  exact valueDeclaration_eq_ok.2 ⟨record, record_eq_ok.2 hdocument, rfl⟩

/-- A record with a text under `data`, bare and in an envelope with further members. -/
theorem valueDeclaration_of_wraps_bare :
    (Keyed.keys [("id", Json.integer 7), ("data", Json.string "x")]).Nodup ∧
      valueDeclaration {} "user" "user.json"
          (.object [("id", .integer 7), ("data", .string "x")]) =
        valueDeclaration {} "user" "user.json"
          (.object [("page", .integer 1),
            ("data", .array [.object [("id", .integer 7), ("data", .string "x")], .null])]) := by
  refine ⟨by decide, ?_⟩
  obtain ⟨declaration, -, -, -, -, hwraps⟩ :=
    valueDeclaration_of_wraps {} "user" "user.json" [("id", .integer 7), ("data", .string "x")]
      (by decide)
  have hbare := hwraps _ (.bare (by simp [Keyed.get?]) (by simp [Keyed.get?]))
  have hmembers := hwraps _ (.members [("page", .integer 1)] [] [.null] (by decide))
  exact hbare.trans hmembers.symm

end Generation
end ResponseTypes
