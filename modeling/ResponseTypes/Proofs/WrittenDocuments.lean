import ResponseTypes.Proofs.WholeDocuments
import ResponseTypes.Proofs.WrittenDoubles
import ResponseTypes.Proofs.WrittenStrings

/-!
# Written documents

A filter writes a value as JSON text, and the text is read again.  For a value that is a document
nothing is lost on the way but digits of its doubles: each of them is written with the fewest digits
that tell it from its neighbours, and the reader, which calculates in doubles, may come to a
neighbour after all.

What the reader can give is bounded.  Its integers have 64 bits, its doubles are finite, each key of
an object comes once, and arrays and objects are nested so deep at most.  These bounds are all that
writing needs: a bounded document has a written form that is read within the same bounds.

## Main definitions

- `Json.Bounded`: the documents that a reader can give.
- `Json.mapDoubles`: a document with other doubles.
- `Json.reread`: what a double is after it has been written and read.

## Main statements

- `Json.bounded_of_text`: a document with a written form is bounded.
- `Json.text_render`: a bounded document is read back from its rendering, up to its doubles.
-/

namespace ResponseTypes

namespace Keyed

variable {α : Type}

theorem mem_of_mem_insert {entries : Keyed α} {key : String} {value : α} {entry : String × α}
    (h : entry ∈ entries.insert key value) : entry ∈ entries ∨ entry = (key, value) := by
  induction entries with
  | nil => exact .inr (List.mem_singleton.1 h)
  | cons first rest ih =>
    rw [insert] at h
    split_ifs at h with hfirst
    · rcases List.mem_cons.1 h with rfl | hmem
      · exact .inr (by rw [hfirst])
      · exact .inl (List.mem_cons_of_mem _ hmem)
    · rcases List.mem_cons.1 h with rfl | hmem
      · exact .inl List.mem_cons_self
      · exact (ih hmem).imp_left (List.mem_cons_of_mem _)

/-- Each entry is one of those that were inserted. -/
theorem mem_of_mem_ofList {more : List (String × α)} {entry : String × α}
    (h : entry ∈ ofList more) : entry ∈ more := by
  induction more using List.reverseRecOn with
  | nil => cases h
  | append_singleton more last ih =>
    have hstep : ofList (more ++ [last]) = (ofList more).insert last.1 last.2 :=
      List.foldl_concat _ _ _ _
    rcases mem_of_mem_insert (hstep ▸ h) with hmem | rfl
    · exact List.mem_append_left _ (ih hmem)
    · exact List.mem_append_right _ (List.mem_singleton_self _)

theorem insert_of_notMem {entries : Keyed α} {key : String} (h : key ∉ entries.keys) (value : α) :
    entries.insert key value = entries ++ [(key, value)] := by
  induction entries with
  | nil => rfl
  | cons first rest ih =>
    obtain ⟨hfirst, hrest⟩ := not_or.1 (mt List.mem_cons.2 h)
    rw [insert, if_neg (Ne.symm hfirst), ih hrest, List.cons_append]

/-- Entries without a repeated key are kept as they are. -/
theorem ofList_of_nodup {more : List (String × α)} (h : (Keyed.keys more).Nodup) :
    ofList more = more := by
  induction more using List.reverseRecOn with
  | nil => rfl
  | append_singleton more last ih =>
    rw [keys, List.map_append, List.map_singleton, List.nodup_append] at h
    have hstep : ofList (more ++ [last]) = (ofList more).insert last.1 last.2 :=
      List.foldl_concat _ _ _ _
    rw [hstep, ih h.1, insert_of_notMem]
    exact fun hmem => h.2.2 last.1 hmem last.1 (List.mem_singleton_self _) rfl

end Keyed

namespace Json

/-! ## What a reader can give -/

/-- A document with integers of 64 bits, finite doubles, no repeated keys, and at most `depth`
arrays and objects nested in each other. -/
inductive Bounded : Nat → Json → Prop
  | null {depth : Nat} : Bounded depth .null
  | boolean {depth : Nat} (b : Bool) : Bounded depth (.boolean b)
  | integer {depth : Nat} {n : Int} (hlow : -(2 ^ 63) ≤ n) (hhigh : n < 2 ^ 64) :
      Bounded depth (.integer n)
  | double {depth : Nat} {x : Float} (h : x.isFinite = true) : Bounded depth (.double x)
  | string {depth : Nat} (s : String) : Bounded depth (.string s)
  | array {depth : Nat} {items : List Json} (h : ∀ item ∈ items, Bounded depth item) :
      Bounded (depth + 1) (.array items)
  | object {depth : Nat} {entries : Keyed Json} (hkeys : entries.keys.Nodup)
      (h : ∀ entry ∈ entries, Bounded depth entry.2) : Bounded (depth + 1) (.object entries)

theorem isFinite_signed {x : Float} (h : x.isFinite = true) (negative : Bool) :
    (signed negative x).isFinite = true := by
  rw [signed]
  split_ifs
  · exact Double.isFinite_neg h
  · exact h

variable {depth : Nat}

theorem bounded_integerOrDouble {n : Nat} (hlt : n < 2 ^ 64) (negative : Bool) :
    Bounded depth (integerOrDouble negative n) := by
  rw [integerOrDouble]
  split_ifs with hpositive hlarge
  · exact .integer (by omega) (by exact_mod_cast hlt)
  · exact .double (Double.isFinite_neg (within_ofSignificand hlt).isFinite)
  · simp only [Bool.or_eq_true, decide_eq_true_eq, not_or] at hlarge
    exact .integer (by omega) (by omega)

theorem bounded_of_scaledBy? {negative : Bool} {significand : Nat} {exponent : Int}
    {e? : Option Exponent} {v : Json} (hlt : significand < 2 ^ 64)
    (h : scaledBy? negative significand exponent e? = some v) : Bounded depth v := by
  have hscaled : ∀ {exponent : Int}, (scaled? significand exponent).map
      (fun x => Json.double (signed negative x)) = some v → Bounded depth v := by
    intro exponent h
    obtain ⟨x, hx, rfl⟩ := Option.map_eq_some_iff.1 h
    exact .double (isFinite_signed (isFinite_of_scaled? hlt hx) negative)
  cases e? with
  | none => exact hscaled h
  | some e =>
    rw [scaledBy?] at h
    simp only at h
    split_ifs at h
    · exact hscaled h
    · exact hscaled h
    · obtain rfl := Option.some.inj h
      exact .double (isFinite_signed (by decide +kernel) negative)

/-- The value of a numeral is bounded. -/
theorem bounded_of_value? {n : Numeral} {negative : Bool} {v : Json}
    (h : n.value? negative = some v) : Bounded depth v := by
  have hwhole := (@takeDigits_bounds 0 (by decide) n.whole).1
  rw [Numeral.value?] at h
  simp only at h
  split_ifs at h
  · obtain rfl := Option.some.inj h
    exact bounded_integerOrDouble hwhole negative
  · exact bounded_of_scaledBy? (takeDigits_bounds hwhole).1 h

theorem Listed.exists_of_mem {α : Type} {close : UInt8} {item : α → Bytes → Prop} {first : Bool}
    {items : List α} {text : Bytes} (h : Listed close item first items text) :
    ∀ x ∈ items, ∃ written, item x written := by
  induction h with
  | done => exact nofun
  | more _ hitem _ ih => exact List.forall_mem_cons.2 ⟨⟨_, hitem⟩, ih⟩

theorem bounded_of_textWith {inner : Option (Json → Bytes → Prop)} {bound : Nat}
    (hinner : ∀ value ∈ inner, ∃ depth, bound = depth + 1 ∧
      ∀ v text, value v text → Bounded depth v)
    {v : Json} {text : Bytes} (h : TextWith inner v text) : Bounded bound v := by
  cases h with
  | null => exact .null
  | yes => exact .boolean true
  | no => exact .boolean false
  | positive _ hvalue => exact bounded_of_value? hvalue
  | negative _ hvalue => exact bounded_of_value? hvalue
  | string _ => exact .string _
  | array hvalue hlisted =>
    obtain ⟨depth, rfl, hbounded⟩ := hinner _ hvalue
    refine .array fun item hitem => ?_
    obtain ⟨written, hwritten⟩ := hlisted.exists_of_mem item hitem
    exact hbounded item written hwritten
  | object hvalue hlisted =>
    obtain ⟨depth, rfl, hbounded⟩ := hinner _ hvalue
    refine .object (Keyed.nodup_keys_ofList _) fun entry hentry => ?_
    obtain ⟨written, hwritten⟩ := hlisted.exists_of_mem entry (Keyed.mem_of_mem_ofList hentry)
    cases hwritten with
    | pair _ _ _ hv => exact hbounded _ _ hv

/-- A document with a written form is bounded. -/
theorem bounded_of_text {v : Json} {text : Bytes} (h : Text depth v text) : Bounded depth v := by
  induction depth generalizing v text with
  | zero => exact bounded_of_textWith (fun _ hvalue => absurd hvalue (Option.not_mem_none _)) h
  | succ depth ih =>
    refine bounded_of_textWith ?_ h
    rintro _ ⟨⟩
    exact ⟨depth, rfl, fun _ _ hv => ih hv⟩

/-! ## Doubles that are written and read -/

mutual

/-- A document with other doubles. -/
def mapDoubles (f : Float → Float) : Json → Json
  | .double x => .double (f x)
  | .array items => .array (mapItems f items)
  | .object entries => .object (mapEntries f entries)
  | v => v

/-- The documents of a list with other doubles. -/
def mapItems (f : Float → Float) : List Json → List Json
  | [] => []
  | item :: rest => item.mapDoubles f :: mapItems f rest

/-- The documents under their keys with other doubles. -/
def mapEntries (f : Float → Float) : List (String × Json) → List (String × Json)
  | [] => []
  | (key, value) :: rest => (key, value.mapDoubles f) :: mapEntries f rest

end

theorem keys_mapEntries (f : Float → Float) (entries : Keyed Json) :
    Keyed.keys (mapEntries f entries) = entries.keys := by
  induction entries with
  | nil => rfl
  | cons entry rest ih =>
    rw [mapEntries, Keyed.keys, List.map_cons, ← Keyed.keys, ih]
    rfl

/-- What a double is after it has been written and read. -/
def reread (x : Float) : Float :=
  match parseWhole (ascii (doubleStyle.write x)) with
  | .ok (.double y) => y
  | _ => x

/-- A finite double is written as what it will be. -/
theorem textWith_write {x : Float} (h : x.isFinite = true)
    (inner : Option (Json → Bytes → Prop)) :
    TextWith inner (.double (reread x)) (ascii (doubleStyle.write x)) := by
  obtain ⟨y, hy⟩ := exists_textWith_write h
  have hdocument : Document (.double y) (ascii (doubleStyle.write x)) :=
    ⟨[], _, [], nofun, hy _, nofun, (List.append_nil _).symm⟩
  have hreread : reread x = y := by rw [reread, parseWhole_eq_ok.2 hdocument]
  rw [hreread]
  exact hy inner

/-! ## Documents that are written -/

theorem blank_nil : Blank [] :=
  nofun

section Listed

variable {α : Type} {close : UInt8} {item : α → Bytes → Prop} {items : List α} {texts : List String}

/-- Texts that each follow a comma are the rest of a list. -/
theorem listed_flatMap (h : List.Forall₂ (fun x text => item x text.toUTF8.toList) items texts) :
    Listed close item false items
      (texts.flatMap (fun text => ",".toUTF8.toList ++ text.toUTF8.toList) ++ [close]) := by
  induction h with
  | nil => exact .done blank_nil
  | @cons x text items texts hx hrest ih =>
    have hcomma : ",".toUTF8.toList = [44] := toList_toUTF8_literal (by decide)
    have hmore := Listed.more (.next blank_nil blank_nil) hx ih
    rw [List.nil_append, ← hcomma] at hmore
    rwa [List.flatMap_cons, List.append_assoc, List.append_assoc]

/-- Texts between commas are a list up to the closing byte. -/
theorem listed_intercalate
    (h : List.Forall₂ (fun x text => item x text.toUTF8.toList) items texts) :
    Listed close item true items ((",".intercalate texts).toUTF8.toList ++ [close]) := by
  cases h with
  | nil =>
    have hempty : (",".intercalate []).toUTF8.toList = [] := toList_toUTF8_literal rfl
    rw [hempty]
    exact .done blank_nil
  | cons hx hrest =>
    have hmore := Listed.more (.first blank_nil) hx (@listed_flatMap _ close _ _ _ hrest)
    rwa [toList_toUTF8_intercalate, List.append_assoc]

end Listed

theorem forall₂_renderItems {f : Float → Float} {Q : Json → String → Prop} {items : List Json}
    (h : ∀ item ∈ items, Q (item.mapDoubles f) (Datum.ofJson item).render) :
    List.Forall₂ Q (mapItems f items) (Datum.renderItems (Datum.ofItems items)) := by
  induction items with
  | nil => exact .nil
  | cons item items ih =>
    obtain ⟨hitem, hitems⟩ := List.forall_mem_cons.1 h
    exact .cons hitem (ih hitems)

theorem forall₂_renderEntries {f : Float → Float} {Q : String × Json → String → Prop}
    {entries : List (String × Json)}
    (h : ∀ entry ∈ entries, Q (entry.1, entry.2.mapDoubles f)
      (Datum.quote entry.1 ++ ":" ++ (Datum.ofJson entry.2).render)) :
    List.Forall₂ Q (mapEntries f entries) (Datum.renderEntries (Datum.ofEntries entries)) := by
  induction entries with
  | nil => exact .nil
  | cons entry entries ih =>
    obtain ⟨hentry, hentries⟩ := List.forall_mem_cons.1 h
    exact .cons hentry (ih hentries)

/-- A key, a colon and the text of a value. -/
theorem member_render {value : Json → Bytes → Prop} {v : Json} {text : String}
    (h : value v text.toUTF8.toList) (key : String) :
    Member value (key, v) (Datum.quote key ++ ":" ++ text).toUTF8.toList := by
  obtain ⟨written, hwritten, hbytes⟩ := stringText_quote key
  have hcolon : ":".toUTF8.toList = [58] := toList_toUTF8_literal (by decide)
  have hmember := Member.pair hwritten blank_nil blank_nil h
  rw [toList_toUTF8_append, toList_toUTF8_append, hbytes, hcolon]
  simpa using hmember

theorem text_eq_textWith (depth : Nat) : ∃ inner, Text depth = TextWith inner := by
  cases depth with
  | zero => exact ⟨_, rfl⟩
  | succ depth => exact ⟨_, rfl⟩

/-- A bounded document is read back from its rendering, up to its doubles. -/
theorem text_render {v : Json} (h : Bounded depth v) :
    Text depth (v.mapDoubles reread) (Datum.ofJson v).render.toUTF8.toList := by
  induction h with
  | @null depth =>
    obtain ⟨inner, htext⟩ := text_eq_textWith depth
    rw [htext, Datum.ofJson, Datum.render, toList_toUTF8_literal (by decide)]
    exact .null
  | @boolean depth b =>
    obtain ⟨inner, htext⟩ := text_eq_textWith depth
    rw [htext, Datum.ofJson]
    cases b with
    | true =>
      rw [Datum.render, toList_toUTF8_literal (by decide)]
      exact .yes
    | false =>
      rw [Datum.render, toList_toUTF8_literal (by decide)]
      exact .no
  | @integer depth n hlow hhigh =>
    obtain ⟨inner, htext⟩ := text_eq_textWith depth
    have hrender : (Datum.ofJson (.integer n)).render = toString n := by
      rw [Datum.ofJson]
      split_ifs <;> rfl
    rw [htext, hrender]
    exact textWith_integer hlow hhigh inner
  | @double depth x hx =>
    obtain ⟨inner, htext⟩ := text_eq_textWith depth
    rw [htext, Datum.ofJson, Datum.render, toList_toUTF8_write]
    exact textWith_write hx inner
  | @string depth s =>
    obtain ⟨inner, htext⟩ := text_eq_textWith depth
    obtain ⟨written, hwritten, hbytes⟩ := stringText_quote s
    rw [htext, Datum.ofJson, Datum.render, hbytes]
    exact .string hwritten
  | @array depth items _ ih =>
    have hopen : "[".toUTF8.toList = [91] := toList_toUTF8_literal (by decide)
    have hclose : "]".toUTF8.toList = [93] := toList_toUTF8_literal (by decide)
    rw [Datum.ofJson, Datum.render, toList_toUTF8_append, toList_toUTF8_append, hopen, hclose,
      List.append_assoc]
    exact .array rfl (listed_intercalate (forall₂_renderItems ih))
  | @object depth entries hkeys _ ih =>
    have hopen : "\x7b".toUTF8.toList = [123] := toList_toUTF8_literal (by decide)
    have hclose : "\x7d".toUTF8.toList = [125] := toList_toUTF8_literal (by decide)
    have hmembers : List.Forall₂ (fun member text => Member (Text depth) member text.toUTF8.toList)
        (mapEntries reread entries) (Datum.renderEntries (Datum.ofEntries entries)) :=
      forall₂_renderEntries fun entry hentry => member_render (ih entry hentry) entry.1
    have hobject := @TextWith.object (some (Text depth)) _ _ _ rfl (listed_intercalate hmembers)
    rw [Keyed.ofList_of_nodup (keys_mapEntries reread entries ▸ hkeys)] at hobject
    rw [Datum.ofJson, Datum.render, toList_toUTF8_append, toList_toUTF8_append, hopen, hclose,
      List.append_assoc]
    exact hobject

end Json
end ResponseTypes
