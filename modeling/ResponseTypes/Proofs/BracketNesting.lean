import ResponseTypes.Filter.Order
import ResponseTypes.Proofs.PlainRuns
import ResponseTypes.Proofs.WrittenDocuments

/-!
# Nested brackets in written values

A filter can nest values as deep as it likes, and what it puts out is written and read again.  The
reader allows so many arrays and objects inside each other and no more.  That it thereby bounds the
nesting of what was written needs an argument, since the reader sees bytes and no values: an array
could have gone into a number that is written as it stands, or have been closed early by a bracket
in a text.

The bytes themselves say how deep a text is nested.  `peak` runs over them and counts brackets and
braces, but not those between quotes.  A text that `Passes` at a height leaves the count where it
found it and takes it so far up in between, whatever stands around the text; heights add up as the
text is put together, by `Passes.append` and `Passes.brackets`.  Each side is then one induction: a
text of the grammar with so many arrays and objects inside each other passes at no greater height
(`nests_text`), and a plain value is written as a text that passes at exactly its depth
(`passes_render`).  Heights are unique, so that a value whose text is read is no deeper than reading
allows.

## Main definitions

- `Nesting.peak`: the greatest number of open brackets and braces along bytes.
- `Nesting.Passes`: bytes that open and close brackets in pairs, with the height they come to.
- `Nesting.Nests`: bytes that pass at a bounded height.

## Main statements

- `Nesting.nests_text`: what the grammar allows.
- `Nesting.passes_render`: what is written.
- `Nesting.depth_le_of_parseWhole`: a value that is written and read is nested no deeper than
  reading allows.
-/

namespace ResponseTypes
namespace Nesting

/-! ## Open brackets -/

/-- Where a byte of a JSON text stands. -/
inductive Place where
  | outside
  /-- between quotes -/
  | inside
  /-- between quotes, after a backslash -/
  | escaped

/-- Where the byte after a byte stands. -/
def Place.next : Place → UInt8 → Place
  | .outside, b => if b = 34 then .inside else .outside
  | .inside, b => if b = 34 then .outside else if b = 92 then .escaped else .inside
  | .escaped, _ => .inside

/-- The number of open brackets and braces after a byte. -/
def Place.level : Place → Nat → UInt8 → Nat
  | .outside, level, b =>
    if b = 91 ∨ b = 123 then level + 1 else if b = 93 ∨ b = 125 then level - 1 else level
  | _, level, _ => level

/-- The greatest number of open brackets and braces along bytes. -/
def peak : Place → Nat → Bytes → Nat
  | _, level, [] => level
  | place, level, b :: bytes => max level (peak (place.next b) (place.level level b) bytes)

theorem le_peak (place : Place) (level : Nat) (bytes : Bytes) : level ≤ peak place level bytes := by
  cases bytes with
  | nil => exact le_rfl
  | cons => exact le_max_left _ _

/-- Bytes that take one place to another and leave as many brackets open as they find, with at most
`height` more on the way. -/
def Passes (before after : Place) (height : Nat) (text : Bytes) : Prop :=
  ∀ level rest, peak before level (text ++ rest) = max (level + height) (peak after level rest)

/-- Bytes outside of quotes that have brackets open at most `bound` deep, and close them. -/
def Nests (bound : Nat) (text : Bytes) : Prop :=
  ∃ height ≤ bound, Passes .outside .outside height text

/-! ## Putting bytes together -/

section Passes

variable {before between after place : Place} {m n : Nat} {text more : Bytes}

theorem passes_nil (place : Place) : Passes place place 0 [] :=
  fun level rest => (max_eq_right (le_peak place level rest)).symm

theorem Passes.append (h : Passes before between m text) (hmore : Passes between after n more) :
    Passes before after (max m n) (text ++ more) := by
  intro level rest
  rw [List.append_assoc, h, hmore, ← max_assoc, Nat.add_max_add_left]

/-- A byte that neither opens nor closes anything. -/
theorem passes_byte (place : Place) (b : UInt8) (h : ∀ level, place.level level b = level) :
    Passes place (place.next b) 0 [b] := by
  intro level rest
  rw [List.singleton_append, peak, h]
  rfl

/-- Bytes that change nothing. -/
theorem passes_of_forall
    (h : ∀ b ∈ text, place.next b = place ∧ ∀ level, place.level level b = level) :
    Passes place place 0 text := by
  induction text with
  | nil => exact passes_nil place
  | cons b text ih =>
    obtain ⟨⟨hnext, hlevel⟩, htext⟩ := List.forall_mem_cons.1 h
    have hb := passes_byte place b hlevel
    rw [hnext] at hb
    exact hb.append (ih htext)

/-- Brackets around bytes. -/
theorem Passes.brackets (h : Passes .outside .outside n text) {opening closing : UInt8}
    (hopening : opening = 91 ∨ opening = 123) (hclosing : closing = 93 ∨ closing = 125) :
    Passes .outside .outside (n + 1) (opening :: (text ++ [closing])) := by
  intro level rest
  have hopen : peak .outside level (opening :: (text ++ [closing]) ++ rest) =
      max level (peak .outside (level + 1) (text ++ (closing :: rest))) := by
    rw [List.cons_append, List.append_assoc, peak]
    rcases hopening with rfl | rfl <;> rfl
  have hclose : peak .outside (level + 1) (closing :: rest) =
      max (level + 1) (peak .outside level rest) := by
    rw [peak]
    rcases hclosing with rfl | rfl <;> rfl
  rw [hopen, h, hclose]
  omega

theorem Passes.unique (hm : Passes .outside .outside m text)
    (hn : Passes .outside .outside n text) : m = n := by
  have heq := (hm 0 []).symm.trans (hn 0 [])
  simpa [peak] using heq

theorem Nests.append {bound : Nat} (h : Nests bound text) (hmore : Nests bound more) :
    Nests bound (text ++ more) := by
  obtain ⟨m, hm, htext⟩ := h
  obtain ⟨n, hn, hmore⟩ := hmore
  exact ⟨max m n, max_le hm hn, htext.append hmore⟩

theorem Passes.nests (h : Passes .outside .outside 0 text) (bound : Nat) : Nests bound text :=
  ⟨0, Nat.zero_le _, h⟩

end Passes

/-! ## Quiet bytes -/

/-- A byte outside of quotes that is no quote, bracket or brace. -/
def Quiet (b : UInt8) : Prop :=
  b ≠ 34 ∧ b ≠ 91 ∧ b ≠ 123 ∧ b ≠ 93 ∧ b ≠ 125

instance (b : UInt8) : Decidable (Quiet b) :=
  inferInstanceAs (Decidable (_ ∧ _))

theorem passes_quiet {text : Bytes} (h : ∀ b ∈ text, Quiet b) :
    Passes .outside .outside 0 text := by
  refine passes_of_forall fun b hb => ?_
  obtain ⟨hquote, hbracket, hbrace, hbracket', hbrace'⟩ := h b hb
  exact ⟨if_neg hquote, fun _ => by
    rw [Place.level, if_neg (not_or.2 ⟨hbracket, hbrace⟩), if_neg (not_or.2 ⟨hbracket', hbrace'⟩)]⟩

/-- A test that no quote, bracket or brace passes. -/
theorem quiet_of {p : UInt8 → Bool} (hp : [34, 91, 123, 93, 125].any p = false) {b : UInt8}
    (h : p b = true) : Quiet b := by
  have hne : ∀ c ∈ [34, 91, 123, 93, 125], b ≠ c := by
    rintro c hc rfl
    exact List.any_eq_false.1 hp b hc h
  simpa [Quiet] using hne

theorem passes_word {bytes : Bytes} (h : (bytes.all fun b => decide (Quiet b)) = true) :
    Passes .outside .outside 0 bytes :=
  passes_quiet fun b hb => of_decide_eq_true (List.all_eq_true.1 h b hb)

theorem passes_blank {gap : Bytes} (h : Json.Blank gap) : Passes .outside .outside 0 gap :=
  passes_quiet fun b hb => quiet_of (by decide) (h b hb)

theorem quiet_of_digits {digits : Bytes} (h : Json.Digits digits) : ∀ b ∈ digits, Quiet b :=
  fun b hb => quiet_of (by decide) (h.2 b hb)

/-- The bytes of a numeral. -/
theorem passes_numeral {n : Json.Numeral} (h : n.Valid) : Passes .outside .outside 0 n.text := by
  refine passes_quiet ?_
  rw [Json.Numeral.text]
  refine List.forall_mem_append.2 ⟨quiet_of_digits h.whole, List.forall_mem_append.2 ⟨?_, ?_⟩⟩
  · cases hfraction : n.fraction? with
    | none => exact List.forall_mem_nil _
    | some fraction =>
      exact List.forall_mem_cons.2 ⟨by decide, quiet_of_digits (h.fraction fraction hfraction)⟩
  · cases hexponent : n.exponent? with
    | none => exact List.forall_mem_nil _
    | some e =>
      obtain ⟨hmark, hsign, hdigits⟩ := h.exponent e hexponent
      refine List.forall_mem_cons.2 ⟨quiet_of (by decide) hmark,
        List.forall_mem_append.2 ⟨?_, quiet_of_digits hdigits⟩⟩
      rcases hsign with hsign | hsign | hsign <;> rw [hsign]
      · exact List.forall_mem_nil _
      · exact List.forall_mem_singleton.2 (by decide)
      · exact List.forall_mem_singleton.2 (by decide)

/-! ## Strings -/

theorem passes_inside {text : Bytes} (h : ∀ b ∈ text, b ≠ 34 ∧ b ≠ 92) :
    Passes .inside .inside 0 text := by
  refine passes_of_forall fun b hb => ⟨?_, fun _ => rfl⟩
  rw [Place.next, if_neg (h b hb).1, if_neg (h b hb).2]

theorem passes_escaped (b : UInt8) : Passes .inside .inside 0 [92, b] :=
  (passes_byte .inside 92 fun _ => rfl).append (passes_byte .escaped b fun _ => rfl)

theorem passes_hex {n : Nat} {written : Bytes} (h : Json.Hex n written) :
    Passes .inside .inside 0 written := by
  have hdigit : ∀ {b : UInt8} {i : Nat}, Json.hexValue? b = some i → b ≠ 34 ∧ b ≠ 92 := by
    intro b i hb
    constructor <;> rintro rfl <;> cases hb
  cases h with
  | digits ha hb hc hd =>
    refine passes_inside ?_
    simp [hdigit ha, hdigit hb, hdigit hc, hdigit hd]

theorem passes_escape {piece escaped : Bytes} (h : Json.Escape piece escaped) :
    Passes .inside .inside 0 (92 :: escaped) := by
  cases h with
  | short => exact passes_escaped _
  | codePoint hpoint =>
    cases hpoint with
    | single hhex => exact (passes_escaped 117).append (passes_hex hhex)
    | pair hfirst hsecond =>
      exact ((passes_escaped 117).append (passes_hex hfirst)).append
        ((passes_escaped 117).append (passes_hex hsecond))

theorem passes_quoted {content written : Bytes} (h : Json.Quoted content written) :
    Passes .inside .inside 0 written := by
  induction h with
  | nil => exact passes_nil _
  | byte hquote hslash _ _ ih =>
    exact (passes_inside (List.forall_mem_singleton.2 ⟨hquote, hslash⟩)).append ih
  | escape hescape _ ih => exact (passes_escape hescape).append ih

/-- A string between its quotes. -/
theorem passes_stringText {s : String} {written : Bytes} (h : Json.StringText s written) :
    Passes .outside .outside 0 (34 :: (written ++ [34])) := by
  obtain ⟨content, hquoted, -⟩ := h
  have hopen := passes_byte .outside 34 fun _ => rfl
  have hclose := passes_byte .inside 34 fun _ => rfl
  exact hopen.append ((passes_quoted hquoted).append hclose)

/-! ## Written documents -/

section Grammar

variable {bound : Nat}

theorem nests_lead {first : Bool} {lead : Bytes} (h : Json.Lead first lead) : Nests bound lead := by
  cases h with
  | first hgap => exact (passes_blank hgap).nests bound
  | next hbefore hgap =>
    have hcomma : Passes .outside .outside 0 [44] :=
      passes_quiet (List.forall_mem_singleton.2 (by decide))
    exact ((passes_blank hbefore).append (hcomma.append (passes_blank hgap))).nests bound

/-- The items of a list, up to the closing byte. -/
theorem nests_listed {α : Type} {close : UInt8} {item : α → Bytes → Prop} {first : Bool}
    {items : List α} {text : Bytes} (hitem : ∀ x text, item x text → Nests bound text)
    (h : Json.Listed close item first items text) :
    ∃ body, text = body ++ [close] ∧ Nests bound body := by
  induction h with
  | done hgap => exact ⟨_, rfl, (passes_blank hgap).nests bound⟩
  | more hlead hx _ ih =>
    obtain ⟨body, rfl, hbody⟩ := ih
    have hmore := ((nests_lead hlead).append (hitem _ _ hx)).append hbody
    exact ⟨_, by simp only [List.append_assoc], hmore⟩

theorem nests_member {value : Json → Bytes → Prop} {entry : String × Json} {text : Bytes}
    (hvalue : ∀ v text, value v text → Nests bound text) (h : Json.Member value entry text) :
    Nests bound text := by
  cases h with
  | @pair key v name before gap text hname hbefore hgap hv =>
    have hcolon : Passes .outside .outside 0 [58] :=
      passes_quiet (List.forall_mem_singleton.2 (by decide))
    have hkey := (passes_stringText hname).append
      ((passes_blank hbefore).append (hcolon.append (passes_blank hgap)))
    have happend : 34 :: (name ++ 34 :: (before ++ 58 :: (gap ++ text))) =
        34 :: (name ++ [34]) ++ (before ++ ([58] ++ gap)) ++ text := by simp
    rw [happend]
    exact (hkey.nests bound).append (hvalue v text hv)

theorem nests_textWith {inner : Option (Json → Bytes → Prop)} {v : Json} {text : Bytes}
    (hinner : ∀ value ∈ inner, ∃ depth, bound = depth + 1 ∧
      ∀ v text, value v text → Nests depth text)
    (h : Json.TextWith inner v text) : Nests bound text := by
  have hbrackets : ∀ {depth : Nat} {opening closing : UInt8} {body : Bytes}, bound = depth + 1 →
      (opening = 91 ∨ opening = 123) → (closing = 93 ∨ closing = 125) → Nests depth body →
      Nests bound (opening :: (body ++ [closing])) := by
    rintro depth opening closing body rfl hopening hclosing ⟨n, hn, hbody⟩
    exact ⟨n + 1, Nat.succ_le_succ hn, hbody.brackets hopening hclosing⟩
  cases h with
  | null => exact (passes_word (by decide)).nests bound
  | yes => exact (passes_word (by decide)).nests bound
  | no => exact (passes_word (by decide)).nests bound
  | positive hn _ => exact (passes_numeral hn).nests bound
  | negative hn _ =>
    have hminus : Passes .outside .outside 0 [45] :=
      passes_quiet (List.forall_mem_singleton.2 (by decide))
    exact (hminus.append (passes_numeral hn)).nests bound
  | string hs => exact (passes_stringText hs).nests bound
  | array hvalue hlisted =>
    obtain ⟨depth, hbound, hvalue⟩ := hinner _ hvalue
    obtain ⟨body, rfl, hbody⟩ := nests_listed hvalue hlisted
    exact hbrackets hbound (.inl rfl) (.inl rfl) hbody
  | object hvalue hlisted =>
    obtain ⟨depth, hbound, hvalue⟩ := hinner _ hvalue
    obtain ⟨body, rfl, hbody⟩ :=
      nests_listed (fun _ _ hmember => nests_member hvalue hmember) hlisted
    exact hbrackets hbound (.inr rfl) (.inr rfl) hbody

/-- A text of the grammar has its brackets open no deeper than the grammar nests, by induction on
the depth that is left. -/
theorem nests_text {v : Json} {text : Bytes} (h : Json.Text bound v text) : Nests bound text := by
  induction bound generalizing v text with
  | zero => exact nests_textWith (fun _ hvalue => absurd hvalue (Option.not_mem_none _)) h
  | succ bound ih =>
    refine nests_textWith ?_ h
    rintro _ ⟨⟩
    exact ⟨bound, rfl, fun _ _ hv => ih hv⟩

end Grammar

/-! ## Written values -/

section Rendering

variable {α : Type} {depth : α → Nat} {items : List α} {texts : List String}

theorem passes_flatMap (h : List.Forall₂
      (fun x text => Passes .outside .outside (depth x) text.toUTF8.toList) items texts) :
    Passes .outside .outside ((items.map depth).foldr max 0)
      (texts.flatMap fun text => ",".toUTF8.toList ++ text.toUTF8.toList) := by
  have hcomma : ",".toUTF8.toList = [44] := toList_toUTF8_literal (by decide)
  have hpasses : Passes .outside .outside 0 ",".toUTF8.toList :=
    hcomma ▸ passes_quiet (List.forall_mem_singleton.2 (by decide))
  induction h with
  | nil => exact passes_nil _
  | cons hx _ ih =>
    rw [List.flatMap_cons, List.map_cons, List.foldr_cons]
    have hmore := (hpasses.append hx).append ih
    rwa [Nat.zero_max] at hmore

theorem passes_intercalate (h : List.Forall₂
      (fun x text => Passes .outside .outside (depth x) text.toUTF8.toList) items texts) :
    Passes .outside .outside ((items.map depth).foldr max 0)
      (",".intercalate texts).toUTF8.toList := by
  cases h with
  | nil =>
    have hempty : (",".intercalate []).toUTF8.toList = [] := toList_toUTF8_literal rfl
    rw [hempty]
    exact passes_nil _
  | cons hx hrest =>
    rw [toList_toUTF8_intercalate, List.map_cons, List.foldr_cons]
    exact hx.append (passes_flatMap hrest)

end Rendering

theorem listDepth_eq (items : List Datum) :
    Datum.listDepth items = (items.map Datum.depth).foldr max 0 := by
  induction items with
  | nil => rfl
  | cons item items ih => rw [Datum.listDepth, ih, List.map_cons, List.foldr_cons]

theorem entryDepth_eq (entries : List (String × Datum)) :
    Datum.entryDepth entries = (entries.map fun entry => entry.2.depth).foldr max 0 := by
  induction entries with
  | nil => rfl
  | cons entry entries ih => rw [Datum.entryDepth, ih, List.map_cons, List.foldr_cons]

/-- The characters of numbers are quiet. -/
theorem quiet_of_isNumeric {c : Char} (h : Datum.isNumeric c = true) :
    c.toNat < 128 ∧ Quiet c.toUInt8 := by
  rcases Bool.or_eq_true_iff.1 h with hdigit | hmark
  · exact ⟨Json.lt_of_isDigit hdigit, quiet_of (by decide) (Json.isDigit_toUInt8 hdigit).1⟩
  · have hmarks : c = '.' ∨ c = 'e' ∨ c = 'E' ∨ c = '+' ∨ c = '-' := by simpa using hmark
    rcases hmarks with rfl | rfl | rfl | rfl | rfl <;> decide

theorem passes_numeric {s : String} (h : Datum.Numeric s.toList) :
    Passes .outside .outside 0 s.toUTF8.toList := by
  rw [← String.ofList_toList (s := s),
    toList_toUTF8_ascii fun c hc => (quiet_of_isNumeric (h c hc)).1]
  exact passes_quiet (List.forall_mem_map.2 fun c hc => (quiet_of_isNumeric (h c hc)).2)

theorem passes_quote (s : String) :
    Passes .outside .outside 0 (Datum.quote s).toUTF8.toList := by
  obtain ⟨written, hwritten, hbytes⟩ := Json.stringText_quote s
  rw [hbytes]
  exact passes_stringText hwritten

theorem passes_literal {s : String} (hs : (s.toList.all fun c => decide (c.toNat < 128)) = true)
    (h : ((Json.ascii s.toList).all fun b => decide (Quiet b)) = true) :
    Passes .outside .outside 0 s.toUTF8.toList :=
  toList_toUTF8_literal hs ▸ passes_word h

theorem forall₂_renderItems {items : List Datum}
    (h : ∀ item ∈ items, Passes .outside .outside item.depth item.render.toUTF8.toList) :
    List.Forall₂ (fun item text => Passes .outside .outside (Datum.depth item) text.toUTF8.toList)
      items (Datum.renderItems items) := by
  induction items with
  | nil => exact .nil
  | cons item items ih =>
    obtain ⟨hitem, hitems⟩ := List.forall_mem_cons.1 h
    exact .cons hitem (ih hitems)

theorem forall₂_renderEntries {entries : List (String × Datum)}
    (h : ∀ entry ∈ entries, Passes .outside .outside entry.2.depth entry.2.render.toUTF8.toList) :
    List.Forall₂
      (fun entry text => Passes .outside .outside (Datum.depth entry.2) text.toUTF8.toList)
      entries (Datum.renderEntries entries) := by
  induction entries with
  | nil => exact .nil
  | cons entry entries ih =>
    obtain ⟨hentry, hentries⟩ := List.forall_mem_cons.1 h
    have hcolon : Passes .outside .outside 0 ":".toUTF8.toList :=
      passes_literal (by decide) (by decide)
    refine .cons ?_ (ih hentries)
    have hmember := ((passes_quote entry.1).append hcolon).append hentry
    rw [Nat.max_self, Nat.zero_max] at hmember
    rwa [toList_toUTF8_append, toList_toUTF8_append]

/-- A plain value is written with its brackets open as deep as it is nested. -/
theorem passes_render {value : Datum} (h : value.Plain) :
    Passes .outside .outside value.depth value.render.toUTF8.toList := by
  induction h with
  | null => exact passes_literal (by decide) (by decide)
  | boolean b =>
    cases b with
    | true => exact passes_literal (by decide) (by decide)
    | false => exact passes_literal (by decide) (by decide)
  | integer n => exact passes_numeric (Datum.numeric_toString n)
  | double x =>
    rw [Datum.render]
    split_ifs
    · refine passes_numeric ?_
      rw [String.toList_ofList]
      exact Datum.numeric_write _ x
    · exact passes_literal (by decide) (by decide)
  | numeral h => exact passes_numeric h
  | text s => exact passes_quote s
  | array _ ih =>
    have hopen : "[".toUTF8.toList = [91] := toList_toUTF8_literal (by decide)
    have hclose : "]".toUTF8.toList = [93] := toList_toUTF8_literal (by decide)
    rw [Datum.render, Datum.depth, listDepth_eq, toList_toUTF8_append, toList_toUTF8_append, hopen,
      hclose, List.append_assoc]
    exact (passes_intercalate (forall₂_renderItems ih)).brackets (.inl rfl) (.inl rfl)
  | object _ ih =>
    have hopen : "\x7b".toUTF8.toList = [123] := toList_toUTF8_literal (by decide)
    have hclose : "\x7d".toUTF8.toList = [125] := toList_toUTF8_literal (by decide)
    rw [Datum.render, Datum.depth, entryDepth_eq, toList_toUTF8_append, toList_toUTF8_append, hopen,
      hclose, List.append_assoc]
    exact (passes_intercalate (forall₂_renderEntries ih)).brackets (.inr rfl) (.inr rfl)

/-- A plain value whose text is read is nested no deeper than reading allows. -/
theorem depth_le_of_parseWhole {value : Datum} (h : value.Plain) {v : Json}
    (hread : Json.parseWhole value.render.toUTF8.toList = .ok v) : value.depth ≤ Json.maxDepth := by
  obtain ⟨before, text, after, hbefore, hv, hafter, hbytes⟩ := Json.parseWhole_eq_ok.1 hread
  obtain ⟨height, hle, htext⟩ := ((passes_blank hbefore).nests _).append
    ((nests_text hv).append ((passes_blank hafter).nests _))
  rw [← hbytes] at htext
  exact (passes_render h).unique htext ▸ hle

end Nesting
end ResponseTypes
