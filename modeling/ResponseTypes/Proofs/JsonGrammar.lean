import ResponseTypes.Proofs.JsonScalars

/-!
# The written forms of documents

The grammar of JSON documents, on top of that of words, numbers and strings: an array is a list of
values up to a bracket, an object one of keys with values up to a brace.  `Text depth v text` says
that `text` is a written form of `v` with at most `depth` arrays and objects nested in each other.

The main statement is that the reader of values takes exactly these forms from the front of bytes:
`reads_value` says when it succeeds, with which value, and what it leaves.  Neither direction says
anything about faults.

## Reading lists

The items of arrays and objects are read by two loops of one form.  `ReadsItems` says what a turn of
such a loop does, and `ReadsItems.sound` and `ReadsItems.complete` are the two inductions: one over
the fuel, the other over the written list.  An item may be read only when what follows does not go
on with a numeral at its end, and inside a list that never happens, since white space, a comma or
the closing byte follows (`Listed.settled_append`).
-/

namespace ResponseTypes
namespace Json

/-! ## Lists as they are written -/

/-- What stands before an item: white space before the first, and before any other a comma with
white space around it. -/
inductive Lead : Bool → Bytes → Prop
  | first {gap : Bytes} : Blank gap → Lead true gap
  | next {before gap : Bytes} : Blank before → Blank gap → Lead false (before ++ 44 :: gap)

/-- Items with what stands before each, up to a closing byte. -/
inductive Listed {α : Type} (close : UInt8) (item : α → Bytes → Prop) : Bool → List α → Bytes → Prop
  | done {first : Bool} {gap : Bytes} : Blank gap → Listed close item first [] (gap ++ [close])
  | more {first : Bool} {lead text rest : Bytes} {x : α} {items : List α} : Lead first lead →
      item x text → Listed close item false items rest →
      Listed close item first (x :: items) (lead ++ (text ++ rest))

/-- A key and its value as they are written. -/
inductive Member (value : Json → Bytes → Prop) : String × Json → Bytes → Prop
  | pair {key : String} {v : Json} {name before gap text : Bytes} : StringText key name →
      Blank before → Blank gap → value v text →
      Member value (key, v) (34 :: (name ++ 34 :: (before ++ 58 :: (gap ++ text))))

/-! ## Values as they are written -/

/-- The written forms of a value.  `inner` gives those of the values inside it, unless there may be
none inside. -/
inductive TextWith (inner : Option (Json → Bytes → Prop)) : Json → Bytes → Prop
  | null : TextWith inner .null (ascii "null".toList)
  | yes : TextWith inner (.boolean true) (ascii "true".toList)
  | no : TextWith inner (.boolean false) (ascii "false".toList)
  | positive {n : Numeral} {v : Json} : n.Valid → n.value? false = some v → TextWith inner v n.text
  | negative {n : Numeral} {v : Json} : n.Valid → n.value? true = some v →
      TextWith inner v (45 :: n.text)
  | string {s : String} {written : Bytes} : StringText s written →
      TextWith inner (.string s) (34 :: (written ++ [34]))
  | array {value : Json → Bytes → Prop} {items : List Json} {text : Bytes} : inner = some value →
      Listed 93 value true items text → TextWith inner (.array items) (91 :: text)
  | object {value : Json → Bytes → Prop} {entries : List (String × Json)} {text : Bytes} :
      inner = some value → Listed 125 (Member value) true entries text →
      TextWith inner (.object (Keyed.ofList entries)) (123 :: text)

/-- The written forms of a value with at most `depth` arrays and objects nested in each other. -/
def Text : Nat → Json → Bytes → Prop
  | 0 => TextWith none
  | depth + 1 => TextWith (some (Text depth))

/-! ## What follows an item -/

theorem goesOn_cons_eq_false {b : UInt8} (hdigit : isDigit b = false) (hmark : isMark b = false)
    (hpoint : b ≠ 46) (text rest : Bytes) : goesOn text (b :: rest) = false := by
  simp [goesOn, hdigit, hmark, hpoint]

theorem goesOn_append_eq_false {b : UInt8} (h : isDigit b = false) (text rest : Bytes) :
    goesOn (text ++ [b]) rest = false := by
  simp [goesOn, h]

/-- Whether bytes start with one that can follow a value inside an array or an object. -/
def settled (rest : Bytes) : Bool :=
  rest.head?.any fun b => isBlank b || b == 44 || b == 93 || b == 125

theorem goesOn_of_settled {rest : Bytes} (h : settled rest = true) (text : Bytes) :
    goesOn text rest = false := by
  cases rest with
  | nil => exact nomatch h
  | cons b rest =>
    have hb : b = 32 ∨ b = 10 ∨ b = 9 ∨ b = 13 ∨ b = 44 ∨ b = 93 ∨ b = 125 := by
      simpa [settled, isBlank, or_assoc] using h
    obtain rfl | rfl | rfl | rfl | rfl | rfl | rfl := hb <;>
      exact goesOn_cons_eq_false (by decide) (by decide) (by decide) text rest

theorem settled_append {gap rest : Bytes} (hgap : Blank gap) (hrest : settled rest = true) :
    settled (gap ++ rest) = true := by
  cases gap with
  | nil => exact hrest
  | cons b gap => simp [settled, hgap b List.mem_cons_self]

namespace Listed

variable {α : Type} {close : UInt8} {item : α → Bytes → Prop} {first : Bool} {items : List α}
  {text : Bytes}

theorem settled_append (h : Listed close item false items text)
    (hclose : settled [close] = true) (rest : Bytes) : settled (text ++ rest) = true := by
  cases h with
  | done hgap =>
    rw [List.append_assoc]
    exact Json.settled_append hgap (by simpa [settled] using hclose)
  | more hlead _ _ =>
    cases hlead with
    | next hbefore hgap =>
      simp only [List.append_assoc]
      exact Json.settled_append hbefore (by simp [settled])

/-- A list ends with its closing byte. -/
theorem exists_eq_append (h : Listed close item first items text) :
    ∃ before, text = before ++ [close] := by
  induction h with
  | @done _ gap _ => exact ⟨gap, rfl⟩
  | @more _ lead text _ _ _ _ _ _ ih =>
    obtain ⟨before, rfl⟩ := ih
    exact ⟨lead ++ (text ++ before), by simp⟩

theorem goesOn_eq_false (h : Listed close item first items text) (hclose : isDigit close = false)
    (start : UInt8) (rest : Bytes) : goesOn (start :: text) rest = false := by
  obtain ⟨before, rfl⟩ := h.exists_eq_append
  exact goesOn_append_eq_false hclose (start :: before) rest

/-- Each item has a closing byte or a comma after it. -/
theorem length_le (h : Listed close item first items text) :
    items.length ≤ text.length ∧ (first = false → items.length < text.length) := by
  induction h with
  | done => simp
  | more hlead _ _ ih =>
    have hrest := ih.2 rfl
    cases hlead with
    | first => exact ⟨by simp; omega, nofun⟩
    | next => exact ⟨by simp; omega, fun _ => by simp; omega⟩

end Listed

/-! ## Reading lists -/

theorem within_eq_ok {α : Type} {step : Step} {result : Except Fault α} {a : α} :
    within step result = .ok a ↔ result = .ok a := by
  cases result with
  | error fault => exact ⟨nofun, nofun⟩
  | ok a' => rfl

/-- A function that reads the items of a list one after the other up to a closing byte.  `item x
text rest` says that it reads `x` from `text` when `rest` follows. -/
structure ReadsItems {α : Type} (close : UInt8) (item : α → Bytes → Bytes → Prop)
    (loop : Bool → Nat → Nat → Bytes → Except Fault (List α × Bytes)) : Prop where
  spent {first : Bool} {i : Nat} {input : Bytes} {result : List α × Bytes} :
    loop first i 0 input ≠ .ok result
  split {first : Bool} {i fuel : Nat} {input rest : Bytes} {items : List α} :
    loop first i (fuel + 1) input = .ok (items, rest) →
      (items = [] ∧ ∃ gap, Blank gap ∧ input = gap ++ close :: rest) ∨
      ∃ lead x text after more, Lead first lead ∧ item x text after ∧
        input = lead ++ (text ++ after) ∧ loop false (i + 1) fuel after = .ok (more, rest) ∧
          items = x :: more
  done {first : Bool} {i fuel : Nat} {gap : Bytes} (rest : Bytes) : Blank gap →
    loop first i (fuel + 1) (gap ++ close :: rest) = .ok ([], rest)
  more {first : Bool} {i fuel : Nat} {lead text after rest : Bytes} {x : α} {items : List α} :
    Lead first lead → item x text after → loop false (i + 1) fuel after = .ok (items, rest) →
      loop first i (fuel + 1) (lead ++ (text ++ after)) = .ok (x :: items, rest)

namespace ReadsItems

variable {α : Type} {close : UInt8} {item : α → Bytes → Bytes → Prop}
  {loop : Bool → Nat → Nat → Bytes → Except Fault (List α × Bytes)} {written : α → Bytes → Prop}

theorem sound (h : ReadsItems close item loop) (hclose : settled [close] = true)
    (hitem : ∀ {x text rest}, settled rest = true → (item x text rest ↔ written x text))
    {first : Bool} {i fuel : Nat} {input rest : Bytes} {items : List α}
    (hok : loop first i fuel input = .ok (items, rest)) :
    ∃ text, Listed close written first items text ∧ input = text ++ rest := by
  induction fuel generalizing first i input items with
  | zero => exact absurd hok h.spent
  | succ fuel ih =>
    obtain ⟨rfl, gap, hgap, rfl⟩ | ⟨lead, x, text, after, more, hlead, hx, rfl, hmore, rfl⟩ :=
      h.split hok
    · exact ⟨gap ++ [close], .done hgap, by simp⟩
    · obtain ⟨tail, htail, rfl⟩ := ih hmore
      have hsettled := htail.settled_append hclose rest
      exact ⟨_, .more hlead ((hitem hsettled).1 hx) htail, by simp⟩

theorem complete (h : ReadsItems close item loop) (hclose : settled [close] = true)
    (hitem : ∀ {x text rest}, settled rest = true → (item x text rest ↔ written x text))
    {first : Bool} {items : List α} {text : Bytes} (hlisted : Listed close written first items text)
    {i fuel : Nat} (hfuel : items.length < fuel) (rest : Bytes) :
    loop first i fuel (text ++ rest) = .ok (items, rest) := by
  induction hlisted generalizing i fuel with
  | done hgap =>
    obtain ⟨fuel, rfl⟩ := Nat.exists_eq_succ_of_ne_zero (Nat.ne_of_gt hfuel)
    rw [List.append_assoc]
    exact h.done rest hgap
  | more hlead hx htail ih =>
    obtain ⟨fuel, rfl⟩ := Nat.exists_eq_succ_of_ne_zero (Nat.ne_of_gt (Nat.zero_lt_of_lt hfuel))
    rw [List.append_assoc, List.append_assoc]
    have hsettled := htail.settled_append hclose rest
    exact h.more hlead ((hitem hsettled).2 hx) (ih (by simpa using hfuel))

end ReadsItems

/-! ## Reading arrays -/

/-- A reader that takes exactly the written forms of values from the front of bytes, after white
space, where each of them begins with a byte that no reader passes over. -/
structure Reads (read : Bytes → Except Fault (Json × Bytes)) (written : Json → Bytes → Prop) :
    Prop where
  eq_ok {input rest : Bytes} {v : Json} : read input = .ok (v, rest) ↔
    ∃ text, written v text ∧ goesOn text rest = false ∧ skipBlank input = text ++ rest
  start {v : Json} {text : Bytes} : written v text →
    ∃ b rest, text = b :: rest ∧ isBlank b = false ∧ b ≠ 93

theorem nextItem_close {first : Bool} {gap : Bytes} (hgap : Blank gap) (rest : Bytes) :
    nextItem first (gap ++ 93 :: rest) = .ok (none, 93 :: rest) := by
  rw [nextItem, skipBlank_append hgap, skipBlank_cons (by decide)]
  rfl

theorem nextItem_lead {first : Bool} {lead : Bytes} (hlead : Lead first lead) {b : UInt8}
    (hblank : isBlank b = false) (hclose : b ≠ 93) (rest : Bytes) :
    nextItem first (lead ++ b :: rest) = .ok (some (b :: rest), b :: rest) := by
  cases hlead with
  | first hgap =>
    rw [nextItem, skipBlank_append hgap, skipBlank_cons hblank]
    simp [hclose]
  | next hbefore hgap =>
    rw [nextItem, List.append_assoc, List.cons_append, skipBlank_append hbefore,
      skipBlank_cons (by decide)]
    simp [skipBlank_append hgap, skipBlank_cons hblank, hclose]

theorem nextItem_eq_ok {first : Bool} {input after : Bytes} {start? : Option Bytes}
    (h : nextItem first input = .ok (start?, after)) :
    (start? = none ∧ ∃ gap rest, Blank gap ∧ after = 93 :: rest ∧ input = gap ++ 93 :: rest) ∨
      ∃ lead b rest, Lead first lead ∧ isBlank b = false ∧ start? = some (b :: rest) ∧
        input = lead ++ b :: rest := by
  rw [nextItem] at h
  split at h
  · exact absurd h stop_ne_ok
  · next b rest hskip =>
    obtain ⟨gap, hgap, hblank, rfl⟩ := skipBlank_eq_cons.1 hskip
    split_ifs at h with hclose hfirst hcomma
    · obtain ⟨rfl, rfl⟩ := Prod.mk.inj (Except.ok.inj h)
      exact .inl ⟨rfl, gap, rest, hgap, by rw [hclose], by rw [hclose]⟩
    · obtain ⟨rfl, rfl⟩ := Prod.mk.inj (Except.ok.inj h)
      exact .inr ⟨gap, b, rest, by rw [hfirst]; exact .first hgap, hblank, rfl, rfl⟩
    · split at h
      · exact absurd h stop_ne_ok
      · next c last hskip' =>
        obtain ⟨gap', hgap', hblank', rfl⟩ := skipBlank_eq_cons.1 hskip'
        split_ifs at h with hclose'
        · exact absurd h stopAfter_ne_ok
        · obtain ⟨rfl, rfl⟩ := Prod.mk.inj (Except.ok.inj h)
          rw [Bool.not_eq_true] at hfirst
          exact .inr ⟨gap ++ 44 :: gap', c, last, by rw [hfirst]; exact .next hgap hgap', hblank',
            rfl, by rw [hcomma]; simp⟩
    · exact absurd h stopAfter_ne_ok

theorem readsItems_arrayItems {read : Bytes → Except Fault (Json × Bytes)}
    {written : Json → Bytes → Prop} (h : Reads read written) :
    ReadsItems 93 (fun v text rest => written v text ∧ goesOn text rest = false)
      (arrayItems read) where
  spent := stop_ne_ok
  split {first i fuel input rest items} hok := by
    obtain ⟨⟨start?, after⟩, hnext, htail⟩ := bind_eq_ok.1 hok
    obtain ⟨rfl, gap, more, hgap, rfl, rfl⟩ | ⟨lead, b, more, hlead, hblank, rfl, rfl⟩ :=
      nextItem_eq_ok hnext
    · obtain ⟨rfl, rfl⟩ := Prod.mk.inj (Except.ok.inj htail)
      exact .inl ⟨rfl, gap, hgap, rfl⟩
    · obtain ⟨⟨v, after'⟩, hread, hrest⟩ := bind_eq_ok.1 htail
      obtain ⟨⟨values, last⟩, hmore, hlast⟩ := bind_eq_ok.1 hrest
      obtain ⟨rfl, rfl⟩ := Prod.mk.inj (Except.ok.inj hlast)
      obtain ⟨text, hv, hgoes, hsplit⟩ := h.eq_ok.1 (within_eq_ok.1 hread)
      rw [skipBlank_cons hblank] at hsplit
      exact .inr ⟨lead, v, text, after', values, hlead, ⟨hv, hgoes⟩, by rw [hsplit], hmore, rfl⟩
  done {first i fuel gap} rest hgap := bind_eq_ok.2 ⟨_, nextItem_close hgap rest, rfl⟩
  more {first i fuel lead text after rest v values} hlead hv hmore := by
    obtain ⟨b, text, rfl, hblank, hclose⟩ := h.start hv.1
    have hread := h.eq_ok.2 ⟨_, hv.1, hv.2, skipBlank_cons hblank (text ++ after)⟩
    exact bind_eq_ok.2 ⟨_, nextItem_lead hlead hblank hclose _,
      bind_eq_ok.2 ⟨_, within_eq_ok.2 hread, bind_eq_ok.2 ⟨_, hmore, rfl⟩⟩⟩

/-! ## Reading objects -/

theorem nextKey_close {first : Bool} {gap : Bytes} (hgap : Blank gap) (rest : Bytes) :
    nextKey first (gap ++ 125 :: rest) = .ok (none, 125 :: rest) := by
  rw [nextKey, skipBlank_append hgap, skipBlank_cons (by decide)]
  rfl

theorem nextKey_lead {first : Bool} {lead : Bytes} (hlead : Lead first lead) (rest : Bytes) :
    nextKey first (lead ++ 34 :: rest) = .ok (some rest, rest) := by
  have hblank : isBlank 34 = false := by decide
  cases hlead with
  | first hgap =>
    rw [nextKey, skipBlank_append hgap, skipBlank_cons hblank]
    rfl
  | next hbefore hgap =>
    rw [nextKey, List.append_assoc, List.cons_append, skipBlank_append hbefore,
      skipBlank_cons (by decide)]
    simp [skipBlank_append hgap, skipBlank_cons hblank]

theorem nextKey_eq_ok {first : Bool} {input after : Bytes} {start? : Option Bytes}
    (h : nextKey first input = .ok (start?, after)) :
    (start? = none ∧ ∃ gap rest, Blank gap ∧ after = 125 :: rest ∧ input = gap ++ 125 :: rest) ∨
      ∃ lead, Lead first lead ∧ start? = some after ∧ input = lead ++ 34 :: after := by
  rw [nextKey] at h
  split at h
  · exact absurd h stop_ne_ok
  · next b rest hskip =>
    obtain ⟨gap, hgap, -, rfl⟩ := skipBlank_eq_cons.1 hskip
    split_ifs at h with hclose hfirst hquote hcomma
    · obtain ⟨rfl, rfl⟩ := Prod.mk.inj (Except.ok.inj h)
      exact .inl ⟨rfl, gap, rest, hgap, by rw [hclose], by rw [hclose]⟩
    · obtain ⟨rfl, rfl⟩ := Prod.mk.inj (Except.ok.inj h)
      exact .inr ⟨gap, by rw [hfirst]; exact .first hgap, rfl, by rw [hquote]⟩
    · exact absurd h stopAfter_ne_ok
    · split at h
      · exact absurd h stop_ne_ok
      · next c last hskip' =>
        obtain ⟨gap', hgap', -, rfl⟩ := skipBlank_eq_cons.1 hskip'
        split_ifs at h with hquote
        · obtain ⟨rfl, rfl⟩ := Prod.mk.inj (Except.ok.inj h)
          rw [Bool.not_eq_true] at hfirst
          exact .inr ⟨gap ++ 44 :: gap', by rw [hfirst]; exact .next hgap hgap', rfl,
            by rw [hcomma, hquote]; simp⟩
        all_goals exact absurd h stopAfter_ne_ok
    · exact absurd h stopAfter_ne_ok

theorem colon_eq_ok {input rest : Bytes} :
    colon input = .ok rest ↔ ∃ gap, Blank gap ∧ input = gap ++ 58 :: rest := by
  rw [colon]
  constructor
  · intro h
    split at h
    · exact absurd h stop_ne_ok
    · next b after hskip =>
      obtain ⟨gap, hgap, -, rfl⟩ := skipBlank_eq_cons.1 hskip
      split_ifs at h with hb
      · obtain rfl := Except.ok.inj h
        exact ⟨gap, hgap, by rw [hb]⟩
      · exact absurd h stopAfter_ne_ok
  · rintro ⟨gap, hgap, rfl⟩
    rw [skipBlank_append hgap, skipBlank_cons (by decide)]
    rfl

theorem keyOrEnd_close {first : Bool} {gap : Bytes} (hgap : Blank gap) (rest : Bytes) :
    keyOrEnd first (gap ++ 125 :: rest) = .ok (none, 125 :: rest) :=
  within_eq_ok.2 (bind_eq_ok.2 ⟨_, nextKey_close hgap rest, rfl⟩)

theorem keyOrEnd_lead {first : Bool} {lead name : Bytes} {key : String} (hlead : Lead first lead)
    (hname : StringText key name) (rest : Bytes) :
    keyOrEnd first (lead ++ 34 :: (name ++ 34 :: rest)) = .ok (some key, rest) :=
  within_eq_ok.2 (bind_eq_ok.2 ⟨_, nextKey_lead hlead _,
    bind_eq_ok.2 ⟨_, text_eq_ok.2 ⟨name, hname, rfl⟩, rfl⟩⟩)

theorem keyOrEnd_eq_ok {first : Bool} {input after : Bytes} {key? : Option String}
    (h : keyOrEnd first input = .ok (key?, after)) :
    (key? = none ∧ ∃ gap rest, Blank gap ∧ after = 125 :: rest ∧ input = gap ++ 125 :: rest) ∨
      ∃ lead key name, Lead first lead ∧ StringText key name ∧ key? = some key ∧
        input = lead ++ 34 :: (name ++ 34 :: after) := by
  obtain ⟨⟨start?, start⟩, hnext, htail⟩ := bind_eq_ok.1 (within_eq_ok.1 h)
  obtain ⟨rfl, gap, rest, hgap, rfl, rfl⟩ | ⟨lead, hlead, rfl, rfl⟩ := nextKey_eq_ok hnext
  · obtain ⟨rfl, rfl⟩ := Prod.mk.inj (Except.ok.inj htail)
    exact .inl ⟨rfl, gap, rest, hgap, rfl, rfl⟩
  · obtain ⟨⟨key, rest⟩, htext, hlast⟩ := bind_eq_ok.1 htail
    obtain ⟨rfl, rfl⟩ := Prod.mk.inj (Except.ok.inj hlast)
    obtain ⟨name, hname, rfl⟩ := text_eq_ok.1 htext
    exact .inr ⟨lead, key, name, hlead, hname, rfl, rfl⟩

/-- A key and its value, read when `rest` follows. -/
inductive MemberBefore (value : Json → Bytes → Prop) : String × Json → Bytes → Bytes → Prop
  | pair {key : String} {v : Json} {name before gap text rest : Bytes} : StringText key name →
      Blank before → Blank gap → value v text → goesOn text rest = false →
      MemberBefore value (key, v) (34 :: (name ++ 34 :: (before ++ 58 :: (gap ++ text)))) rest

theorem readsItems_objectEntries {read : Bytes → Except Fault (Json × Bytes)}
    {written : Json → Bytes → Prop} (h : Reads read written) :
    ReadsItems 125 (MemberBefore written) (fun first _ => objectEntries read first) where
  spent := stop_ne_ok
  split {first i fuel input rest items} hok := by
    obtain ⟨⟨key?, after⟩, hkey, htail⟩ := bind_eq_ok.1 hok
    obtain ⟨rfl, gap, more, hgap, rfl, rfl⟩ | ⟨lead, key, name, hlead, hname, rfl, rfl⟩ :=
      keyOrEnd_eq_ok hkey
    · obtain ⟨rfl, rfl⟩ := Prod.mk.inj (Except.ok.inj htail)
      exact .inl ⟨rfl, gap, hgap, rfl⟩
    · obtain ⟨start, hcolon, hvalue⟩ := bind_eq_ok.1 htail
      obtain ⟨⟨v, after'⟩, hread, hrest⟩ := bind_eq_ok.1 hvalue
      obtain ⟨⟨members, last⟩, hmore, hlast⟩ := bind_eq_ok.1 hrest
      obtain ⟨rfl, rfl⟩ := Prod.mk.inj (Except.ok.inj hlast)
      obtain ⟨before, hbefore, rfl⟩ := colon_eq_ok.1 hcolon
      obtain ⟨text, hv, hgoes, hsplit⟩ := h.eq_ok.1 (within_eq_ok.1 hread)
      obtain ⟨gap, hgap, hstart⟩ := exists_blank_append start
      rw [hsplit] at hstart
      exact .inr ⟨lead, _, _, after', members, hlead, .pair hname hbefore hgap hv hgoes,
        by rw [hstart]; simp, hmore, rfl⟩
  done {first i fuel gap} rest hgap := bind_eq_ok.2 ⟨_, keyOrEnd_close hgap rest, rfl⟩
  more {first i fuel lead text after rest member members} hlead hmember hmore := by
    cases hmember with
    | @pair key v name before gap text _ hname hbefore hgap hv hgoes =>
      obtain ⟨b, text, rfl, hblank, -⟩ := h.start hv
      have hskip : skipBlank (gap ++ (b :: text ++ after)) = b :: text ++ after := by
        rw [skipBlank_append hgap, List.cons_append, skipBlank_cons hblank]
      have hread := h.eq_ok.2 ⟨_, hv, hgoes, hskip⟩
      simp only [List.cons_append, List.append_assoc]
      exact bind_eq_ok.2 ⟨_, keyOrEnd_lead hlead hname _,
        bind_eq_ok.2 ⟨_, colon_eq_ok.2 ⟨before, hbefore, rfl⟩,
          bind_eq_ok.2 ⟨_, within_eq_ok.2 hread, bind_eq_ok.2 ⟨_, hmore, rfl⟩⟩⟩⟩

theorem memberBefore_iff {value : Json → Bytes → Prop} {member : String × Json}
    {text rest : Bytes} (h : settled rest = true) :
    MemberBefore value member text rest ↔ Member value member text := by
  constructor
  · rintro ⟨hname, hbefore, hgap, hv, -⟩
    exact .pair hname hbefore hgap hv
  · rintro ⟨hname, hbefore, hgap, hv⟩
    exact .pair hname hbefore hgap hv (goesOn_of_settled h _)

/-! ## Reading values -/

theorem arrayOf_eq_ok {read : Reader} {written : Json → Bytes → Prop}
    (h : Reads (read .any) written) {input rest : Bytes} {v : Json} :
    arrayOf read .any input = .ok (v, rest) ↔ ∃ items text,
      v = .array items ∧ Listed 93 written true items text ∧ input = text ++ rest := by
  have hitems := readsItems_arrayItems h
  have hitem {x text rest} (hsettled : settled rest = true) :
      (written x text ∧ goesOn text rest = false) ↔ written x text :=
    and_iff_left (goesOn_of_settled hsettled text)
  constructor
  · intro hok
    obtain ⟨⟨items, after⟩, hread, hlast⟩ := bind_eq_ok.1 hok
    obtain ⟨rfl, rfl⟩ := Prod.mk.inj (Except.ok.inj hlast)
    obtain ⟨text, hlisted, rfl⟩ := hitems.sound (by decide) hitem hread
    exact ⟨items, text, rfl, hlisted, rfl⟩
  · rintro ⟨items, text, rfl, hlisted, rfl⟩
    have hlength := hlisted.length_le.1
    refine bind_eq_ok.2 ⟨_, hitems.complete (by decide) hitem hlisted ?_ rest, rfl⟩
    simp only [List.length_append]
    omega

theorem objectOf_eq_ok {read : Reader} {written : Json → Bytes → Prop}
    (h : Reads (read .any) written) {input rest : Bytes} {v : Json} :
    objectOf read .any input = .ok (v, rest) ↔
      ∃ entries text, v = .object (Keyed.ofList entries) ∧
        Listed 125 (Member written) true entries text ∧ input = text ++ rest := by
  have hitems := readsItems_objectEntries h
  constructor
  · intro hok
    obtain ⟨⟨entries, after⟩, hread, hlast⟩ := bind_eq_ok.1 hok
    obtain ⟨rfl, rfl⟩ := Prod.mk.inj (Except.ok.inj hlast)
    obtain ⟨text, hlisted, rfl⟩ := hitems.sound (i := 0) (by decide) memberBefore_iff hread
    exact ⟨entries, text, rfl, hlisted, rfl⟩
  · rintro ⟨entries, text, rfl, hlisted, rfl⟩
    have hlength := hlisted.length_le.1
    refine bind_eq_ok.2
      ⟨_, hitems.complete (i := 0) (by decide) memberBefore_iff hlisted ?_ rest, rfl⟩
    simp only [List.length_append]
    omega

section Values

variable {inner : Option Reader} {written : Option (Json → Bytes → Prop)}

theorem isDigit_start {b : UInt8} (h : isDigit b = true) : isBlank b = false ∧ b ≠ 93 := by
  constructor
  · by_contra hblank
    rw [Bool.not_eq_false, isBlank_eq_true] at hblank
    obtain rfl | rfl | rfl | rfl := hblank <;> exact absurd h (by decide)
  · rintro rfl
    exact absurd h (by decide)

theorem TextWith.start {v : Json} {text : Bytes} (h : TextWith written v text) :
    ∃ b rest, text = b :: rest ∧ isBlank b = false ∧ b ≠ 93 := by
  cases h with
  | positive hn _ =>
    obtain ⟨b, rest, htext, hb⟩ := Numeral.exists_text_eq_cons hn
    exact ⟨b, rest, htext, isDigit_start hb⟩
  | _ => exact ⟨_, _, rfl, by decide, by decide⟩

theorem word_taken_eq_ok {letters : List Char} (h : isAscii letters = true) {v w : Json}
    {input rest : Bytes} : (word letters input >>= taken .any w) = .ok (v, rest) ↔
      w = v ∧ input = ascii letters ++ rest := by
  rw [bind_eq_ok]
  constructor
  · rintro ⟨last, hword, hlast⟩
    obtain ⟨rfl, rfl⟩ := Prod.mk.inj (Except.ok.inj hlast)
    exact ⟨rfl, (word_eq_ok h).1 hword⟩
  · rintro ⟨rfl, hinput⟩
    exact ⟨rest, (word_eq_ok h).2 hinput, rfl⟩

/-- What is read stands there as it is written.  The first byte tells which form it has. -/
theorem valueWith_sound (h : Option.Rel (fun read value => Reads (read .any) value) inner written)
    {input rest : Bytes} {v : Json} (hok : valueWith inner .any input = .ok (v, rest)) :
    ∃ text, TextWith written v text ∧ goesOn text rest = false ∧
      skipBlank input = text ++ rest := by
  rw [valueWith] at hok
  split at hok
  · exact absurd hok stop_ne_ok
  next b after hskip =>
  rw [hskip]
  split at hok
  · next hb =>
    obtain rfl : b = 110 := eq_toUInt8 hb
    obtain ⟨rfl, rfl⟩ := (word_taken_eq_ok rfl).1 hok
    exact ⟨_, .null, rfl, rfl⟩
  · next hb =>
    obtain rfl : b = 116 := eq_toUInt8 hb
    obtain ⟨rfl, rfl⟩ := (word_taken_eq_ok rfl).1 hok
    exact ⟨_, .yes, rfl, rfl⟩
  · next hb =>
    obtain rfl : b = 102 := eq_toUInt8 hb
    obtain ⟨rfl, rfl⟩ := (word_taken_eq_ok rfl).1 hok
    exact ⟨_, .no, rfl, rfl⟩
  · next hb =>
    obtain rfl : b = 45 := eq_toUInt8 hb
    obtain ⟨⟨v', last⟩, hnumber, hlast⟩ := bind_eq_ok.1 hok
    obtain ⟨rfl, rfl⟩ := Prod.mk.inj (Except.ok.inj hlast)
    obtain ⟨n, hn, hends, hvalue, rfl⟩ := number_eq_ok.1 hnumber
    refine ⟨_, .negative hn hvalue, ?_, rfl⟩
    rw [goesOn_minus_cons (Numeral.text_ne_nil hn), Numeral.goesOn_text hn]
    exact hends
  · next hb =>
    obtain rfl : b = 34 := eq_toUInt8 hb
    obtain ⟨⟨s, last⟩, htext, hlast⟩ := bind_eq_ok.1 hok
    obtain ⟨rfl, rfl⟩ := Prod.mk.inj (Except.ok.inj hlast)
    obtain ⟨name, hs, rfl⟩ := text_eq_ok.1 htext
    exact ⟨_, .string hs, goesOn_append_eq_false (by decide) (34 :: name) last, by simp⟩
  · next hb =>
    obtain rfl : b = 91 := eq_toUInt8 hb
    cases h with
    | none => exact absurd hok stopAfter_ne_ok
    | some h =>
      obtain ⟨items, text, rfl, hlisted, rfl⟩ := (arrayOf_eq_ok h).1 hok
      exact ⟨_, .array rfl hlisted, hlisted.goesOn_eq_false (by decide) 91 rest, rfl⟩
  · next hb =>
    obtain rfl : b = 123 := eq_toUInt8 hb
    cases h with
    | none => exact absurd hok stopAfter_ne_ok
    | some h =>
      obtain ⟨entries, text, rfl, hlisted, rfl⟩ := (objectOf_eq_ok h).1 hok
      exact ⟨_, .object rfl hlisted, hlisted.goesOn_eq_false (by decide) 123 rest, rfl⟩
  · split_ifs at hok with hdigit
    · obtain ⟨⟨v', last⟩, hnumber, hlast⟩ := bind_eq_ok.1 hok
      obtain ⟨rfl, rfl⟩ := Prod.mk.inj (Except.ok.inj hlast)
      obtain ⟨n, hn, hends, hvalue, hsplit⟩ := number_eq_ok.1 hnumber
      exact ⟨_, .positive hn hvalue, (Numeral.goesOn_text hn _).2 hends, hsplit⟩
    · exact absurd hok stopAfter_ne_ok

/-- What is written is read, unless what follows goes on with it. -/
theorem valueWith_complete
    (h : Option.Rel (fun read value => Reads (read .any) value) inner written)
    {input text rest : Bytes} {v : Json} (hv : TextWith written v text)
    (hgoes : goesOn text rest = false) (hskip : skipBlank input = text ++ rest) :
    valueWith inner .any input = .ok (v, rest) := by
  rw [valueWith, hskip]
  cases hv with
  | null => exact (word_taken_eq_ok rfl).2 ⟨rfl, rfl⟩
  | yes => exact (word_taken_eq_ok rfl).2 ⟨rfl, rfl⟩
  | no => exact (word_taken_eq_ok rfl).2 ⟨rfl, rfl⟩
  | @positive n _ hn hvalue =>
    have hnumber : number false (n.text ++ rest) = .ok (v, rest) :=
      number_eq_ok.2 ⟨n, hn, (Numeral.goesOn_text hn rest).1 hgoes, hvalue, rfl⟩
    obtain ⟨b, digits, htext, hb⟩ := Numeral.exists_text_eq_cons hn
    rw [htext, List.cons_append] at hnumber ⊢
    simp only
    split
    case h_8 =>
      rw [if_pos hb]
      exact bind_eq_ok.2 ⟨_, hnumber, rfl⟩
    -- a digit is none of the letters that other values begin with
    all_goals next hletter =>
      obtain rfl := eq_toUInt8 hletter
      exact absurd hb (by decide)
  | @negative n _ hn hvalue =>
    rw [goesOn_minus_cons (Numeral.text_ne_nil hn), Numeral.goesOn_text hn] at hgoes
    exact bind_eq_ok.2 ⟨_, number_eq_ok.2 ⟨n, hn, hgoes, hvalue, rfl⟩, rfl⟩
  | @string s name hs =>
    exact bind_eq_ok.2 ⟨_, text_eq_ok.2 ⟨name, hs, by simp⟩, rfl⟩
  | array hinner hlisted =>
    subst hinner
    cases h with
    | some h => exact (arrayOf_eq_ok h).2 ⟨_, _, rfl, hlisted, rfl⟩
  | object hinner hlisted =>
    subst hinner
    cases h with
    | some h => exact (objectOf_eq_ok h).2 ⟨_, _, rfl, hlisted, rfl⟩

theorem reads_valueWith
    (h : Option.Rel (fun read value => Reads (read .any) value) inner written) :
    Reads (valueWith inner .any) (TextWith written) where
  eq_ok := ⟨valueWith_sound h, fun ⟨_, hv, hgoes, hskip⟩ => valueWith_complete h hv hgoes hskip⟩
  start := TextWith.start

/-- The reader of values takes exactly their written forms, by induction on the depth that is
left. -/
theorem reads_value (depth : Nat) : Reads (value depth .any) (Text depth) := by
  induction depth with
  | zero => exact reads_valueWith .none
  | succ depth ih => exact reads_valueWith (.some ih)

end Values

end Json
end ResponseTypes
