import ResponseTypes.Filter.Access
import ResponseTypes.Filter.Outputs
import ResponseTypes.Proofs.AnnotationText
import ResponseTypes.Proofs.WrittenDocuments

/-!
# Values with plain numbers

A filter keeps the text of a number that it has not calculated with, and writes this text as it is.
The text of such a number could be anything as far as values go, also a quote or a bracket that
would spoil what is written around it.  It never is: each comes from a document or from the filter,
and is made of digits, points, signs and marks of exponents.

That this stays so is an invariant of whole runs, and this file is its first part: what a value, an
interruption, a calculation and the outputs of a filter have to keep, and that the operations on
values keep it.  Nothing here depends on what the numbers are, only on the few places that make one.

## Main definitions

- `Datum.Plain`: a value whose written numbers are made of the characters of numbers.
- `Calculates`, `Outputs.All`: a property of what a calculation comes to, and of each of the
  outputs, where every error that interrupts them is plain.

## Main statements

- `Outputs.All.bind` and the lemmas after it: what the operations on outputs keep.
- `Datum.calculates_calculate`, `Datum.calculates_take`, `Datum.calculates_change`: operators, parts
  and changed parts.
-/

namespace ResponseTypes

/-! ## Plain values -/

namespace Datum

/-- The characters of numbers. -/
def isNumeric (c : Char) : Bool :=
  isDigit c || ".eE+-".toList.contains c

/-- Characters of numbers only. -/
def Numeric (s : List Char) : Prop :=
  ∀ c ∈ s, isNumeric c = true

theorem Numeric.append {s t : List Char} (hs : Numeric s) (ht : Numeric t) : Numeric (s ++ t) :=
  List.forall_mem_append.2 ⟨hs, ht⟩

theorem Numeric.cons {c : Char} {s : List Char} (hc : isNumeric c = true) (hs : Numeric s) :
    Numeric (c :: s) :=
  List.forall_mem_cons.2 ⟨hc, hs⟩

theorem numeric_singleton {c : Char} (hc : isNumeric c = true) : Numeric [c] :=
  List.forall_mem_singleton.2 hc

/-- A value in which each number that is kept as it was written is made of the characters of
numbers. -/
inductive Plain : Datum → Prop
  | null : Plain .null
  | boolean (b : Bool) : Plain (.boolean b)
  | integer (n : Int) : Plain (.integer n)
  | double (x : Float) : Plain (.double x)
  | numeral {s : String} (h : Numeric s.toList) : Plain (.numeral s)
  | text (s : String) : Plain (.text s)
  | array {items : List Datum} (h : ∀ item ∈ items, Plain item) : Plain (.array items)
  | object {entries : List (String × Datum)} (h : ∀ entry ∈ entries, Plain entry.2) :
      Plain (.object entries)

attribute [simp] Plain.null Plain.boolean Plain.integer Plain.double Plain.text

@[simp]
theorem plain_array {items : List Datum} : (array items).Plain ↔ ∀ item ∈ items, item.Plain :=
  ⟨fun | .array h => h, .array⟩

@[simp]
theorem plain_object {entries : List (String × Datum)} :
    (object entries).Plain ↔ ∀ entry ∈ entries, entry.2.Plain :=
  ⟨fun | .object h => h, .object⟩

/-- A number of the characters of numbers is plain, whether it is kept or taken for an integer. -/
theorem plain_ofNumeral {s : String} (h : Numeric s.toList) : (ofNumeral s).Plain := by
  rw [ofNumeral]
  split
  · split_ifs
    · exact .integer _
    · exact .numeral h
  · exact .numeral h

theorem plain_calculated {value : Datum} (h : value.Plain) : value.calculated.Plain := by
  cases value with
  | numeral s => exact .double _
  | _ => exact h

end Datum

namespace Keyed

variable {α : Type} {p : α → Prop} {entries more : Keyed α}

theorem forall_insert (h : ∀ entry ∈ entries, p entry.2) {value : α} (hvalue : p value)
    (key : String) : ∀ entry ∈ entries.insert key value, p entry.2 := by
  intro entry hentry
  rcases mem_of_mem_insert hentry with hmem | rfl
  · exact h entry hmem
  · exact hvalue

theorem forall_insertAll (h : ∀ entry ∈ entries, p entry.2) (hmore : ∀ entry ∈ more, p entry.2) :
    ∀ entry ∈ entries.insertAll more, p entry.2 := by
  induction more generalizing entries with
  | nil => exact h
  | cons first more ih =>
    obtain ⟨hfirst, hmore⟩ := List.forall_mem_cons.1 hmore
    exact ih (forall_insert h hfirst first.1) hmore

theorem forall_values (h : ∀ entry ∈ entries, p entry.2) : ∀ value ∈ entries.values, p value := by
  intro value hvalue
  obtain ⟨entry, hentry, rfl⟩ := List.mem_map.1 hvalue
  exact h entry hentry

theorem of_get?_eq_some (h : ∀ entry ∈ entries, p entry.2) {key : String} {value : α}
    (hget : entries.get? key = some value) : p value :=
  h _ (mem_of_get?_eq_some hget)

end Keyed

/-! ## Interruptions and calculations -/

/-- An error whose value is plain, or another interruption. -/
def Raise.Plain : Raise → Prop
  | .error value => value.Plain
  | _ => True

/-- A calculation comes to a value with a property, or is interrupted by an error with a plain
value. -/
def Calculates {α : Type} (p : α → Prop) : Calculation α → Prop
  | .ok a => p a
  | .error r => r.Plain

section Calculates

variable {α β : Type} {p : α → Prop} {q : β → Prop}

@[simp]
theorem calculates_ok {a : α} : Calculates p (.ok a) ↔ p a := Iff.rfl

@[simp]
theorem calculates_pure {a : α} : Calculates p (pure a) ↔ p a := Iff.rfl

@[simp]
theorem calculates_error {r : Raise} : Calculates p (.error r) ↔ r.Plain := Iff.rfl

/-- A complaint is made of words. -/
@[simp]
theorem calculates_complain (message : String) : Calculates p (complain message) :=
  Datum.Plain.text message

theorem Calculates.bind {c : Calculation α} (h : Calculates p c) {f : α → Calculation β}
    (hf : ∀ a, p a → Calculates q (f a)) : Calculates q (c >>= f) := by
  cases c with
  | ok a => exact hf a h
  | error r => exact h

theorem Calculates.map {c : Calculation α} (h : Calculates p c) {f : α → β}
    (hf : ∀ a, p a → q (f a)) : Calculates q (c.map f) := by
  cases c with
  | ok a => exact hf a h
  | error r => exact h

end Calculates

/-! ## Outputs -/

/-- Outputs that all have a property, and end by themselves or by an interruption that is plain. -/
inductive Outputs.All {α : Type} (p : α → Prop) : Outputs α → Prop
  | done : All p .done
  | raise {r : Raise} (h : r.Plain) : All p (.raise r)
  | emit {value : α} {rest : Unit → Outputs α} (h : p value) (hrest : All p (rest ())) :
      All p (.emit value rest)

namespace Outputs.All

variable {α β σ : Type} {p : α → Prop} {q : β → Prop} {s : σ → Prop} {outputs : Outputs α}

theorem one {a : α} (h : p a) : (Outputs.one a).All p :=
  .emit h .done

theorem ofList {items : List α} (h : ∀ item ∈ items, p item) : (Outputs.ofList items).All p := by
  induction items with
  | nil => exact .done
  | cons item items ih =>
    obtain ⟨hitem, hitems⟩ := List.forall_mem_cons.1 h
    exact .emit hitem (ih hitems)

theorem ofExcept {c : Calculation α} (h : Calculates p c) : (Outputs.ofExcept c).All p := by
  cases c with
  | ok a => exact one h
  | error r => exact .raise h

theorem append (h : outputs.All p) {second : Unit → Outputs α} (hsecond : (second ()).All p) :
    (outputs.append second).All p := by
  induction h with
  | done => exact hsecond
  | raise h => exact .raise h
  | emit h _ ih => exact .emit h ih

theorem bind (h : outputs.All p) {f : α → Outputs β} (hf : ∀ a, p a → (f a).All q) :
    (outputs.bind f).All q := by
  induction h with
  | done => exact .done
  | raise h => exact .raise h
  | emit h _ ih => exact (hf _ h).append ih

theorem map (h : outputs.All p) {f : α → β} (hf : ∀ a, p a → q (f a)) : (outputs.map f).All q :=
  h.bind fun a ha => one (hf a ha)

theorem interruptPair {r : Raise} (hr : r.Plain) {second : Unit → Outputs β}
    (hsecond : (second ()).All q) : (Outputs.interruptPair r second).All p := by
  rw [Outputs.interruptPair]
  split_ifs
  · exact .raise hr
  · generalize second () = found at hsecond ⊢
    cases hsecond with
    | done => exact .done
    | raise hother =>
      refine .raise ?_
      split_ifs
      · exact hother
      · exact hr
    | emit => exact .raise hr

/-- The pairs of outputs and of second outputs. -/
theorem pairs (h : outputs.All p) {second : Unit → Outputs β} (hsecond : (second ()).All q) :
    (outputs.pairs second).All fun pair => p pair.1 ∧ q pair.2 := by
  induction h with
  | done => exact .done
  | raise h => exact interruptPair h hsecond
  | emit h _ ih => exact (hsecond.map fun b hb => ⟨h, hb⟩).append ih

theorem take (h : outputs.All p) (n : Nat) : (outputs.take n).All p := by
  induction h generalizing n with
  | done => cases n <;> exact .done
  | raise h =>
    cases n with
    | zero => exact .done
    | succ n => exact .raise h
  | emit h _ ih =>
    match n with
    | 0 => exact .done
    | 1 => exact one h
    | n + 2 => exact .emit h (ih (n + 1))

theorem drop (h : outputs.All p) (n : Nat) : (outputs.drop n).All p := by
  induction h generalizing n with
  | done => cases n <;> exact .done
  | raise h => cases n <;> exact .raise h
  | emit h hrest ih =>
    cases n with
    | zero => exact .emit h hrest
    | succ n => exact ih n

theorem last (h : outputs.All p) {previous : Option α} (hprevious : ∀ a ∈ previous, p a) :
    (outputs.last previous).All p := by
  induction h generalizing previous with
  | done => exact ofList fun a ha => hprevious a (Option.mem_toList.1 ha)
  | raise h => exact .raise h
  | emit h _ ih => exact ih fun a ha => Option.some.inj ha ▸ h

theorem first? (h : outputs.All p) : Calculates (fun found => ∀ a ∈ found, p a) outputs.first? := by
  cases h with
  | done => exact nofun
  | raise h => exact h
  | emit h _ => exact fun a ha => Option.some.inj ha ▸ h

theorem filter (h : outputs.All p) (test : α → Bool) : (outputs.filter test).All p := by
  refine h.bind fun a ha => ?_
  split_ifs
  · exact one ha
  · exact .done

theorem rescue (h : outputs.All p) {handler : Raise → Outputs α}
    (hhandler : ∀ r, r.Plain → (handler r).All p) : (outputs.rescue handler).All p := by
  induction h with
  | done => exact .done
  | raise h => exact hhandler _ h
  | emit h _ ih => exact .emit h ih

/-- A state that has a property, through steps that keep it. -/
theorem fold {outputs : Outputs σ} (h : outputs.All s) {step : σ → α → Outputs α}
    (hstep : ∀ value state, s value → p state → (step value state).All p) {state : α}
    (hstate : p state) : (outputs.fold step state).All p := by
  induction h generalizing state with
  | done => exact one hstate
  | raise h => exact .raise h
  | emit h _ ih => exact (hstep _ _ h hstate).bind fun state hstate => ih hstate

theorem scan {outputs : Outputs σ} (h : outputs.All s) {step : σ → α → Outputs α}
    (hstep : ∀ value state, s value → p state → (step value state).All p) {view : σ → α → Outputs β}
    (hview : ∀ value state, s value → p state → (view value state).All q) {state : α}
    (hstate : p state) : (outputs.scan step view state).All q := by
  induction h generalizing state with
  | done => exact .done
  | raise h => exact .raise h
  | emit h _ ih =>
    exact (hstep _ _ h hstate).bind fun state hstate => (hview _ _ h hstate).append (ih hstate)

theorem toList (h : outputs.All p) : Calculates (fun items => ∀ a ∈ items, p a) outputs.toList := by
  have hcollect : ∀ before, (∀ a ∈ before, p a) →
      Calculates (fun items => ∀ a ∈ items, p a) (outputs.collect before) := by
    induction h with
    | done => exact fun before hbefore => hbefore
    | raise h => exact fun _ _ => h
    | emit h _ ih => exact fun before hbefore => ih _ (List.forall_mem_cons.2 ⟨h, hbefore⟩)
  exact (hcollect [] nofun).map fun items hitems a ha => hitems a (List.mem_reverse.1 ha)

theorem gather (h : outputs.All p) {f : List α → β}
    (hf : ∀ items, (∀ a ∈ items, p a) → q (f items)) :
    (outputs.gather f).All q := by
  have hlist := h.toList
  rw [Outputs.gather]
  cases htoList : outputs.toList with
  | ok items =>
    rw [htoList] at hlist
    exact one (hf items hlist)
  | error r =>
    rw [htoList] at hlist
    exact .raise hlist

end Outputs.All

namespace Datum

variable {value a b : Datum}

/-! ## Arithmetic -/

theorem plain_wrapped (n : Int) : (wrapped n).Plain :=
  .integer _

/-- Entries that are merged into others are from the ones or from the others. -/
theorem plain_merge (depth : Nat) {into entries : Keyed Datum}
    (hinto : ∀ entry ∈ into, entry.2.Plain) (h : ∀ entry ∈ entries, entry.2.Plain) :
    ∀ entry ∈ merge depth into entries, entry.2.Plain := by
  induction depth generalizing into entries with
  | zero => exact hinto
  | succ depth ih =>
    rw [merge]
    induction entries generalizing into with
    | nil => exact hinto
    | cons first entries ihentries =>
      obtain ⟨hfirst, hentries⟩ := List.forall_mem_cons.1 h
      refine ihentries ?_ hentries
      dsimp only
      split
      · rename_i old new hold hnew
        have hold := Keyed.of_get?_eq_some hinto hold
        rw [hnew] at hfirst
        exact Keyed.forall_insert hinto (plain_object.2
          (ih (plain_object.1 hold) (plain_object.1 hfirst))) first.1
      · exact Keyed.forall_insert hinto hfirst first.1

theorem calculates_cannotCalculate (op : Operator) (a b : Datum) :
    Calculates Plain (cannotCalculate op a b) :=
  calculates_complain _

theorem calculates_repeatText (s : String) (n : Int) : Calculates Plain (repeatText s n) := by
  rw [repeatText]
  split_ifs
  · exact .null
  · exact .text s
  · trivial
  · exact .text _

theorem calculates_calculate (op : Operator) (ha : a.Plain) (hb : b.Plain) :
    Calculates Plain (calculate op a b) := by
  rw [calculate.eq_def]
  split
  · exact hb
  · exact ha
  · have ha := plain_calculated ha
    have hb := plain_calculated hb
    split
    · exact plain_wrapped _
    · exact .text _
    · rename_i hleft hright _ _
      rw [hleft] at ha
      rw [hright] at hb
      exact .array (List.forall_mem_append.2 ⟨plain_array.1 ha, plain_array.1 hb⟩)
    · rename_i hleft hright _ _
      rw [hleft] at ha
      rw [hright] at hb
      exact .object (Keyed.forall_insertAll (plain_object.1 ha) (plain_object.1 hb))
    · exact plain_wrapped _
    · rename_i hleft hright _ _
      rw [hleft] at ha
      exact .array fun item hitem => plain_array.1 ha item (List.mem_of_mem_filter hitem)
    · exact plain_wrapped _
    · exact calculates_repeatText _ _
    · exact calculates_repeatText _ _
    · rename_i hleft hright _ _
      rw [hleft] at ha
      rw [hright] at hb
      exact .object (plain_merge _ (plain_object.1 ha) (plain_object.1 hb))
    · exact plain_array.2 (List.forall_mem_map.2 fun s _ => .text s)
    · split_ifs
      · exact calculates_cannotCalculate _ _ _
      · exact .integer _
      · trivial
    · exact calculates_cannotCalculate _ _ _
    · split_ifs
      · exact .double _
      · exact calculates_cannotCalculate _ _ _

theorem calculates_negate (a : Datum) : Calculates Plain a.negate := by
  rw [negate]
  split
  · exact plain_wrapped _
  · exact .double _
  · exact calculates_complain _

/-! ## Parts -/

section Complaints

variable {α : Type} {p : α → Prop}

@[simp]
theorem calculates_cannotIndex (value i : Datum) : Calculates p (value.cannotIndex i) :=
  calculates_complain _

@[simp]
theorem calculates_cannotUse (value : Datum) (kind : String) :
    Calculates p (value.cannotUse kind) :=
  calculates_complain _

end Complaints

theorem calculates_asInt (value : Datum) : Calculates (fun _ => True) value.asInt := by
  cases value with
  | integer n => trivial
  | _ => exact calculates_complain _

theorem calculates_asText (value : Datum) : Calculates (fun _ => True) value.asText := by
  cases value with
  | text s => trivial
  | _ => exact calculates_cannotUse _ _

theorem calculates_asArray (h : value.Plain) :
    Calculates (fun items => ∀ item ∈ items, item.Plain) value.asArray := by
  cases value with
  | array items => exact plain_array.1 h
  | _ => exact calculates_cannotUse _ _

theorem calculates_sliceOf (start stop : Option Datum) (length : Nat) :
    Calculates (fun _ => True) (sliceOf start stop length) := by
  have hbound : ∀ bound : Option Datum, Calculates (fun _ => True) (boundInt? bound) := by
    intro bound
    cases bound with
    | none => trivial
    | some value => exact value.calculates_asInt.map fun _ _ => trivial
  exact (hbound start).bind fun _ _ => (hbound stop).bind fun _ _ => trivial

theorem calculates_elements (h : value.Plain) :
    Calculates (fun items => ∀ item ∈ items, item.Plain) value.elements := by
  cases value with
  | array items => exact plain_array.1 h
  | object entries => exact Keyed.forall_values (plain_object.1 h)
  | _ => exact calculates_cannotUse _ _

theorem calculates_keys (value : Datum) :
    Calculates (fun items => ∀ item ∈ items, item.Plain) value.keys := by
  cases value with
  | array items => exact List.forall_mem_map.2 fun i _ => .integer i
  | object entries => exact List.forall_mem_map.2 fun key _ => .text key
  | _ => exact calculates_cannotUse _ _

theorem calculates_slice (h : value.Plain) (start stop : Option Datum) :
    Calculates Plain (value.slice start stop) := by
  cases value with
  | array items =>
    refine (calculates_sliceOf start stop items.length).bind fun _ _ => .array fun item hitem => ?_
    exact plain_array.1 h item (List.mem_of_mem_drop (List.mem_of_mem_take hitem))
  | text s => exact (calculates_sliceOf start stop s.toList.length).bind fun _ _ => .text _
  | _ => exact calculates_cannotUse _ _

theorem plain_getD {found : Option Datum} (h : ∀ item ∈ found, item.Plain) :
    (found.getD null).Plain := by
  cases found with
  | none => exact .null
  | some item => exact h item rfl

theorem calculates_index (h : value.Plain) (i : Datum) : Calculates Plain (value.index i) := by
  rw [index.eq_def]
  split
  · refine plain_getD fun item hitem => ?_
    obtain ⟨j, -, hj⟩ := Option.bind_eq_some_iff.1 hitem
    exact plain_array.1 h item (List.mem_of_getElem? hj)
  · exact plain_getD fun item hitem => Keyed.of_get?_eq_some (plain_object.1 h) hitem
  · exact calculates_cannotIndex _ _

theorem calculates_take (h : value.Plain) (part : Part) :
    Calculates (fun items => ∀ item ∈ items, item.Plain) (value.take part) := by
  have hone : ∀ item : Datum, item.Plain → ∀ other ∈ [item], other.Plain :=
    fun item hitem => List.forall_mem_singleton.2 hitem
  cases part with
  | index i => exact (calculates_index h i).bind hone
  | slice start stop => exact (calculates_slice h start stop).bind hone
  | all => exact calculates_elements h

/-! ## Changed parts -/

/-- A change that makes plain values of plain ones. -/
def Change.Plain (f : Change) : Prop :=
  ∀ value : Datum, value.Plain → (f value).All Datum.Plain

section Change

variable {f : Change} {items : List Datum} {entries : Keyed Datum}

theorem plain_removeSwapping (h : ∀ entry ∈ entries, entry.2.Plain) (key : String) :
    ∀ entry ∈ removeSwapping entries key, entry.2.Plain := by
  have hinit : ∀ entry ∈ entries.dropLast, entry.2.Plain :=
    fun entry hentry => h entry (List.mem_of_mem_dropLast hentry)
  rw [removeSwapping]
  split
  · exact nofun
  · rename_i last hlast
    have hlast := h last (List.mem_of_getLast? hlast)
    split_ifs
    · exact hinit
    · refine List.forall_mem_map.2 fun entry hentry => ?_
      split_ifs
      · exact hlast
      · exact hinit entry hentry

theorem calculates_changeAt (hf : Change.Plain f) (h : ∀ item ∈ items, item.Plain) (i : Nat) :
    Calculates (fun items => ∀ item ∈ items, item.Plain) (changeAt items i f) := by
  have hold : ((items[i]?).getD null).Plain :=
    plain_getD fun item hitem => h item (List.mem_of_getElem? hitem)
  refine (hf _ hold).first?.bind fun found hfound => ?_
  cases found with
  | some new =>
    intro item hitem
    rcases List.mem_or_eq_of_mem_set hitem with hmem | rfl
    · exact h item hmem
    · exact hfound item rfl
  | none => exact fun item hitem => h item (List.mem_of_mem_eraseIdx hitem)

theorem calculates_changeUnder (hf : Change.Plain f) (h : ∀ entry ∈ entries, entry.2.Plain)
    (key : String) :
    Calculates (fun entries => ∀ entry ∈ entries, entry.2.Plain) (changeUnder entries key f) := by
  rw [changeUnder]
  split
  · rename_i old hold
    refine (hf old (Keyed.of_get?_eq_some h hold)).first?.bind fun found hfound => ?_
    cases found with
    | some new => exact Keyed.forall_insert h (hfound new rfl) key
    | none => exact plain_removeSwapping h key
  · refine (hf null .null).first?.bind fun found hfound => ?_
    cases found with
    | some new => exact Keyed.forall_insert h (hfound new rfl) key
    | none => exact h

theorem calculates_changeItems (hf : Change.Plain f) (h : ∀ item ∈ items, item.Plain) :
    Calculates (fun items => ∀ item ∈ items, item.Plain) (changeItems f items) := by
  induction items with
  | nil => exact nofun
  | cons item items ih =>
    obtain ⟨hitem, hitems⟩ := List.forall_mem_cons.1 h
    exact (hf item hitem).toList.bind fun new hnew => (ih hitems).bind fun rest hrest =>
      List.forall_mem_append.2 ⟨hnew, hrest⟩

theorem calculates_changeEntries (hf : Change.Plain f) (h : ∀ entry ∈ entries, entry.2.Plain) :
    Calculates (fun entries => ∀ entry ∈ entries, entry.2.Plain) (changeEntries f entries) := by
  induction entries with
  | nil => exact nofun
  | cons entry entries ih =>
    obtain ⟨hentry, hentries⟩ := List.forall_mem_cons.1 h
    refine (hf entry.2 hentry).first?.bind fun found hfound =>
      (ih hentries).bind fun rest hrest => ?_
    cases found with
    | some new => exact List.forall_mem_cons.2 ⟨hfound new rfl, hrest⟩
    | none => exact hrest

theorem calculates_changeSlice (hf : Change.Plain f) (h : ∀ item ∈ items, item.Plain)
    (first n : Nat) : Calculates Plain (changeSlice items first n f) := by
  have hslice : (array ((items.drop first).take n)).Plain :=
    .array fun item hitem => h item (List.mem_of_mem_drop (List.mem_of_mem_take hitem))
  have hends : ∀ new : List Datum, (∀ item ∈ new, item.Plain) →
      (array (items.take first ++ new ++ items.drop (first + n))).Plain := by
    intro new hnew
    refine .array (List.forall_mem_append.2 ⟨List.forall_mem_append.2 ⟨?_, hnew⟩, ?_⟩)
    · exact fun item hitem => h item (List.mem_of_mem_take hitem)
    · exact fun item hitem => h item (List.mem_of_mem_drop hitem)
  rw [changeSlice]
  refine (hf _ hslice).first?.bind fun found hfound => ?_
  dsimp only
  split
  · exact hends [] nofun
  · exact hends _ (plain_array.1 (hfound _ rfl))
  · exact calculates_cannotUse _ _

theorem calculates_orComplain (h : value.Plain) (optional : Bool) {complaint : Calculation Datum}
    (hcomplaint : Calculates Plain complaint) :
    Calculates Plain (orComplain value optional complaint) := by
  rw [orComplain]
  split_ifs
  · exact h
  · exact hcomplaint

/-- A value with a part of it changed. -/
theorem calculates_change (hf : Change.Plain f) (h : value.Plain) (part : Part) (optional : Bool) :
    Calculates Plain (value.change part optional f) := by
  rw [change.eq_def]
  split
  · exact (calculates_changeItems hf (plain_array.1 h)).map fun _ => .array
  · exact (calculates_changeEntries hf (plain_object.1 h)).map fun _ => .object
  · exact calculates_orComplain h optional (calculates_cannotUse _ _)
  · rename_i start stop items
    have hslice := calculates_sliceOf start stop items.length
    split
    · exact calculates_changeSlice hf (plain_array.1 h) _ _
    · rename_i r hr
      rw [hr] at hslice
      exact calculates_orComplain h optional hslice
  · exact calculates_orComplain h optional (calculates_cannotUse _ _)
  · exact (calculates_changeUnder hf (plain_object.1 h) _).map fun _ => .object
  · exact calculates_orComplain h optional (calculates_cannotIndex _ _)
  · rename_i i items
    have hindex := calculates_asInt i
    split
    · rename_i r hr
      rw [hr] at hindex
      exact calculates_orComplain h optional hindex
    · split
      · exact (calculates_changeAt hf (plain_array.1 h) _).map fun _ => .array
      · exact calculates_orComplain h optional (calculates_complain _)
  · exact calculates_orComplain h optional (calculates_cannotUse _ _)

end Change

end Datum
end ResponseTypes
