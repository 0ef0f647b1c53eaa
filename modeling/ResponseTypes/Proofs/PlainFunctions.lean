import ResponseTypes.Filter.Function
import ResponseTypes.Proofs.PlainValues

/-!
# Functions on plain values

The functions of filters that are not defined in terms of others keep numbers plain.  Few of them
could do otherwise.  A number that is kept as it was written comes out of a function only if it went
in, or if the function reads it from a text, as `fromjson` does; what is read as a number is made of
the characters of numbers, since these are all that the reader accepts there.  So is what a number
is written as, wherever it comes from.

The functions come in one table, and `plain_of_mem_table` goes through it.

## Main definitions

- `Datum.NumericBytes`: bytes of the characters of numbers.
- `Function.Plain`: a function that gives plain values for plain ones.

## Main statements

- `Datum.plain_of_ofText?`: a value that is read from a text.
- `Datum.numeric_write`, `Datum.numeric_toString`: numbers that are written.
- `Function.plain_of_mem_table`: each function of the table.
-/

namespace ResponseTypes
namespace Datum

variable {value a b : Datum}

/-! ## Numbers that are read -/

theorem isNumeric_of_isDigit {c : Char} (h : isDigit c = true) : isNumeric c = true := by
  rw [isNumeric, h, Bool.true_or]

theorem isNumeric_ofUInt8 {b : UInt8} (h : Json.isDigit b = true) :
    isNumeric (Char.ofUInt8 b) = true := by
  refine isNumeric_of_isDigit ?_
  simp only [Json.isDigit, Bool.and_eq_true, decide_eq_true_eq, UInt8.le_iff_toNat_le] at h
  simp only [isDigit, Bool.and_eq_true, decide_eq_true_eq, Char.le_def, UInt32.le_iff_toNat_le]
  have hval : (Char.ofUInt8 b).val.toNat = b.toNat := by
    simp [Char.ofUInt8]
  rw [hval]
  exact h

/-- Bytes of the characters of numbers. -/
def NumericBytes (bytes : Bytes) : Prop :=
  ∀ b ∈ bytes, isNumeric (Char.ofUInt8 b) = true

theorem numericBytes_nil : NumericBytes [] := nofun

theorem numericBytes_of_digits {bytes ds rest : Bytes} (h : digits bytes = .ok (ds, rest)) :
    NumericBytes ds := by
  rw [digits] at h
  split at h
  · cases h
  · obtain ⟨rfl, -⟩ := Prod.mk.inj (Except.ok.inj h)
    exact fun b hb => isNumeric_ofUInt8 (List.mem_takeWhile_imp hb)

theorem numericBytes_of_wholeDigits {bytes ds rest : Bytes}
    (h : wholeDigits bytes = .ok (ds, rest)) : NumericBytes ds := by
  rw [wholeDigits.eq_def] at h
  split at h
  · obtain ⟨rfl, -⟩ := Prod.mk.inj (Except.ok.inj h)
    exact List.forall_mem_singleton.2 (by decide)
  · exact numericBytes_of_digits h

theorem numericBytes_of_fractionDigits {bytes ds rest : Bytes}
    (h : fractionDigits bytes = .ok (ds, rest)) : NumericBytes ds := by
  rw [fractionDigits.eq_def] at h
  split at h
  · obtain ⟨⟨ds, rest⟩, hdigits, hresult⟩ := Json.bind_eq_ok.1 h
    obtain ⟨rfl, -⟩ := Prod.mk.inj (Except.ok.inj hresult)
    exact List.forall_mem_cons.2 ⟨by decide, numericBytes_of_digits hdigits⟩
  · obtain ⟨rfl, -⟩ := Prod.mk.inj (Except.ok.inj h)
    exact nofun

theorem numericBytes_of_exponentDigits {bytes ds rest : Bytes}
    (h : exponentDigits bytes = .ok (ds, rest)) : NumericBytes ds := by
  rw [exponentDigits.eq_def] at h
  split at h
  · obtain ⟨rfl, -⟩ := Prod.mk.inj (Except.ok.inj h)
    exact nofun
  · rename_i mark after
    split_ifs at h with hmark
    · have hmark : isNumeric (Char.ofUInt8 mark) = true := by
        rcases (by simpa using hmark : mark = 101 ∨ mark = 69) with rfl | rfl <;> decide
      split at h
      rename_i sign input hsplit
      have hsign : NumericBytes sign := by
        split at hsplit
        · obtain ⟨rfl, -⟩ := Prod.mk.inj hsplit
          exact List.forall_mem_singleton.2 (by decide)
        · obtain ⟨rfl, -⟩ := Prod.mk.inj hsplit
          exact List.forall_mem_singleton.2 (by decide)
        · obtain ⟨rfl, -⟩ := Prod.mk.inj hsplit
          exact numericBytes_nil
      obtain ⟨⟨_, _⟩, hdigits, hresult⟩ := Json.bind_eq_ok.1 h
      obtain ⟨rfl, -⟩ := Prod.mk.inj (Except.ok.inj hresult)
      exact List.forall_mem_append.2
        ⟨List.forall_mem_cons.2 ⟨hmark, hsign⟩, numericBytes_of_digits hdigits⟩
    · obtain ⟨rfl, -⟩ := Prod.mk.inj (Except.ok.inj h)
      exact nofun

theorem plain_of_writtenNumber {sign bytes rest : Bytes} (hsign : NumericBytes sign)
    (h : writtenNumber sign bytes = .ok (value, rest)) : value.Plain := by
  obtain ⟨⟨whole, _⟩, hwhole, h⟩ := Json.bind_eq_ok.1 h
  obtain ⟨⟨fraction, _⟩, hfraction, h⟩ := Json.bind_eq_ok.1 h
  obtain ⟨⟨exponent, _⟩, hexponent, h⟩ := Json.bind_eq_ok.1 h
  obtain ⟨rfl, -⟩ := Prod.mk.inj (Except.ok.inj h)
  have hall : NumericBytes (sign ++ whole ++ fraction ++ exponent) := by
    simp only [NumericBytes, List.forall_mem_append]
    exact ⟨⟨⟨hsign, numericBytes_of_wholeDigits hwhole⟩,
      numericBytes_of_fractionDigits hfraction⟩, numericBytes_of_exponentDigits hexponent⟩
  refine plain_ofNumeral ?_
  rw [String.toList_ofList]
  exact List.forall_mem_map.2 hall

section Lists

variable {α : Type} {p : α → Prop} {read : Bytes → Except Json.Fault (α × Bytes)}

theorem forall_of_arrayItems (hread : ∀ {input rest a}, read input = .ok (a, rest) → p a)
    {first : Bool} {i fuel : Nat} {input rest : Bytes} {items : List α}
    (h : Json.arrayItems read first i fuel input = .ok (items, rest)) : ∀ item ∈ items, p item := by
  induction fuel generalizing first i input rest items with
  | zero => cases h
  | succ fuel ih =>
    obtain ⟨⟨start?, after⟩, -, h⟩ := Json.bind_eq_ok.1 h
    cases start? with
    | none =>
      obtain ⟨rfl, -⟩ := Prod.mk.inj (Except.ok.inj h)
      exact nofun
    | some start =>
      obtain ⟨⟨item, after⟩, hitem, h⟩ := Json.bind_eq_ok.1 h
      obtain ⟨⟨more, after⟩, hmore, h⟩ := Json.bind_eq_ok.1 h
      obtain ⟨rfl, -⟩ := Prod.mk.inj (Except.ok.inj h)
      exact List.forall_mem_cons.2 ⟨hread (Json.within_eq_ok.1 hitem), ih hmore⟩

theorem forall_of_objectEntries (hread : ∀ {input rest a}, read input = .ok (a, rest) → p a)
    {first : Bool} {fuel : Nat} {input rest : Bytes} {entries : List (String × α)}
    (h : Json.objectEntries read first fuel input = .ok (entries, rest)) :
    ∀ entry ∈ entries, p entry.2 := by
  induction fuel generalizing first input rest entries with
  | zero => cases h
  | succ fuel ih =>
    obtain ⟨⟨key?, after⟩, -, h⟩ := Json.bind_eq_ok.1 h
    cases key? with
    | none =>
      obtain ⟨rfl, -⟩ := Prod.mk.inj (Except.ok.inj h)
      exact nofun
    | some key =>
      obtain ⟨start, -, h⟩ := Json.bind_eq_ok.1 h
      obtain ⟨⟨value, after⟩, hvalue, h⟩ := Json.bind_eq_ok.1 h
      obtain ⟨⟨more, after⟩, hmore, h⟩ := Json.bind_eq_ok.1 h
      obtain ⟨rfl, -⟩ := Prod.mk.inj (Except.ok.inj h)
      exact List.forall_mem_cons.2 ⟨hread (Json.within_eq_ok.1 hvalue), ih hmore⟩

end Lists

theorem plain_of_readValue {fuel : Nat} {bytes rest : Bytes}
    (h : readValue fuel bytes = .ok (value, rest)) : value.Plain := by
  induction fuel generalizing bytes rest value with
  | zero => cases h
  | succ fuel ih =>
    rw [readValue] at h
    split at h
    · cases h
    · rename_i b after _
      split at h
      · obtain ⟨_, -, h⟩ := Json.bind_eq_ok.1 h
        obtain ⟨rfl, -⟩ := Prod.mk.inj (Except.ok.inj h)
        exact .null
      · obtain ⟨_, -, h⟩ := Json.bind_eq_ok.1 h
        obtain ⟨rfl, -⟩ := Prod.mk.inj (Except.ok.inj h)
        exact .boolean true
      · obtain ⟨_, -, h⟩ := Json.bind_eq_ok.1 h
        obtain ⟨rfl, -⟩ := Prod.mk.inj (Except.ok.inj h)
        exact .boolean false
      · rename_i hminus
        refine plain_of_writtenNumber (List.forall_mem_singleton.2 ?_) h
        rw [hminus]
        decide
      · obtain ⟨⟨s, _⟩, -, h⟩ := Json.bind_eq_ok.1 h
        obtain ⟨rfl, -⟩ := Prod.mk.inj (Except.ok.inj h)
        exact .text s
      · obtain ⟨⟨items, _⟩, hitems, h⟩ := Json.bind_eq_ok.1 h
        obtain ⟨rfl, -⟩ := Prod.mk.inj (Except.ok.inj h)
        exact .array (forall_of_arrayItems ih hitems)
      · obtain ⟨⟨entries, _⟩, hentries, h⟩ := Json.bind_eq_ok.1 h
        obtain ⟨rfl, -⟩ := Prod.mk.inj (Except.ok.inj h)
        exact .object (Keyed.forall_insertAll nofun (forall_of_objectEntries ih hentries))
      · exact plain_of_writtenNumber numericBytes_nil h

/-- A value that is read from a text is plain. -/
theorem plain_of_ofText? {s : String} (h : ofText? s = some value) : value.Plain := by
  rw [ofText?] at h
  split at h
  · rename_i hread
    split_ifs at h
    obtain rfl := Option.some.inj h
    exact plain_of_readValue hread
  · cases h

/-! ## Numbers that are written -/

open Decimal (digitsOf dropZeros zeros positional)

theorem numeric_zeros (n : Nat) : Numeric (zeros n) :=
  List.forall_mem_replicate.2 (.inr (by decide))

theorem numeric_digitsOf (n : Nat) : Numeric (digitsOf n) :=
  fun c hc => isNumeric_of_isDigit (Json.isDigit_of_mem_digitsOf c hc)

theorem numeric_dropZeros {digits : List Char} (h : Numeric digits) :
    Numeric (dropZeros digits) := by
  obtain ⟨k, happend⟩ := Json.exists_dropZeros_append digits
  exact fun c hc => h c (happend ▸ List.mem_append_left _ hc)

theorem numeric_positional {digits : List Char} (h : Numeric digits) (exponent : Int) :
    Numeric (positional digits exponent) := by
  cases exponent with
  | ofNat e =>
    refine .append (fun c hc => (h.append (numeric_zeros _)) c (List.mem_of_mem_take hc))
      (.cons (by decide) ?_)
    split_ifs
    · exact numeric_singleton (by decide)
    · exact fun c hc => h c (List.mem_of_mem_drop hc)
  | negSucc e =>
    exact .cons (by decide) (.cons (by decide) ((numeric_zeros e).append h))

theorem numeric_writeExponent (style : Decimal.Style) (exponent : Int) :
    Numeric (style.writeExponent exponent) := by
  refine .cons (by decide) (Numeric.append ?_ (numeric_digitsOf _))
  split_ifs
  · exact numeric_singleton (by decide)
  · exact numeric_singleton (by decide)
  · exact nofun

theorem numeric_scientific (style : Decimal.Style) {digits : List Char} (h : Numeric digits)
    (exponent : Int) : Numeric (style.scientific digits exponent) := by
  refine .append ?_ (numeric_writeExponent style exponent)
  split
  · exact numeric_singleton (by decide)
  · exact h
  · obtain ⟨hfirst, hrest⟩ := List.forall_mem_cons.1 h
    exact .cons hfirst (.cons (by decide) hrest)

theorem numeric_writeDecimal (style : Decimal.Style) (d : Decimal) :
    Numeric (style.writeDecimal d) := by
  rw [Decimal.Style.writeDecimal]
  split_ifs
  · exact .cons (by decide) (.cons (by decide) (numeric_singleton (by decide)))
  · exact numeric_positional (numeric_dropZeros (numeric_digitsOf _)) _
  · exact numeric_scientific style (numeric_dropZeros (numeric_digitsOf _)) _

/-- A double is written in the characters of numbers, in any style. -/
theorem numeric_write (style : Decimal.Style) (x : Float) : Numeric (style.write x) := by
  refine .append ?_ (numeric_writeDecimal style _)
  split_ifs
  · exact numeric_singleton (by decide)
  · exact nofun

theorem numeric_repr (n : Nat) : Numeric n.repr.toList := by
  rw [Nat.repr, String.toList_ofList]
  exact numeric_digitsOf n

theorem numeric_toString (n : Int) : Numeric (toString n).toList := by
  cases n with
  | ofNat n => exact numeric_repr n
  | negSucc n =>
    have happend : toString (Int.negSucc n) = "-" ++ (n + 1).repr := rfl
    rw [happend, String.toList_append]
    exact .append (numeric_singleton (by decide)) (numeric_repr _)

/-! ## Functions -/

theorem calculates_length (value : Datum) : Calculates Plain value.length := by
  rw [length]
  split
  · exact .integer 0
  · exact calculates_complain _
  · exact plain_wrapped _
  · exact .double _
  · exact calculates_complain _
  · exact .integer _
  · exact .integer _
  · exact .integer _

theorem calculates_unsortedKeys (value : Datum) : Calculates Plain (value.keys.map array) :=
  (calculates_keys value).map fun _ hkeys => .array hkeys

theorem calculates_sortedKeys (value : Datum) : Calculates Plain value.sortedKeys := by
  rw [sortedKeys.eq_def]
  split
  · exact .array (List.forall_mem_map.2 fun key _ => .text key)
  · exact calculates_unsortedKeys _

theorem calculates_has (value key : Datum) : Calculates Plain (value.has key) := by
  rw [has.eq_def]
  split
  · exact .boolean _
  · split_ifs
    · exact calculates_cannotIndex _ _
    · exact .boolean _
  · exact calculates_cannotIndex _ _

theorem calculates_toEntries (h : value.Plain) : Calculates Plain value.toEntries := by
  refine (calculates_keys value).bind fun keys hkeys =>
    (calculates_elements h).bind fun elements helements => .array ?_
  refine List.forall_mem_map.2 fun (key, element) hmem => .object ?_
  have hpair := List.of_mem_zip hmem
  exact List.forall_mem_cons.2
    ⟨hkeys key hpair.1, List.forall_mem_singleton.2 (helements element hpair.2)⟩

theorem calculates_entry (key : Datum) (h : value.Plain) : Calculates Plain (entry key value) := by
  cases key with
  | text key => exact .object (List.forall_mem_singleton.2 h)
  | _ => exact calculates_cannotUse _ _

theorem calculates_fromEntries (h : value.Plain) : Calculates Plain value.fromEntries := by
  refine (calculates_elements h).bind fun items hitems => ?_
  have hsum : ∀ sum : Datum, sum.Plain → Calculates Plain (items.foldlM (fun sum item => do
      calculate .add sum (← entry (← item.index (.text "key")) (← item.index (.text "value"))))
      sum) := by
    induction items with
    | nil => exact fun sum hsum => hsum
    | cons item items ih =>
      obtain ⟨hitem, hitems⟩ := List.forall_mem_cons.1 hitems
      intro sum hsum
      rw [List.foldlM_cons]
      refine Calculates.bind ?_ fun sum hsum => ih hitems sum hsum
      exact (calculates_index hitem _).bind fun key _ => (calculates_index hitem _).bind
        fun value hvalue => (calculates_entry key hvalue).bind fun _ hentry =>
          calculates_calculate .add hsum hentry
  exact hsum (object []) (.object nofun)

theorem calculates_indices (value part : Datum) : Calculates Plain (value.indices part) := by
  have hfound : ∀ positions : List Nat,
      (array (positions.map fun (i : Nat) => integer i)).Plain :=
    fun positions => .array (List.forall_mem_map.2 fun i _ => .integer i)
  rw [indices.eq_def]
  split
  · exact hfound _
  · exact hfound _
  · exact hfound _
  · exact calculates_cannotIndex _ _

theorem calculates_fromText (value : Datum) : Calculates Plain value.fromText := by
  refine (calculates_asText value).bind fun s _ => ?_
  split
  · rename_i found hfound
    exact plain_of_ofText? hfound
  · exact calculates_complain _

theorem calculates_mapText (f : List Char → List Char) (value : Datum) :
    Calculates Plain (value.mapText f) :=
  (calculates_asText value).bind fun _ _ => .text _

theorem calculates_compareText {f : List Char → List Char → Datum} (hf : ∀ s t, (f s t).Plain)
    (value other : Datum) : Calculates Plain (compareText f value other) :=
  (calculates_asText value).bind fun _ _ => (calculates_asText other).bind fun _ _ => hf _ _

theorem calculates_splitBy (value separator : Datum) : Calculates Plain (value.splitBy separator) :=
  (calculates_asText value).bind fun _ _ => (calculates_asText separator).bind fun _ _ =>
    .array (List.forall_mem_map.2 fun s _ => .text s)

theorem calculates_codePoints (value : Datum) : Calculates Plain value.codePoints :=
  (calculates_asText value).bind fun _ _ => .array (List.forall_mem_map.2 fun _ _ => .integer _)

theorem calculates_mapM {α β : Type} {p : α → Prop} {q : β → Prop} {f : α → Calculation β}
    {items : List α} (h : ∀ item ∈ items, p item) (hf : ∀ item, p item → Calculates q (f item)) :
    Calculates (fun found => ∀ b ∈ found, q b) (items.mapM f) := by
  induction items with
  | nil => exact nofun
  | cons item items ih =>
    obtain ⟨hitem, hitems⟩ := List.forall_mem_cons.1 h
    rw [List.mapM_cons]
    exact (hf item hitem).bind fun b hb => (ih hitems).bind fun found hfound =>
      List.forall_mem_cons.2 ⟨hb, hfound⟩

theorem calculates_filterMapM {α β : Type} {p : α → Prop} {q : β → Prop}
    {f : α → Calculation (Option β)} {items : List α} (h : ∀ item ∈ items, p item)
    (hf : ∀ item, p item → Calculates (fun found => ∀ b ∈ found, q b) (f item)) :
    Calculates (fun found => ∀ b ∈ found, q b) (items.filterMapM f) := by
  induction items with
  | nil => exact nofun
  | cons item items ih =>
    obtain ⟨hitem, hitems⟩ := List.forall_mem_cons.1 h
    rw [List.filterMapM_cons]
    refine (hf item hitem).bind fun b? hb? => ?_
    cases b? with
    | none => exact ih hitems
    | some b =>
      exact (ih hitems).bind fun found hfound => List.forall_mem_cons.2 ⟨hb? b rfl, hfound⟩

theorem calculates_ofCodePoints (h : value.Plain) : Calculates Plain value.ofCodePoints := by
  refine (calculates_asArray h).bind fun items hitems => ?_
  refine (calculates_mapM (q := fun _ => True) hitems fun item _ => ?_).bind fun _ _ => .text _
  refine (calculates_asInt item).bind fun n _ => ?_
  split_ifs
  · trivial
  · exact calculates_complain _

theorem calculates_rounded (round : Float → Float) (value : Datum) :
    Calculates Plain (value.rounded round) := by
  rw [rounded]
  split
  · exact .integer _
  · exact .integer _
  · exact calculates_cannotUse _ _

theorem calculates_onDouble (f : Float → Float) (value : Datum) :
    Calculates Plain (value.onDouble f) := by
  rw [onDouble]
  split_ifs
  · exact .double _
  · exact calculates_cannotUse _ _

theorem all_range {stop step : Datum} (hstep : step.Plain) (n : Nat) (h : value.Plain) :
    (Datum.range stop step n value).All Plain := by
  induction n generalizing value with
  | zero => exact .done
  | succ n ih =>
    rw [Datum.range]
    split_ifs
    · have hnext := calculates_calculate .add h hstep
      refine .emit h ?_
      split
      · rename_i next hresult
        rw [hresult] at hnext
        exact ih hnext
      · rename_i r hresult
        rw [hresult] at hnext
        exact .raise hnext
    · exact .done

/-! ## Searching texts -/

theorem plain_matched (s : List Char) (name : Option String) (start stop : Nat) :
    (matched s name start stop).Plain := by
  refine .object (List.forall_mem_append.2 ⟨?_, ?_⟩)
  · simp [stretch]
  · cases name <;> simp

theorem calculates_toDatum (m : Match) (s : List Char) : Calculates Plain (m.toDatum s) := by
  rw [Match.toDatum]
  split_ifs
  · exact .array (List.forall_mem_map.2 fun _ _ => plain_matched s _ _ _)
  · trivial

theorem calculates_findAll (value pattern flags : Datum) :
    Calculates (fun _ => True) (findAll value pattern flags) := by
  refine (calculates_asText flags).bind fun letters _ => (calculates_asText pattern).bind
    fun pattern _ => ?_
  split
  · exact calculates_complain _
  · split
    · exact calculates_complain _
    · exact (calculates_asText value).bind fun _ _ => trivial

theorem calculates_findMatches (value pattern flags : Datum) :
    Calculates Plain (findMatches value pattern flags) := by
  refine (calculates_findAll value pattern flags).bind fun (s, found) _ => ?_
  have hall : ∀ m ∈ found, True := fun _ _ => trivial
  exact (calculates_mapM hall fun m _ => calculates_toDatum m s).bind fun _ => .array

theorem calculates_between (keep : Bool) (s : List Char) (start : Nat) (found : List Match) :
    Calculates (fun items => ∀ item ∈ items, item.Plain) (between keep s start found) := by
  induction found generalizing start with
  | nil => exact List.forall_mem_singleton.2 (.text _)
  | cons m found ih =>
    have hrest : ∀ kept : List Datum, (∀ item ∈ kept, item.Plain) →
        Calculates (fun items => ∀ item ∈ items, item.Plain)
          (do return stretch s start m.start :: kept ++ (← between keep s m.stop found)) :=
      fun kept hkept => (ih m.stop).bind fun rest hrest =>
        List.forall_mem_append.2 ⟨List.forall_mem_cons.2 ⟨.text _, hkept⟩, hrest⟩
    rw [between]
    split_ifs
    · exact (calculates_toDatum m s).bind fun item hitem =>
        hrest [item] (List.forall_mem_singleton.2 hitem)
    · exact hrest [] nofun

theorem calculates_splitAtMatches (keep : Bool) (value pattern flags : Datum) :
    Calculates Plain (splitAtMatches keep value pattern flags) :=
  (calculates_findAll value pattern flags).bind fun (s, found) _ =>
    (calculates_between keep s 0 found).bind fun _ => .array

theorem calculates_namedGroups (h : value.Plain) : Calculates Plain value.namedGroups := by
  refine (calculates_asArray h).bind fun items hitems => ?_
  refine Calculates.bind (calculates_filterMapM (q := fun entry => entry.2.Plain) hitems ?_)
    fun entries hentries => .object (Keyed.forall_insertAll nofun hentries)
  intro item hitem
  split
  · rename_i fields
    split
    · rename_i name found _ hfound
      intro entry hentry
      obtain rfl := Option.some.inj hentry
      exact Keyed.of_get?_eq_some (plain_object.1 hitem) hfound
    · exact nofun
  · exact calculates_cannotUse _ _

end Datum

/-! ## The table -/

/-- A function that gives plain values for plain values. -/
def Function.Plain (f : Function) : Prop :=
  ∀ (arguments : List Datum) (value : Datum), (∀ a ∈ arguments, a.Plain) → value.Plain →
    (f.apply arguments value).All Datum.Plain

namespace Function

open Datum

variable {name : String}

theorem plain_ofInput {f : Datum → Calculation Datum}
    (h : ∀ value : Datum, value.Plain → Calculates Datum.Plain (f value)) :
    (ofInput name f).Plain :=
  fun _ value _ hvalue => .ofExcept (h value hvalue)

theorem plain_ofOne {f : Datum → Datum → Calculation Datum}
    (h : ∀ value a : Datum, value.Plain → Calculates Datum.Plain (f value a)) :
    (ofOne name f).Plain := by
  intro arguments value _ hvalue
  rw [ofOne]
  dsimp only
  split
  · exact .ofExcept (h value _ hvalue)
  · exact .done

theorem plain_ofTwo {f : Datum → Datum → Datum → Calculation Datum}
    (h : ∀ value a b : Datum, Calculates Datum.Plain (f value a b)) : (ofTwo name f).Plain := by
  intro arguments value _ _
  rw [ofTwo]
  dsimp only
  split
  · exact .ofExcept (h value _ _)
  · exact .done

theorem plain_numbers : numbers.Plain := by
  intro arguments value harguments _
  rw [numbers]
  dsimp only
  split
  · exact all_range (harguments _ (by simp)) _ (harguments _ (by simp))
  · exact .done

theorem plain_nothing : (nothing name).Plain :=
  fun _ _ _ _ => .done

theorem plain_ofKind (kind : String) : (ofKind name kind).Plain :=
  plain_ofInput fun _ _ => .boolean _

theorem plain_ending : ending.Plain :=
  plain_ofOne fun _ code _ => (calculates_asInt code).bind fun _ _ => trivial

theorem plain_of_mem_table : ∀ f ∈ table, f.Plain := by
  simp only [table, List.forall_mem_cons, List.not_mem_nil, false_implies, implies_true, and_true]
  exact
    ⟨plain_ofInput fun _ _ => .null,
      plain_ofInput fun _ _ => .boolean true,
      plain_ofInput fun _ _ => .boolean false,
      plain_ofInput fun value _ => calculates_length value,
      plain_ofInput fun value _ => (calculates_asText value).bind fun _ _ => .integer _,
      plain_ofInput fun _ _ => trivial,
      plain_ending,
      plain_ofInput fun _ _ => .boolean _,
      plain_ofInput fun _ _ => .text _,
      plain_ofKind "boolean",
      plain_ofKind "number",
      plain_ofKind "string",
      plain_ofKind "array",
      plain_ofKind "object",
      plain_ofInput fun value _ => calculates_sortedKeys value,
      plain_ofInput fun value _ => calculates_unsortedKeys value,
      plain_ofInput fun _ h => calculates_toEntries h,
      plain_ofInput fun _ h => calculates_fromEntries h,
      plain_ofInput fun _ _ => .text _,
      plain_ofInput fun value _ => calculates_fromText value,
      plain_ofInput fun _ h => (calculates_asArray h).bind fun _ hitems =>
        .array fun item hitem => hitems item (List.mem_mergeSort.1 hitem),
      plain_ofInput fun _ h => (calculates_asArray h).bind fun _ hitems =>
        .array fun item hitem => hitems item (List.mem_reverse.1 hitem),
      plain_ofInput fun value _ => calculates_mapText _ value,
      plain_ofInput fun value _ => calculates_mapText _ value,
      plain_ofInput fun value _ => calculates_mapText _ value,
      plain_ofInput fun value _ => calculates_mapText _ value,
      plain_ofInput fun value _ => calculates_mapText _ value,
      plain_ofInput fun value _ => calculates_codePoints value,
      plain_ofInput fun _ h => calculates_ofCodePoints h,
      plain_ofInput fun value _ => calculates_rounded _ value,
      plain_ofInput fun value _ => calculates_rounded _ value,
      plain_ofInput fun value _ => calculates_rounded _ value,
      plain_ofInput fun value _ => calculates_onDouble _ value,
      plain_ofOne fun value key _ => calculates_has value key,
      plain_ofOne fun _ _ _ => .boolean _,
      plain_ofOne fun value part _ => calculates_indices value part,
      plain_ofOne fun value other _ => calculates_compareText (fun _ _ => .text _) value other,
      plain_ofOne fun value other _ => calculates_compareText (fun _ _ => .text _) value other,
      plain_ofOne fun value other _ => calculates_compareText (fun _ _ => .boolean _) value other,
      plain_ofOne fun value other _ => calculates_compareText (fun _ _ => .boolean _) value other,
      plain_ofOne fun value separator _ => calculates_splitBy value separator,
      plain_ofInput fun _ h => calculates_namedGroups h,
      plain_ofTwo calculates_findMatches,
      plain_ofTwo (calculates_splitAtMatches false),
      plain_ofTwo (calculates_splitAtMatches true),
      plain_numbers,
      plain_nothing,
      plain_nothing⟩

end Function
end ResponseTypes
