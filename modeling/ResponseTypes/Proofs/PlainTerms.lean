import ResponseTypes.Filter.Run
import ResponseTypes.Proofs.PlainFunctions

/-!
# Terms with plain constants

A filter brings numbers of its own, and keeps them as they are written in its text.  A token that is
a number is made of the characters of numbers, so the constants of the term that is read are plain.

The reader of tokens and the reader of terms are families of functions that call each other with
less fuel.  For each family a structure says that all of its members keep to plain results, and one
induction on the fuel proves all fields at once, from a lemma for each member that takes the
structure for what it calls.

The definitions that every filter can use are read from a text as well.  That they are plain follows
from how they were read, without a look at what they are.

## Main definitions

- `Finds`: a property of a result, if there is one.
- `Token.Plain`, `Term.Plain`: tokens and terms whose numbers are made of the characters of numbers.
- `Token.ReadsPlain`, `Grammar.ReadsPlain`: readers that keep to such results.

## Main statements

- `Filter.plain_of_read`: the term of a filter is plain.
- `Library.plain_of_mem_definitions`: so is each definition of the library.
-/

namespace ResponseTypes

/-! ## Results that are found -/

/-- Whatever is found has a property. -/
def Finds {α : Type} (p : α → Prop) (found : Option α) : Prop :=
  ∀ a, found = some a → p a

section Finds

variable {α β : Type} {p : α → Prop} {q : β → Prop}

theorem forall_mem_some {a : α} (h : p a) : ∀ b ∈ some a, p b :=
  fun _ hb => Option.some.inj hb ▸ h

theorem forall_mem_none : ∀ b ∈ (none : Option α), p b :=
  nofun

theorem finds_none : Finds p none :=
  nofun

theorem finds_some {a : α} (h : p a) : Finds p (some a) :=
  fun _ ha => Option.some.inj ha ▸ h

/-- Where nothing is asked of what is found. -/
theorem finds_any (found : Option α) : Finds (fun _ => True) found :=
  fun _ _ => trivial

theorem Finds.imp {found : Option α} (h : Finds p found) {p' : α → Prop} (himp : ∀ a, p a → p' a) :
    Finds p' found :=
  fun a ha => himp a (h a ha)

theorem Finds.bind {found : Option α} (h : Finds p found) {f : α → Option β}
    (hf : ∀ a, p a → Finds q (f a)) : Finds q (found >>= f) := by
  cases found with
  | none => exact finds_none
  | some a => exact hf a (h a rfl)

theorem Finds.getD {found : Option α} (h : Finds p found) {ifNone : α} (hnone : p ifNone) :
    p (found.getD ifNone) := by
  cases found with
  | none => exact hnone
  | some a => exact h a rfl

theorem Finds.mapM {f : α → Option β} {items : List α} (h : ∀ item ∈ items, Finds q (f item)) :
    Finds (fun found => ∀ b ∈ found, q b) (items.mapM f) := by
  induction items with
  | nil => exact finds_some nofun
  | cons item items ih =>
    obtain ⟨hitem, hitems⟩ := List.forall_mem_cons.1 h
    rw [List.mapM_cons]
    exact hitem.bind fun b hb => (ih hitems).bind fun found hfound =>
      finds_some (List.forall_mem_cons.2 ⟨hb, hfound⟩)

end Finds

/-! ## Plain tokens -/

mutual

/-- A token whose numbers are made of the characters of numbers. -/
inductive Token.Plain : Token → Prop
  | word (name : String) : Token.Plain (.word name)
  | variable (name : String) : Token.Plain (.variable name)
  | format (name : String) : Token.Plain (.format name)
  | number {numeral : String} (h : Datum.Numeric numeral.toList) : Token.Plain (.number numeral)
  | symbol (mark : String) : Token.Plain (.symbol mark)
  | text {parts : List TextPart} (h : ∀ part ∈ parts, TextPart.Plain part) :
      Token.Plain (.text parts)
  | block (opening : Char) {tokens : List Token} (h : ∀ token ∈ tokens, Token.Plain token) :
      Token.Plain (.block opening tokens)

/-- A part of a text whose tokens are plain. -/
inductive TextPart.Plain : TextPart → Prop
  | plain (content : String) : TextPart.Plain (.plain content)
  | hole {tokens : List Token} (h : ∀ token ∈ tokens, Token.Plain token) :
      TextPart.Plain (.hole tokens)

end

namespace Token

open Datum (isNumeric Numeric)

/-- Tokens that are all plain. -/
def AllPlain (tokens : List Token) : Prop :=
  ∀ token ∈ tokens, token.Plain

theorem allPlain_nil : AllPlain [] := nofun

theorem AllPlain.cons {token : Token} {tokens : List Token} (h : token.Plain)
    (hrest : AllPlain tokens) : AllPlain (token :: tokens) :=
  List.forall_mem_cons.2 ⟨h, hrest⟩

theorem AllPlain.tail {token : Token} {tokens : List Token} (h : AllPlain (token :: tokens)) :
    AllPlain tokens :=
  (List.forall_mem_cons.1 h).2

theorem allPlain_of_block {opening : Char} {tokens : List Token}
    (h : (block opening tokens).Plain) : AllPlain tokens := by
  cases h with
  | block _ h => exact h

theorem AllPlain.head {token : Token} {tokens : List Token} (h : AllPlain (token :: tokens)) :
    token.Plain :=
  (List.forall_mem_cons.1 h).1

theorem numeric_takeWhile (s : List Char) : Numeric (s.takeWhile isDigit) :=
  fun _ hc => Datum.isNumeric_of_isDigit (List.mem_takeWhile_imp hc)

theorem finds_fraction (s : List Char) : Finds (fun result => Numeric result.1) (fraction s) := by
  rw [fraction.eq_def]
  split
  · dsimp only
    split_ifs
    · exact finds_none
    · exact finds_some (.cons (by decide) (numeric_takeWhile _))
  · exact finds_some nofun

theorem finds_exponent (s : List Char) : Finds (fun result => Numeric result.1) (exponent s) := by
  rw [exponent.eq_def]
  split
  · rename_i c after
    split_ifs with hmark
    · have hmark : isNumeric c = true := by
        rcases hmark with rfl | rfl <;> decide
      split
      rename_i sign input hsplit
      have hsign : Numeric sign := by
        split at hsplit
        · obtain ⟨rfl, -⟩ := Prod.mk.inj hsplit
          exact Datum.numeric_singleton (by decide)
        · obtain ⟨rfl, -⟩ := Prod.mk.inj hsplit
          exact Datum.numeric_singleton (by decide)
        · obtain ⟨rfl, -⟩ := Prod.mk.inj hsplit
          exact nofun
      dsimp only
      split_ifs
      · exact finds_none
      · exact finds_some ((Numeric.cons hmark hsign).append (numeric_takeWhile _))
    · exact finds_some nofun
  · exact finds_some nofun

theorem finds_numeral (s : List Char) : Finds (fun result => Numeric result.1) (numeral s) :=
  (finds_fraction _).bind fun _ hf => (finds_exponent _).bind fun _ he =>
    finds_some (((numeric_takeWhile s).append hf).append he)

theorem plain_addChar (c : Char) {parts : List TextPart} (h : ∀ part ∈ parts, part.Plain) :
    ∀ part ∈ addChar c parts, part.Plain := by
  rw [addChar.eq_def]
  split
  · exact List.forall_mem_cons.2 ⟨.plain _, (List.forall_mem_cons.1 h).2⟩
  · exact List.forall_mem_cons.2 ⟨.plain _, h⟩

/-- The readers of tokens with so much fuel give plain ones. -/
structure ReadsPlain (fuel : Nat) : Prop where
  next (s : List Char) : Finds (fun result => result.1.Plain) (next fuel s)
  sequence (s : List Char) : Finds (fun result => AllPlain result.1) (sequence fuel s)
  textParts (s : List Char) :
    Finds (fun result => ∀ part ∈ result.1, part.Plain) (textParts fuel s)

theorem ReadsPlain.next_succ {fuel : Nat} (h : ReadsPlain fuel) (s : List Char) :
    Finds (fun result => result.1.Plain) (Token.next (fuel + 1) s) := by
  rw [Token.next.eq_def]
  split
  · exact finds_none
  · exact finds_none
  · rename_i fuel' c after hfuel
    obtain rfl := Nat.succ.inj hfuel
    split_ifs
    · exact (finds_any _).bind fun _ _ => finds_some (.word _)
    · refine (finds_numeral _).bind fun _ hdigits => finds_some (.number ?_)
      rw [String.toList_ofList]
      exact hdigits
    · exact finds_some (.symbol _)
    · split
      · split <;> exact finds_some (.symbol _)
      · exact (finds_any _).bind fun _ _ => finds_some (.variable _)
      · exact (finds_any _).bind fun _ _ => finds_some (.format _)
      · split <;> exact finds_some (.symbol _)
      · exact (h.textParts _).bind fun _ hparts => finds_some (.text hparts)
      · split_ifs
        · exact finds_some (.symbol _)
        · refine (h.sequence _).bind fun (tokens, rest) htokens => ?_
          dsimp only
          split
          · split_ifs
            · exact finds_some (.block _ htokens)
            · exact finds_none
          · exact finds_none
        · exact finds_none

theorem ReadsPlain.sequence_succ {fuel : Nat} (h : ReadsPlain fuel) (s : List Char) :
    Finds (fun result => AllPlain result.1) (Token.sequence (fuel + 1) s) := by
  rw [Token.sequence]
  split
  · exact finds_some allPlain_nil
  · split_ifs
    · exact finds_some allPlain_nil
    · exact (h.next _).bind fun _ htoken => (h.sequence _).bind fun _ htokens =>
        finds_some (.cons htoken htokens)

theorem ReadsPlain.textParts_succ {fuel : Nat} (h : ReadsPlain fuel) (s : List Char) :
    Finds (fun result => ∀ part ∈ result.1, part.Plain) (Token.textParts (fuel + 1) s) := by
  rw [Token.textParts.eq_def]
  split
  · exact finds_none
  · exact finds_none
  · exact finds_some nofun
  · rename_i hfuel
    obtain rfl := Nat.succ.inj hfuel
    refine (h.sequence _).bind fun (tokens, rest) htokens => ?_
    dsimp only
    split
    · exact (h.textParts _).bind fun _ hparts =>
        finds_some (List.forall_mem_cons.2 ⟨.hole htokens, hparts⟩)
    · exact finds_none
  · rename_i hfuel
    obtain rfl := Nat.succ.inj hfuel
    exact (finds_any _).bind fun _ _ => (h.textParts _).bind fun _ hparts =>
      finds_some (plain_addChar _ hparts)
  · rename_i hfuel
    obtain rfl := Nat.succ.inj hfuel
    exact (h.textParts _).bind fun _ hparts => finds_some (plain_addChar _ hparts)

theorem readsPlain (fuel : Nat) : ReadsPlain fuel := by
  induction fuel with
  | zero => exact ⟨fun _ => finds_none, fun _ => finds_none, fun _ => finds_none⟩
  | succ fuel ih => exact ⟨ih.next_succ, ih.sequence_succ, ih.textParts_succ⟩

theorem finds_ofText? (s : List Char) : Finds AllPlain (ofText? s) := by
  rw [ofText?]
  split
  · rename_i tokens hread
    exact finds_some ((readsPlain _).sequence s _ hread)
  · exact finds_none

end Token

/-! ## Plain terms -/

mutual

/-- A term whose constants are plain. -/
inductive Term.Plain : Term → Prop
  | identity : Term.Plain .identity
  | recurse {step : Term} (h : Term.Plain step) : Term.Plain (.recurse step)
  | constant {value : Datum} (h : value.Plain) : Term.Plain (.constant value)
  | text (format : Option String) {parts : List (String ⊕ Term)}
      (h : ∀ t, .inr t ∈ parts → Term.Plain t) : Term.Plain (.text format parts)
  | array {items : Term} (h : Term.Plain items) : Term.Plain (.array items)
  | entry {key value : Term} (hkey : Term.Plain key) (hvalue : Term.Plain value) :
      Term.Plain (.entry key value)
  | entryOf {key : Term} (h : Term.Plain key) : Term.Plain (.entryOf key)
  | negate {t : Term} (h : Term.Plain t) : Term.Plain (.negate t)
  | pipe {first second : Term} (hfirst : Term.Plain first) (hsecond : Term.Plain second) :
      Term.Plain (.pipe first second)
  | bind {source : Term} {pattern : Pattern} {body : Term} (hsource : Term.Plain source)
      (hpattern : Pattern.Plain pattern) (hbody : Term.Plain body) :
      Term.Plain (.bind source pattern body)
  | comma {first second : Term} (hfirst : Term.Plain first) (hsecond : Term.Plain second) :
      Term.Plain (.comma first second)
  | calculate (op : Datum.Operator) {left right : Term} (hleft : Term.Plain left)
      (hright : Term.Plain right) : Term.Plain (.calculate op left right)
  | compare (op : Comparison) {left right : Term} (hleft : Term.Plain left)
      (hright : Term.Plain right) : Term.Plain (.compare op left right)
  | both {left right : Term} (hleft : Term.Plain left) (hright : Term.Plain right) :
      Term.Plain (.both left right)
  | either {left right : Term} (hleft : Term.Plain left) (hright : Term.Plain right) :
      Term.Plain (.either left right)
  | alternative {first second : Term} (hfirst : Term.Plain first) (hsecond : Term.Plain second) :
      Term.Plain (.alternative first second)
  | update {target change : Term} (htarget : Term.Plain target) (hchange : Term.Plain change) :
      Term.Plain (.update target change)
  | assign (how : Assignment) {target operand : Term} (htarget : Term.Plain target)
      (hoperand : Term.Plain operand) : Term.Plain (.assign how target operand)
  | branch {condition yes no : Term} (hcondition : Term.Plain condition) (hyes : Term.Plain yes)
      (hno : Term.Plain no) : Term.Plain (.branch condition yes no)
  | attempt {body : Term} {handler : Option Term} (hbody : Term.Plain body)
      (hhandler : ∀ t ∈ handler, Term.Plain t) : Term.Plain (.attempt body handler)
  | label (name : String) {body : Term} (h : Term.Plain body) : Term.Plain (.label name body)
  | leave (name : String) : Term.Plain (.leave name)
  | reduce {source : Term} {pattern : Pattern} {start step : Term} (hsource : Term.Plain source)
      (hpattern : Pattern.Plain pattern) (hstart : Term.Plain start) (hstep : Term.Plain step) :
      Term.Plain (.reduce source pattern start step)
  | foreach {source : Term} {pattern : Pattern} {start step : Term} {view : Option Term}
      (hsource : Term.Plain source) (hpattern : Pattern.Plain pattern) (hstart : Term.Plain start)
      (hstep : Term.Plain step) (hview : ∀ t ∈ view, Term.Plain t) :
      Term.Plain (.foreach source pattern start step view)
  | define {definition : Definition} {body : Term} (hdefinition : Definition.Plain definition)
      (hbody : Term.Plain body) : Term.Plain (.define definition body)
  | call (name : String) {arguments : List Term} (h : ∀ t ∈ arguments, Term.Plain t) :
      Term.Plain (.call name arguments)
  | misfit (name : String) (arity : Nat) : Term.Plain (.misfit name arity)
  | variable (name : String) : Term.Plain (.variable name)
  | path {base : Term} {steps : List PathStep} (hbase : Term.Plain base)
      (hsteps : ∀ step ∈ steps, PathStep.Plain step) : Term.Plain (.path base steps)

/-- A step whose terms are plain. -/
inductive PathStep.Plain : PathStep → Prop
  | index {i : Term} (h : Term.Plain i) (optional : Bool) : PathStep.Plain (.index i optional)
  | slice {start stop : Option Term} (hstart : ∀ t ∈ start, Term.Plain t)
      (hstop : ∀ t ∈ stop, Term.Plain t) (optional : Bool) :
      PathStep.Plain (.slice start stop optional)
  | all (optional : Bool) : PathStep.Plain (.all optional)

/-- A pattern whose keys are plain terms. -/
inductive Pattern.Plain : Pattern → Prop
  | variable (name : String) : Pattern.Plain (.variable name)
  | array {items : List Pattern} (h : ∀ p ∈ items, Pattern.Plain p) : Pattern.Plain (.array items)
  | object {entries : List (Term × Pattern)}
      (hkeys : ∀ entry ∈ entries, Term.Plain entry.1)
      (hpatterns : ∀ entry ∈ entries, Pattern.Plain entry.2) : Pattern.Plain (.object entries)

/-- A definition whose body is plain. -/
inductive Definition.Plain : Definition → Prop
  | mk (name : String) (parameters : List String) {body : Term} (h : Term.Plain body) :
      Definition.Plain (.mk name parameters body)

end

theorem Definition.Plain.body {d : Definition} (h : d.Plain) : d.body.Plain := by
  cases h with
  | mk _ _ h => exact h

/-- A sum of plain terms. -/
theorem Term.plain_sum {terms : List Term} (h : ∀ t ∈ terms, t.Plain) {ifNone : Datum}
    (hnone : ifNone.Plain) : (Term.sum terms ifNone).Plain := by
  induction terms with
  | nil => exact .constant hnone
  | cons t terms ih =>
    obtain ⟨ht, hterms⟩ := List.forall_mem_cons.1 h
    cases terms with
    | nil => exact ht
    | cons next terms => exact .calculate .add ht (ih hterms)

/-! ## Operators -/

/-- An operator whose pattern is plain, if it has one. -/
def Operation.Plain : Operation → Prop
  | .bind pattern => pattern.Plain
  | _ => True

namespace Operation

theorem plain_join {op : Operation} {left right : Term} (h : op.Plain) (hleft : left.Plain)
    (hright : right.Plain) : (op.join left right).Plain := by
  cases op with
  | pipe => exact .pipe hleft hright
  | bind pattern => exact .bind hleft h hright
  | comma => exact .comma hleft hright
  | assign how => exact .assign how hleft hright
  | update => exact .update hleft hright
  | alternative => exact .alternative hleft hright
  | either => exact .either hleft hright
  | both => exact .both hleft hright
  | compare op => exact .compare op hleft hright
  | calculate op => exact .calculate op hleft hright

/-- Operators with the terms after them, all plain. -/
def AllPlain (rest : List (Operation × Term)) : Prop :=
  ∀ pair ∈ rest, pair.1.Plain ∧ pair.2.Plain

theorem plain_climb (fuel least : Nat) {left : Term} {rest : List (Operation × Term)}
    (hleft : left.Plain) (hrest : AllPlain rest) :
    (climb fuel least left rest).1.Plain ∧ AllPlain (climb fuel least left rest).2 := by
  induction fuel generalizing least left rest with
  | zero => exact ⟨hleft, hrest⟩
  | succ fuel ih =>
    cases rest with
    | nil => exact ⟨hleft, hrest⟩
    | cons pair rest =>
      obtain ⟨⟨hop, hright⟩, hmore⟩ := List.forall_mem_cons.1 hrest
      rw [climb]
      split
      · exact ⟨hleft, hrest⟩
      · have hinner := ih (if pair.1.toTheRight then pair.1.precedence else pair.1.precedence + 1)
          hright hmore
        exact ih least (plain_join hop hleft hinner.1) hinner.2

theorem plain_joinAll {left : Term} {rest : List (Operation × Term)} (hleft : left.Plain)
    (hrest : AllPlain rest) : (joinAll left rest).Plain :=
  (plain_climb _ 0 hleft hrest).1

theorem plain_of_ofMark? {mark : String} {op : Operation} (h : ofMark? mark = some op) :
    op.Plain := by
  rw [ofMark?.eq_def] at h
  split at h <;> first | cases h; trivial | cases h

end Operation

/-! ## The grammar -/

namespace Grammar

open Token (AllPlain)

/-- Something plain, with plain tokens left. -/
def Leaves {α : Type} (p : α → Prop) (result : α × List Token) : Prop :=
  p result.1 ∧ AllPlain result.2

theorem allPlain_questionMarks {tokens : List Token} (h : AllPlain tokens) :
    AllPlain (questionMarks tokens).2 := by
  induction tokens with
  | nil => exact h
  | cons token tokens ih =>
    rw [questionMarks.eq_def]
    split
    · rename_i heq
      obtain ⟨-, rfl⟩ := List.cons.inj heq
      exact ih h.tail
    · exact h

theorem plain_constantText (s : String) : (constantText s).Plain :=
  .constant (.text s)

theorem plain_textOf (format : Option String) {parts : List (String ⊕ Term)}
    (h : ∀ t, .inr t ∈ parts → t.Plain) : (textOf format parts).Plain := by
  rw [textOf.eq_def]
  split
  · exact plain_constantText ""
  · exact plain_constantText _
  · exact .text _ h

theorem plain_makeOptional {step : PathStep} (h : step.Plain) : (makeOptional step).Plain := by
  cases h with
  | index h => exact .index h true
  | slice hstart hstop => exact .slice hstart hstop true
  | all => exact .all true

theorem plain_withSteps {base : Term} {steps : List PathStep} (hbase : base.Plain)
    (hsteps : ∀ step ∈ steps, step.Plain) : (withSteps base steps).Plain := by
  cases steps with
  | nil => exact hbase
  | cons => exact .path hbase hsteps

/-- The readers of terms with so much fuel make plain ones of plain tokens. -/
structure ReadsPlain (fuel : Nat) : Prop where
  term (commas : Bool) {tokens : List Token} :
    AllPlain tokens → Finds (Leaves Term.Plain) (term fuel commas tokens)
  operations (commas : Bool) {tokens : List Token} :
    AllPlain tokens → Finds (Leaves Operation.AllPlain) (operations fuel commas tokens)
  whole {tokens : List Token} : AllPlain tokens → Finds Term.Plain (whole fuel tokens)
  atom {tokens : List Token} : AllPlain tokens → Finds (Leaves Term.Plain) (atom fuel tokens)
  head {tokens : List Token} : AllPlain tokens → Finds (Leaves Term.Plain) (head fuel tokens)
  steps {tokens : List Token} :
    AllPlain tokens → Finds (Leaves fun found => ∀ step ∈ found, step.Plain) (steps fuel tokens)
  bracket {tokens : List Token} : AllPlain tokens → Finds PathStep.Plain (bracket fuel tokens)
  branches {tokens : List Token} :
    AllPlain tokens → Finds (Leaves Term.Plain) (branches fuel tokens)
  arguments {tokens : List Token} :
    AllPlain tokens → Finds (Leaves fun found => ∀ t ∈ found, t.Plain) (arguments fuel tokens)
  separated {tokens : List Token} :
    AllPlain tokens → Finds (fun found => ∀ t ∈ found, t.Plain) (separated fuel tokens)
  quoted {tokens : List Token} : AllPlain tokens →
    Finds (fun found? => ∀ found ∈ found?, Leaves Term.Plain found) (quoted fuel tokens)
  textParts {parts : List TextPart} : (∀ part ∈ parts, part.Plain) →
    Finds (fun found => ∀ t, .inr t ∈ found → t.Plain) (textParts fuel parts)
  entryKey {tokens : List Token} : AllPlain tokens →
    Finds (fun (found : Term × Bool × List Token) => found.1.Plain ∧ AllPlain found.2.2)
      (entryKey fuel tokens)
  entries {tokens : List Token} :
    AllPlain tokens → Finds (fun found => ∀ t ∈ found, t.Plain) (entries fuel tokens)
  patterns {tokens : List Token} :
    AllPlain tokens → Finds (Leaves Pattern.Plain) (patterns fuel tokens)
  patternItems {tokens : List Token} :
    AllPlain tokens → Finds (fun found => ∀ p ∈ found, p.Plain) (patternItems fuel tokens)
  patternEntries {tokens : List Token} : AllPlain tokens →
    Finds (fun found => ∀ entry ∈ found, entry.1.Plain ∧ entry.2.Plain)
      (patternEntries fuel tokens)
  definition {tokens : List Token} :
    AllPlain tokens → Finds (Leaves Definition.Plain) (definition fuel tokens)

section Step

variable {fuel : Nat} (h : ReadsPlain fuel) {tokens : List Token}

include h

theorem finds_term (commas : Bool) (htokens : AllPlain tokens) :
    Finds (Leaves Term.Plain) (term (fuel + 1) commas tokens) := by
  rw [term]
  exact (h.atom htokens).bind fun (first, rest) ⟨hfirst, hrest⟩ =>
    (h.operations commas hrest).bind fun (others, rest) ⟨hothers, hrest⟩ =>
      finds_some ⟨Operation.plain_joinAll hfirst hothers, hrest⟩

theorem finds_operations (commas : Bool) (htokens : AllPlain tokens) :
    Finds (Leaves Operation.AllPlain) (operations (fuel + 1) commas tokens) := by
  rw [operations.eq_def]
  dsimp -zeta only
  extract_lets go
  have hgo : ∀ found?, (∀ found ∈ found?, Leaves Operation.Plain found) →
      Finds (Leaves Operation.AllPlain) (pure found? >>= go) := by
    intro found? hfound
    cases found? with
    | none => exact finds_some ⟨nofun, htokens⟩
    | some found =>
      obtain ⟨hop, hrest⟩ := hfound found rfl
      exact (h.atom hrest).bind fun _ ⟨hright, hrest⟩ => (h.operations commas hrest).bind
        fun _ ⟨hothers, hrest⟩ =>
          finds_some ⟨List.forall_mem_cons.2 ⟨⟨hop, hright⟩, hothers⟩, hrest⟩
  have hone : ∀ {found}, Leaves Operation.Plain found →
      Finds (Leaves Operation.AllPlain) (pure (some found) >>= go) :=
    fun hfound => hgo _ (forall_mem_some hfound)
  split
  · refine (h.patterns htokens.tail).bind fun _ ⟨hpattern, hrest⟩ => ?_
    split
    · rename_i heq
      rw [heq] at hrest
      exact hone ⟨hpattern, hrest.tail⟩
    · exact finds_none
  · exact hone ⟨trivial, htokens.tail⟩
  · exact hone ⟨trivial, htokens.tail⟩
  · split_ifs
    · exact hone ⟨trivial, htokens.tail⟩
    · exact hgo none nofun
  · refine hgo _ fun found hfound => ?_
    obtain ⟨op, hop, rfl⟩ := Option.map_eq_some_iff.1 hfound
    exact ⟨Operation.plain_of_ofMark? hop, htokens.tail⟩
  · exact hgo none nofun

theorem finds_whole (htokens : AllPlain tokens) :
    Finds Term.Plain (whole (fuel + 1) tokens) := by
  rw [whole]
  split
  · rename_i t hterm
    exact finds_some (h.term true htokens _ hterm).1
  · exact finds_none

theorem finds_atom (htokens : AllPlain tokens) :
    Finds (Leaves Term.Plain) (atom (fuel + 1) tokens) := by
  rw [atom.eq_def]
  dsimp -zeta only
  extract_lets go
  have hgo : ∀ {found}, Leaves Term.Plain found → Finds (Leaves Term.Plain) (go found) := by
    intro found ⟨hbase, hrest⟩
    refine (h.steps (allPlain_questionMarks hrest)).bind fun _ ⟨hmore, hrest⟩ => ?_
    have hbase :
        (if (questionMarks found.2).1 then Term.attempt found.1 none else found.1).Plain := by
      split_ifs
      · exact .attempt hbase nofun
      · exact hbase
    split
    · rename_i first more heq
      rw [heq] at hbase
      cases hbase with
      | path _ hfirst =>
        exact finds_some ⟨.path .identity (List.forall_mem_append.2 ⟨hfirst, hmore⟩), hrest⟩
    · exact finds_some ⟨plain_withSteps hbase hmore, hrest⟩
  have hfield : ∀ {key : Term} {rest : List Token}, key.Plain → AllPlain rest →
      Finds (Leaves Term.Plain)
        (go (.path .identity [.index key (questionMarks rest).1], (questionMarks rest).2)) :=
    fun hkey hrest => hgo ⟨.path .identity (List.forall_mem_singleton.2 (.index hkey _)),
      allPlain_questionMarks hrest⟩
  split
  · refine (h.quoted htokens.tail).bind fun found? hfound => ?_
    split
    · obtain ⟨hkey, hrest⟩ := hfound _ rfl
      exact hfield hkey hrest
    · exact hgo ⟨.identity, htokens.tail⟩
  · split
    · exact hfield (plain_constantText _) htokens.tail
    · exact (h.head htokens).bind fun _ hfound => hgo hfound
  · refine (h.quoted htokens).bind fun found? hfound => ?_
    split
    · exact hgo (hfound _ rfl)
    · exact (h.head htokens).bind fun _ hfound => hgo hfound

theorem finds_head (htokens : AllPlain tokens) :
    Finds (Leaves Term.Plain) (head (fuel + 1) tokens) := by
  rw [head.eq_def]
  dsimp -zeta only
  split
  -- `..`, a sign, a number, a variable and a format
  · exact finds_some ⟨.recurse (.path .identity (List.forall_mem_singleton.2 (.all true))),
      htokens.tail⟩
  · exact (h.atom htokens.tail).bind fun _ ⟨ht, hrest⟩ => finds_some ⟨.negate ht, hrest⟩
  · cases htokens.head with
    | number hnumeral =>
      exact finds_some ⟨.constant (Datum.plain_ofNumeral hnumeral), htokens.tail⟩
  · exact finds_some ⟨.variable _, htokens.tail⟩
  · exact (h.arguments htokens.tail).bind fun _ ⟨hargs, hrest⟩ => finds_some ⟨.call _ hargs, hrest⟩
  -- what stands between brackets
  · exact (h.whole (Token.allPlain_of_block htokens.head)).bind fun _ ht =>
      finds_some ⟨ht, htokens.tail⟩
  · exact finds_some ⟨.constant (.array nofun), htokens.tail⟩
  · exact (h.whole (Token.allPlain_of_block htokens.head)).bind fun _ ht =>
      finds_some ⟨.array ht, htokens.tail⟩
  · exact finds_some ⟨.constant (.object nofun), htokens.tail⟩
  · exact (h.entries (Token.allPlain_of_block htokens.head)).bind fun _ hterms =>
      finds_some ⟨Term.plain_sum hterms (.object nofun), htokens.tail⟩
  -- `def`, `if` and `try`
  · exact (h.definition htokens.tail).bind fun _ ⟨hd, hrest⟩ => (h.term true hrest).bind
      fun _ ⟨hbody, hrest⟩ => finds_some ⟨.define hd hbody, hrest⟩
  · exact h.branches htokens.tail
  · refine (h.atom htokens.tail).bind fun _ ⟨hbody, hrest⟩ => ?_
    split
    · rename_i heq
      rw [heq] at hrest
      exact (h.atom hrest.tail).bind fun _ ⟨hhandler, hrest⟩ =>
        finds_some ⟨.attempt hbody (forall_mem_some hhandler), hrest⟩
    · exact finds_some ⟨.attempt hbody nofun, hrest⟩
  -- `label` and `break`
  · split
    · exact (h.term true htokens.tail.tail.tail).bind fun _ ⟨hbody, hrest⟩ =>
        finds_some ⟨.label _ hbody, hrest⟩
    · exact finds_none
  · split
    · exact finds_some ⟨.leave _, htokens.tail.tail⟩
    · exact finds_none
  -- `reduce` and `foreach`, which may have a wrong number of arguments
  · refine (h.atom htokens.tail).bind fun _ ⟨hsource, hrest⟩ => ?_
    split
    · rename_i heq
      rw [heq] at hrest
      refine (h.patterns hrest.tail).bind fun _ ⟨hpattern, hrest⟩ =>
        (h.arguments hrest).bind fun _ ⟨hargs, hrest⟩ => ?_
      split
      · rename_i heq
        rw [heq] at hargs
        obtain ⟨hstart, hargs⟩ := List.forall_mem_cons.1 hargs
        have hstep := List.forall_mem_singleton.1 hargs
        exact finds_some ⟨.reduce hsource hpattern hstart hstep, hrest⟩
      · exact finds_some ⟨.misfit _ _, hrest⟩
    · exact finds_none
  · refine (h.atom htokens.tail).bind fun _ ⟨hsource, hrest⟩ => ?_
    split
    · rename_i heq
      rw [heq] at hrest
      refine (h.patterns hrest.tail).bind fun _ ⟨hpattern, hrest⟩ =>
        (h.arguments hrest).bind fun _ ⟨hargs, hrest⟩ => ?_
      split
      · rename_i heq
        rw [heq] at hargs
        obtain ⟨hstart, hargs⟩ := List.forall_mem_cons.1 hargs
        have hstep := List.forall_mem_singleton.1 hargs
        exact finds_some ⟨.foreach hsource hpattern hstart hstep nofun, hrest⟩
      · rename_i heq
        rw [heq] at hargs
        obtain ⟨hstart, hargs⟩ := List.forall_mem_cons.1 hargs
        obtain ⟨hstep, hargs⟩ := List.forall_mem_cons.1 hargs
        have hview := List.forall_mem_singleton.1 hargs
        exact finds_some
          ⟨.foreach hsource hpattern hstart hstep (forall_mem_some hview), hrest⟩
      · exact finds_some ⟨.misfit _ _, hrest⟩
    · exact finds_none
  -- a call
  · exact (h.arguments htokens.tail).bind fun _ ⟨hargs, hrest⟩ => finds_some ⟨.call _ hargs, hrest⟩
  · exact finds_none

theorem finds_steps (htokens : AllPlain tokens) :
    Finds (Leaves fun found => ∀ step ∈ found, step.Plain) (steps (fuel + 1) tokens) := by
  rw [steps.eq_def]
  dsimp -zeta only
  extract_lets go
  have hgo : ∀ found?, (∀ found ∈ found?, Leaves PathStep.Plain found) →
      Finds (Leaves fun found => ∀ step ∈ found, step.Plain) (pure found? >>= go) := by
    intro found? hfound
    cases found? with
    | none => exact finds_some ⟨nofun, htokens⟩
    | some found =>
      obtain ⟨hstep, hrest⟩ := hfound found rfl
      refine (h.steps (allPlain_questionMarks hrest)).bind fun _ ⟨hmore, hrest⟩ =>
        finds_some ⟨List.forall_mem_cons.2 ⟨?_, hmore⟩, hrest⟩
      split_ifs
      · exact plain_makeOptional hstep
      · exact hstep
  split
  · refine (h.quoted htokens.tail).bind fun found? hfound => hgo _ fun found hstep => ?_
    obtain ⟨key, hkey, rfl⟩ := Option.map_eq_some_iff.1 hstep
    exact ⟨.index (hfound key hkey).1 false, (hfound key hkey).2⟩
  · refine hgo _ fun found hstep => ?_
    obtain ⟨name, -, rfl⟩ := Option.map_eq_some_iff.1 hstep
    exact ⟨.index (plain_constantText name) false, htokens.tail⟩
  · exact (h.bracket (Token.allPlain_of_block htokens.head)).bind fun _ hstep =>
      hgo _ (forall_mem_some ⟨hstep, htokens.tail⟩)
  · exact hgo none nofun

theorem finds_bracket (htokens : AllPlain tokens) :
    Finds PathStep.Plain (bracket (fuel + 1) tokens) := by
  rw [bracket.eq_def]
  dsimp -zeta only
  split
  · exact finds_some (.all false)
  · exact (h.whole htokens.tail).bind fun _ hstop =>
      finds_some (.slice forall_mem_none (forall_mem_some hstop) false)
  · refine (h.term true htokens).bind fun _ ⟨hstart, hrest⟩ => ?_
    split
    · exact finds_some (.index hstart false)
    · exact finds_some (.slice (forall_mem_some hstart) forall_mem_none false)
    · rename_i heq
      rw [heq] at hrest
      exact (h.whole hrest.tail).bind fun _ hstop =>
        finds_some (.slice (forall_mem_some hstart) (forall_mem_some hstop) false)
    · exact finds_none

theorem finds_branches (htokens : AllPlain tokens) :
    Finds (Leaves Term.Plain) (branches (fuel + 1) tokens) := by
  rw [branches.eq_def]
  dsimp -zeta only
  refine (h.term true htokens).bind fun _ ⟨hcondition, hrest⟩ => ?_
  extract_lets go
  have hgo : ∀ {found}, Leaves Term.Plain found → Finds (Leaves Term.Plain) (go found) := by
    intro found ⟨hyes, hrest⟩
    simp only [go]
    split
    · rename_i heq
      rw [heq] at hrest
      exact (h.branches hrest.tail).bind fun _ ⟨hno, hrest⟩ =>
        finds_some ⟨.branch hcondition hyes hno, hrest⟩
    · rename_i heq
      rw [heq] at hrest
      refine (h.term true hrest.tail).bind fun _ ⟨hno, hrest⟩ => ?_
      split
      · rename_i heq
        rw [heq] at hrest
        exact finds_some ⟨.branch hcondition hyes hno, hrest.tail⟩
      · exact finds_none
    · rename_i heq
      rw [heq] at hrest
      exact finds_some ⟨.branch hcondition hyes .identity, hrest.tail⟩
    · exact finds_none
  split
  · rename_i heq
    rw [heq] at hrest
    exact (h.term true hrest.tail).bind fun _ hyes => hgo hyes
  · exact finds_none

theorem finds_arguments (htokens : AllPlain tokens) :
    Finds (Leaves fun found => ∀ t ∈ found, t.Plain) (arguments (fuel + 1) tokens) := by
  rw [arguments.eq_def]
  dsimp -zeta only
  split
  · exact (h.separated (Token.allPlain_of_block htokens.head)).bind fun _ hfound =>
      finds_some ⟨hfound, htokens.tail⟩
  · exact finds_some ⟨nofun, htokens⟩

theorem finds_separated (htokens : AllPlain tokens) :
    Finds (fun found => ∀ t ∈ found, t.Plain) (separated (fuel + 1) tokens) := by
  rw [separated]
  refine (h.term true htokens).bind fun _ ⟨ht, hrest⟩ => ?_
  dsimp only
  split
  · exact finds_some (List.forall_mem_singleton.2 ht)
  · rename_i heq
    rw [heq] at hrest
    exact (h.separated hrest.tail).bind fun _ hmore =>
      finds_some (List.forall_mem_cons.2 ⟨ht, hmore⟩)
  · exact finds_none

theorem finds_quoted (htokens : AllPlain tokens) :
    Finds (fun found? => ∀ found ∈ found?, Leaves Term.Plain found) (quoted (fuel + 1) tokens) := by
  rw [quoted.eq_def]
  dsimp -zeta only
  have htext : ∀ {parts rest} (format : Option String), (Token.text parts).Plain → AllPlain rest →
      Finds (fun found? => ∀ found ∈ found?, Leaves Term.Plain found)
        (do return some (textOf format (← textParts fuel parts), rest)) := by
    intro parts rest format hparts hrest
    cases hparts with
    | text hparts =>
      exact (h.textParts hparts).bind fun _ hfound =>
        finds_some (forall_mem_some ⟨plain_textOf format hfound, hrest⟩)
  split
  · exact htext none htokens.head htokens.tail
  · exact htext _ htokens.tail.head htokens.tail.tail
  · exact finds_some nofun

theorem finds_textParts {parts : List TextPart} (hparts : ∀ part ∈ parts, part.Plain) :
    Finds (fun found => ∀ t, .inr t ∈ found → t.Plain) (textParts (fuel + 1) parts) := by
  rw [textParts]
  refine Finds.imp (Finds.mapM (q := fun part => ∀ t, part = .inr t → t.Plain)
    fun part hpart => ?_) fun found hfound t ht => hfound _ ht t rfl
  cases hparts part hpart with
  | plain content => exact finds_some nofun
  | hole htokens =>
    refine (h.whole htokens).bind fun t ht => finds_some fun other heq => ?_
    exact Sum.inr.inj heq ▸ ht

theorem finds_entryKey (htokens : AllPlain tokens) :
    Finds (fun (found : Term × Bool × List Token) => found.1.Plain ∧ AllPlain found.2.2)
      (entryKey (fuel + 1) tokens) := by
  rw [entryKey.eq_def]
  dsimp -zeta only
  split
  · split_ifs
    · exact finds_some ⟨plain_constantText _, htokens.tail⟩
    · exact finds_none
  · exact (h.whole (Token.allPlain_of_block htokens.head)).bind fun _ hkey =>
      finds_some ⟨hkey, htokens.tail⟩
  · refine (h.quoted htokens).bind fun found? hfound => ?_
    exact Finds.bind (fun found => hfound found) fun _ ⟨hkey, hrest⟩ => finds_some ⟨hkey, hrest⟩

theorem finds_entries (htokens : AllPlain tokens) :
    Finds (fun found => ∀ t ∈ found, t.Plain) (entries (fuel + 1) tokens) := by
  rw [entries.eq_def]
  dsimp -zeta only
  extract_lets go
  have hgo : ∀ {found}, Leaves Term.Plain found →
      Finds (fun found => ∀ t ∈ found, t.Plain) (go found) := by
    intro found ⟨ht, hrest⟩
    simp only [go]
    split
    · exact finds_some (List.forall_mem_singleton.2 ht)
    · rename_i heq
      rw [heq] at hrest
      exact (h.entries hrest.tail).bind fun _ hmore =>
        finds_some (List.forall_mem_cons.2 ⟨ht, hmore⟩)
    · exact finds_none
  split
  · exact finds_some nofun
  · exact (h.term false htokens.tail.tail).bind fun _ ⟨hvalue, hrest⟩ =>
      hgo ⟨.entry (.variable _) hvalue, hrest⟩
  · exact hgo ⟨.entry (plain_constantText _) (.variable _), htokens.tail⟩
  · refine (h.entryKey htokens).bind fun found ⟨hkey, hrest⟩ => ?_
    split
    · exact (h.term false hrest.tail).bind fun _ ⟨hvalue, hrest⟩ => hgo ⟨.entry hkey hvalue, hrest⟩
    · split_ifs
      · exact finds_none
      · exact hgo ⟨.entryOf hkey, hrest⟩

theorem finds_patterns (htokens : AllPlain tokens) :
    Finds (Leaves Pattern.Plain) (patterns (fuel + 1) tokens) := by
  rw [patterns.eq_def]
  dsimp -zeta only
  split
  · exact finds_some ⟨.variable _, htokens.tail⟩
  · exact (h.patternItems (Token.allPlain_of_block htokens.head)).bind fun _ hitems =>
      finds_some ⟨.array hitems, htokens.tail⟩
  · exact (h.patternEntries (Token.allPlain_of_block htokens.head)).bind fun _ hentries =>
      finds_some ⟨.object (fun entry hentry => (hentries entry hentry).1)
        fun entry hentry => (hentries entry hentry).2, htokens.tail⟩
  · exact finds_none

theorem finds_patternItems (htokens : AllPlain tokens) :
    Finds (fun found => ∀ p ∈ found, p.Plain) (patternItems (fuel + 1) tokens) := by
  rw [patternItems]
  refine (h.patterns htokens).bind fun _ ⟨hp, hrest⟩ => ?_
  dsimp only
  split
  · exact finds_some (List.forall_mem_singleton.2 hp)
  · rename_i heq
    rw [heq] at hrest
    exact (h.patternItems hrest.tail).bind fun _ hmore =>
      finds_some (List.forall_mem_cons.2 ⟨hp, hmore⟩)
  · exact finds_none

theorem finds_patternEntries (htokens : AllPlain tokens) :
    Finds (fun found => ∀ entry ∈ found, entry.1.Plain ∧ entry.2.Plain)
      (patternEntries (fuel + 1) tokens) := by
  rw [patternEntries.eq_def]
  dsimp -zeta only
  extract_lets go
  have hgo : ∀ {found}, Leaves (fun entry => entry.1.Plain ∧ entry.2.Plain) found →
      Finds (fun found => ∀ entry ∈ found, entry.1.Plain ∧ entry.2.Plain) (go found) := by
    intro found ⟨hentry, hrest⟩
    simp only [go]
    split
    · exact finds_some (List.forall_mem_singleton.2 hentry)
    · rename_i heq
      rw [heq] at hrest
      exact (h.patternEntries hrest.tail).bind fun _ hmore =>
        finds_some (List.forall_mem_cons.2 ⟨hentry, hmore⟩)
    · exact finds_none
  split
  · exact finds_some nofun
  · exact hgo ⟨⟨plain_constantText _, .variable _⟩, htokens.tail⟩
  · refine (h.entryKey htokens).bind fun found ⟨hkey, hrest⟩ => ?_
    split
    · exact (h.patterns hrest.tail).bind fun _ ⟨hp, hrest⟩ => hgo ⟨⟨hkey, hp⟩, hrest⟩
    · exact finds_none

theorem finds_definition (htokens : AllPlain tokens) :
    Finds (Leaves Definition.Plain) (definition (fuel + 1) tokens) := by
  rw [definition.eq_def]
  dsimp -zeta only
  extract_lets afterName
  have hafterName : ∀ name {rest : List Token}, AllPlain rest →
      Finds (Leaves Definition.Plain) (afterName (name, rest)) := by
    intro name rest hrest
    unfold afterName
    extract_lets afterParameters
    have hafterParameters : ∀ parameters {rest : List Token}, AllPlain rest →
        Finds (Leaves Definition.Plain) (afterParameters (parameters, rest)) := by
      intro parameters rest hrest
      unfold afterParameters
      extract_lets afterBody
      have hafterBody : ∀ {body : Term × List Token}, Leaves Term.Plain body →
          Finds (Leaves Definition.Plain) (afterBody body) := by
        intro body hbody
        obtain ⟨hbody, hrest⟩ := hbody
        unfold afterBody
        split
        · rename_i heq
          rw [heq] at hrest
          exact finds_some ⟨.mk _ _ hbody, hrest.tail⟩
        · exact finds_none
      dsimp only
      split
      · exact (h.term true hrest.tail).bind fun _ => hafterBody
      · exact finds_none
    dsimp only
    split
    · exact (finds_any _).bind fun parameters _ => hafterParameters parameters hrest.tail
    · exact hafterParameters [] hrest
  split
  · split_ifs
    · exact hafterName _ htokens.tail
    · exact finds_none
  · exact hafterName _ htokens.tail
  · exact finds_none

end Step

theorem readsPlain (fuel : Nat) : ReadsPlain fuel := by
  induction fuel with
  | zero =>
    constructor <;> intros <;> exact finds_none
  | succ fuel ih =>
    exact {
      term := fun commas _ => finds_term ih commas
      operations := fun commas _ => finds_operations ih commas
      whole := finds_whole ih
      atom := finds_atom ih
      head := finds_head ih
      steps := finds_steps ih
      bracket := finds_bracket ih
      branches := finds_branches ih
      arguments := finds_arguments ih
      separated := finds_separated ih
      quoted := finds_quoted ih
      textParts := finds_textParts ih
      entryKey := finds_entryKey ih
      entries := finds_entries ih
      patterns := finds_patterns ih
      patternItems := finds_patternItems ih
      patternEntries := finds_patternEntries ih
      definition := finds_definition ih }

theorem finds_definitions (fuel : Nat) {tokens : List Token} (htokens : AllPlain tokens) :
    Finds (fun found => ∀ d ∈ found, d.Plain) (definitions fuel tokens) := by
  induction fuel generalizing tokens with
  | zero => exact finds_none
  | succ fuel ih =>
    rw [definitions.eq_def]
    dsimp only
    split
    · exact finds_some nofun
    · exact ((readsPlain fuel).definition htokens.tail).bind fun _ ⟨hd, hrest⟩ =>
        (ih hrest).bind fun _ hmore => finds_some (List.forall_mem_cons.2 ⟨hd, hmore⟩)
    · exact finds_none

theorem finds_afterDescription (fuel : Nat) {tokens : List Token} (htokens : AllPlain tokens) :
    Finds AllPlain (afterDescription fuel tokens) := by
  rw [afterDescription.eq_def]
  split
  · refine ((readsPlain fuel).term true htokens.tail).bind fun _ ⟨_, hrest⟩ => ?_
    split
    · exact finds_some hrest.tail
    · exact finds_none
  · exact finds_some htokens

end Grammar

/-- The term of a filter is plain. -/
theorem Term.finds_ofText? (text : String) : Finds Term.Plain (Term.ofText? text) := by
  refine (Token.finds_ofText? _).bind fun tokens htokens =>
    (Grammar.finds_afterDescription _ htokens).bind fun tokens htokens => ?_
  split
  · exact finds_none
  · exact finds_none
  · exact (Grammar.readsPlain _).whole htokens

theorem Filter.plain_of_read {text : String} {t : Term} (h : Filter.read text = .ok t) :
    t.Plain := by
  rw [Filter.read] at h
  split at h
  · cases h
  · rename_i found hfound
    split at h
    · obtain rfl := Except.ok.inj h
      exact Term.finds_ofText? text _ hfound
    · cases h

/-! ## The library -/

theorem Library.plain_of_mem_definitions : ∀ d ∈ Library.definitions, d.Plain := by
  rw [Library.definitions]
  refine List.forall_mem_append.2 ⟨?_, List.forall_mem_singleton.2 ?_⟩
  · have hread : Finds (fun found => ∀ d ∈ found, d.Plain)
        (do Grammar.definitions (Grammar.fuel Library.source.toList)
              (← Token.ofText? Library.source.toList)) :=
      (Token.finds_ofText? _).bind fun _ htokens => Grammar.finds_definitions _ htokens
    exact hread.getD nofun
  · exact .mk _ _ (.recurse (.call "f" nofun))


end ResponseTypes
