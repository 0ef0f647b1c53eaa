import ResponseTypes.Filter.Evaluation
import ResponseTypes.Proofs.PlainTerms

/-!
# Runs of filters keep numbers plain

A term is evaluated by a function for each form of terms, in terms of the evaluation of its parts.
So that numbers stay plain is said once of an evaluator, `Evaluator.Plain`, and each form keeps to
it if its parts do: `Evaluator.all_runTerm` and `Evaluator.all_updateTerm` have a case for each
form, and a run is one induction on the nesting that is still allowed.

What is bound in a scope has to be plain as well, and a call may lead to a scope that was left
behind long ago.  `Binding.Plain` follows a binding into the scope of its argument.

## Main definitions

- `Binding.Plain`, `Scope.Plain`, `Callee.Plain`: bindings, scopes and what calls stand for.
- `Evaluator.Plain`: an evaluator that keeps numbers plain.

## Main statements

- `Evaluator.all_runTerm`, `Evaluator.all_updateTerm`: one step of the evaluation, form by form.
- `Term.plain_evaluator`: the evaluators of a run.
-/

namespace ResponseTypes

/-! ## Scopes -/

/-- A binding of plain values and terms. -/
inductive Binding.Plain : Binding → Prop
  | value (name : String) {value : Datum} (h : value.Plain) : Plain (.variable name value)
  | label (name : String) (number : Nat) : Plain (.label name number)
  | definition {d : Definition} (h : d.Plain) : Plain (.definition d)
  | argument (name : String) {t : Term} {scope : List Binding} (ht : t.Plain)
      (hscope : ∀ binding ∈ scope, Plain binding) : Plain (.argument name t scope)

/-- A scope of plain bindings. -/
def Scope.Plain (scope : Scope) : Prop :=
  ∀ binding ∈ scope, binding.Plain

namespace Scope

variable {scope : Scope}

theorem plain_nil : Scope.Plain [] :=
  fun _ hbinding => nomatch hbinding

theorem Plain.cons {binding : Binding} (h : scope.Plain) (hbinding : binding.Plain) :
    Scope.Plain (binding :: scope) :=
  List.forall_mem_cons.2 ⟨hbinding, h⟩

theorem Plain.tail {binding : Binding} (h : Scope.Plain (binding :: scope)) : scope.Plain :=
  (List.forall_mem_cons.1 h).2

theorem Plain.head {binding : Binding} (h : Scope.Plain (binding :: scope)) : binding.Plain :=
  (List.forall_mem_cons.1 h).1

/-- The value of a variable is plain. -/
theorem Plain.of_valueOf? (h : scope.Plain) {name : String} {value : Datum}
    (hvalue : scope.valueOf? name = some value) : value.Plain := by
  induction scope with
  | nil => cases hvalue
  | cons binding scope ih =>
    rw [valueOf?.eq_def] at hvalue
    split at hvalue
    · cases ‹_ = _›
    · rename_i heq
      obtain ⟨rfl, rfl⟩ := List.cons.inj heq
      split_ifs at hvalue
      · obtain rfl := Option.some.inj hvalue
        cases h.head with
        | value _ h => exact h
      · exact ih h.tail hvalue
    · rename_i heq
      obtain ⟨-, rfl⟩ := List.cons.inj heq
      exact ih h.tail hvalue

end Scope

theorem Library.plain_of_find? {name : String} {arity : Nat} {d : Definition}
    (h : Library.find? name arity = some d) : d.Plain := by
  rw [Library.find?] at h
  exact Library.plain_of_mem_definitions d (List.mem_of_find?_eq_some h)

theorem Function.plain_of_find? {name : String} {arity : Nat} {f : Function}
    (h : Function.find? name arity = some f) : f.Plain := by
  rw [Function.find?] at h
  exact Function.plain_of_mem_table f (List.mem_of_find?_eq_some h)

/-- What a call stands for, made of plain terms and scopes. -/
inductive Callee.Plain : Callee → Prop
  | argument {t : Term} {scope : Scope} (ht : t.Plain) (hscope : scope.Plain) :
      Plain (.argument t scope)
  | definition {d : Definition} {scope : Scope} (hd : d.Plain) (hscope : scope.Plain) :
      Plain (.definition d scope)
  | function {f : Function} (h : f.Plain) : Plain (.function f)
  | form : Plain .form

theorem Callee.plain_known (name : String) (arity : Nat) : (Callee.known name arity).Plain := by
  rw [Callee.known]
  split_ifs
  · exact .form
  cases hfunction : Function.find? name arity with
  | some f => exact .function (Function.plain_of_find? hfunction)
  | none =>
    cases hdefinition : Library.find? name arity with
    | some d => exact .definition (Library.plain_of_find? hdefinition) Scope.plain_nil
    | none => exact .form

/-- A call stands for something plain. -/
theorem Scope.Plain.callee {scope : Scope} (h : scope.Plain) (name : String) (arity : Nat) :
    (scope.callee name arity).Plain := by
  induction scope with
  | nil => exact Callee.plain_known name arity
  | cons binding scope ih =>
    cases h.head with
    | value _ _ => exact ih h.tail
    | label _ _ => exact ih h.tail
    | definition hd =>
      rw [Scope.callee]
      split_ifs
      · exact .definition hd h
      · exact ih h.tail
    | argument _ ht hscope =>
      rw [Scope.callee]
      split_ifs
      · exact .argument ht hscope
      · exact ih h.tail

/-! ## Forms -/

open Datum (Change)

namespace Evaluator

/-- An evaluator that gives plain values for plain terms, scopes and values. -/
structure Plain (e : Evaluator) : Prop where
  run {scope : Scope} {t : Term} {value : Datum} : scope.Plain → t.Plain → value.Plain →
    (e.run scope t value).All Datum.Plain
  update {scope : Scope} {t : Term} {value : Datum} {f : Change} : scope.Plain → t.Plain →
    value.Plain → Change.Plain f → (e.update scope t value f).All Datum.Plain

section

variable {α : Type} {p : α → Prop}

theorem all_fail (message : String) : (fail message : Outputs α).All p :=
  .raise (Datum.Plain.text message)

theorem all_pointsNowhere (value : Datum) : (pointsNowhere value : Outputs α).All p :=
  all_fail _

end

variable {e : Evaluator}

section Parts

variable {scope : Scope} {value : Datum} (h : e.Plain) (hscope : scope.Plain)
  (hvalue : value.Plain)

include h hscope hvalue

theorem all_combine {left right : Term} (hleft : left.Plain) (hright : right.Plain)
    {f : Datum → Datum → Calculation Datum}
    (hf : ∀ a b : Datum, a.Plain → b.Plain → Calculates Datum.Plain (f a b)) :
    (e.combine scope left right value f).All Datum.Plain :=
  ((h.run hscope hleft hvalue).pairs (h.run hscope hright hvalue)).bind fun (a, b) ⟨ha, hb⟩ =>
    .ofExcept (hf a b ha hb)

theorem all_valueLists {terms : List Term} (hterms : ∀ t ∈ terms, t.Plain) :
    (e.valueLists scope value terms).All fun values => ∀ a ∈ values, a.Plain := by
  induction terms with
  | nil => exact .one nofun
  | cons t terms ih =>
    obtain ⟨ht, hterms⟩ := List.forall_mem_cons.1 hterms
    exact (h.run hscope ht hvalue).bind fun a ha => (ih hterms).map fun values hvalues =>
      List.forall_mem_cons.2 ⟨ha, hvalues⟩

/-! ### Texts -/

theorem all_piece (format : Option String) {part : String ⊕ Term}
    (hpart : ∀ t, part = .inr t → t.Plain) :
    (e.piece scope format value part).All Datum.Plain := by
  cases part with
  | inl s => exact .one (.text s)
  | inr t =>
    refine (h.run hscope (hpart t rfl) hvalue).bind fun found hfound => ?_
    cases format with
    | none => exact .one (.text _)
    | some name => exact h.run hscope (.call name nofun) hfound

theorem all_pieces (format : Option String) {parts : List (String ⊕ Term)}
    (hparts : ∀ t, .inr t ∈ parts → t.Plain) :
    (e.pieces scope format value parts).All Datum.Plain := by
  induction parts with
  | nil => exact .one (.text "")
  | cons part parts ih =>
    have hpart := all_piece h hscope hvalue format
      (fun t ht => hparts t (ht ▸ List.mem_cons_self))
    have hrest := ih fun t ht => hparts t (List.mem_cons_of_mem _ ht)
    cases parts with
    | nil => exact hpart
    | cons next parts =>
      exact (hpart.pairs hrest).bind fun _ ⟨ha, hb⟩ =>
        .ofExcept (Datum.calculates_calculate .add ha hb)

end Parts

/-! ### Patterns -/

mutual

/-- A pattern makes plain scopes of a plain value, whatever the scope that its keys are evaluated
in and the scope that it adds to. -/
theorem all_matchPattern (h : e.Plain) {outer : Scope} (houter : outer.Plain) :
    ∀ {p : Pattern} {scope : Scope} {value : Datum}, p.Plain → scope.Plain → value.Plain →
      (e.matchPattern outer scope value p).All Scope.Plain
  | .variable name, _, _, _, hscope, hvalue => .one (hscope.cons (.value name hvalue))
  | .array _, _, _, .array hitems, hscope, hvalue => all_matchItems h houter hitems hscope hvalue 0
  | .object _, _, _, .object hkeys hpatterns, hscope, hvalue =>
    all_matchEntries h houter hkeys hpatterns hscope hvalue

theorem all_matchItems (h : e.Plain) {outer : Scope} (houter : outer.Plain) :
    ∀ {items : List Pattern} {scope : Scope} {value : Datum}, (∀ p ∈ items, p.Plain) →
      scope.Plain → value.Plain → ∀ i, (e.matchItems outer scope value i items).All Scope.Plain
  | [], _, _, _, hscope, _, _ => .one hscope
  | p :: _, _, _, hitems, hscope, hvalue, i => by
    obtain ⟨hp, hitems⟩ := List.forall_mem_cons.1 hitems
    exact (Outputs.All.ofExcept (Datum.calculates_index hvalue _)).bind fun part hpart =>
      (all_matchPattern h houter hp hscope hpart).bind fun scope hscope =>
        all_matchItems h houter hitems hscope hvalue (i + 1)

theorem all_matchEntries (h : e.Plain) {outer : Scope} (houter : outer.Plain) :
    ∀ {entries : List (Term × Pattern)} {scope : Scope} {value : Datum},
      (∀ entry ∈ entries, entry.1.Plain) → (∀ entry ∈ entries, entry.2.Plain) → scope.Plain →
      value.Plain → (e.matchEntries outer scope value entries).All Scope.Plain
  | [], _, _, _, _, hscope, _ => .one hscope
  | (key, p) :: _, _, _, hkeys, hpatterns, hscope, hvalue => by
    obtain ⟨hkey, hkeys⟩ := List.forall_mem_cons.1 hkeys
    obtain ⟨hp, hpatterns⟩ := List.forall_mem_cons.1 hpatterns
    exact (h.run houter hkey hvalue).bind fun key _ =>
      (Outputs.All.ofExcept (Datum.calculates_index hvalue key)).bind fun part hpart =>
        (all_matchPattern h houter hp hscope hpart).bind fun scope hscope =>
          all_matchEntries h houter hkeys hpatterns hscope hvalue

end

/-! ### Paths -/

/-- Taking steps gives parts of a value. -/
theorem all_follow (way : List (Datum.Part × Bool)) {value : Datum} (hvalue : value.Plain) :
    (follow way value).All Datum.Plain := by
  induction way generalizing value with
  | nil => exact .one hvalue
  | cons step way ih =>
    have htake := Datum.calculates_take hvalue step.1
    rw [follow]
    split
    · rename_i found hfound
      rw [hfound] at htake
      exact (Outputs.All.ofList htake).bind fun _ hpart => ih hpart
    · rename_i r hr
      rw [hr] at htake
      split_ifs
      · exact .done
      · exact .raise htake

theorem all_changeAlong (way : List (Datum.Part × Bool)) {value : Datum} (hvalue : value.Plain)
    {f : Change} (hf : Change.Plain f) : (changeAlong way value f).All Datum.Plain := by
  induction way generalizing value with
  | nil => exact hf value hvalue
  | cons step way ih =>
    exact .ofExcept (Datum.calculates_change (fun _ hinner => ih hinner) hvalue step.1 step.2)

section Forms

variable {scope : Scope} {value : Datum} (h : e.Plain) (hscope : scope.Plain)
  (hvalue : value.Plain)

include h hscope hvalue

theorem all_bindings {source : Term} {pattern : Pattern} (hsource : source.Plain)
    (hpattern : pattern.Plain) : (e.bindings scope source pattern value).All Scope.Plain :=
  (h.run hscope hsource hvalue).bind fun _ hfound =>
    all_matchPattern h hscope hpattern hscope hfound

theorem all_bounds {bound : Option Term} (hbound : ∀ t ∈ bound, t.Plain) :
    (e.bounds scope value bound).All fun _ => True := by
  cases bound with
  | none => exact .one trivial
  | some t => exact (h.run hscope (hbound t rfl) hvalue).map fun _ _ => trivial

theorem all_parts {step : PathStep} (hstep : step.Plain) :
    (e.parts scope value step).All fun _ => True := by
  cases hstep with
  | index hi optional => exact (h.run hscope hi hvalue).map fun _ _ => trivial
  | slice hstart hstop optional =>
    exact (all_bounds h hscope hvalue hstart).bind fun _ _ =>
      (all_bounds h hscope hvalue hstop).map fun _ _ => trivial
  | all optional => exact .one trivial

theorem all_ways {steps : List PathStep} (hsteps : ∀ step ∈ steps, step.Plain) :
    (e.ways scope value steps).All fun _ => True := by
  induction steps with
  | nil => exact .one trivial
  | cons step steps ih =>
    obtain ⟨hstep, hsteps⟩ := List.forall_mem_cons.1 hsteps
    exact (all_parts h hscope hvalue hstep).bind fun _ _ => (ih hsteps).map fun _ _ => trivial

/-! ### Calls -/

/-- The scopes of a definition's body. -/
theorem all_enter (parameters : List String) {arguments : List Term}
    (harguments : ∀ t ∈ arguments, t.Plain) {inner : Scope} (hinner : inner.Plain) :
    (e.enter scope value parameters arguments inner).All Scope.Plain := by
  induction parameters generalizing arguments inner with
  | nil => exact .one hinner
  | cons parameter parameters ih =>
    cases arguments with
    | nil => exact .one hinner
    | cons t arguments =>
      obtain ⟨ht, harguments⟩ := List.forall_mem_cons.1 harguments
      rw [enter]
      split_ifs
      · exact (h.run hscope ht hvalue).bind fun v hv => ih harguments (hinner.cons (.value _ hv))
      · exact ih harguments (hinner.cons (.argument _ ht hscope))

end Forms

/-- The elements of a list with their keys. -/
theorem calculates_keyed (h : e.Plain) {scope : Scope} (hscope : scope.Plain) {t : Term}
    (ht : t.Plain) {items : List Datum} (hitems : ∀ item ∈ items, item.Plain) :
    Calculates (fun entries => ∀ entry ∈ entries, entry.2.Plain) (e.keyed scope t items) := by
  induction items with
  | nil => exact nofun
  | cons item items ih =>
    obtain ⟨hitem, hitems⟩ := List.forall_mem_cons.1 hitems
    exact (h.run hscope ht hitem).toList.bind fun key _ => (ih hitems).bind fun entries hentries =>
      List.forall_mem_cons.2 ⟨hitem, hentries⟩

end Evaluator

namespace Datum

variable {entries : List (Datum × Datum)} (h : ∀ entry ∈ entries, entry.2.Plain)

include h

theorem plain_sortKeyed : ∀ entry ∈ sortKeyed entries, entry.2.Plain :=
  fun entry hentry => h entry (List.mem_mergeSort.1 hentry)

theorem plain_groupKeyed : ∀ group ∈ groupKeyed entries, ∀ item ∈ group, item.Plain := by
  refine List.forall_mem_map.2 fun group hgroup => List.forall_mem_map.2 fun entry hentry => ?_
  refine plain_sortKeyed h entry ?_
  rw [← List.flatten_splitBy (fun a b => a.1.same b.1) (sortKeyed entries)]
  exact List.mem_flatten_of_mem hgroup hentry

/-- A choice between neighbours, made all along a list, comes to one of the elements. -/
theorem plain_foldl {choose : Datum × Datum → Datum × Datum → Datum × Datum}
    (hchoose : ∀ best entry, choose best entry = best ∨ choose best entry = entry)
    {first : Datum × Datum} (hfirst : first.2.Plain) : (entries.foldl choose first).2.Plain := by
  induction entries generalizing first with
  | nil => exact hfirst
  | cons entry entries ih =>
    obtain ⟨hentry, hentries⟩ := List.forall_mem_cons.1 h
    rw [List.foldl_cons]
    rcases hchoose first entry with heq | heq
    · exact ih hentries (by rw [heq]; exact hfirst)
    · exact ih hentries (by rw [heq]; exact hentry)

theorem plain_leastKeyed : (leastKeyed entries).Plain := by
  cases entries with
  | nil => exact .null
  | cons first rest =>
    obtain ⟨hfirst, hrest⟩ := List.forall_mem_cons.1 h
    refine plain_foldl hrest (fun best entry => ?_) hfirst
    split_ifs
    · exact .inr rfl
    · exact .inl rfl

theorem plain_greatestKeyed : (greatestKeyed entries).Plain := by
  cases entries with
  | nil => exact .null
  | cons first rest =>
    obtain ⟨hfirst, hrest⟩ := List.forall_mem_cons.1 h
    refine plain_foldl hrest (fun best entry => ?_) hfirst
    split_ifs
    · exact .inl rfl
    · exact .inr rfl

end Datum

theorem Datum.calculates_ofTime (nanoseconds : Int) :
    Calculates Datum.Plain (Datum.ofTime nanoseconds) := by
  rw [Datum.ofTime.eq_def]
  split
  · exact .double _
  · exact calculates_complain _

namespace Evaluator

variable {e : Evaluator} {scope : Scope} {value : Datum} (h : e.Plain) (hscope : scope.Plain)
  (hvalue : value.Plain)

include h hscope hvalue

theorem all_ofKeyed {t : Term} (ht : t.Plain) {f : List (Datum × Datum) → Datum}
    (hf : ∀ entries, (∀ entry ∈ entries, entry.2.Plain) → (f entries).Plain) :
    (e.ofKeyed scope t value f).All Datum.Plain :=
  .ofExcept ((Datum.calculates_asArray hvalue).bind fun _ hitems =>
    (calculates_keyed h hscope ht hitems).bind fun entries hentries => hf entries hentries)

theorem all_runForm (name : String) {arguments : List Term}
    (harguments : ∀ t ∈ arguments, t.Plain) :
    (e.runForm scope name arguments value).All Datum.Plain := by
  rw [runForm.eq_def]
  extract_lets counted
  have hcounted : ∀ {n : Term} {f : Nat → Outputs Datum}, n.Plain → (∀ n, (f n).All Datum.Plain) →
      (counted n f).All Datum.Plain :=
    fun hn hf => ((h.run hscope hn hvalue).bind fun n _ =>
      Outputs.All.ofExcept (Datum.calculates_asInt n)).bind fun n _ => hf n.toNat
  split
  -- `empty`, `error`, `now`, `first` and `last`
  · exact .done
  · exact .raise hvalue
  · exact .ofExcept (Datum.calculates_ofTime e.now)
  · exact (h.run hscope (harguments _ List.mem_cons_self) hvalue).take 1
  · exact (h.run hscope (harguments _ List.mem_cons_self) hvalue).last nofun
  -- `limit` and `skip`
  · obtain ⟨hn, ht⟩ := List.forall_mem_cons.1 harguments
    have hbody : ∀ n : Nat, (if n = 0 then .done
        else (e.run scope _ value).take n : Outputs Datum).All Datum.Plain := fun n => by
      split_ifs
      · exact .done
      · exact (h.run hscope (List.forall_mem_singleton.1 ht) hvalue).take n
    exact hcounted hn hbody
  · obtain ⟨hn, ht⟩ := List.forall_mem_cons.1 harguments
    exact hcounted hn fun n => (h.run hscope (List.forall_mem_singleton.1 ht) hvalue).drop n
  -- the forms that look at the elements of an array by keys
  · exact all_ofKeyed h hscope hvalue (harguments _ List.mem_cons_self) fun entries hentries =>
      .array (List.forall_mem_map.2 (Datum.plain_sortKeyed hentries))
  · exact all_ofKeyed h hscope hvalue (harguments _ List.mem_cons_self) fun entries hentries =>
      .array (List.forall_mem_map.2 fun group hgroup =>
        .array (Datum.plain_groupKeyed hentries group hgroup))
  · exact all_ofKeyed h hscope hvalue (harguments _ List.mem_cons_self) fun _ hentries =>
      Datum.plain_leastKeyed hentries
  · exact all_ofKeyed h hscope hvalue (harguments _ List.mem_cons_self) fun _ hentries =>
      Datum.plain_greatestKeyed hentries
  · exact all_fail _

theorem all_runCall (name : String) {arguments : List Term}
    (harguments : ∀ t ∈ arguments, t.Plain) :
    (e.runCall scope name arguments value).All Datum.Plain := by
  have hcallee := hscope.callee name arguments.length
  rw [runCall]
  cases hcalled : scope.callee name arguments.length with
  | argument t inner =>
    rw [hcalled] at hcallee
    cases hcallee with
    | argument ht hinner => exact h.run hinner ht hvalue
  | definition d inner =>
    rw [hcalled] at hcallee
    cases hcallee with
    | definition hd hinner =>
      exact (all_enter h hscope hvalue d.parameters harguments hinner).bind fun inner hinner =>
        h.run hinner hd.body hvalue
  | function f =>
    rw [hcalled] at hcallee
    cases hcallee with
    | function hf =>
      exact (all_valueLists h hscope hvalue harguments).bind fun values hvalues =>
        hf values value hvalues hvalue
  | form => exact all_runForm h hscope hvalue name harguments

theorem all_conditions {t : Term} (ht : t.Plain) :
    (e.conditions scope t value).All fun _ => True :=
  (h.run hscope ht hvalue).map fun _ _ => trivial

omit h hscope hvalue in
theorem all_upTo {α : Type} {p : α → Prop} (label : Nat) {outputs : Outputs α}
    (houtputs : outputs.All p) : (upTo label outputs).All p := by
  refine houtputs.rescue fun r hr => ?_
  cases r with
  | leave other =>
    dsimp only
    split_ifs
    · exact .done
    · exact .raise hr
  | _ => exact .raise hr

omit h hscope hvalue in
theorem all_orElse {α : Type} {p : α → Prop} {outputs : Outputs α} (houtputs : outputs.All p)
    {handler : Datum → Outputs α} (hhandler : ∀ complaint : Datum, complaint.Plain →
      (handler complaint).All p) : (orElse outputs handler).All p := by
  refine houtputs.rescue fun r hr => ?_
  cases r with
  | error complaint => exact hhandler complaint hr
  | _ => exact .raise hr

omit h hscope hvalue in
theorem all_jump {α : Type} {p : α → Prop} (scope : Scope) (name : String) :
    (jump scope name : Outputs α).All p := by
  rw [jump]
  split
  · exact .raise trivial
  · exact all_fail _

omit h hscope hvalue in
theorem calculates_assigned (how : Assignment) {operand old : Datum} (hoperand : operand.Plain)
    (hold : old.Plain) : Calculates Datum.Plain (assigned how operand old) := by
  cases how with
  | replace => exact hoperand
  | calculate op => exact Datum.calculates_calculate op hold hoperand
  | otherwise =>
    rw [assigned, calculates_ok]
    split_ifs
    · exact hold
    · exact hoperand

omit h hscope hvalue in
theorem plain_getD_identity {view : Option Term} (hview : ∀ t ∈ view, t.Plain) :
    (view.getD .identity).Plain := by
  cases view with
  | none => exact .identity
  | some t => exact hview t rfl

theorem all_runTerm {t : Term} (ht : t.Plain) : (e.runTerm scope t value).All Datum.Plain := by
  cases ht with
  | identity => exact .one hvalue
  | recurse hstep =>
    exact .emit hvalue ((h.run hscope hstep hvalue).bind fun v hv =>
      h.run hscope (.recurse hstep) hv)
  | constant hc => exact .one hc
  | text format hparts => exact all_pieces h hscope hvalue format hparts
  | array hitems => exact (h.run hscope hitems hvalue).gather fun _ => .array
  | entry hkey hitem =>
    exact all_combine h hscope hvalue hkey hitem fun key _ _ hb => Datum.calculates_entry key hb
  | entryOf hkey =>
    exact all_combine h hscope hvalue hkey hkey fun key i _ _ =>
      (Datum.calculates_index hvalue i).bind fun _ hitem => Datum.calculates_entry key hitem
  | negate ht =>
    exact (h.run hscope ht hvalue).bind fun v _ => .ofExcept (Datum.calculates_negate v)
  | pipe hfirst hsecond =>
    exact (h.run hscope hfirst hvalue).bind fun v hv => h.run hscope hsecond hv
  | bind hsource hpattern hbody =>
    exact (all_bindings h hscope hvalue hsource hpattern).bind fun inner hinner =>
      h.run hinner hbody hvalue
  | comma hfirst hsecond =>
    exact (h.run hscope hfirst hvalue).append (h.run hscope hsecond hvalue)
  | calculate op hleft hright =>
    exact all_combine h hscope hvalue hleft hright fun _ _ => Datum.calculates_calculate op
  | compare op hleft hright =>
    have hcompared : ∀ a b : Datum,
        Calculates Datum.Plain (.ok (.boolean (op.holds (a.compare b)))) :=
      fun _ _ => Datum.Plain.boolean _
    exact all_combine h hscope hvalue hleft hright fun a b _ _ => hcompared a b
  | both hleft hright =>
    refine (all_conditions h hscope hvalue hleft).bind fun a _ => ?_
    split_ifs
    · exact (all_conditions h hscope hvalue hright).map fun b _ => .boolean b
    · exact .one (.boolean false)
  | either hleft hright =>
    refine (all_conditions h hscope hvalue hleft).bind fun a _ => ?_
    split_ifs
    · exact .one (.boolean true)
    · exact (all_conditions h hscope hvalue hright).map fun b _ => .boolean b
  | alternative hfirst hsecond =>
    rw [runTerm]
    split
    · exact h.run hscope hsecond hvalue
    · exact (h.run hscope hfirst hvalue).filter Datum.holds
  | update htarget hchange =>
    exact h.update hscope htarget hvalue fun x hx => h.run hscope hchange hx
  | assign how htarget hoperand =>
    exact (h.run hscope hoperand hvalue).bind fun y hy => h.update hscope htarget hvalue
      fun x hx => .ofExcept (calculates_assigned how hy hx)
  | branch hcondition hyes hno =>
    refine (all_conditions h hscope hvalue hcondition).bind fun c _ => ?_
    cases c with
    | true => exact h.run hscope hyes hvalue
    | false => exact h.run hscope hno hvalue
  | attempt hbody hhandler =>
    refine all_orElse (h.run hscope hbody hvalue) fun complaint hcomplaint => ?_
    split
    · exact .done
    · exact h.run hscope (hhandler _ rfl) hcomplaint
  | label name hbody => exact all_upTo _ (h.run (hscope.cons (.label name _)) hbody hvalue)
  | leave name => exact all_jump scope name
  | reduce hsource hpattern hstart hstep =>
    exact (h.run hscope hstart hvalue).bind fun state hstate =>
      (all_bindings h hscope hvalue hsource hpattern).fold
        (fun inner state hinner hstate => h.run hinner hstep hstate) hstate
  | foreach hsource hpattern hstart hstep hview =>
    exact (h.run hscope hstart hvalue).bind fun state hstate =>
      (all_bindings h hscope hvalue hsource hpattern).scan
        (fun inner state hinner hstate => h.run hinner hstep hstate)
        (fun inner state hinner hstate => h.run hinner (plain_getD_identity hview) hstate) hstate
  | define hd hbody => exact h.run (hscope.cons (.definition hd)) hbody hvalue
  | call name harguments => exact all_runCall h hscope hvalue name harguments
  | misfit name arity => exact all_fail _
  | «variable» name =>
    rw [runTerm]
    split
    · rename_i v hv
      exact .one (hscope.of_valueOf? hv)
    · exact all_fail _
  | path hbase hsteps =>
    exact (h.run hscope hbase hvalue).bind fun found hfound =>
      (all_ways h hscope hvalue hsteps).bind fun way _ => all_follow way hfound

/-! ### Changes -/

variable {f : Change} (hf : Change.Plain f)

include hf

theorem all_updateCall (name : String) {arguments : List Term}
    (harguments : ∀ t ∈ arguments, t.Plain) :
    (e.updateCall scope name arguments value f).All Datum.Plain := by
  have hcallee := hscope.callee name arguments.length
  rw [updateCall.eq_def]
  cases hcalled : scope.callee name arguments.length with
  | argument t inner =>
    rw [hcalled] at hcallee
    cases hcallee with
    | argument ht hinner => exact h.update hinner ht hvalue hf
  | definition d inner =>
    rw [hcalled] at hcallee
    cases hcallee with
    | definition hd hinner =>
      exact (all_enter h hscope hvalue d.parameters harguments hinner).fold
        (fun inner value hinner hvalue => h.update hinner hd.body hvalue hf) hvalue
  | function f => exact all_pointsNowhere value
  | form =>
    dsimp only
    split
    · exact .one hvalue
    · exact .raise hvalue
    · exact all_pointsNowhere value

omit hscope in
theorem all_updateFold {step : Term} (hstep : step.Plain) {outputs : Outputs Scope}
    (houtputs : outputs.All Scope.Plain) :
    (e.updateFold step outputs value f).All Datum.Plain := by
  induction houtputs generalizing value with
  | done => exact hf value hvalue
  | raise hr => exact .raise hr
  | emit hscope _ ih => exact h.update hscope hstep hvalue fun x hx => ih hx

theorem all_updateTerm {t : Term} (ht : t.Plain) :
    (e.updateTerm scope t value f).All Datum.Plain := by
  cases ht with
  | identity => exact hf value hvalue
  | recurse hstep =>
    exact (h.update hscope hstep hvalue fun inner hinner =>
      h.update hscope (.recurse hstep) hinner hf).bind hf
  | pipe hfirst hsecond =>
    exact h.update hscope hfirst hvalue fun inner hinner => h.update hscope hsecond hinner hf
  | bind hsource hpattern hbody =>
    exact (all_bindings h hscope hvalue hsource hpattern).fold
      (fun inner value hinner hvalue => h.update hinner hbody hvalue hf) hvalue
  | comma hfirst hsecond =>
    exact (h.update hscope hfirst hvalue hf).bind fun value hvalue =>
      h.update hscope hsecond hvalue hf
  | alternative hfirst hsecond =>
    have hheld := ((h.run hscope hfirst hvalue).filter Datum.holds).first?
    rw [updateTerm]
    split
    · rename_i r hr
      rw [hr] at hheld
      exact .raise hheld
    · exact h.update hscope hfirst hvalue hf
    · exact h.update hscope hsecond hvalue hf
  | branch hcondition hyes hno =>
    refine (all_conditions h hscope hvalue hcondition).fold (fun c value _ hvalue => ?_) hvalue
    cases c with
    | true => exact h.update hscope hyes hvalue hf
    | false => exact h.update hscope hno hvalue hf
  | leave name => exact all_jump scope name
  | reduce hsource hpattern hstart hstep =>
    exact h.update hscope hstart hvalue fun x hx => all_updateFold h hx hf hstep
      (all_bindings h hscope hvalue hsource hpattern)
  | define hd hbody => exact h.update (hscope.cons (.definition hd)) hbody hvalue hf
  | call name harguments => exact all_updateCall h hscope hvalue hf name harguments
  | path hbase hsteps =>
    exact h.update hscope hbase hvalue fun inner hinner => (all_ways h hscope hvalue hsteps).fold
      (fun way inner _ hinner => all_changeAlong way hinner hf) hinner
  | _ => exact all_pointsNowhere value

end Evaluator

/-! ## Runs -/

/-- The evaluators of a run keep numbers plain, by induction on the nesting that is still
allowed. -/
theorem Term.plain_evaluator (now : Int) (depth : Nat) :
    (Evaluator.mk now (Term.run now depth) (Term.change now depth) depth).Plain := by
  induction depth with
  | zero => exact ⟨fun _ _ _ => .raise trivial, fun _ _ _ _ => .raise trivial⟩
  | succ depth ih =>
    exact ⟨fun hscope ht hvalue => Evaluator.all_runTerm ih hscope hvalue ht,
      fun hscope ht hvalue hf => Evaluator.all_updateTerm ih hscope hvalue hf ht⟩

end ResponseTypes
