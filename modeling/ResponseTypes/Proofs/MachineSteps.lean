import ResponseTypes.Proofs.ExpressionMatches

/-!
# The steps of an expression

The machine of an expression accepts from a place exactly if the expression matches from there.

Steps are made from the end, and each maker only adds steps to those that it gets.  So what a maker
has made can be looked at inside any longer list of steps: `Builds` says that from its first
step one comes to acceptance exactly by something that it stands for, followed by a way from the
step after it.  A loop comes back to a step of its own, so ways to acceptance are counted.

## Main definitions

- `Regex.Machine.AcceptsWithin`: from a step and a place one comes to acceptance in so many moves.
- `Regex.Machine.Implements`: the ways from one step to another are those of a relation.
- `Regex.Machine.Builds`: a maker makes such steps.

## Main statements

- `Regex.Machine.builds_make`: the steps of an expression implement its matches.
- `Regex.Machine.accepts_start_iff`: the machine of an expression accepts what it matches.
-/

namespace ResponseTypes
namespace Regex
namespace Machine

variable {steps final : Array Step} {i j n : Nat} {p q : Place}

/-! ## Ways to acceptance -/

/-- A step leads from a place to another step and the place where that one goes on. -/
inductive Leads : Step → Place → Nat → Place → Prop
  | take {set : CharSet} {next : Nat} {c : Char} {p q : Place} (hc : set.contains c = true)
    (htakes : p.Takes [c] q) : Leads (.take set next) p next q
  | ask {a : Anchor} {next : Nat} {p : Place} (holds : a.holds p.before p.rest.head? = true) :
    Leads (.ask a next) p next p
  | first (first second : Nat) (p : Place) : Leads (.fork first second) p first p
  | second (first second : Nat) (p : Place) : Leads (.fork first second) p second p
  | mark (slot next : Nat) (p : Place) : Leads (.mark slot next) p next p

/-- From a step and a place one comes to a step that accepts in at most so many moves. -/
inductive AcceptsWithin (steps : Array Step) : Nat → Nat → Place → Prop
  | here {n i : Nat} {p : Place} (h : steps[i]? = some .accept) : AcceptsWithin steps n i p
  | go {n i j : Nat} {p q : Place} {step : Step} (h : steps[i]? = some step)
    (hleads : Leads step p j q) (hrest : AcceptsWithin steps n j q) :
    AcceptsWithin steps (n + 1) i p

/-- From a step and a place one comes to a step that accepts. -/
def Accepts (steps : Array Step) (i : Nat) (p : Place) : Prop :=
  ∃ n, AcceptsWithin steps n i p

variable {step : Step} {first second next : Nat} {greedy : Bool}

theorem leads_take_iff {set : CharSet} :
    Leads (.take set next) p j q ↔ j = next ∧ Matches (.oneOf set) p q := by
  rw [Matches]
  constructor
  · rintro (⟨hc, htakes⟩ | _ | _ | _ | _)
    exact ⟨rfl, _, hc, htakes⟩
  · rintro ⟨rfl, c, hc, htakes⟩
    exact .take hc htakes

theorem leads_ask_iff {a : Anchor} :
    Leads (.ask a next) p j q ↔ j = next ∧ Matches (.anchor a) p q := by
  rw [Matches]
  constructor
  · rintro (_ | holds | _ | _ | _)
    exact ⟨rfl, holds, rfl⟩
  · rintro ⟨rfl, holds, rfl⟩
    exact .ask holds

theorem leads_mark_iff {slot : Nat} : Leads (.mark slot next) p j q ↔ j = next ∧ p = q := by
  constructor
  · rintro (_ | _ | _ | _ | _)
    exact ⟨rfl, rfl⟩
  · rintro ⟨rfl, rfl⟩
    exact .mark slot j p

theorem leads_fork_iff : Leads (.fork first second) p j q ↔ (j = first ∨ j = second) ∧ p = q := by
  constructor
  · rintro (_ | _ | _ | _ | _)
    exacts [⟨.inl rfl, rfl⟩, ⟨.inr rfl, rfl⟩]
  · rintro ⟨rfl | rfl, rfl⟩
    exacts [.first j second p, .second first j p]

theorem leads_forkOf_iff :
    Leads (forkOf greedy first second) p j q ↔ (j = first ∨ j = second) ∧ p = q := by
  cases greedy with
  | true => exact leads_fork_iff
  | false => exact leads_fork_iff.trans (and_congr_left fun _ => or_comm)

theorem AcceptsWithin.succ (h : AcceptsWithin steps n i p) : AcceptsWithin steps (n + 1) i p := by
  induction h with
  | here h => exact .here h
  | go h hleads _ ih => exact .go h hleads ih

/-- From a step that does not accept one has to go on. -/
theorem AcceptsWithin.exists_leads (hi : AcceptsWithin steps n i p) (h : steps[i]? = some step)
    (hstep : step ≠ .accept) :
    ∃ m j q, n = m + 1 ∧ Leads step p j q ∧ AcceptsWithin steps m j q := by
  cases hi with
  | here h' => exact absurd (Option.some.inj (h.symm.trans h')) hstep
  | go h' hleads hrest =>
    obtain rfl := Option.some.inj (h.symm.trans h')
    exact ⟨_, _, _, rfl, hleads, hrest⟩

theorem Accepts.of_leads (hrest : Accepts steps j q) (h : steps[i]? = some step)
    (hleads : Leads step p j q) : Accepts steps i p :=
  hrest.imp' (· + 1) fun _ => .go h hleads

theorem forkOf_ne_accept : forkOf greedy first second ≠ .accept := by
  cases greedy <;> nofun

/-! ## What steps stand for -/

/-- The ways from one step to another are those of a relation. -/
structure Implements (steps : Array Step) (first next : Nat) (R : Place → Place → Prop) : Prop where
  sound {n : Nat} {p : Place} (h : AcceptsWithin steps n first p) :
    ∃ q, R p q ∧ AcceptsWithin steps n next q
  complete {p q : Place} (hR : R p q) (h : Accepts steps next q) : Accepts steps first p

namespace Implements

variable {R S : Place → Place → Prop}

theorem eq (i : Nat) : Implements steps i i Eq where
  sound h := ⟨_, rfl, h⟩
  complete hR h := by rwa [hR]

theorem congr (h : Implements steps first next R) (hRS : ∀ p q, R p q ↔ S p q) :
    Implements steps first next S :=
  (funext₂ fun p q => propext (hRS p q)) ▸ h

/-- A single step which leads to one other step. -/
theorem of_step (h : steps[i]? = some step) (hstep : step ≠ .accept)
    (hleads : ∀ p j q, Leads step p j q ↔ j = next ∧ R p q) : Implements steps i next R where
  sound hi := by
    obtain ⟨m, j, q, rfl, hgo, hrest⟩ := hi.exists_leads h hstep
    obtain ⟨rfl, hR⟩ := (hleads _ _ _).1 hgo
    exact ⟨q, hR, hrest.succ⟩
  complete hR hnext := hnext.of_leads h ((hleads _ _ _).2 ⟨rfl, hR⟩)

theorem comp (hR : Implements steps first second R) (hS : Implements steps second next S) :
    Implements steps first next (Relation.Comp R S) where
  sound h := by
    obtain ⟨q, hq, hsecond⟩ := hR.sound h
    obtain ⟨t, ht, hnext⟩ := hS.sound hsecond
    exact ⟨t, ⟨q, hq, ht⟩, hnext⟩
  complete := by
    rintro p t ⟨q, hq, ht⟩ h
    exact hR.complete hq (hS.complete ht h)

theorem orElse (hfork : steps[i]? = some (forkOf greedy first second))
    (hR : Implements steps first next R) (hS : Implements steps second next S) :
    Implements steps i next (fun p q => R p q ∨ S p q) where
  sound h := by
    obtain ⟨m, j, _, rfl, hleads, hrest⟩ := h.exists_leads hfork forkOf_ne_accept
    obtain ⟨rfl | rfl, rfl⟩ := leads_forkOf_iff.1 hleads
    · obtain ⟨q, hq, hnext⟩ := hR.sound hrest
      exact ⟨q, .inl hq, hnext.succ⟩
    · obtain ⟨q, hq, hnext⟩ := hS.sound hrest
      exact ⟨q, .inr hq, hnext.succ⟩
  complete := by
    rintro p q (hq | hq) h
    · exact (hR.complete hq h).of_leads hfork (leads_forkOf_iff.2 ⟨.inl rfl, rfl⟩)
    · exact (hS.complete hq h).of_leads hfork (leads_forkOf_iff.2 ⟨.inr rfl, rfl⟩)

/-- A fork that goes on to something which comes back to it, or out. -/
theorem loop (hfork : steps[i]? = some (forkOf greedy first next))
    (hR : Implements steps first i R) :
    Implements steps i next (fun p q => ∃ n, Rounds R n p q) where
  sound {n p} h := by
    -- A round takes at least the move from the fork, so fewer moves are left after it.
    induction n using Nat.strong_induction_on generalizing p with
    | _ n ih =>
      obtain ⟨m, j, _, rfl, hleads, hrest⟩ := h.exists_leads hfork forkOf_ne_accept
      obtain ⟨rfl | rfl, rfl⟩ := leads_forkOf_iff.1 hleads
      · obtain ⟨q, hq, hback⟩ := hR.sound hrest
        obtain ⟨t, ⟨k, hk⟩, hnext⟩ := ih m m.lt_succ_self hback
        refine ⟨t, ⟨1 + k, ?_⟩, hnext.succ⟩
        rw [rounds_add, rounds_one]
        exact ⟨q, hq, hk⟩
      · exact ⟨p, ⟨0, rfl⟩, hrest.succ⟩
  complete := by
    have hback : ∀ n {p q}, Rounds R n p q → Accepts steps i q → Accepts steps i p := by
      intro n
      induction n with
      | zero => rintro p _ rfl h; exact h
      | succ n ih =>
        rintro p t ⟨q, hrounds, hq⟩ h
        exact ih hrounds
          ((hR.complete hq h).of_leads hfork (leads_forkOf_iff.2 ⟨.inl rfl, rfl⟩))
    rintro p q ⟨n, hn⟩ h
    exact hback n hn (h.of_leads hfork (leads_forkOf_iff.2 ⟨.inr rfl, rfl⟩))

end Implements

/-! ## Makers -/

/-- The steps of a list from a number on are still there in another one. -/
def Keeps (start : Nat) (steps final : Array Step) : Prop :=
  ∀ i, start ≤ i → i < steps.size → final[i]? = steps[i]?

namespace Keeps

variable {start start' : Nat} {between : Array Step}

theorem rfl : Keeps start steps steps :=
  fun _ _ _ => Eq.refl _

theorem mono (h : Keeps start steps final) (hle : start ≤ start') : Keeps start' steps final :=
  fun i hi => h i (hle.trans hi)

theorem lt_size (h : Keeps start steps final) (hi : start ≤ i) (hlt : i < steps.size) :
    i < final.size := by
  have heq := h i hi hlt
  rw [Array.getElem?_eq_getElem hlt] at heq
  exact (Array.getElem?_eq_some_iff.1 heq).1

theorem trans (h : Keeps start steps between) (h' : Keeps start between final) :
    Keeps start steps final :=
  fun i hi hlt => (h' i hi (h.lt_size hi hlt)).trans (h i hi hlt)

theorem size_le (h : Keeps 0 steps final) : steps.size ≤ final.size := by
  by_contra! hlt
  exact absurd (h.lt_size (Nat.zero_le final.size) hlt) (lt_irrefl _)

theorem push (steps : Array Step) (step : Step) : Keeps start steps (steps.push step) :=
  fun i _ hlt => by rw [Array.getElem?_push_lt hlt, Array.getElem?_eq_getElem hlt]

theorem last {step : Step} (h : Keeps steps.size (steps.push step) final) :
    final[steps.size]? = some step := by
  rw [h steps.size le_rfl (by simp), Array.getElem?_push_size]

end Keeps

/-- A maker adds steps for a relation to those that it gets. -/
structure Builds (body : Maker) (R : Place → Place → Prop) : Prop where
  keeps (next : Nat) (steps : Array Step) : Keeps 0 steps (body next steps).2
  implements (next : Nat) (steps : Array Step) {final : Array Step}
    (h : Keeps steps.size (body next steps).2 final) :
    Implements final (body next steps).1 next R

namespace Builds

variable {body other : Maker} {R S : Place → Place → Prop}

theorem congr (h : Builds body R) (hRS : ∀ p q, R p q ↔ S p q) : Builds body S :=
  (funext₂ fun p q => propext (hRS p q)) ▸ h

theorem skip : Builds (fun next steps => (next, steps)) Eq where
  keeps _ _ := .rfl
  implements _ _ _ _ := .eq _

/-- A single step which leads to the next one. -/
theorem push {make : Nat → Step} (hmake : ∀ next, make next ≠ .accept)
    (hleads : ∀ next p j q, Leads (make next) p j q ↔ j = next ∧ R p q) :
    Builds (fun next steps => (steps.size, steps.push (make next))) R where
  keeps _ _ := .push _ _
  implements next _ _ h := .of_step h.last (hmake next) (hleads next)

theorem andThen (hbody : Builds body R) (hother : Builds other S) :
    Builds (fun next steps => body (other next steps).1 (other next steps).2)
      (Relation.Comp R S) where
  keeps _ _ := (hother.keeps _ _).trans (hbody.keeps _ _)
  implements next steps final h := by
    have hsize := (hother.keeps next steps).size_le
    exact (hbody.implements _ _ (h.mono hsize)).comp
      (hother.implements _ _ (((hbody.keeps _ _).mono (Nat.zero_le _)).trans h))

theorem orElse (greedy : Bool) (hbody : Builds body R) (hother : Builds other S) :
    Builds (fun next steps =>
        let made := body next (other next steps).2
        (made.2.size, made.2.push (forkOf greedy made.1 (other next steps).1)))
      (fun p q => R p q ∨ S p q) where
  keeps _ _ := ((hother.keeps _ _).trans (hbody.keeps _ _)).trans (.push _ _)
  implements next steps final h := by
    have hsize := (hother.keeps next steps).size_le
    have hsize' := (hbody.keeps next (other next steps).2).size_le
    have hmade := (Keeps.push _ _).trans h
    exact .orElse (h.mono (hsize.trans hsize')).last (hbody.implements _ _ (hmade.mono hsize))
      (hother.implements _ _ (((hbody.keeps _ _).mono (Nat.zero_le _)).trans hmade))

/-- What is made in front of a step that is set afterwards to a fork which goes back, or out. -/
theorem loop (hbody : Builds body R) (greedy : Bool) (next : Nat) (steps : Array Step) :
    let made := body steps.size (steps.push .accept)
    let looped := made.2.setIfInBounds steps.size (forkOf greedy made.1 next)
    Keeps 0 steps looped ∧ ∀ final, Keeps steps.size looped final →
      Implements final made.1 steps.size R ∧
        Implements final steps.size next (fun p q => ∃ n, Rounds R n p q) := by
  intro made looped
  have hkeeps : Keeps 0 (steps.push .accept) made.2 := hbody.keeps _ _
  have hlt : steps.size < made.2.size := hkeeps.lt_size (Nat.zero_le _) (by simp)
  have hothers : ∀ i, i ≠ steps.size → looped[i]? = made.2[i]? := fun i hi =>
    Array.getElem?_setIfInBounds_ne hi.symm
  refine ⟨fun i _ hi => ?_, fun final h => ?_⟩
  · rw [hothers i hi.ne]
    exact ((Keeps.push _ _).trans hkeeps) i (Nat.zero_le i) hi
  · have hsize : looped.size = made.2.size := Array.size_setIfInBounds ..
    have hfork : final[steps.size]? = some (forkOf greedy made.1 next) := by
      rw [h _ le_rfl (hsize ▸ hlt), Array.getElem?_setIfInBounds_self_of_lt hlt]
    have hbody' : Implements final made.1 steps.size R := by
      refine hbody.implements _ _ fun i hi hi' => ?_
      have hgt : steps.size < i := by
        rw [Array.size_push] at hi
        exact hi
      rw [h i hgt.le (hsize ▸ hi'), hothers i hgt.ne']
    exact ⟨hbody', .loop hfork hbody'⟩

theorem onceOrMore (hbody : Builds body R) (greedy : Bool) :
    Builds (Machine.onceOrMore greedy body) (fun p q => ∃ n, 1 ≤ n ∧ Rounds R n p q) where
  keeps next steps := (hbody.loop greedy next steps).1
  implements next steps final h := by
    obtain ⟨hfirst, hback⟩ := (hbody.loop greedy next steps).2 final h
    refine (hfirst.comp hback).congr fun p q => ?_
    have hone := @comp_rounds_iff R p q 1 fun _ => True
    simpa only [rounds_one, true_and] using hone

theorem anyTimes (hbody : Builds body R) (greedy mayBeEmpty : Bool) :
    Builds (Machine.anyTimes greedy mayBeEmpty body) (fun p q => ∃ n, Rounds R n p q) := by
  cases mayBeEmpty with
  | true =>
    refine ((hbody.onceOrMore greedy).orElse greedy skip).congr fun p q => ⟨?_, ?_⟩
    · rintro (⟨n, -, hn⟩ | rfl)
      · exact ⟨n, hn⟩
      · exact ⟨0, rfl⟩
    · rintro ⟨_ | n, hn⟩
      · exact .inr hn
      · exact .inl ⟨n + 1, Nat.le_add_left _ _, hn⟩
  | false => exact {
      keeps := fun next steps => (hbody.loop greedy next steps).1
      implements := fun next steps final h => ((hbody.loop greedy next steps).2 final h).2 }

theorem exactly (hbody : Builds body R) (n : Nat) :
    Builds (Machine.exactly body n) (Rounds R n) := by
  induction n with
  | zero => exact skip
  | succ n ih => exact ih.andThen hbody

/-- Up to `n` rounds, after all of which something else follows before the way out. -/
theorem atMost_followed (hbody : Builds body R) (greedy : Bool) (out n next : Nat)
    (steps : Array Step) :
    let made := Machine.atMost greedy body out n next steps
    Keeps 0 steps made.2 ∧ ∀ final, Keeps steps.size made.2 final → ∀ T,
      Implements final next out T →
        Implements final made.1 out
          (fun p q => Relation.Comp (Rounds R n) T p q ∨ ∃ k < n, Rounds R k p q) := by
  induction n generalizing next steps with
  | zero =>
    refine ⟨.rfl, fun final _ T hT => hT.congr fun p q => ?_⟩
    rw [Rounds, Relation.eq_comp]
    simp
  | succ n ih =>
    intro made
    have hkeeps := hbody.keeps next steps
    have hsize := hkeeps.size_le
    obtain ⟨hmade, himplements⟩ := ih (body next steps).2.size
      ((body next steps).2.push (forkOf greedy (body next steps).1 out))
    refine ⟨(hkeeps.trans (.push _ _)).trans hmade, fun final h T hT => ?_⟩
    have hpushed := (hmade.mono steps.size.zero_le).trans h
    have hfirst := hbody.implements next steps ((Keeps.push _ _).trans hpushed)
    have hfork := Implements.orElse (hpushed.mono hsize).last (hfirst.comp hT) (.eq out)
    refine (himplements final (h.mono (by simp; omega)) _ hfork).congr fun p q => ?_
    have hlast : Relation.Comp (Rounds R n) (fun p q => Relation.Comp R T p q ∨ p = q) p q ↔
        Relation.Comp (Rounds R (n + 1)) T p q ∨ Rounds R n p q := by
      rw [Rounds, Relation.comp_assoc]
      simp only [Relation.Comp, and_or_left, exists_or, exists_eq_right]
    rw [hlast, Nat.exists_lt_succ_right, or_assoc, or_comm (a := Rounds R n p q)]

theorem atMost (hbody : Builds body R) (greedy : Bool) (n : Nat) :
    Builds (fun next steps => Machine.atMost greedy body next n next steps)
      (fun p q => ∃ k ≤ n, Rounds R k p q) where
  keeps next steps := (hbody.atMost_followed greedy next n next steps).1
  implements next steps final h := by
    have hfollowed := (hbody.atMost_followed greedy next n next steps).2 final h _ (.eq next)
    refine hfollowed.congr fun p q => ?_
    rw [Relation.comp_eq, or_comm, ← Nat.exists_lt_succ_right]
    simp only [Nat.lt_succ_iff]

theorem repeated (hbody : Builds body R) (times : Repetition) (mayBeEmpty : Bool) :
    Builds (Machine.repeated times mayBeEmpty body)
      (fun p q => ∃ n, times.Allows n ∧ Rounds R n p q) := by
  obtain ⟨least, _ | most, greedy⟩ := times
  · simp only [Repetition.Allows, Option.not_mem_none, false_implies, implies_true, and_true]
    cases least with
    | zero =>
      simp only [Nat.zero_le, true_and]
      exact hbody.anyTimes greedy mayBeEmpty
    | succ least =>
      refine ((hbody.exactly least).andThen (hbody.onceOrMore greedy)).congr fun p q => ?_
      rw [comp_rounds_iff]
      refine exists_congr fun n => ?_
      rw [← and_assoc]
      exact and_congr_left fun _ => by omega
  · refine ((hbody.exactly least).andThen (hbody.atMost greedy (most - least))).congr fun p q => ?_
    rw [comp_rounds_iff]
    refine exists_congr fun n => ?_
    rw [← and_assoc]
    refine and_congr_left fun _ => ?_
    simp only [Repetition.Allows, Option.mem_some_iff, forall_eq']
    omega

end Builds

/-! ## Expressions -/

mutual

/-- The steps of an expression implement its matches. -/
theorem builds_make : ∀ r : Regex, Builds (make r) (Matches r)
  | .oneOf set => .push (fun _ => nofun) fun _ _ _ _ => leads_take_iff
  | .anchor a => .push (fun _ => nofun) fun _ _ _ _ => leads_ask_iff
  | .sequence parts => builds_makeAll parts
  | .choice ways => builds_makeAny ways
  | .many times inner => (builds_make inner).repeated times inner.matchesNothing
  | .group n inner => by
    have hmark : ∀ slot, Builds (fun next steps => (steps.size, steps.push (.mark slot next))) Eq :=
      fun slot => .push (fun _ => nofun) fun _ _ _ _ => leads_mark_iff
    have hmarked := (hmark (2 * n)).andThen ((builds_make inner).andThen (hmark (2 * n + 1)))
    rwa [Relation.eq_comp, Relation.comp_eq] at hmarked

/-- The steps of expressions one after the other implement their matches in this order. -/
theorem builds_makeAll : ∀ parts : List Regex, Builds (makeAll parts) (AllMatch parts)
  | [] => .skip
  | r :: rest => (builds_make r).andThen (builds_makeAll rest)

/-- The steps of expressions instead of each other implement the matches of all of them. -/
theorem builds_makeAny : ∀ ways : List Regex, Builds (makeAny ways) (AnyMatches ways)
  | [] => .skip
  | [r] => builds_make r
  | r :: second :: rest => (builds_make r).orElse true (builds_makeAny (second :: rest))

end

/-- The machine of an expression accepts from a place exactly if the expression matches from it. -/
theorem accepts_start_iff (r : Regex) (groups : Nat) (p : Place) :
    Accepts (ofRegex r groups).steps (ofRegex r groups).start p ↔ ∃ q, Matches r p q := by
  have hbuilds := builds_make (.group 0 r)
  rw [Matches] at hbuilds
  have haccept : (ofRegex r groups).steps[0]? = some .accept :=
    hbuilds.keeps 0 #[.accept] 0 le_rfl Nat.one_pos
  have himplements : Implements (ofRegex r groups).steps (ofRegex r groups).start 0 (Matches r) :=
    hbuilds.implements 0 #[.accept] .rfl
  constructor
  · rintro ⟨n, h⟩
    obtain ⟨q, hq, -⟩ := himplements.sound h
    exact ⟨q, hq⟩
  · rintro ⟨q, hq⟩
    exact himplements.complete hq ⟨0, .here haccept⟩

end Machine
end Regex
end ResponseTypes
