import ResponseTypes.Proofs.MachineSteps

/-!
# Searching for matches

A machine finds a match in a text exactly if its expression matches somewhere.

The search follows all ways at once.  What it keeps at a place is a frontier: the steps that have
been visited there, and those among them that wait for a character or accept.  No step is visited
twice at a place, so a frontier must contain everything that its steps lead to; otherwise a way
would be lost.  `Explores` says what following some steps adds to a frontier, and is put together
along the recursion.  What is in between is not closed: the steps on the way are visited before
those that they lead to.

## Main definitions

- `Regex.Machine.Explores`: what is visited after some steps have been followed.
- `Regex.Machine.Frontier.IsReady`: a frontier that contains what its steps lead to.

## Main statements

- `Regex.Machine.follow_explores`: following a step visits what it leads to, and nothing else.
- `Regex.Machine.isMatch_iff`: the search finds a match if there is one.
- `Regex.isMatch_ofRegex_iff`: the same for the machine of an expression.
-/

namespace ResponseTypes
namespace Regex

/-- Whether a step waits for a character or accepts. -/
def Step.waits : Step → Bool
  | .accept => true
  | .take _ _ => true
  | _ => false

namespace Machine

variable {m : Machine} {place p q : Place} {i j n x : Nat} {step : Step} {marks : Marks}

theorem Leads.eq_of_waits (h : Leads step p j q) (hstep : step.waits = false) : p = q := by
  cases h with
  | take => cases hstep
  | _ => rfl

/-! ## Frontiers -/

namespace Frontier

variable {frontier : Frontier}

/-- A step has been visited. -/
def Visited (frontier : Frontier) (i : Nat) : Prop :=
  frontier.visited[i]? = some true

/-- The frontier after a visit to a step. -/
def visit (frontier : Frontier) (i : Nat) : Frontier :=
  { frontier with visited := frontier.visited.setIfInBounds i true }

/-- The steps that have not been visited. -/
def unvisited (frontier : Frontier) : Finset Nat :=
  (Finset.range frontier.visited.size).filter fun i => frontier.visited[i]? ≠ some true

theorem mem_unvisited :
    i ∈ frontier.unvisited ↔ i < frontier.visited.size ∧ ¬ frontier.Visited i := by
  rw [unvisited, Finset.mem_filter, Finset.mem_range, Visited]

@[simp] theorem size_visit : (frontier.visit i).visited.size = frontier.visited.size :=
  Array.size_setIfInBounds ..

theorem visited_visit_iff (hi : i < frontier.visited.size) :
    (frontier.visit i).Visited x ↔ x = i ∨ frontier.Visited x := by
  rw [Visited, visit, Visited]
  by_cases hx : i = x
  · subst hx
    simp [Array.getElem?_setIfInBounds_self_of_lt hi]
  · simp [Array.getElem?_setIfInBounds_ne hx, Ne.symm hx]

theorem card_unvisited_visit_lt (hi : i < frontier.visited.size) (hnew : ¬ frontier.Visited i) :
    (frontier.visit i).unvisited.card < frontier.unvisited.card := by
  refine Finset.card_lt_card (Finset.ssubset_iff_of_subset ?_ |>.2 ⟨i, ?_, ?_⟩)
  · intro x hx
    rw [mem_unvisited, visited_visit_iff hi, size_visit] at hx
    exact mem_unvisited.2 ⟨hx.1, fun hx' => hx.2 (.inr hx')⟩
  · exact mem_unvisited.2 ⟨hi, hnew⟩
  · rw [mem_unvisited, visited_visit_iff hi]
    tauto

/-- The frontier is one of a machine, and lists those of its visited steps that wait. -/
structure Fits (m : Machine) (frontier : Frontier) : Prop where
  size_eq : frontier.visited.size = m.steps.size
  listed_iff (i : Nat) : (∃ marks, (i, marks) ∈ frontier.threads) ↔
    frontier.Visited i ∧ ∃ step, m.steps[i]? = some step ∧ step.waits = true

namespace Fits

theorem lt_size (hfits : frontier.Fits m) (hstep : m.steps[i]? = some step) :
    i < frontier.visited.size := by
  rw [hfits.size_eq]
  exact (Array.getElem?_eq_some_iff.1 hstep).1

/-- A visit to a step that does not wait adds nothing to the list. -/
theorem visit (hfits : frontier.Fits m) (hstep : m.steps[i]? = some step)
    (hquiet : step.waits = false) : (frontier.visit i).Fits m where
  size_eq := size_visit.trans hfits.size_eq
  listed_iff x := by
    rw [visited_visit_iff (hfits.lt_size hstep)]
    refine (hfits.listed_iff x).trans (and_congr_left fun ⟨step', hstep', hwaits⟩ => ?_)
    rw [or_iff_right]
    rintro rfl
    obtain rfl := Option.some.inj (hstep.symm.trans hstep')
    exact absurd (hwaits.symm.trans hquiet) nofun

theorem waits_of_mem (hfits : frontier.Fits m) :
    ∀ thread ∈ frontier.threads.toList, ∃ step, m.steps[thread.1]? = some step ∧
      step.waits = true :=
  fun thread hthread =>
    ((hfits.listed_iff thread.1).1 ⟨thread.2, Array.mem_toList_iff.1 hthread⟩).2

end Fits

end Frontier

/-! ## Following steps -/

/-- What is visited after some steps have been followed: they and what they lead to, and only steps
from which nothing is accepted that is not accepted from one of them. -/
structure Explores (m : Machine) (place : Place) (starts : Set Nat) (before after : Frontier) :
    Prop where
  fits : after.Fits m
  grows {x : Nat} (h : before.Visited x) : after.Visited x
  reaches {i : Nat} (hi : i ∈ starts) (hlt : i < m.steps.size) : after.Visited i
  closed {x : Nat} (h : after.Visited x) : before.Visited x ∨
    ∀ step j q, m.steps[x]? = some step → step.waits = false → Leads step place j q →
      j < m.steps.size → after.Visited j
  sound {x : Nat} (h : after.Visited x) : before.Visited x ∨
    ∃ i ∈ starts, Accepts m.steps x place → Accepts m.steps i place

namespace Explores

variable {starts others : Set Nat} {before between after : Frontier}

theorem congr (h : Explores m place starts before after) (hstarts : ∀ i, i ∈ starts ↔ i ∈ others) :
    Explores m place others before after :=
  Set.ext hstarts ▸ h

theorem nothing (hfits : before.Fits m) : Explores m place ∅ before before where
  fits := hfits
  grows h := h
  reaches hi := hi.elim
  closed h := .inl h
  sound h := .inl h

theorem trans (h : Explores m place starts before between)
    (h' : Explores m place others between after) :
    Explores m place (starts ∪ others) before after where
  fits := h'.fits
  grows hx := h'.grows (h.grows hx)
  reaches hi hlt := hi.elim (fun hi => h'.grows (h.reaches hi hlt)) (fun hi => h'.reaches hi hlt)
  closed hx := by
    refine (h'.closed hx).elim (fun hx => (h.closed hx).imp id ?_) .inr
    exact fun hclosed step j q hstep hquiet hleads hlt =>
      h'.grows (hclosed step j q hstep hquiet hleads hlt)
  sound hx := by
    obtain hx | ⟨i, hi, haccepts⟩ := h'.sound hx
    · exact (h.sound hx).imp id fun ⟨i, hi, haccepts⟩ => ⟨i, .inl hi, haccepts⟩
    · exact .inr ⟨i, .inr hi, haccepts⟩

theorem of_visited (hfits : before.Fits m) (hi : i < m.steps.size → before.Visited i) :
    Explores m place {i} before before where
  fits := hfits
  grows h := h
  reaches := by rintro _ rfl hlt; exact hi hlt
  closed h := .inl h
  sound h := .inl h

/-- A step that waits is listed. -/
theorem of_waits (hfits : before.Fits m) (hstep : m.steps[i]? = some step)
    (hwaits : step.waits = true) (marks : Marks) :
    Explores m place {i} before
      { before.visit i with threads := before.threads.push (i, marks) } := by
  have hvisited : ∀ x, Frontier.Visited
      { before.visit i with threads := before.threads.push (i, marks) } x ↔
      x = i ∨ before.Visited x := fun x => Frontier.visited_visit_iff (hfits.lt_size hstep)
  constructor
  · constructor
    · exact Frontier.size_visit.trans hfits.size_eq
    · intro x
      simp only [hvisited, Array.mem_push, exists_or, hfits.listed_iff, Prod.mk.injEq]
      constructor
      · rintro (⟨hx, hwaits⟩ | ⟨_, rfl, -⟩)
        · exact ⟨.inr hx, hwaits⟩
        · exact ⟨.inl rfl, step, hstep, hwaits⟩
      · rintro ⟨rfl | hx, hwaits⟩
        · exact .inr ⟨marks, rfl, rfl⟩
        · exact .inl ⟨hx, hwaits⟩
  · exact fun hx => (hvisited _).2 (.inr hx)
  · rintro _ rfl -
    exact (hvisited _).2 (.inl rfl)
  · intro x hx
    obtain rfl | hx := (hvisited x).1 hx
    · refine .inr fun step' j q hstep' hquiet => ?_
      obtain rfl := Option.some.inj (hstep.symm.trans hstep')
      exact absurd (hwaits.symm.trans hquiet) nofun
    · exact .inl hx
  · intro x hx
    obtain rfl | hx := (hvisited x).1 hx
    · exact .inr ⟨x, rfl, id⟩
    · exact .inl hx

/-- A step that does not wait is followed to all steps that it leads to. -/
theorem of_visit (hfits : before.Fits m) (hstep : m.steps[i]? = some step)
    (hquiet : step.waits = false)
    (h : Explores m place {j | ∃ q, Leads step place j q} (before.visit i) after) :
    Explores m place {i} before after := by
  have hvisited : ∀ x, (before.visit i).Visited x ↔ x = i ∨ before.Visited x :=
    fun x => Frontier.visited_visit_iff (hfits.lt_size hstep)
  constructor
  · exact h.fits
  · exact fun hx => h.grows ((hvisited _).2 (.inr hx))
  · rintro _ rfl -
    exact h.grows ((hvisited _).2 (.inl rfl))
  · intro x hx
    obtain hx | hclosed := h.closed hx
    · obtain rfl | hx := (hvisited x).1 hx
      · refine .inr fun step' j q hstep' _ hleads hlt => ?_
        obtain rfl := Option.some.inj (hstep.symm.trans hstep')
        exact h.reaches ⟨q, hleads⟩ hlt
      · exact .inl hx
    · exact .inr hclosed
  · intro x hx
    obtain hx | ⟨j, ⟨q, hleads⟩, haccepts⟩ := h.sound hx
    · obtain rfl | hx := (hvisited x).1 hx
      · exact .inr ⟨x, rfl, id⟩
      · exact .inl hx
    · obtain rfl := hleads.eq_of_waits hquiet
      exact .inr ⟨i, rfl, fun hx => (haccepts hx).of_leads hstep hleads⟩

theorem card_unvisited_le (hfits : before.Fits m) (h : Explores m place starts before after) :
    after.unvisited.card ≤ before.unvisited.card := by
  refine Finset.card_le_card fun x hx => ?_
  rw [Frontier.mem_unvisited, h.fits.size_eq, ← hfits.size_eq] at hx
  exact Frontier.mem_unvisited.2 ⟨hx.1, fun hx' => hx.2 (h.grows hx')⟩

end Explores

/-- With fuel for all unvisited steps, following a step visits what it leads to. -/
theorem follow_explores (place : Place) {fuel : Nat} {frontier : Frontier} (hfits : frontier.Fits m)
    (hfuel : frontier.unvisited.card < fuel) :
    Explores m place {i} frontier (m.follow place fuel i marks frontier) := by
  induction fuel generalizing i marks frontier with
  | zero => exact absurd hfuel (Nat.not_lt_zero _)
  | succ fuel ih =>
    rw [follow]
    split_ifs with hvisited
    · refine .of_visited hfits fun hi => ?_
      rw [← hfits.size_eq] at hi
      simpa [Frontier.Visited, hi] using hvisited
    · obtain ⟨hi, hnew⟩ : i < frontier.visited.size ∧ ¬ frontier.Visited i := by
        by_cases hi : i < frontier.visited.size
        · simpa [Frontier.Visited, hi] using hvisited
        · simp [hi] at hvisited
      obtain ⟨step, hstep⟩ : ∃ step, m.steps[i]? = some step :=
        ⟨_, Array.getElem?_eq_getElem (hfits.size_eq ▸ hi)⟩
      have hcard := (Frontier.card_unvisited_visit_lt hi hnew).trans_le (Nat.lt_succ_iff.1 hfuel)
      rw [hstep]
      cases step with
      | accept => exact .of_waits hfits hstep rfl marks
      | take set next => exact .of_waits hfits hstep rfl marks
      | fork first second =>
        refine .of_visit hfits hstep rfl ?_
        have hvisit := hfits.visit hstep rfl
        have hfirst := @ih first marks _ hvisit hcard
        have hsecond := @ih second marks _ hfirst.fits
          ((hfirst.card_unvisited_le hvisit).trans_lt hcard)
        exact (hfirst.trans hsecond).congr fun j => by simp [leads_fork_iff, or_comm]
      | ask a next =>
        dsimp only
        refine .of_visit hfits hstep rfl ?_
        have hvisit := hfits.visit hstep rfl
        split_ifs with holds
        · exact (ih hvisit hcard).congr fun j => by simp [leads_ask_iff, Matches, holds]
        · exact (Explores.nothing hvisit).congr fun j => by simp [leads_ask_iff, Matches, holds]
      | mark slot next =>
        refine .of_visit hfits hstep rfl ?_
        exact (ih (hfits.visit hstep rfl) hcard).congr fun j => by simp [leads_mark_iff]

/-! ## Frontiers between characters -/

/-- A frontier that contains what its steps lead to at a place. -/
structure Frontier.IsReady (m : Machine) (place : Place) (frontier : Frontier) : Prop where
  fits : frontier.Fits m
  closed {x : Nat} (h : frontier.Visited x) {step : Step} {j : Nat} {q : Place}
    (hstep : m.steps[x]? = some step) (hquiet : step.waits = false)
    (hleads : Leads step place j q) (hlt : j < m.steps.size) : frontier.Visited j

/-- From one of its steps one comes to acceptance. -/
def Frontier.Accepts (m : Machine) (place : Place) (frontier : Frontier) : Prop :=
  ∃ x, frontier.Visited x ∧ Machine.Accepts m.steps x place

theorem AcceptsWithin.lt_size {steps : Array Step} (h : AcceptsWithin steps n i p) :
    i < steps.size := by
  cases h with
  | here h => exact (Array.getElem?_eq_some_iff.1 h).1
  | go h => exact (Array.getElem?_eq_some_iff.1 h).1

theorem closed_isReady (place : Place) : m.closed.IsReady m place where
  fits := {
    size_eq := Array.size_replicate
    listed_iff := fun i => by simp [closed, Frontier.Visited, Array.getElem?_replicate] }
  closed h := by simp [closed, Frontier.Visited, Array.getElem?_replicate] at h

theorem not_accepts_closed (place : Place) : ¬ m.closed.Accepts m place := by
  rintro ⟨x, h, -⟩
  simp [closed, Frontier.Visited, Array.getElem?_replicate] at h

section Enter

variable {frontier : Frontier}

/-- A step is followed as far as it leads. -/
theorem enter_explores (hfits : frontier.Fits m) (place : Place) (i : Nat) (marks : Marks) :
    Explores m place {i} frontier (m.enter place i marks frontier) := by
  refine follow_explores place hfits (Nat.lt_succ_iff.2 ?_)
  rw [← hfits.size_eq, ← Finset.card_range frontier.visited.size]
  exact Finset.card_le_card (Finset.filter_subset _ _)

theorem enter_isReady (hready : frontier.IsReady m place) (i : Nat) (marks : Marks) :
    (m.enter place i marks frontier).IsReady m place where
  fits := (enter_explores hready.fits place i marks).fits
  closed hx step j q hstep hquiet hleads hlt := by
    have hexplores := enter_explores hready.fits place i marks
    obtain hx | hclosed := hexplores.closed hx
    · exact hexplores.grows (hready.closed hx hstep hquiet hleads hlt)
    · exact hclosed step j q hstep hquiet hleads hlt

theorem accepts_enter_iff (hready : frontier.IsReady m place) (i : Nat) (marks : Marks) :
    (m.enter place i marks frontier).Accepts m place ↔
      frontier.Accepts m place ∨ Accepts m.steps i place := by
  have hexplores := enter_explores hready.fits place i marks
  constructor
  · rintro ⟨x, hx, haccepts⟩
    obtain hx | ⟨_, rfl, hi⟩ := hexplores.sound hx
    · exact .inl ⟨x, hx, haccepts⟩
    · exact .inr (hi haccepts)
  · rintro (⟨x, hx, haccepts⟩ | ⟨n, hn⟩)
    · exact ⟨x, hexplores.grows hx, haccepts⟩
    · exact ⟨i, hexplores.reaches rfl hn.lt_size, n, hn⟩

end Enter

/-- Whoever comes to acceptance passes one of the steps that are listed. -/
theorem Frontier.IsReady.accepts_iff {frontier : Frontier} (hready : frontier.IsReady m place) :
    frontier.Accepts m place ↔
      ∃ thread ∈ frontier.threads.toList, Machine.Accepts m.steps thread.1 place := by
  constructor
  · rintro ⟨x, hx, n, hn⟩
    induction n using Nat.strong_induction_on generalizing x with
    | _ n ih =>
      obtain ⟨step, hstep⟩ : ∃ step, m.steps[x]? = some step :=
        ⟨_, Array.getElem?_eq_getElem hn.lt_size⟩
      cases hwaits : step.waits with
      | true =>
        obtain ⟨marks, hlisted⟩ := (hready.fits.listed_iff x).2 ⟨hx, step, hstep, hwaits⟩
        exact ⟨(x, marks), Array.mem_toList_iff.2 hlisted, n, hn⟩
      | false =>
        have hstep' : step ≠ .accept := by rintro rfl; cases hwaits
        obtain ⟨k, j, _, rfl, hleads, hrest⟩ := hn.exists_leads hstep hstep'
        obtain rfl := hleads.eq_of_waits hwaits
        exact ih k k.lt_succ_self j (hready.closed hx hstep hwaits hleads hrest.lt_size) hrest
  · rintro ⟨⟨x, marks⟩, hx, haccepts⟩
    exact ⟨x, ((hready.fits.listed_iff x).1 ⟨marks, Array.mem_toList_iff.1 hx⟩).1, haccepts⟩

/-! ## Over one character -/

/-- From a step that waits one comes to acceptance if it accepts or takes the next character. -/
theorem accepts_iff_of_waits (hstep : m.steps[x]? = some step) (hwaits : step.waits = true) :
    Accepts m.steps x p ↔ step = .accept ∨ ∃ set next c q, step = .take set next ∧
      set.contains c = true ∧ p.Takes [c] q ∧ Accepts m.steps next q := by
  constructor
  · rintro ⟨n, hn⟩
    by_cases haccept : step = .accept
    · exact .inl haccept
    · obtain ⟨n, j, q, -, hleads, hrest⟩ := hn.exists_leads hstep haccept
      cases hleads with
      | take hc htakes => exact .inr ⟨_, _, _, q, rfl, hc, htakes, n, hrest⟩
      | _ => cases hwaits
  · rintro (rfl | ⟨set, next, c, q, rfl, hc, htakes, hrest⟩)
    · exact ⟨0, .here hstep⟩
    · exact hrest.of_leads hstep (.take hc htakes)

/-- What is found and kept over a character, if there is one. -/
theorem advance_spec (c : Option Char) (place : Place) {threads : List (Nat × Marks)}
    {next : Frontier} (hwaits : ∀ thread ∈ threads, ∃ step, m.steps[thread.1]? = some step ∧
      step.waits = true) (hready : next.IsReady m place) :
    let advanced := m.advance c place threads next
    advanced.1.IsReady m place ∧
      (advanced.2.isSome = true ↔ ∃ thread ∈ threads, m.steps[thread.1]? = some .accept) ∧
      (advanced.2 = none → (advanced.1.Accepts m place ↔ next.Accepts m place ∨
        ∃ thread ∈ threads, ∃ set target, m.steps[thread.1]? = some (.take set target) ∧
          c.any set.contains = true ∧ Accepts m.steps target place)) := by
  induction threads generalizing next with
  | nil => simpa [advance] using hready
  | cons thread others ih =>
    obtain ⟨i, marks⟩ := thread
    obtain ⟨⟨step, hstep, hwait⟩, hothers⟩ := List.forall_mem_cons.1 hwaits
    cases step with
    | accept => simp [advance, hstep, hready]
    | take set target =>
      simp only [advance, hstep, List.exists_mem_cons_iff, reduceCtorEq, false_or,
        Option.some.injEq, Step.take.injEq, and_assoc, exists_and_left, exists_eq_left', ← or_assoc]
      by_cases hc : c.any set.contains = true
      · rw [if_pos hc, and_iff_right hc, ← accepts_enter_iff hready target marks]
        exact ih hothers (enter_isReady hready target marks)
      · have hnot : ¬ (c.any set.contains = true ∧ Accepts m.steps target place) := fun h => hc h.1
        rw [if_neg hc, or_iff_left hnot]
        exact ih hothers hready
    | _ => cases hwait

variable {frontier : Frontier} {position : Nat} {before : Option Char} {c : Char} {rest : List Char}

/-- At the end of a text a match is found if there is one. -/
theorem isSome_advance_none_iff (hready : frontier.IsReady m ⟨position, before, []⟩)
    (place : Place) :
    (m.advance none place frontier.threads.toList m.closed).2.isSome = true ↔
      frontier.Accepts m ⟨position, before, []⟩ := by
  have hwaits := hready.fits.waits_of_mem
  rw [(advance_spec none place hwaits (closed_isReady place)).2.1, hready.accepts_iff]
  refine exists_congr fun thread => and_congr_right fun hthread => ?_
  obtain ⟨step, hstep, hwait⟩ := hwaits thread hthread
  rw [accepts_iff_of_waits hstep hwait, hstep, Option.some.injEq, or_iff_left]
  rintro ⟨_, _, _, _, -, -, ⟨⟩, -⟩

/-- Over a character a match is found, or what is kept leads to one if there is one. -/
theorem advance_some_spec (hready : frontier.IsReady m ⟨position, before, c :: rest⟩) :
    let after : Place := ⟨position + 1, some c, rest⟩
    let advanced := m.advance (some c) after frontier.threads.toList m.closed
    advanced.1.IsReady m after ∧ (frontier.Accepts m ⟨position, before, c :: rest⟩ ↔
      advanced.2.isSome = true ∨ advanced.1.Accepts m after) := by
  intro after advanced
  have hwaits := hready.fits.waits_of_mem
  obtain ⟨hnext, hfound, hkept⟩ := advance_spec (some c) after hwaits (closed_isReady after)
  refine ⟨hnext, ?_⟩
  have hthread : ∀ thread ∈ frontier.threads.toList,
      (Accepts m.steps thread.1 ⟨position, before, c :: rest⟩ ↔
        m.steps[thread.1]? = some .accept ∨ ∃ set target,
          m.steps[thread.1]? = some (.take set target) ∧ (some c).any set.contains = true ∧
            Accepts m.steps target after) := by
    intro thread hthread
    obtain ⟨step, hstep, hwait⟩ := hwaits thread hthread
    rw [accepts_iff_of_waits hstep hwait, hstep, Option.some.injEq]
    refine or_congr_right ⟨?_, ?_⟩
    · rintro ⟨set, target, _, q, rfl, hc, _ | ⟨_, _, ⟨⟩⟩, htarget⟩
      exact ⟨set, target, rfl, hc, htarget⟩
    · rintro ⟨set, target, hset, hc, htarget⟩
      exact ⟨set, target, c, after, Option.some.inj hset, hc, .next _ _ (.none _), htarget⟩
  have hall : frontier.Accepts m ⟨position, before, c :: rest⟩ ↔ advanced.2.isSome = true ∨
      ∃ thread ∈ frontier.threads.toList, ∃ set target,
        m.steps[thread.1]? = some (.take set target) ∧ (some c).any set.contains = true ∧
          Accepts m.steps target after := by
    rw [hready.accepts_iff, hfound, ← exists_or]
    simp only [← and_or_left]
    exact exists_congr fun thread => and_congr_right (hthread thread)
  rw [hall]
  cases hadvanced : advanced.2 with
  | some marks => simp
  | none => rw [hkept hadvanced, or_iff_right (not_accepts_closed after)]

/-! ## Searches -/

/-- What has been found once is not lost. -/
theorem isSome_searchFrom {found : Option Marks} (h : found.isSome = true) (position : Nat)
    (before : Option Char) (s : List Char) (frontier : Frontier) :
    (m.searchFrom found position before s frontier).isSome = true := by
  induction s generalizing found position before frontier with
  | nil => simp [searchFrom, h]
  | cons c rest ih =>
    simp only [searchFrom, h, if_true]
    split_ifs
    · simp [h]
    · exact ih (by simp [h]) _ _ _

/-- The search finds a match if one of the ways that are open leads to one, or a way that begins
here or later. -/
theorem isSome_searchFrom_iff (hready : frontier.IsReady m ⟨position, before, rest⟩) :
    (m.searchFrom none position before rest frontier).isSome = true ↔
      frontier.Accepts m ⟨position, before, rest⟩ ∨
        ∃ front p, Place.Takes ⟨position, before, rest⟩ front p ∧ Accepts m.steps m.start p := by
  induction rest generalizing position before frontier with
  | nil =>
    rw [Place.exists_takes_nil_iff, ← accepts_enter_iff hready m.start (.replicate m.slots none),
      ← isSome_advance_none_iff (enter_isReady hready _ _) ⟨position, before, []⟩]
    simp [searchFrom]
  | cons c rest ih =>
    rw [Place.exists_takes_cons_iff, ← or_assoc,
      ← accepts_enter_iff hready m.start (.replicate m.slots none)]
    obtain ⟨hnext, hfound⟩ :=
      advance_some_spec (enter_isReady hready m.start (.replicate m.slots none))
    rw [hfound]
    simp only [searchFrom, Option.isSome_none, Bool.false_eq_true, if_false]
    generalize m.advance (some c) _ _ _ = advanced at hnext
    obtain ⟨next, _ | marks⟩ := advanced
    · simpa using ih hnext
    · split_ifs <;> simp [isSome_searchFrom]

/-- A search finds a match if there is one. -/
theorem isMatch_iff (s : List Char) :
    m.isMatch s = true ↔
      ∃ front p, Place.Takes ⟨0, none, s⟩ front p ∧ Accepts m.steps m.start p := by
  rw [isMatch, isSome_searchFrom_iff (closed_isReady _), or_iff_right (not_accepts_closed _)]

end Machine

/-- The machine of an expression finds a match in a text if the expression matches somewhere. -/
theorem isMatch_ofRegex_iff (r : Regex) (groups : Nat) (s : List Char) :
    (Machine.ofRegex r groups).isMatch s = true ↔
      ∃ front p q, Machine.Place.Takes ⟨0, none, s⟩ front p ∧ Matches r p q := by
  simp only [Machine.isMatch_iff, Machine.accepts_start_iff, exists_and_left]

end Regex
end ResponseTypes
