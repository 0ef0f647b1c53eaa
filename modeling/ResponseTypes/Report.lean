import ResponseTypes.Failure

/-!
# Reports of a run

A run works on units, one after the other, and every unit ends with an outcome or a failure.  The
report keeps all of them in order and counts them three ways, so that each unit is counted once.

## Main definitions

- `Outcome`: how a unit ends when nothing fails.
- `Report`: the units of a run; `Report.written`, `Report.skipped` and `Report.failed` count them.
-/

namespace ResponseTypes

/-- How a unit of work ends. -/
inductive Outcome where
  /-- a declaration file was written -/
  | written (path : String)
  /-- the declaration file on disk is young enough -/
  | fresh (path : String)
  /-- generation from payloads is turned off -/
  | disabled
deriving DecidableEq, Repr, Inhabited

/-- A unit of work: the outcome or failure under the unit's name. -/
structure UnitReport where
  name : String
  result : Except Failure Outcome

/-- The units of a run in order. -/
structure Report where
  units : List UnitReport := []

namespace UnitReport

/-- The unit wrote a file. -/
def isWritten (unit : UnitReport) : Bool :=
  match unit.result with
  | .ok (.written _) => true
  | _ => false

/-- The unit broke. -/
def isFailed (unit : UnitReport) : Bool :=
  match unit.result with
  | .ok _ => false
  | .error failure => !failure.isAbsence

/-- The unit had nothing to do. -/
def isSkipped (unit : UnitReport) : Bool :=
  match unit.result with
  | .ok (.written _) => false
  | .ok _ => true
  | .error failure => failure.isAbsence

end UnitReport

namespace Report

/-- One more unit at the end. -/
def push (report : Report) (name : String) (result : Except Failure Outcome) : Report :=
  ⟨report.units ++ [⟨name, result⟩]⟩

/-- The report of a run that is the one after the other. -/
def append (first second : Report) : Report :=
  ⟨first.units ++ second.units⟩

instance : Append Report := ⟨append⟩

/-- The number of units that wrote a file. -/
def written (report : Report) : Nat :=
  report.units.countP UnitReport.isWritten

/-- The number of units that had nothing to do. -/
def skipped (report : Report) : Nat :=
  report.units.countP UnitReport.isSkipped

/-- The number of units that broke. -/
def failed (report : Report) : Nat :=
  report.units.countP UnitReport.isFailed

/-- Every unit is counted once. -/
theorem written_add_skipped_add_failed (report : Report) :
    report.written + report.skipped + report.failed = report.units.length := by
  obtain ⟨units⟩ := report
  simp only [written, skipped, failed]
  induction units with
  | nil => rfl
  | cons unit rest ih =>
    have one : ([unit].countP UnitReport.isWritten) + ([unit].countP UnitReport.isSkipped) +
        ([unit].countP UnitReport.isFailed) = 1 := by
      obtain ⟨name, result⟩ := unit
      rcases result with failure | (_ | _ | _)
      · cases h : failure.isAbsence <;>
          simp [UnitReport.isWritten, UnitReport.isSkipped, UnitReport.isFailed, h]
      all_goals rfl
    simp only [List.countP_cons, List.countP_nil] at one ⊢
    simp only [List.length_cons]
    omega

end Report
end ResponseTypes
