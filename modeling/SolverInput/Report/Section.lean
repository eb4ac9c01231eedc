import SolverInput.Report.Marker

/-!
# Sections

Where a reader stands in a report, and what the structural class of the next line does to that
place. Section markers win over every state; inside a debug block a header opens a table, a rule
closes it, and the line right after a header is passed over.
-/

namespace SolverInput

/-- The section that a reader is in. -/
inductive Section where
  /-- Outside the sections that matter: lines are dropped. -/
  | none
  /-- Inside the macro section: lines are macro definitions. -/
  | macros
  /-- Inside a debug block, between tables. -/
  | debug
  /-- Inside a debug table. -/
  | table (kind : TableKind)
  deriving DecidableEq

/-- What happens to a line. -/
inductive Action where
  | discard
  | store (bucket : Bucket)
  /-- The line is dropped together with the one after it. -/
  | skipNext
  deriving DecidableEq

/-- The effect of one line: the section after it and what happens to it. -/
structure Step where
  next : Section
  action : Action
  deriving DecidableEq

/-- The section that a marker with this label opens. -/
def Section.ofLabel (label : Text) : Section :=
  if label = Line.macroLabel then .macros
  else if label = Line.debugLabel then .debug
  else .none

/-- The effect of a line of a given class in a given section. -/
def Section.step : Section → LineClass → Step
  | _, .sectionStart label => ⟨.ofLabel label, .discard⟩
  | _, .sectionEnd => ⟨.none, .discard⟩
  | .macros, _ => ⟨.macros, .store .macros⟩
  | .debug, .tableHeader kind => ⟨.table kind, .skipNext⟩
  | .debug, _ => ⟨.debug, .discard⟩
  | .table _, .rule => ⟨.debug, .discard⟩
  | .table kind, _ => ⟨.table kind, .store kind.bucket⟩
  | .none, _ => ⟨.none, .discard⟩

/-- The effects of consecutive lines, each taken as a line of its own: no line is passed over. -/
def Section.trace : Section → List Text → List Step
  | _, [] => []
  | s, line :: rest =>
    let step := s.step (Line.classify line)
    step :: step.next.trace rest

end SolverInput
