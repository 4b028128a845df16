import ModelStore.Error
import ModelStore.Text.Wrap

/-!
# Reports

What a failed run tells its user: a code, if the failure has one, and a message in lines that fit the terminal.

## Main definitions

* `Report`: a code and a message.
* `Report.messageLines`: the lines of the message.
* `Report.lines`: the lines of the report.
-/

namespace ModelStore.Cli

/-- Why a run failed: a code, if the failure has one, and a message. -/
structure Report where
  code : Option String
  message : String
  deriving DecidableEq, Repr, Inhabited

namespace Report

/-- The report of a failure. -/
def ofError (error : Error) : Report := ⟨some error.code, error.message⟩

/-- The columns that a line of a message has: of the 80 columns of a terminal, 4 stand ahead of it and 2 stay free. -/
def messageColumns : Nat := 74

/-- The lines of the message. -/
def messageLines (report : Report) : List String := Text.wrap messageColumns report.message

/-- The lines of the message behind a cross, and below it behind a bar. -/
def markedLines (report : Report) : List String :=
  match report.messageLines with
  | [] => []
  | first :: rest => ("  × " ++ first) :: rest.map ("  │ " ++ ·)

/-- The lines of the report. -/
def lines (report : Report) : List String :=
  match report.code, report.markedLines with
  | some code, marked => ("Error: " ++ code) :: "" :: marked
  | none, first :: rest => ("Error: " ++ first) :: rest
  | none, [] => []

end Report

end ModelStore.Cli
