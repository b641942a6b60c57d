import CharacterSheet.DocumentFormat
import CharacterSheet.Evaluation
import CharacterSheet.FileStore
import CharacterSheet.Legacy

/-!
# Reports of commands

A command reports lines of output and notices of what is wrong, and it ends well, badly, or
because something happened that it has no answer to.
-/

namespace CharacterSheet

/-- Why a command cannot go on. -/
inductive Failure where
  | file (error : FileError)
  | document (error : DocumentError)
  /-- A document that is not the record that it should be. -/
  | invalid (name : String) (faults : List Fault)
  | legacy (error : Legacy.Error)
  /-- A text that cannot be encoded. -/
  | encoding (error : Text.EncodingFault)
  | evaluation (error : EvaluationFailure)
  deriving Repr

namespace Failure

/-- The failure of a conversion. A converted document that is no schema counts as such. -/
def ofLegacy : Legacy.Error → Failure
  | .invalid faults => .invalid "RPGSystem" faults
  | e => .legacy e

/-- The failure of a numeral. -/
def ofNumeral (e : NumeralError) : Failure := .evaluation (.numeral e)

/-- How many faults a record has. -/
def headline (name : String) (faults : List Fault) : String :=
  toString faults.length ++ " validation error" ++ (if faults.length = 1 then "" else "s") ++
    " for " ++ name

/-- The place and the wording of a fault. -/
def faultLines (f : Fault) : List String :=
  [".".intercalate (f.place.map Step.text), "  " ++ f.cause.message .value]

/-- The wording of a failure. -/
def message : Failure → String
  | .file e => e.message
  | .document e => e.message
  | .invalid name faults => "\n".intercalate (headline name faults :: faults.flatMap faultLines)
  | .legacy e => e.message
  | .encoding e => e.message
  | .evaluation e => e.message

/-- Whether a file cannot be read, or has a text that breaks the rules of its format. -/
def isUnreadable : Failure → Bool
  | .file _ => true
  | .document e => e.isMalformed
  | _ => false

end Failure

/-- Something that is wrong. -/
inductive Notice where
  | line (text : String)
  /-- A failure, behind words that lead to it. -/
  | failure (lead : String) (cause : Failure)
  deriving Repr

/-- The text of a notice. -/
def Notice.text : Notice → String
  | .line s => s
  | .failure lead cause => lead ++ cause.message

/-- How a command ends. -/
inductive Ending where
  | done
  | failed
  /-- Something happened that the command has no answer to. -/
  | broken (cause : Failure)
  deriving Repr

/-- The status that tells how a command ended. -/
def Ending.status : Ending → Nat
  | .done => 0
  | .failed | .broken _ => 1

/-- What a command has to say. -/
structure Report where
  output : List String := []
  notices : List Notice := []
  ending : Ending := .done
  deriving Repr

namespace Report

/-- A report of one line. -/
def line (s : String) : Report := { output := [s] }

/-- A report that ends with a notice. -/
def failed (n : Notice) : Report := { notices := [n], ending := .failed }

/-- A report that ends at once. -/
def broken (cause : Failure) : Report := { ending := .broken cause }

/-- A report that goes on with another if it does not end before. -/
def append (r s : Report) : Report :=
  match r.ending with
  | .done => { s with output := r.output ++ s.output, notices := r.notices ++ s.notices }
  | _ => r

instance : Append Report where append := append

/-- Reports one after the other. -/
def join (rs : List Report) : Report := rs.foldr append {}

/-- A report of something, if it could be had. -/
def ofResult {α : Type} (report : α → Report) : Except Failure α → Report
  | .ok a => report a
  | .error cause => .broken cause

end Report
end CharacterSheet
