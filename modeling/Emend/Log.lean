/-!
# Notes

What the program tells about its work, apart from its results: a severity, the part of the program that
speaks, and a text.
-/

namespace Emend

/-- How severe a note is. -/
inductive Severity where
  | debug
  | info
  | warning
  | error
  | critical
  deriving DecidableEq, BEq, Repr, Inhabited

namespace Severity

/-- The rank of a severity: higher is more severe. -/
def rank : Severity → Nat
  | .debug => 10
  | .info => 20
  | .warning => 30
  | .error => 40
  | .critical => 50

/-- The name of a severity. -/
def name : Severity → String
  | .debug => "DEBUG"
  | .info => "INFO"
  | .warning => "WARNING"
  | .error => "ERROR"
  | .critical => "CRITICAL"

/-- The least rank that a level lets through, by the names that levels have. -/
def threshold? : String → Option Nat
  | "CRITICAL" | "FATAL" => some 50
  | "ERROR" => some 40
  | "WARN" | "WARNING" => some 30
  | "INFO" => some 20
  | "DEBUG" => some 10
  | "NOTSET" => some 0
  | _ => none

end Severity

/-- The parts of the program that speak. -/
inductive Speaker where
  | outline
  | grammar
  | resolver
  | compiler
  | symbols
  | batch
  | ledger
  | session
  | host
  | metrics
  deriving DecidableEq, BEq, Repr, Inhabited

/-- The name under which a part of the program speaks. -/
def Speaker.name : Speaker → String
  | .outline => "structedit.structure.extractor"
  | .grammar => "structedit.structure.treesitter"
  | .resolver => "structedit.editing.match_resolver"
  | .compiler => "structedit.editing.edit_compiler"
  | .symbols => "structedit.editing.symbol_resolver"
  | .batch => "structedit.editing.batch_applier"
  | .ledger => "structedit.editing.change_ledger"
  | .session => "structedit.editing.session"
  | .host => "structedit.editing.host"
  | .metrics => "structedit.editing.metrics"

/-- Something told. -/
structure Note where
  severity : Severity
  speaker : Speaker
  text : String
  deriving DecidableEq, BEq, Repr, Inhabited

/-- The note as a line. -/
def Note.render (n : Note) : String := s!"{n.severity.name}  {n.speaker.name}  {n.text}"

end Emend
