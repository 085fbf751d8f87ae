import Localize.Text

/-! What a run notes about itself while it works, and the line that a note is written as. -/

namespace Localize.Log

inductive Level where
  | error
  | warn
  | info
  | debug
  | trace
  deriving DecidableEq, Repr

/-- Each level includes those of a lower rank. -/
def Level.rank : Level → Nat
  | .error => 1
  | .warn => 2
  | .info => 3
  | .debug => 4
  | .trace => 5

def Level.name : Level → Text
  | .error => "error".toList
  | .warn => "warn".toList
  | .info => "info".toList
  | .debug => "debug".toList
  | .trace => "trace".toList

def Level.label : Level → Text
  | .error => "ERROR".toList
  | .warn => " WARN".toList
  | .info => " INFO".toList
  | .debug => "DEBUG".toList
  | .trace => "TRACE".toList

/-- A note. Its target says which part of the program made it. -/
structure Event where
  level : Level
  target : Text
  message : Text
  fields : List (Text × Text)
  deriving DecidableEq, Repr

def Event.line (e : Event) : Text :=
  e.level.label ++ ' ' :: e.message ++
    e.fields.flatMap (fun (name, value) => ' ' :: name ++ '=' :: value) ++ ['\n']

end Localize.Log
