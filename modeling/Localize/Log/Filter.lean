import Localize.Log
import Localize.Log.Directive

/-! Which events are written. Of the directives that concern an event the most specific one
decides: the one with the longest target, and of those one that asks for a field. -/

namespace Localize.Log

abbrev Filter := List Directive

namespace Filter

/-- Directives between commas. Without any, errors alone are written. -/
def ofText? (t : Text) : Option Filter :=
  match (Text.fields ',' t).filter (!·.isEmpty) with
  | [] => some [{ level := some .error }]
  | directives => (directives.mapM Demand.ofText?).map fun ds => ds.filterMap Demand.directive?

def standard (verbose : Bool) : Filter :=
  if verbose then [{ target := some "autotranslate".toList, level := some .debug }]
  else [{ level := some .warn }]

/-- What was asked for, unless it cannot be read. -/
def choose (asked : Option Text) (verbose : Bool) : Filter :=
  (asked.bind ofText?).getD (standard verbose)

/-- Of two equally specific directives the later one governs an event. -/
def governing? (e : Event) : Filter → Option Directive
  | [] => none
  | d :: ds =>
    match governing? e ds with
    | none => if d.concerns e then some d else none
    | some later => if d.concerns e && later.isBroaderThan d then some d else some later

def admits (f : Filter) (e : Event) : Bool :=
  match f.governing? e with
  | some d => d.level.any fun level => e.level.rank ≤ level.rank
  | none => false

def text (f : Filter) (events : List Event) : Text := (events.filter f.admits).flatMap Event.line

end Filter
end Localize.Log
