import Localize.Log
import Localize.Text.Class.Alphanumeric
import Localize.Text.Fields

/-! Directives: how much of the log is written for some of its events. A directive is a level, a
target, or `target[span{field}]=level`, of which parts may be missing. -/

namespace Localize.Log

/-- The most that is written, if anything is, for the events whose target starts with `target` and
that have the field. -/
structure Directive where
  target : Option Text := none
  field : Option Text := none
  level : Option Level
  deriving DecidableEq, Repr

namespace Directive

/-- The message of an event is one of its fields. -/
def hasField (e : Event) (name : Text) : Bool :=
  name == "message".toList || e.fields.any fun (other, _) => other == name

def concerns (d : Directive) (e : Event) : Bool :=
  d.target.all (·.isPrefixOf e.target) && d.field.all (hasField e)

/-- A target, however short, is more specific than none, and so is a field. Of two fields the one
that comes later in the alphabet counts as more specific. -/
def isBroaderThan (d e : Directive) : Bool :=
  match d.target, e.target with
  | none, some _ => true
  | some _, none => false
  | some t, some u => t.length < u.length || (t.length == u.length && narrower)
  | none, none => narrower
where
  narrower : Bool :=
    match d.field, e.field with
    | none, some _ => true
    | some f, some g => decide (f < g)
    | _, none => false

end Directive

def level? (t : Text) : Option (Option Level) :=
  let rank := Text.natValue? (if t.head? = some '+' then t.tail else t)
  let levels := [Level.error, .warn, .info, .debug, .trace]
  if t.map Char.toLower = "off".toList || rank = some 0 then some none
  else (levels.find? fun l => t.map Char.toLower = l.name || rank = some l.rank).map some

/-- A directive as it is written. One with the name of a span, or with the value of a field, is
about spans, and no event lies in one. -/
structure Demand where
  target : Option Text := none
  span : Option Text := none
  field : Option Text := none
  level : Option Level := some .trace
  deriving DecidableEq, Repr

namespace Demand

def directive? (d : Demand) : Option Directive :=
  if d.span.isSome || d.field.any (·.contains '=') then none
  else some { target := d.target, field := d.field, level := d.level }

inductive Place where
  | start
  | name (start : Nat)
  | span (start : Nat)
  | field (start : Nat)
  | fieldEnd
  | spanEnd
  | level (start : Nat)
  deriving DecidableEq, Repr

def part (t : Text) (i j : Nat) : Text := (t.take j).drop i

def startsName (c : Char) : Bool :=
  Text.isAlphanumeric c || c == '-' || c == ':' || c == '_'

/-- Reads the character at place `i`. The parts are cut out of `t`. -/
def step (t : Text) (state : Demand × Place) (at_ : Char × Nat) : Option (Demand × Place) :=
  let (d, place) := state
  let (c, i) := at_
  match place, c with
  | .start, '[' => some (d, .span (i + 1))
  | .start, c => if startsName c then some (d, .name i) else none
  | .name j, '=' => some ({ d with target := some (part t j i) }, .level (i + 1))
  | .name j, '[' => some ({ d with target := some (part t j i) }, .span (i + 1))
  | .span j, ']' => some ({ d with span := some (part t j i) }, .spanEnd)
  | .span j, '{' =>
    some ({ d with span := (some (part t j i)).filter (!·.isEmpty) }, .field (i + 1))
  | .field j, '}' =>
    if j = i then none else some ({ d with field := some (part t j i) }, .fieldEnd)
  | .fieldEnd, ']' => some (d, .spanEnd)
  | .spanEnd, '=' => some (d, .level (i + 1))
  | .fieldEnd, _ | .spanEnd, _ => none
  | place, _ => some (d, place)

/-- What has been read at the end of `t`. A name by itself is a level if it can be. -/
def finish? (t : Text) : Demand × Place → Option Demand
  | (d, .name j) =>
    match level? (t.drop j) with
    | some level => some { d with level }
    | none => some { d with target := some (t.drop j) }
  | (d, .level j) =>
    if (t.drop j).isEmpty then some d else (level? (t.drop j)).map fun level => { d with level }
  | (d, .spanEnd) => some d
  | _ => none

/-- Blanks around a directive are passed over, but its parts are cut out of the text at the places
that they have without the blanks, so that a blank in front shifts them. -/
def ofText? (t : Text) : Option Demand :=
  ((Text.trim t).zipIdx.foldlM (step t) ({}, .start)).bind (finish? t)

end Demand
end Localize.Log
