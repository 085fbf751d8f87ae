import Localize.Config
import Localize.Json.Printer

/-! The fields of a configuration file, and the file that writes them all out. -/

namespace Localize.Config

def fileName : Text := ".autotranslaterc.json".toList

inductive Field where
  | messagesRoot
  | primaryLocale
  | sourceRoot
  | extensions
  | lintCommand
  | issueMarker
  | hookName
  | hookModule
  | translateFn
  | directives
  | searchRadius
  deriving DecidableEq, Repr

namespace Field

/-- In the order in which they are written. -/
def all : List Field :=
  [.messagesRoot, .primaryLocale, .sourceRoot, .extensions, .lintCommand, .issueMarker, .hookName,
    .hookModule, .translateFn, .directives, .searchRadius]

def key : Field → Text
  | .messagesRoot => "messagesRoot".toList
  | .primaryLocale => "primaryLocale".toList
  | .sourceRoot => "sourceRoot".toList
  | .extensions => "extensions".toList
  | .lintCommand => "lintCommand".toList
  | .issueMarker => "issueMarker".toList
  | .hookName => "hookName".toList
  | .hookModule => "hookModule".toList
  | .translateFn => "translateFn".toList
  | .directives => "directives".toList
  | .searchRadius => "searchRadius".toList

/-- The messages directory has a second key. -/
def ofKey? (k : Text) : Option Field :=
  if k = "messagesDir".toList then some .messagesRoot else all.find? (·.key = k)

inductive Value where
  | text (t : Text)
  | texts (ts : List Text)
  | natural (n : Nat)
  deriving DecidableEq, Repr

def get (c : Config) : Field → Value
  | .messagesRoot => .text c.messagesRoot
  | .primaryLocale => .text c.primaryLocale
  | .sourceRoot => .text c.sourceRoot
  | .extensions => .texts c.extensions
  | .lintCommand => .texts c.lintCommand
  | .issueMarker => .text c.issueMarker
  | .hookName => .text c.hookName
  | .hookModule => .text c.hookModule
  | .translateFn => .text c.translateFn
  | .directives => .texts c.directives
  | .searchRadius => .natural c.searchRadius

def Value.json : Value → Json
  | .text t => .string t
  | .texts ts => .array (ts.map .string)
  | .natural n => .number (.natural n)

end Field

def json (c : Config) : Json := .object (Field.all.map fun f => (f.key, (f.get c).json))

def fileText (c : Config) : Text := Json.pretty 0 c.json

end Localize.Config
