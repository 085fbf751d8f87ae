import Localize.Path

/-! What a project decides: where its messages and sources lie, how its linter is run and
how the hook that gives its message function is called. -/

namespace Localize

structure Config where
  messagesRoot : Text := "./messages".toList
  primaryLocale : Text := "en".toList
  sourceRoot : Text := "src".toList
  extensions : List Text := ["tsx".toList, "ts".toList, "jsx".toList, "js".toList]
  lintCommand : List Text := ["npm".toList, "run".toList, "lint:i18n".toList]
  issueMarker : Text := "Hardcoded string:".toList
  hookName : Text := "useTranslation".toList
  hookModule : Text := "react-i18next".toList
  translateFn : Text := "t".toList
  directives : List Text := ["use client".toList]
  searchRadius : Nat := 10
  deriving DecidableEq, Repr, Inhabited

namespace Config

inductive Flaw where
  | lintCommand
  | extensions
  | sourceRoot
  | issueMarker
  | hookName (name : Text)
  | translateFn (name : Text)
  deriving DecidableEq, Repr

def Flaw.message : Flaw → Text
  | .lintCommand => "'lintCommand' must name a program to run".toList
  | .extensions => "'extensions' must contain at least one file extension".toList
  | .sourceRoot => "'sourceRoot' must not be empty".toList
  | .issueMarker => "'issueMarker' must not be empty".toList
  | .hookName name => "Invalid identifier in 'hookName': \"".toList ++ name ++ ['"']
  | .translateFn name => "Invalid identifier in 'translateFn': \"".toList ++ name ++ ['"']

def startsIdentifier (c : Char) : Bool := Text.isLetter c || c == '_' || c == '$'

/-- A letter, underscore or dollar sign of ASCII, then any of these and digits. -/
def isIdentifier : Text → Bool
  | [] => false
  | c :: cs => startsIdentifier c && cs.all fun d => startsIdentifier d || Text.isDigit d

def flaw? (c : Config) : Option Flaw :=
  if c.lintCommand.head?.all Text.isAllBlank then some .lintCommand
  else if c.extensions.isEmpty then some .extensions
  else if Text.isAllBlank c.sourceRoot then some .sourceRoot
  else if Text.isAllBlank c.issueMarker then some .issueMarker
  else if !isIdentifier c.hookName then some (.hookName c.hookName)
  else if !isIdentifier c.translateFn then some (.translateFn c.translateFn)
  else none

def IsValid (c : Config) : Prop := c.flaw? = none

instance (c : Config) : Decidable c.IsValid := inferInstanceAs (Decidable (_ = _))

def messagesFile (c : Config) (projectRoot : Path) : Path :=
  (projectRoot.join ⟨c.messagesRoot⟩).join ⟨c.primaryLocale ++ ".json".toList⟩

end Config
end Localize
