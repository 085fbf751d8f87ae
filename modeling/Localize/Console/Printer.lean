import Localize.Console.Style
import Localize.Json.Printer
import Localize.Run
import Localize.Text.Width

/-! Printing what a run did: the changed lines with a caret under the first difference, the strings
left alone, and the counts. -/

namespace Localize.Console

def plain (s : String) : Piece := .plain s.toList

def styled (colour : Colour) (s : String) : Piece := .styled { colour } s.toList

def bold (colour : Colour) (s : String) : Piece := .styled { colour, bold := true } s.toList

def newline : Piece := .plain ['\n']

/-- A width that is not known beforehand is held in 16 bits. -/
def widthLimit : Nat := 65535

/-- The text behind as many spaces as fill `width`, if that is not above the limit. -/
def padLeft? (width : Nat) (t : Text) : Option Text :=
  if width ≤ widthLimit then some (List.replicate (width - t.length) ' ' ++ t) else none

/-- The longest text that both start with. -/
def commonStart : Text → Text → Text
  | a :: as, b :: bs => if a = b then a :: commonStart as bs else []
  | _, _ => []

def tick : Text := [Char.ofNat 0x2713]

def cross : Text := [Char.ofNat 0x2718]

/-- Paths below the project root are shown from there. -/
def shownPath (projectRoot p : Path) : Text := ((p.stripBase? projectRoot).getD p).spelled

def gutter (c : FileChange) : Nat :=
  (c.replacements.map fun a => (Text.ofNat (a.replacement.lineIndex + 1)).length).max?.getD 1

/-- The columns before the first difference. -/
def caretColumn (r : Replacement) : Nat := Text.width (commonStart r.before r.after)

def markedLine (gutter : Nat) (colour : Colour) (mark : Char) (line : Text) : Write := do
  let mark ← padLeft? gutter [mark]
  return [.styled { colour } mark, plain " ", styled .blue "|", plain " ",
    .styled { colour } line, newline]

def caretLine (gutter : Nat) (a : Applied) : Write := do
  let margin ← padLeft? gutter []
  let indent ← padLeft? (caretColumn a.replacement) []
  return [.plain margin, plain " ", styled .blue "|", plain " ", .plain indent,
    styled .green "^", plain " ", .styled { colour := .cyan, dimmed := true } a.key, newline]

def replacementLines (path : Text) (gutter : Nat) (a : Applied) : List Write :=
  let r := a.replacement
  [some [plain "  ", styled .blue "-->", plain " ", .plain path, plain ":",
      .plain (Text.ofNat (r.lineIndex + 1)), newline],
    (padLeft? gutter []).map fun margin =>
      [.plain margin, plain " ", styled .blue "|", newline],
    markedLine gutter .red '-' r.before,
    markedLine gutter .green '+' r.after,
    caretLine gutter a,
    some [newline]]

def additionLine (path : Text) (what : String) : List Piece :=
  [plain "  ", bold .green "+", plain " ", .plain path, plain ": ", plain what, newline]

def augmentationLines (path : Text) (a : Augmentation) : List Piece :=
  (if a.importAdded then additionLine path "hook import" else []) ++
  (if a.bindingAdded then additionLine path "hook binding" else []) ++
  (if a.importAdded || a.bindingAdded then [newline] else [])

def changeLines (projectRoot : Path) (c : FileChange) : List Write :=
  let path := shownPath projectRoot c.path
  c.replacements.flatMap (replacementLines path (gutter c)) ++
    [some (augmentationLines path c.augmentation)]

def skippedLines (projectRoot : Path) (s : Skipped) : List Piece :=
  [bold .yellow "skipped", plain ": \"", .plain s.issue.string, plain "\"", newline,
    plain "  ", styled .blue "-->", plain " ", .plain (shownPath projectRoot s.issue.file),
    plain ":", .plain (Text.ofNat s.issue.line), newline,
    plain "   ", styled .blue "=", plain " ", .plain s.reason.text, newline,
    newline]

def summaryLines (s : Summary) (dryRun : Bool) : List Piece :=
  if s.stringsReplaced = 0 && s.stringsSkipped = 0 then
    [.styled { colour := .green } tick, plain " ",
      styled .green "No hardcoded strings to replace", newline]
  else
    (if 0 < s.stringsReplaced then
      [if dryRun then bold .yellow "Would replace" else bold .green "Replaced", plain " ",
        .plain (Text.ofNat s.stringsReplaced), plain " string(s) in ",
        .plain (Text.ofNat s.filesModified), plain " file(s).", newline]
    else []) ++
    (if 0 < s.stringsSkipped then
      [.styled { colour := .red } cross, plain " Skipped ",
        .plain (Text.ofNat s.stringsSkipped), plain " string(s) (use ", styled .cyan "-v",
        plain " for details).", newline]
    else []) ++
    (if dryRun && 0 < s.stringsReplaced then
      [plain "Run without ", styled .cyan "--dry-run", plain " to apply.", newline]
    else [])

/-- Changes are shown in a dry run or on request, skipped strings only on request. -/
def accountLines (r : Account) (projectRoot : Path) (verbose : Bool) : List Write :=
  (if r.dryRun || verbose then r.changes.flatMap (changeLines projectRoot) else []) ++
  (if verbose then r.skipped.map fun s => some (skippedLines projectRoot s) else []) ++
  [some (summaryLines r.summary r.dryRun)]

/-- A linter that could not be started is worth a warning. -/
def lintWarning : Option LintStatus → List Piece
  | some (.notStarted error) => [bold .yellow "warning:", plain " ", .plain error, newline]
  | _ => []

def summaryJson (s : Summary) : Json :=
  .object [("filesModified".toList, .number (.natural s.filesModified)),
    ("stringsReplaced".toList, .number (.natural s.stringsReplaced)),
    ("stringsSkipped".toList, .number (.natural s.stringsSkipped))]

def summaryJsonLines (s : Summary) : List Piece := [.plain (Json.pretty 0 (summaryJson s)), newline]

end Localize.Console
