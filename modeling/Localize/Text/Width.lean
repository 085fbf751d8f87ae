import Localize.Text.Class.Columnless
import Localize.Text.Class.Emoji
import Localize.Text.Class.Wide

/-! The number of terminal columns of a text. Wide characters take two and combining ones none.
Characters that are shown as one emoji or one ligature count once, so each character is counted in
view of what stands behind it. -/

namespace Localize.Text

/-- What a selector asks of the character before it. -/
inductive Selector where
  | emoji
  | text
  | wideQuote
  deriving DecidableEq, Repr

/-- What the characters behind another one begin, seen from their front. A joiner may have gone
before it already. -/
inductive Sequel where
  | nothing
  | lineFeed
  | emoji
  | tone
  | flagLetter
  | flagLetters
  | joinedEmoji
  | joinedKeycap
  | joinedFlagLetter
  | joinedFlag
  | joinedFlagAndLetter
  | tagLetters (n : Nat)
  | tagDigits (n : Nat)
  | alef
  | lamed (joined : Bool)
  | buginese (joined : Bool)
  | bugineseVowel
  | tifinagh (joined : Bool)
  | tifinaghJoiner
  | lisuTone
  | orkhonI (joined : Bool)
  | khmerLetter
  | kiratE
  | kiratAi
  deriving DecidableEq, Repr

/-- What stands behind a character, as far as it matters for its width. -/
structure Behind where
  sequel : Sequel := .nothing
  selector : Option Selector := none
  deriving DecidableEq, Repr

/-- The characters whose Unicode property `Joining_Group` is `Alef`. -/
def alefSpans : List Span :=
  [
    (0x622, 0x623), (0x625, 0x625), (0x627, 0x627), (0x671, 0x673), (0x675, 0x675), (0x773, 0x774),
    (0x870, 0x882)]

/-- The characters whose Unicode property `Joining_Group` is `Lam`. -/
def lamSpans : List Span :=
  [(0x644, 0x644), (0x6B5, 0x6B8), (0x76A, 0x76A), (0x8A6, 0x8A6), (0x8C7, 0x8C7)]

/-- The Khmer letters with a form below the line, which the sign before them turns them into. -/
def khmerSpans : List Span :=
  [
    (0x1780, 0x1782), (0x1784, 0x1787), (0x1789, 0x178C), (0x178E, 0x1793), (0x1795, 0x1798),
    (0x179B, 0x179D), (0x17A0, 0x17A0), (0x17A2, 0x17A2), (0x17A7, 0x17A7), (0x17AB, 0x17AC),
    (0x17AF, 0x17AF)]

def isTifinaghConsonant (n : Nat) : Bool := (0x2D31 ≤ n && n ≤ 0x2D65) || n == 0x2D6F

/-- A character that is shown as an emoji by itself. Flag letters and skin tones are not. -/
def isPlainEmoji (c : Char) : Bool := isEmoji c && !isFlagLetter c && !isTone c

/-- The columns of a character by itself. -/
def columnsAlone (c : Char) : Int :=
  let n := c.toNat
  if n = 0x17A4 then 2
  else if n = 0x17D8 then 3
  else if isFlagLetter c then 1
  else if isColumnless c then 0
  else if isWide c then 2
  else 1

def sequelOf (c : Char) : Sequel :=
  let n := c.toNat
  if n = 0x0A then .lineFeed
  else if isTone c then .tone
  else if isFlagLetter c then .flagLetter
  else if isEmoji c then .emoji
  else if inSpans alefSpans c then .alef
  else if n = 0x5DC then .lamed false
  else if n = 0x1A10 then .buginese false
  else if isTifinaghConsonant n then .tifinagh false
  else if 0xA4FC ≤ n && n ≤ 0xA4FD then .lisuTone
  else if n = 0x10C03 then .orkhonI false
  else if inSpans khmerSpans c then .khmerLetter
  else if n = 0x16D67 then .kiratE
  else if n = 0x16D68 then .kiratAi
  else .nothing

def selector? (n : Nat) : Option Selector :=
  if n = 0xFE0F then some .emoji
  else if n = 0xFE0E then some .text
  else if n = 0xFE01 then some .wideQuote
  else none

def joiner : Nat := 0x200D

namespace Sequel

def isJoinedEmoji : Sequel → Bool
  | .joinedEmoji | .joinedKeycap => true
  | _ => false

def isLigature : Sequel → Bool
  | .alef | .lamed _ | .buginese _ | .bugineseVowel | .tifinagh _ | .tifinaghJoiner | .lisuTone
  | .orkhonI _ | .khmerLetter => true
  | _ => false

/-- What is left of a sequel in front of which a selector stands. -/
def select (s : Sequel) (selector : Selector) : Sequel :=
  if s.isLigature || (selector = .emoji && s.isJoinedEmoji) then s else .nothing

/-- Letters other than Arabic ones join across a joiner. -/
def join? : Sequel → Option Sequel
  | .lamed _ => some (.lamed true)
  | .buginese _ => some (.buginese true)
  | .tifinagh _ => some (.tifinagh true)
  | .orkhonI _ => some (.orkhonI true)
  | .bugineseVowel => some .bugineseVowel
  | .tifinaghJoiner => some .tifinaghJoiner
  | .lisuTone => some .lisuTone
  | .khmerLetter => some .khmerLetter
  | _ => none

/-- Marks that are ignored unless they are supported may stand inside a ligature. -/
def isInside (n : Nat) : Bool :=
  n == 0x34F || (0x17B4 ≤ n && n ≤ 0x17B5) || (0x180B ≤ n && n ≤ 0x180D) || n == 0x180F ||
    (0xFE00 ≤ n && n ≤ 0xFE0F) || (0xE0100 ≤ n && n ≤ 0xE01EF)

def isTagLetter (n : Nat) : Bool := 0xE0061 ≤ n && n ≤ 0xE007A

def isTagDigit (n : Nat) : Bool := 0xE0030 ≤ n && n ≤ 0xE0039

def blackFlag : Nat := 0x1F3F4

/-- The columns that `c` adds to one emoji with its sequel, and what the whole is for the characters
before it. A pair of flag letters is one flag, counted from the front, so each further pair of a
joined row takes back or adds columns. -/
def emojiColumns? (c : Char) (s : Sequel) : Option (Int × Sequel) :=
  let n := c.toNat
  match s with
  | .emoji => if n = joiner then some (0, .joinedEmoji) else none
  | .tone =>
    if isToneBase c then some (0, .emoji) else if n = joiner then some (0, .joinedEmoji) else none
  | .joinedEmoji =>
    if n = 0x20E3 then some (0, .joinedKeycap)
    else if isFlagLetter c then some (1, .joinedFlagLetter)
    else if isTone c then some (0, .tone)
    else if n = 0xE007F then some (0, .tagLetters 0)
    else if isPlainEmoji c then some (0, .emoji)
    else none
  | .flagLetter => if isFlagLetter c then some (1, .flagLetters) else none
  | .flagLetters =>
    if isFlagLetter c then some (1, .flagLetters)
    else if n = joiner then some (0, .joinedEmoji)
    else none
  | .joinedFlagLetter => if isFlagLetter c then some (-1, .joinedFlag) else none
  | .joinedFlag =>
    if isFlagLetter c then some (3, .joinedFlagAndLetter)
    else if n = joiner then some (0, .joinedEmoji)
    else none
  | .joinedFlagAndLetter =>
    if isFlagLetter c then some (-1, .joinedFlag)
    else if n = joiner then some (0, .joinedEmoji)
    else none
  | .tagLetters k =>
    if isTagLetter n && k < 6 then some (0, .tagLetters (k + 1))
    else if isTagDigit n && k < 5 then some (0, .tagDigits 1)
    else if n = blackFlag && 3 ≤ k then some (0, .emoji)
    else none
  | .tagDigits k =>
    if isTagDigit n && k < 3 then some (0, .tagDigits (k + 1))
    else if n = blackFlag && k = 3 then some (0, .emoji)
    else none
  | _ => none

def ligatureColumns? (c : Char) (s : Sequel) : Option (Int × Sequel) :=
  let n := c.toNat
  match s with
  | .alef =>
    if inSpans lamSpans c then some (0, .nothing)
    else if isTransparent c then some (0, .alef)
    else none
  | .lamed true => if n = 0x5D0 then some (0, .nothing) else none
  | .buginese true => if n = 0x1A17 then some (0, .bugineseVowel) else none
  | .bugineseVowel => if n = 0x1A15 then some (0, .nothing) else none
  | .tifinagh joined =>
    if n = 0x2D7F then some (1, .tifinaghJoiner)
    else if joined && isTifinaghConsonant n then some (0, .nothing)
    else none
  | .tifinaghJoiner => if isTifinaghConsonant n then some (-1, .nothing) else none
  | .lisuTone => if 0xA4F8 ≤ n && n ≤ 0xA4FB then some (0, .nothing) else none
  | .orkhonI true => if n = 0x10C32 then some (0, .nothing) else none
  | .khmerLetter => if n = 0x17D2 then some (-1, .nothing) else none
  | .kiratE =>
    if n = 0x16D63 || n = 0x16D69 then some (0, .nothing)
    else if n = 0x16D67 then some (0, .kiratAi)
    else if n = 0x16D68 then some (1, .kiratE)
    else none
  | .kiratAi => if n = 0x16D63 then some (0, .nothing) else none
  | _ => none

/-- The columns of a character in front of a sequel that no selector parts from it. -/
def columns (s : Sequel) (c : Char) : Int × Sequel :=
  let n := c.toNat
  let inside :=
    if n = joiner then s.join?.map (0, ·)
    else if s.isLigature && s != .alef && isInside n then some (0, s)
    else none
  (inside <|> s.ligatureColumns? c <|> s.emojiColumns? c).getD (columnsAlone c, sequelOf c)

end Sequel

namespace Behind

/-- The columns of a character before which no emoji selector stands any more. Up to the no-break
space it takes a column whatever it is, except between a line feed and what belongs to it. -/
def plainColumns (s : Sequel) (selector : Option Selector) (c : Char) : Int × Behind :=
  let n := c.toNat
  if n ≤ 0xA0 then
    if c = '\n' then (1, { sequel := .lineFeed })
    else if c = '\r' && s = .lineFeed && selector = none then (0, {})
    else (1, {})
  else match selector? n with
    | some selector => (0, ⟨s.select selector, some selector⟩)
    | none =>
      let isQuote := (0x2018 ≤ n && n ≤ 0x2019) || (0x201C ≤ n && n ≤ 0x201D)
      if selector = some .text && isTextSelectable c then (1, {})
      else if selector = some .wideQuote && isQuote then (2, {})
      else
        let (columns, sequel) := s.columns c
        (columns, { sequel })

/-- The columns of a character, and what it begins for the characters before it. -/
def columns (b : Behind) (c : Char) : Int × Behind :=
  if b.selector = some .emoji then
    if isSelectable c then (if b.sequel.isJoinedEmoji then 0 else 2, { sequel := .emoji })
    else plainColumns (if b.sequel.isLigature then b.sequel else .nothing) none c
  else plainColumns b.sequel b.selector c

end Behind

def countColumns (c : Char) (counted : Int × Behind) : Int × Behind :=
  let (sum, behind) := counted
  let (columns, here) := behind.columns c
  (sum + columns, here)

def width (t : Text) : Nat := (t.foldr countColumns (0, {})).1.toNat

end Localize.Text
