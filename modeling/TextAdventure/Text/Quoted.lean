import TextAdventure.Text.GraphemeExtendRanges
import TextAdventure.Text.Lower
import TextAdventure.Text.UnprintableRanges

/-!
# Quoted text

A text between double quotes, in which quotes, backslashes, controls and every
character without a printed form of its own are written as escapes.
-/

namespace TextAdventure.Text

def isUnprintable (c : Char) : Bool :=
  inRanges unprintableRanges c.toNat

def isGraphemeExtend (c : Char) : Bool :=
  inRanges graphemeExtendRanges c.toNat

/-- The halfwidth sound marks extend a grapheme, but they are printed on their own. -/
def isHalfwidthSoundMark (c : Char) : Bool :=
  c = '\uFF9E' || c = '\uFF9F'

/-- The Hangul fillers are letters that show nothing. -/
def isHangulFiller (c : Char) : Bool :=
  c = '\u115F' || c = '\u1160' || c = '\u3164' || c = '\uFFA0'

/-- Whether a character has no printed form of its own. -/
def needsEscape (c : Char) : Bool :=
  (isGraphemeExtend c && !isHalfwidthSoundMark c) || isHangulFiller c || isUnprintable c

/-- A code point in lower-case hexadecimal between braces. -/
def codeEscape (c : Char) : List Char :=
  ['\\', 'u', '\x7b'] ++ Nat.toDigits 16 c.toNat ++ ['\x7d']

def escapeChar (c : Char) : List Char :=
  if c = '\x00' then ['\\', '0']
  else if c = '\t' then ['\\', 't']
  else if c = '\r' then ['\\', 'r']
  else if c = '\n' then ['\\', 'n']
  else if c = '"' then ['\\', '"']
  else if c = '\\' then ['\\', '\\']
  else if needsEscape c then codeEscape c
  else [c]

def quoted (s : String) : String :=
  String.ofList (['"'] ++ s.toList.flatMap escapeChar ++ ['"'])

end TextAdventure.Text
