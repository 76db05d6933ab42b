import TextAdventure.Text.Blank
import TextAdventure.Text.CaseIgnorableRanges
import TextAdventure.Text.CasedRanges
import TextAdventure.Text.LowercaseRuns

/-!
# Lower-casing

Full Unicode lower-casing.  One letter becomes two characters, and a capital
sigma becomes a final sigma exactly where it ends a word of letters.
-/

namespace TextAdventure.Text

def inRanges (ranges : List (Nat × Nat)) (n : Nat) : Bool :=
  ranges.any fun range => range.1 ≤ n && n ≤ range.2

def isCased (c : Char) : Bool :=
  inRanges casedRanges c.toNat

def isCaseIgnorable (c : Char) : Bool :=
  inRanges caseIgnorableRanges c.toNat

/-- Whether a cased character comes next, after any case-ignorable ones. -/
def meetsCased (cs : List Char) : Bool :=
  match cs.dropWhile isCaseIgnorable with
  | [] => false
  | c :: _ => isCased c

/-- A sigma is final when a letter precedes it and none follows. -/
def isFinalSigma (before after : List Char) : Bool :=
  meetsCased before && !meetsCased after

/-- The lower case of a code point that does not depend on its neighbours. -/
def lowerCode (n : Nat) : Nat :=
  if n < 0x80 then
    if 0x41 ≤ n ∧ n ≤ 0x5A then n + 0x20 else n
  else
    match lowercaseRuns.find? (·.covers n) with
    | none => n
    | some run => run.image n

/-- The lower case of one character; only the dotted capital I has two characters. -/
def lowerChar (c : Char) : List Char :=
  if c = '\u0130' then ['i', '\u0307'] else [Char.ofNat (lowerCode c.toNat)]

/-- Lower the characters that follow those of `before`, which is in reverse order. -/
def lowerAfter (before : List Char) : List Char → List Char
  | [] => []
  | c :: rest =>
      let image :=
        if c = 'Σ' then
          [if isFinalSigma before rest then 'ς' else 'σ']
        else
          lowerChar c
      image ++ lowerAfter (c :: before) rest

def lowerChars (cs : List Char) : List Char :=
  lowerAfter [] cs

def lower (s : String) : String :=
  String.ofList (lowerChars s.toList)

/-- The form in which names are compared: trimmed, then lower-cased. -/
def normalize (s : String) : String :=
  lower (trim s)

/-- Lower only the letters A to Z. -/
def lowerAscii (s : String) : String :=
  String.ofList (s.toList.map Char.toLower)

/-- The lower-cased words of a phrase. -/
def lowerWords (s : String) : List String :=
  (words s).map lower

end TextAdventure.Text
