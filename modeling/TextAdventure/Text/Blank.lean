/-!
# Blank characters and words

A blank is a character with the Unicode property White_Space.  Trimming drops
blanks at both ends, and the words of a text are its maximal blank-free runs.
-/

namespace TextAdventure.Text

/-- The characters with the Unicode property White_Space. -/
def isBlank (c : Char) : Bool :=
  let n := c.toNat
  (0x9 ≤ n && n ≤ 0xD) || n == 0x20 || n == 0x85 || n == 0xA0 || n == 0x1680 ||
    (0x2000 ≤ n && n ≤ 0x200A) || n == 0x2028 || n == 0x2029 || n == 0x202F ||
    n == 0x205F || n == 0x3000

def trimChars (cs : List Char) : List Char :=
  ((cs.dropWhile isBlank).reverse.dropWhile isBlank).reverse

/-- The text without the blanks at its two ends. -/
def trim (s : String) : String :=
  String.ofList (trimChars s.toList)

/-- Put a run in front of the words after it, unless the run is empty. -/
def consRun (run : List Char) (words : List (List Char)) : List (List Char) :=
  if run.isEmpty then words else run :: words

/-- The run of non-blank characters at the start, and the words after it. -/
def leadingRun : List Char → List Char × List (List Char)
  | [] => ([], [])
  | c :: rest =>
      let (run, words) := leadingRun rest
      if isBlank c then ([], consRun run words) else (c :: run, words)

def wordChars (cs : List Char) : List (List Char) :=
  consRun (leadingRun cs).1 (leadingRun cs).2

/-- The maximal blank-free runs of a text, in order. -/
def words (s : String) : List String :=
  (wordChars s.toList).map String.ofList

/-- The texts joined by single spaces. -/
def unwords (texts : List String) : String :=
  String.intercalate " " texts

/-- The texts joined by line ends. -/
def unlines (texts : List String) : String :=
  String.intercalate "\n" texts

/-- The texts joined by a comma and a space. -/
def enumerate (texts : List String) : String :=
  String.intercalate ", " texts

@[simp]
theorem wordChars_nil : wordChars [] = [] := rfl

theorem leadingRun_blank {c : Char} (h : isBlank c = true) (rest : List Char) :
    leadingRun (c :: rest) = ([], wordChars rest) := by
  simp [leadingRun, wordChars, h]

/-- A blank in front of a text changes none of its words. -/
theorem wordChars_blank_cons {c : Char} (h : isBlank c = true) (rest : List Char) :
    wordChars (c :: rest) = wordChars rest := by
  simp [wordChars, leadingRun_blank h, consRun]

end TextAdventure.Text
