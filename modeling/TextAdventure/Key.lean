import TextAdventure.Text.Lower

/-!
# Keys

Things and commands are known by their keys: names trimmed and lower-cased.  A
name is typeable when a player can type it back word by word.
-/

namespace TextAdventure

/-- A name as it is looked up. -/
structure Key where
  text : String
  deriving DecidableEq, Repr, Inhabited

namespace Key

/-- The key of a name as it is written. -/
def ofName (name : String) : Key :=
  ⟨Text.normalize name⟩

/-- Whether a written name denotes this key. -/
def matchesName (key : Key) (name : String) : Bool :=
  key.text == Text.normalize name

/-- Keys are ordered by the code points of their texts. -/
def compare (left right : Key) : Ordering :=
  if left.text < right.text then .lt
  else if left.text = right.text then .eq
  else .gt

theorem matchesName_iff (key : Key) (name : String) :
    key.matchesName name = true ↔ key = ofName name := by
  cases key
  simp [matchesName, ofName]

end Key

namespace Text

def maxNameLength : Nat := 20

def maxHotkeyLength : Nat := 3

/-- The marks that end or divide a sentence. -/
def isPunctuation (c : Char) : Bool :=
  c == '.' || c == ',' || c == '!' || c == '?' || c == ';' || c == ':'

/-- The pieces between single spaces; two spaces in a row leave an empty piece. -/
def spacedPieces : List Char → List (List Char)
  | [] => [[]]
  | c :: rest =>
      match spacedPieces rest with
      | [] => [[c]]
      | piece :: later =>
          if c = ' ' then [] :: piece :: later else (c :: piece) :: later

/-- A word that survives being typed: no blank, and no mark among other characters. -/
def isTypeableWord (word : List Char) : Bool :=
  !word.any isBlank && (word.all isPunctuation || !word.any isPunctuation)

def isTypeableChars (cs : List Char) : Bool :=
  !cs.contains '"' &&
    !(spacedPieces cs).any List.isEmpty &&
    (spacedPieces cs).all isTypeableWord

/-- Whether a player can type the phrase back: words parted by single spaces, without
quotes, each made of marks only or free of them. -/
def isTypeable (phrase : String) : Bool :=
  isTypeableChars (trimChars phrase.toList)

end Text

end TextAdventure
