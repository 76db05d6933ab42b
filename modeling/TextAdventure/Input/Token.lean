import TextAdventure.Key

/-!
# Tokens

A typed line is cut into lower-cased words and quotations kept as they are.  Blanks
and double quotes end a word; a quotation that is not closed runs to the end.
-/

namespace TextAdventure

inductive Token where
  | word (text : String)
  | quoted (text : String)
  deriving DecidableEq, Repr

namespace Token

def text : Token → String
  | word text => text
  | quoted text => text

def isWord (token : Token) (text : String) : Bool :=
  token == word text

/-- The word of a run of characters: without its sentence punctuation, unless there
is nothing else in it, and in lower case. -/
def wordChars (run : List Char) : List Char :=
  let bare := run.filter fun c => !Text.isPunctuation c
  Text.lowerChars (if bare.isEmpty then run else bare)

/-- What is in hand while a line is scanned, last character first. -/
inductive Pending where
  | run (reversed : List Char)
  | quotation (reversed : List Char)

def finishRun (reversed : List Char) : List Token :=
  if reversed.isEmpty then [] else [word (String.ofList (wordChars reversed.reverse))]

def finishQuotation (reversed : List Char) : List Token :=
  [quoted (String.ofList reversed.reverse)]

def scan : Pending → List Char → List Token
  | .run reversed, [] => finishRun reversed
  | .quotation reversed, [] => finishQuotation reversed
  | .run reversed, c :: rest =>
      if c = '"' then finishRun reversed ++ scan (.quotation []) rest
      else if Text.isBlank c then finishRun reversed ++ scan (.run []) rest
      else scan (.run (c :: reversed)) rest
  | .quotation reversed, c :: rest =>
      if c = '"' then finishQuotation reversed ++ scan (.run []) rest
      else scan (.quotation (c :: reversed)) rest

def ofLine (line : String) : List Token :=
  scan (.run []) line.toList

def texts (tokens : List Token) : List String :=
  tokens.map text

end Token

end TextAdventure
