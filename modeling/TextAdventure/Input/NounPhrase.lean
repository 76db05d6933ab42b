import TextAdventure.Input.Token
import TextAdventure.Text.Numeral

/-!
# Noun phrases

A noun phrase is a list of words that may name a thing, perhaps after an article
and a quantity.
-/

namespace TextAdventure

structure NounPhrase where
  words : List String
  deriving DecidableEq, Repr

namespace NounPhrase

def empty : NounPhrase := ⟨[]⟩

def ofTokens (tokens : List Token) : NounPhrase :=
  ⟨Token.texts tokens⟩

def ofText (text : String) : NounPhrase :=
  ⟨Text.lowerWords text⟩

def isEmpty (phrase : NounPhrase) : Bool :=
  phrase.words.isEmpty

def text (phrase : NounPhrase) : String :=
  Text.unwords phrase.words

def articles : List String := ["the", "a", "an"]

/-- The phrase without a leading article, if more words follow it. -/
def bare (phrase : NounPhrase) : String :=
  match phrase.words with
  | first :: second :: rest =>
      if first ∈ articles then Text.unwords (second :: rest) else phrase.text
  | _ => phrase.text

/-- Split off a number written as the first word. -/
def takeQuantity (phrase : NounPhrase) : Option Int × NounPhrase :=
  match phrase.words with
  | [] => (none, phrase)
  | first :: rest =>
      match Text.readSigned? first with
      | none => (none, phrase)
      | some quantity => (some quantity, ⟨rest⟩)

/-- Whether the phrase names a key, with or without its article. -/
def names (phrase : NounPhrase) (key : Key) : Bool :=
  !phrase.isEmpty && (key.matchesName phrase.text || key.matchesName phrase.bare)

end NounPhrase

end TextAdventure
