import TextAdventure.Terminal.Handoff
import TextAdventure.Terminal.Script

/-!
# Line streams

A terminal over a stream of bytes that is read line by line and a stream that is
written.  A query waits until the next line is read and is written in front of it.
-/

namespace TextAdventure

structure LineStream where
  source : Handoff
  written : List String
  query : Option String
  /-- How many pieces had been written when the input was found to have ended. -/
  endedAt : Option Nat
  deriving DecidableEq, Repr

namespace LineStream

def defaultQuery : String := "> "

/-- The bytes up to each line feed, and what follows the last one if that is not empty. -/
def splitLines : List UInt8 → List (List UInt8)
  | [] => []
  | byte :: rest =>
      if byte = 10 then [] :: splitLines rest
      else
        match splitLines rest with
        | [] => [[byte]]
        | line :: later => (byte :: line) :: later

def decodeLine? (bytes : List UInt8) : Option String :=
  String.fromUTF8? ⟨bytes.toArray⟩

/-- The lines up to the first that is no text. -/
def readableLines : List (List UInt8) → List String
  | [] => []
  | bytes :: rest =>
      match decodeLine? bytes with
      | none => []
      | some line => line :: readableLines rest

def linesOf (bytes : List UInt8) : List String :=
  readableLines (splitLines bytes)

def ofLines (lines : List String) : LineStream :=
  ⟨Handoff.ofLines lines, [], none, none⟩

def ofBytes (bytes : List UInt8) : LineStream :=
  ofLines (linesOf bytes)

def isClosed (stream : LineStream) : Bool :=
  stream.endedAt.isSome

def write (stream : LineStream) (text : String) : LineStream :=
  { stream with written := stream.written ++ [text] }

/-- The line without the carriage returns at its end. -/
def withoutReturns (line : String) : String :=
  String.ofList ((line.toList.reverse.dropWhile fun c => c = '\r').reverse)

/-- Write the query and wait for a line, unless the input has ended before. -/
def readLine (stream : LineStream) : Option String × LineStream :=
  match stream.endedAt with
  | some _ => (none, stream)
  | none =>
      let asked := { stream.write (stream.query.getD defaultQuery) with query := none }
      match asked.source.receive with
      | (some line, rest) => (some (withoutReturns line), { asked with source := rest })
      | (none, rest) =>
          (none, { asked with source := rest, endedAt := some asked.written.length })

def display (stream : LineStream) (text : String) (query : Option String) : LineStream :=
  let waiting := { stream with query := query }
  if text.isEmpty then waiting else waiting.write (text ++ "\n")

/-- Clear the screen by its control sequence. -/
def clear (stream : LineStream) : LineStream :=
  stream.write "\x1b[2J\x1b[H"

def output (stream : LineStream) : String :=
  String.join stream.written

/-- How many lines are still to be read. -/
def unread (stream : LineStream) : Nat :=
  stream.source.pending.length

theorem unread_display (stream : LineStream) (text : String) (query : Option String) :
    (stream.display text query).unread = stream.unread := by
  unfold display
  dsimp only
  split <;> rfl

theorem unread_readLine (stream : LineStream) :
    stream.readLine.2.unread < stream.unread ∨
      stream.readLine.1 = none ∧ stream.readLine.2.unread = stream.unread ∧
        stream.readLine.2.isClosed = true := by
  obtain ⟨⟨unread, slot⟩, written, query, endedAt⟩ := stream
  cases endedAt with
  | some n => exact Or.inr ⟨rfl, rfl, rfl⟩
  | none =>
      cases slot with
      | some line =>
          refine Or.inl ?_
          simp [readLine, write, Handoff.receive, Handoff.send, Handoff.take, LineStream.unread,
            Handoff.pending]
      | none =>
          cases unread with
          | nil => exact Or.inr ⟨rfl, rfl, rfl⟩
          | cons line rest =>
              refine Or.inl ?_
              simp [readLine, write, Handoff.receive, Handoff.send, Handoff.take,
                LineStream.unread, Handoff.pending]

end LineStream

end TextAdventure
