import TextAdventure.Terminal

/-!
# Relays

A line stream has two sides that run on their own.  The reading side reads a line, sends it
through a channel with room for one, and goes away when the input ends or fails or when the game
has hung up.  The game shows texts and waits for lines.  A relay is what there is of both at one
moment, and a move is a step of one of them; a run is any interleaving of moves.
-/

namespace TextAdventure

/-- The reading side: about to read, with a line to send, or gone.  A read gives a line or fails. -/
inductive Reader where
  | reading (input : List (Option String))
  | sending (line : String) (input : List (Option String))
  | gone
  deriving DecidableEq, Repr

namespace Reader

/-- The lines before the first read that fails. -/
def linesBeforeFault : List (Option String) → List String
  | some line :: input => line :: linesBeforeFault input
  | _ => []

/-- The lines that are still to be sent. -/
def unsent : Reader → List String
  | reading input => linesBeforeFault input
  | sending line input => line :: linesBeforeFault input
  | gone => []

end Reader

/-- The game reads a line, or the choice of one among so many options. -/
inductive Ask where
  | line
  | choice (count : Nat)
  deriving DecidableEq, Repr

structure Relay where
  reader : Reader
  channel : List String
  /-- Whether the game still has its end of the channel. -/
  isHeld : Bool
  /-- The read that the game waits in. -/
  waiting : Option Ask
  written : List String
  query : Option String
  isClosed : Bool
  deriving DecidableEq, Repr

namespace Relay

/-- What the game asks of its terminal. -/
inductive Call where
  | display (text : String) (query : Option String)
  | clear
  | read (ask : Ask)
  deriving DecidableEq, Repr

/-- What comes of a call.  A read hears a line or nothing; a line that names no option is heard all
the same, though it gives no choice. -/
inductive Event where
  | displayed (text : String) (query : Option String)
  | cleared
  | answered (ask : Ask) (heard : Option String)
  deriving DecidableEq, Repr

/-- What the game gets from a read. -/
inductive Answer where
  | line (heard : Option String)
  | choice (index : Option Nat)
  deriving DecidableEq, Repr

inductive Move where
  | read
  | send
  | call (call : Call)
  | receive
  | hangUp
  deriving DecidableEq, Repr

namespace Event

/-- The call that an event ends. -/
def call : Event → Call
  | displayed text query => .display text query
  | cleared => .clear
  | answered ask _ => .read ask

def heard? : Event → Option (Option String)
  | answered _ heard => some heard
  | _ => none

def answer? : Event → Option Answer
  | answered .line heard => some (.line heard)
  | answered (.choice count) heard =>
      some (.choice (heard.bind fun line => parseChoice line count))
  | _ => none

end Event

def capacity : Nat := 1

def start (input : List (Option String)) : Relay where
  reader := .reading input
  channel := []
  isHeld := true
  waiting := none
  written := []
  query := none
  isClosed := false

/-! ## Moves of the reading side -/

/-- The reading side gets its next line, or goes away without one. -/
def read (relay : Relay) : Option Relay :=
  match relay.reader with
  | .reading (some line :: input) => some { relay with reader := .sending line input }
  | .reading _ => some { relay with reader := .gone }
  | _ => none

/-- The reading side sends its line when there is room for it, and goes away when there is nobody
to receive it. -/
def send (relay : Relay) : Option Relay :=
  match relay.reader with
  | .sending line input =>
      if relay.isHeld then
        if relay.channel.length < capacity then
          some { relay with reader := .reading input, channel := relay.channel ++ [line] }
        else none
      else some { relay with reader := .gone }
  | _ => none

/-! ## Moves of the game -/

/-- Whether the game is free to do something: it has not hung up and waits for nothing. -/
def isReady (relay : Relay) : Bool :=
  relay.isHeld && relay.waiting.isNone

def write (relay : Relay) (text : String) : Relay :=
  { relay with written := relay.written ++ [text] }

/-- Write the query in front of a read and wait for its line. -/
def await (relay : Relay) (ask : Ask) : Relay :=
  { relay.write (relay.query.getD LineStream.defaultQuery) with
    query := none
    waiting := some ask }

/-- Make a call.  A read on a closed relay ends at once. -/
def make (relay : Relay) : Call → List Event × Relay
  | .display text query =>
      let waiting := { relay with query := query }
      ([.displayed text query], if text.isEmpty then waiting else waiting.write (text ++ "\n"))
  | .clear => ([.cleared], relay.write "\x1b[2J\x1b[H")
  | .read ask =>
      if relay.isClosed then ([.answered ask none], relay) else ([], relay.await ask)

/-- End a read with the line from the channel; without one it ends when the reading side is gone,
and closes the relay. -/
def receive (relay : Relay) : Option (List Event × Relay) :=
  match relay.waiting, relay.channel with
  | none, _ => none
  | some ask, line :: rest =>
      some ([.answered ask (some (LineStream.withoutReturns line))],
        { relay with channel := rest, waiting := none })
  | some ask, [] =>
      if relay.reader = .gone then
        some ([.answered ask none], { relay with waiting := none, isClosed := true })
      else none

/-! ## Runs -/

/-- What a move does, if it is possible now, with the event that it makes. -/
def step? (relay : Relay) : Move → Option (List Event × Relay)
  | .read => relay.read.map fun after => ([], after)
  | .send => relay.send.map fun after => ([], after)
  | .call call => if relay.isReady then some (relay.make call) else none
  | .receive => relay.receive
  | .hangUp =>
      if relay.isReady then some ([], { relay with isHeld := false, channel := [] }) else none

/-- Make moves one after another, if each is possible in its turn, and collect the events. -/
def run? (relay : Relay) : List Move → Option (List Event × Relay)
  | [] => some ([], relay)
  | move :: moves =>
      match relay.step? move with
      | none => none
      | some (events, after) =>
          match after.run? moves with
          | none => none
          | some (later, last) => some (events ++ later, last)

end Relay

end TextAdventure
