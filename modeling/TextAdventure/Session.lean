import TextAdventure.Action.Carry
import TextAdventure.Action.Help
import TextAdventure.Action.Talk
import TextAdventure.Action.Travel
import TextAdventure.Level
import TextAdventure.Text.Quoted
import TextAdventure.World.Change

/-!
# Sessions

A session is a world in play: what has been said and not shown yet, how far the turn is,
and which level was started last.
-/

namespace TextAdventure

/-- What a session is doing. -/
inductive Phase where
  | idle
  | commandRunning
  | conditionSweep
  deriving DecidableEq, Repr

namespace Phase

def label : Phase → String
  | idle => "Idle"
  | commandRunning => "CommandRunning"
  | conditionSweep => "ConditionSweep"

end Phase

structure Session where
  world : World
  /-- The paragraphs said since the last display. -/
  output : List String
  /-- Whether the sweep of this turn is left out. -/
  skipsSweep : Bool
  isFinished : Bool
  phase : Phase
  level : Option Level

namespace Session

def fresh : Session where
  world := World.empty
  output := []
  skipsSweep := false
  isFinished := false
  phase := .idle
  level := none

def hasOutput (session : Session) : Bool :=
  !session.output.isEmpty

def say (session : Session) (text : String) : Session :=
  { session with output := session.output ++ [text] }

/-- Take over the world of a reply and say what it says. -/
def accept (session : Session) (reply : Reply) : Session :=
  { session with world := reply.world, output := session.output ++ reply.said }

/-- All that was said, and the session with nothing left to show. -/
def takeOutput (session : Session) : String × Session :=
  (Text.unlines session.output, { session with output := [] })

/-- Whether the sweep is to be left out, and the session in which it no longer is. -/
def takeSkip (session : Session) : Bool × Session :=
  (session.skipsSweep, { session with skipsSweep := false })

/-- Go on from a saved world, unless it cannot be played. -/
def restore (session : Session) (world : World) : Except Fault Session := do
  world.check
  return { session with world := world, isFinished := false }

/-- Do what an effect does without asking anything; dialogs are not held here. -/
def apply (session : Session) : Effect → Session
  | .say text => session.say text
  | .endGame text => { session.say text with isFinished := true }
  | effect => { session with world := effect.changeWorld session.world }

/-- An empty session in which a level has been built as far as it went.  A draft has a world and
what was said, so the flags are those of the empty session. -/
def afterDraft (session : Session) (draft : Draft) : Session :=
  { session with
    world := draft.world
    output := session.output ++ draft.said
    skipsSweep := false
    isFinished := false
    phase := .idle }

/-! ## Summary -/

def keySummary (key : Key) : String :=
  "NameKey(" ++ key.text ++ ")"

def flagSummary (flag : Bool) : String :=
  if flag then "true" else "false"

def levelSummary : Option Level → String
  | none => "None"
  | some level => "Some(" ++ Text.quoted level.name ++ ")"

/-- The state of the session in one line. -/
def summary (session : Session) : String :=
  "GameSession \x7b entities: " ++ toString session.world.registry.size ++
    ", player: " ++ keySummary session.world.player ++
    ", active: [" ++ Text.enumerate (session.world.active.map keySummary) ++
    "], turns: " ++ toString session.world.turns.toNat ++
    ", suppress_next_sweep: " ++ flagSummary session.skipsSweep ++
    ", finished: " ++ flagSummary session.isFinished ++
    ", state: " ++ session.phase.label ++
    ", level: " ++ levelSummary session.level ++ ", .. \x7d"

end Session

end TextAdventure
