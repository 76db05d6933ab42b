import TextAdventure.Input.Reading
import TextAdventure.Stage.Command

/-!
# Turns

A turn reads a line, runs its command, and then counts itself and sweeps the events,
unless the command has put the session elsewhere.  What was said is shown at the end.
-/

namespace TextAdventure

/-- What a line came to. -/
inductive Outcome where
  | ignored
  | empty
  | unrecognized (word : String)
  | ran (command : Key) (report : Option Report)
  deriving DecidableEq, Repr

namespace Session

/-- The reading of a line in a session. -/
def reading (session : Session) (line : String) : Reading :=
  Reading.ofLine session.world.registry session.world.active session.world.player line

def countTurn (session : Session) : Session :=
  { session with world := { session.world with turns := session.world.turns + 1 } }

end Session

namespace Activity

/-- End a turn whose command has run: count it and sweep, unless that is left out. -/
def finishTurn (operation : Operation) : Activity (Option Report) := do
  let session ← session
  if session.skipsSweep then do
    editSession fun session => session.takeSkip.2
    return none
  else do
    editSession Session.countTurn
    let report ← sweep (some operation)
    return some report

def runTurn (handlers : Handlers) (operation : Operation) : Activity Outcome := do
  editSession fun session => { session with phase := .commandRunning }
  endingIdle (run handlers operation)
  let report ← finishTurn operation
  flush
  return .ran operation.command report

/-- Play one line.  A finished session ignores it. -/
def turn (handlers : Handlers) (line : String) : Activity Outcome := do
  let session ← session
  if session.isFinished then return .ignored
  else
    match session.reading line with
    | .empty => do
        flush
        return .empty
    | .unrecognized word => do
        say ("I don't understand \"" ++ word ++ "\".")
        flush
        return .unrecognized word
    | .parsed operation => runTurn handlers operation

theorem forward_finishTurn (operation : Operation) : Forward (finishTurn operation) := by
  refine forward_bind forward_session fun session => ?_
  split
  · exact forward_bind (forward_editSession _) fun _ => forward_pure _
  · exact forward_bind (forward_editSession _) fun _ =>
      forward_bind (forward_sweep _) fun _ => forward_pure _

/-- With handlers that only read on, so does every turn. -/
theorem forward_turn {handlers : Handlers}
    (h : ∀ handler ∈ handlers, ∀ operation, Forward (handler.2 operation)) (line : String) :
    Forward (turn handlers line) := by
  refine forward_bind forward_session fun session => ?_
  split
  · exact forward_pure _
  · split
    · exact forward_bind forward_flush fun _ => forward_pure _
    · exact forward_bind (forward_say _) fun _ =>
        forward_bind forward_flush fun _ => forward_pure _
    · exact forward_bind (forward_editSession _) fun _ =>
        forward_bind (forward_endingIdle (forward_run h _)) fun _ =>
          forward_bind (forward_finishTurn _) fun _ =>
            forward_bind forward_flush fun _ => forward_pure _

end Activity

end TextAdventure
