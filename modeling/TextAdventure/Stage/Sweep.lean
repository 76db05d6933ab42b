import TextAdventure.Stage.Dialog
import TextAdventure.World.Judgement

/-!
# Sweeps

A sweep goes through the events that are registered when it starts.  An event whose
conditions all hold when its turn comes fires, and its effects are felt by the events
after it.
-/

namespace TextAdventure

/-- Which events a sweep judged, and which of them fired, in order. -/
structure Report where
  evaluated : List Key
  fired : List Key
  deriving DecidableEq, Repr

namespace Report

def empty : Report := ⟨[], []⟩

def addEvaluated (report : Report) (event : Key) : Report :=
  { report with evaluated := report.evaluated ++ [event] }

def addFired (report : Report) (event : Key) : Report :=
  { report with fired := report.fired ++ [event] }

end Report

namespace Activity

/-- Judge one event, and let it fire if all its conditions hold.  An event that is no
longer registered is passed over. -/
def runEvent (operation : Option Operation) (report : Report) (key : Key) : Activity Report := do
  let session ← session
  match session.world.registry.event? key with
  | none => return report
  | some event =>
      if event.conditions.all (session.world.meets operation) then
        applyAll event.effects
        return (report.addEvaluated key).addFired key
      else return report.addEvaluated key

def runEvents (operation : Option Operation) (report : Report) : List Key → Activity Report
  | [] => return report
  | key :: rest => do
      let report ← runEvent operation report key
      runEvents operation report rest

def sweepAll (operation : Option Operation) : Activity Report := do
  let session ← session
  runEvents operation Report.empty (session.world.registry.events.map fun pair => pair.1.key)

/-- Sweep once; during a sweep there is no other. -/
def sweep (operation : Option Operation) : Activity Report := do
  let session ← session
  if session.phase = .conditionSweep then return Report.empty
  else do
    editSession fun session => { session with phase := .conditionSweep }
    endingIdle (sweepAll operation)

theorem forward_runEvent (operation : Option Operation) (report : Report) (key : Key) :
    Forward (runEvent operation report key) := by
  refine forward_bind forward_session fun session => ?_
  split
  · exact forward_pure _
  · split
    · exact forward_bind (forward_applyAll _) fun _ => forward_pure _
    · exact forward_pure _

theorem forward_runEvents (operation : Option Operation) (report : Report) (keys : List Key) :
    Forward (runEvents operation report keys) := by
  induction keys generalizing report with
  | nil => exact forward_pure _
  | cons key rest ih => exact forward_bind (forward_runEvent _ _ _) fun report => ih report

theorem forward_sweep (operation : Option Operation) : Forward (sweep operation) := by
  refine forward_bind forward_session fun session => ?_
  split
  · exact forward_pure _
  · refine forward_bind (forward_editSession _) fun _ => forward_endingIdle ?_
    exact forward_bind forward_session fun _ => forward_runEvents _ _ _

end Activity

end TextAdventure
