import TextAdventure.Stage.Sweep

/-!
# Starting a level

A level is built in an empty session, which keeps whatever was said before.  It has to
make a registered pawn the player, and its events are swept once before the first turn.
-/

namespace TextAdventure.Activity

/-- The trace of a level that could not be built. -/
def buildTrace (level : Level) : Trace :=
  ⟨some ("level '" ++ level.name ++ "'"), ["building the starting world"]⟩

/-- Build a level, as far as it goes, and make sure that it has a player. -/
def build (level : Level) : Activity Unit := do
  editSession fun session => session.afterDraft level.draft.2
  match level.draft.1 with
  | .error fault => throw (fault.withTrace (buildTrace level))
  | .ok () =>
      match level.draft.2.world.playerPawn? with
      | none => throw (Fault.ofCause (.unknownEntity level.draft.2.world.player.text))
      | some _ => return ()

def start (level : Level) : Activity Report := do
  build level
  editSession fun session => { session with level := some level }
  sweep none

/-- Start the level that was started last. -/
def restart : Activity Report := do
  let session ← session
  match session.level with
  | none => throw (Fault.ofCause (.internal "no level to restart"))
  | some level => start level

theorem forward_build (level : Level) : Forward (build level) := by
  refine forward_bind (forward_editSession _) fun _ => ?_
  split
  · exact forward_throw _
  · split
    · exact forward_throw _
    · exact forward_pure _

theorem forward_start (level : Level) : Forward (start level) :=
  forward_bind (forward_build level) fun _ =>
    forward_bind (forward_editSession _) fun _ => forward_sweep none

theorem forward_restart : Forward restart := by
  refine forward_bind forward_session fun session => ?_
  split
  · exact forward_throw _
  · exact forward_start _

end TextAdventure.Activity
