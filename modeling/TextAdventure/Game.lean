import TextAdventure.Stage.Turn

/-!
# Games

A game starts a level and plays one line after another until it is finished or the
input ends.  Every line that is played has been read, so a game comes to its end.
-/

namespace TextAdventure

structure Game where
  level : Level
  showsBanner : Bool

namespace World

/-- Sorted, each once. -/
def distinctWords (words : List String) : List String :=
  (Attributes.ofList (words.map fun word => (word, ()))).entries.map Prod.fst

/-- The names and aliases of the active commands. -/
def completions (world : World) : List String :=
  distinctWords (world.activeCommands.flatMap fun pair => pair.1.key.text :: pair.2.aliases)

end World

namespace Game

def banner (game : Game) : String :=
  game.level.name ++ "\nA Wayfarer adventure. Type 'help' for a list of commands.\n"

open Activity

def showBanner (game : Game) : Activity Unit := do
  editTerminal Terminal.clear
  display game.banner

/-- Start the level and describe where the player is. -/
def start (game : Game) : Activity Unit := do
  if game.showsBanner then game.showBanner
  discard (Activity.start game.level)
  answer World.describeLocation
  flush

/-- Play a line that has been read, and say whether the game goes on. -/
def playLine (line : String) : Activity Bool := do
  let outcome ← turn [] line
  let session ← session
  return outcome != .ignored && !session.isFinished

/-- Offer the words of the active commands, read a line and play it. -/
def readAndPlay : Activity Bool := do
  let session ← session
  editTerminal (Terminal.offer session.world.completions)
  match ← readLine with
  | none => return false
  | some line => playLine line

/-- One step of the game, and whether there is to be another. -/
def step : Activity Bool := do
  let session ← session
  if session.isFinished then return false else readAndPlay

theorem forward_playLine (line : String) : Forward (playLine line) :=
  forward_bind (forward_turn (fun _ h => by cases h) line) fun _ =>
    forward_bind forward_session fun _ => forward_pure _

theorem unread_readAndPlay {stage after : Stage}
    (h : readAndPlay.perform stage = (.ok true, after)) : after.unread < stage.unread := by
  simp only [readAndPlay, perform_bind, perform_session, perform_editTerminal] at h
  split at h
  · cases h
  next line rest hread =>
    cases line with
    | none =>
        rw [perform_pure] at h
        cases h
    | some line =>
        have hless := unread_readLine hread
        have hle := forward_playLine line rest
        rw [h] at hle
        simp only [Stage.unread, Terminal.unread_offer] at hless hle ⊢
        omega

/-- After a step that is followed by another there is less to read. -/
theorem unread_step {stage after : Stage} (h : step.perform stage = (.ok true, after)) :
    after.unread < stage.unread := by
  simp only [step, perform_bind, perform_session] at h
  split at h
  · rw [perform_pure] at h
    cases h
  · exact unread_readAndPlay h

/-- Play on to the end. -/
def playOn (stage : Stage) : Except Fault Unit × Stage :=
  match hstep : step.perform stage with
  | (.error fault, after) => (.error fault, after)
  | (.ok false, after) => (.ok (), after)
  | (.ok true, after) =>
      have : after.unread < stage.unread := unread_step hstep
      playOn after
termination_by stage.unread

/-- Play a whole game. -/
def play (game : Game) : Activity Unit := do
  game.start
  ofStep playOn

end Game

end TextAdventure
