import TextAdventure.Game
import TextAdventure.Level.OldMill
import TextAdventure.Options

/-!
# The game on standard input and output

The outer layer: it reads lines and files, lets the game play on what it has read, and
prints and writes what the game has done.  When the game runs out of lines in the middle
of a step, the step is played again with one line more.
-/

namespace TextAdventure.Main

/-- The file that a line speaks of, if it is a command that may save or load. -/
def fileOf (session : Session) (line : String) : Option String :=
  match session.reading line with
  | .parsed operation => (Folder.pathFor operation.slot).toOption
  | _ => none

/-- A stage on which these lines are to be read and this is in the save folder. -/
def prepared (stage : Stage) (lines : List String) (contents : Attributes FolderEntry) : Stage :=
  let terminal :=
    match stage.terminal with
    | .stream stream => { stream with source := Handoff.ofLines lines }
    | .scripted _ => LineStream.ofLines lines
  { stage with terminal := .stream terminal, store := .folder ⟨some contents⟩ }

/-- The pieces written so far. -/
def written (stage : Stage) : List String :=
  match stage.terminal with
  | .stream stream => stream.written
  | .scripted script => script.shown

/-- How many pieces had been written when lines ran out, if they did. -/
def endedAt (stage : Stage) : Option Nat :=
  match stage.terminal with
  | .stream stream => stream.endedAt
  | .scripted _ => none

def contentsOf (stage : Stage) : Attributes FolderEntry :=
  match stage.store with
  | .folder place => place.opened
  | .slots _ => Attributes.empty

/-! ## Files -/

def readEntry (saveFolder file : String) : IO (Option FolderEntry) := do
  try
    let bytes ← IO.FS.readBinFile (saveFolder ++ "/" ++ file)
    return some (.file bytes.toList)
  catch
    | .noFileOrDirectory .. => return none
    | _ => return some .folder

/-- Write a file as a whole, or say that it cannot be written. -/
def writeEntry (saveFolder file : String) (bytes : List UInt8) : IO Bool := do
  let path := saveFolder ++ "/" ++ file
  let draft := saveFolder ++ "/.draft.part"
  try
    IO.FS.createDirAll saveFolder
    IO.FS.writeBinFile draft ⟨bytes.toArray⟩
    IO.FS.rename draft path
    return true
  catch _ => return false

def contentsFor (saveFolder : String) (file : Option String) : IO (Attributes FolderEntry) := do
  match file with
  | none => return Attributes.empty
  | some file =>
      match ← readEntry saveFolder file with
      | none => return Attributes.empty
      | some entry => return Attributes.ofList [(file, entry)]

/-! ## Steps -/

/-- Read a line without its line end; there is none at the end of the input. -/
def nextLine : IO (Option String) := do
  let line ← (← IO.getStdin).getLine
  if line.isEmpty then return none
  else if line.endsWith "\n" then return some (String.ofList line.toList.dropLast)
  else return some line

def printPieces (pieces : List String) : IO Unit := do
  let output ← IO.getStdout
  pieces.forM output.putStr
  output.flush

/-- Play an activity, reading lines as it asks for them. -/
partial def attempt {α : Type} (saveFolder : String) (activity : Activity α) (stage : Stage)
    (printed : Nat) (lines : List String) : IO (Except Fault α × Stage) := do
  let file := lines.head?.bind (fileOf stage.session)
  let before ← contentsFor saveFolder file
  let (result, after) := activity.perform (prepared stage lines before)
  match endedAt after with
  | some count =>
      printPieces (((written after).take count).drop printed)
      match ← nextLine with
      | some line => attempt saveFolder activity stage (max printed count) (lines ++ [line])
      | none =>
          printPieces ((written after).drop (max printed count))
          return (result, after)
  | none =>
      let (result, after) ← keep file before result after
      printPieces ((written after).drop printed)
      return (result, after)
where
  /-- Write the file if it has changed; play again with the file in the way if that fails. -/
  keep (file : Option String) (before : Attributes FolderEntry) (result : Except Fault α)
      (after : Stage) : IO (Except Fault α × Stage) := do
    match file.map fun file => (file, (contentsOf after).get? file) with
    | some (file, some (.file bytes)) =>
        if before.get? file = some (.file bytes) then return (result, after)
        else if ← writeEntry saveFolder file bytes then return (result, after)
        else
          let blocked := Attributes.ofList [(file, FolderEntry.folder)]
          return activity.perform (prepared stage lines blocked)
    | _ => return (result, after)

partial def playOn (saveFolder : String) (stage : Stage) : IO (Except Fault Unit) := do
  let (result, after) ←
    attempt saveFolder Game.step stage (written stage).length []
  match result with
  | .error fault => return .error fault
  | .ok false => return .ok ()
  | .ok true => playOn saveFolder after

def play (options : Options) : IO (Except Fault Unit) := do
  let game : Game := ⟨OldMill.level, options.showsBanner⟩
  let stage : Stage := ⟨Session.fresh, .stream (LineStream.ofLines []), .folder Folder.absent⟩
  let (result, after) ← attempt options.saveFolder game.start stage 0 []
  match result with
  | .error fault => return .error fault
  | .ok () => playOn options.saveFolder after

/-! ## The command line -/

def usage : String :=
  Text.unlines
    [ "A small text adventure",
      "",
      "Usage: wayfarer [OPTIONS] [ADAPTER]",
      "",
      "Arguments:",
      "  [ADAPTER]  console or stream [default: console]",
      "",
      "Options:",
      "  -s, --save-dir <SAVE_DIR>      where saved games are kept [default: saves]",
      "  -l, --log-filter <LOG_FILTER>  what to log",
      "      --no-banner                start without the banner",
      "  -h, --help                     print help",
      "  -V, --version                  print version" ]

def refusalText : Refusal → String
  | .unknownArgument => "error: unexpected argument"
  | .invalidValue => "error: a value is required"
  | .argumentConflict => "error: an argument cannot be used multiple times"
  | .tooManyValues => "error: unexpected value"
  | .helpWanted => usage
  | .versionWanted => "wayfarer 0.1.0"

/-- Print why there is no game; asking for help or the version is no error. -/
def refuse (refusal : Refusal) : IO UInt32 := do
  match refusal with
  | .helpWanted | .versionWanted =>
      IO.println (refusalText refusal)
      return 0
  | _ =>
      IO.eprintln (refusalText refusal)
      return 2

def run (arguments : List String) : IO UInt32 := do
  match Options.ofArguments arguments (← IO.getEnv "WAYFARER_SAVE_DIR") with
  | .error refusal => refuse refusal
  | .ok options =>
      match ← play options with
      | .ok () => return 0
      | .error fault =>
          IO.eprintln ("\x1b[31mError: " ++ fault.message ++ "\x1b[0m")
          return 1

end TextAdventure.Main

def main (arguments : List String) : IO UInt32 :=
  TextAdventure.Main.run arguments
