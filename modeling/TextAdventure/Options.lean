import TextAdventure.Text.Lower

/-!
# Options of the command line

Where to play, where to save, and what to show.  An option that takes a value waits for
the next argument, and is settled when the argument after that is read.
-/

namespace TextAdventure

inductive AdapterKind where
  | console
  | stream
  deriving DecidableEq, Repr

namespace AdapterKind

/-- The adapter of a name; a name that is not known stands for the console. -/
def ofName (name : String) : AdapterKind :=
  if Text.lowerAscii (Text.trim name) = "stream" then stream else console

end AdapterKind

structure Options where
  adapter : AdapterKind
  saveFolder : String
  logFilter : Option String
  showsBanner : Bool
  deriving DecidableEq, Repr

/-- Why a command line does not lead to a game. -/
inductive Refusal where
  | unknownArgument
  | invalidValue
  | argumentConflict
  | tooManyValues
  | helpWanted
  | versionWanted
  deriving DecidableEq, Repr

namespace Options

def defaultAdapter : String := "console"

def defaultSaveFolder : String := "saves"

/-- The options that take a value. -/
inductive Valued where
  | saveFolder
  | logFilter
  deriving DecidableEq, Repr

/-- The options that take none. -/
inductive Flag where
  | noBanner
  | help
  | version
  deriving DecidableEq, Repr

inductive Switch where
  | valued (option : Valued)
  | flag (flag : Flag)
  deriving DecidableEq, Repr

def longSwitches : List (String × Switch) :=
  [ ("save-dir", .valued .saveFolder), ("log-filter", .valued .logFilter),
    ("no-banner", .flag .noBanner), ("help", .flag .help), ("version", .flag .version) ]

def shortSwitch? : Char → Option Switch
  | 's' => some (.valued .saveFolder)
  | 'l' => some (.valued .logFilter)
  | 'h' => some (.flag .help)
  | 'V' => some (.flag .version)
  | _ => none

/-- What has been read of a command line. -/
structure Scan where
  adapter : Option String
  saveFolder : Option String
  logFilter : Option String
  noBanner : Bool
  /-- The option that is not settled yet, with its value if that has been read. -/
  waiting : Option (Valued × Option String)
  /-- Whether all further arguments are plain. -/
  isPlain : Bool
  deriving DecidableEq, Repr

namespace Scan

def start : Scan := ⟨none, none, none, false, none, false⟩

/-- Give an option its value, once. -/
def assign (scan : Scan) (option : Valued) (value : String) : Except Refusal Scan :=
  match option with
  | .saveFolder =>
      if scan.saveFolder.isSome then .error .argumentConflict
      else if value.isEmpty then .error .invalidValue
      else .ok { scan with saveFolder := some value }
  | .logFilter =>
      if scan.logFilter.isSome then .error .argumentConflict
      else .ok { scan with logFilter := some value }

/-- Settle the option that waits. -/
def settle (scan : Scan) : Except Refusal Scan :=
  match scan.waiting with
  | none => .ok scan
  | some (_, none) => .error .invalidValue
  | some (option, some value) => { scan with waiting := none }.assign option value

def raise (scan : Scan) (flag : Flag) : Except Refusal Scan := do
  let scan ← scan.settle
  match flag with
  | .noBanner =>
      if scan.noBanner then throw .argumentConflict else return { scan with noBanner := true }
  | .help => throw .helpWanted
  | .version => throw .versionWanted

/-- Meet an option, perhaps with its value attached. -/
def meet (scan : Scan) (option : Valued) (attached : Option String) : Except Refusal Scan := do
  let scan ← scan.settle
  match attached with
  | none => return { scan with waiting := some (option, none) }
  | some value => scan.assign option value

/-- Read an argument that starts with two dashes, without these. -/
def readLong (scan : Scan) (argument : List Char) : Except Refusal Scan :=
  let name := String.ofList (argument.takeWhile (· ≠ '='))
  let attached :=
    match argument.dropWhile (· ≠ '=') with
    | [] => none
    | _ :: value => some (String.ofList value)
  match (longSwitches.find? fun entry => entry.1 = name).map Prod.snd with
  | none => .error .unknownArgument
  | some (.valued option) => scan.meet option attached
  | some (.flag flag) =>
      match attached with
      | none => scan.raise flag
      | some _ => .error .tooManyValues

/-- The value behind a short option, if anything is behind it. -/
def attachedValue : List Char → Option String
  | [] => none
  | '=' :: value => some (String.ofList value)
  | value => some (String.ofList value)

/-- Read the letters behind a single dash. -/
def readShort (scan : Scan) : List Char → Except Refusal Scan
  | [] => .ok scan
  | letter :: rest =>
      match shortSwitch? letter with
      | none => .error .unknownArgument
      | some (.valued option) => scan.meet option (attachedValue rest)
      | some (.flag flag) =>
          match scan.raise flag with
          | .error refusal => .error refusal
          | .ok after => after.readShort rest

/-- Read an argument that is no option: there is room for one. -/
def readPlain (scan : Scan) (argument : String) : Except Refusal Scan :=
  match scan.adapter with
  | some _ => .error .unknownArgument
  | none => do return { ← scan.settle with adapter := some argument }

/-- Read an argument that may be the value of the option that waits. -/
def readValue (scan : Scan) (argument : String) : Except Refusal Scan :=
  match scan.waiting with
  | some (option, none) => .ok { scan with waiting := some (option, some argument) }
  | _ => scan.readPlain argument

def read (scan : Scan) (argument : String) : Except Refusal Scan :=
  if scan.isPlain then scan.readPlain argument
  else
    match argument.toList with
    | ['-', '-'] => .ok { scan with isPlain := true }
    | '-' :: '-' :: long => scan.readLong long
    | '-' :: letter :: short => scan.readShort (letter :: short)
    | _ => scan.readValue argument

/-- The options at the end; the environment may name a folder for saves if nothing else
does. -/
def finish (scan : Scan) (saveFolderOfEnvironment : Option String) :
    Except Refusal Options := do
  let scan ← scan.settle
  let scan ←
    match scan.saveFolder, saveFolderOfEnvironment with
    | none, some folder => scan.assign .saveFolder folder
    | _, _ => pure scan
  return {
    adapter := AdapterKind.ofName (scan.adapter.getD defaultAdapter)
    saveFolder := scan.saveFolder.getD defaultSaveFolder
    logFilter := scan.logFilter
    showsBanner := !scan.noBanner }

end Scan

/-- Read a command line. -/
def ofArguments (arguments : List String) (saveFolderOfEnvironment : Option String) :
    Except Refusal Options := do
  let scan ← arguments.foldlM Scan.read Scan.start
  scan.finish saveFolderOfEnvironment

end Options

end TextAdventure
