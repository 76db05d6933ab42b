import TextAdventure.Registry

/-!
# Vocabulary

Every name, hotkey and alias in force is a word of the vocabulary.  Before an
entity is created its words are screened: their length, whether a player can type
them, and whether they are still free.
-/

namespace TextAdventure.Registry

def hasLength (text : String) (longest : Nat) : Bool :=
  1 ≤ text.length && text.length ≤ longest

def hasBlank (text : String) : Bool :=
  text.toList.any Text.isBlank

def isHotkey (registry : Registry) (key : Key) : Bool :=
  registry.commands.any fun pair => key.matchesName pair.2.hotkey

def isAlias (registry : Registry) (key : Key) : Bool :=
  registry.commands.any fun pair => pair.2.aliases.any key.matchesName

/-- Whether a name is free: no name, hotkey or alias in force. -/
def screenFreeName (registry : Registry) (name : String) : Verdict :=
  if registry.contains name then .nameDuplication
  else if registry.isHotkey (Key.ofName name) then .nameDuplicatesHotkey
  else if registry.isAlias (Key.ofName name) then .nameDuplicatesAlias
  else .passed

def screenName (registry : Registry) (name : String) : Verdict :=
  if !hasLength name Text.maxNameLength then .nameLength
  else if !Text.isTypeable name then .untypeableName
  else registry.screenFreeName name

def screenCommandName (registry : Registry) (name : String) : Verdict :=
  if !hasLength name Text.maxNameLength then .nameLength
  else if hasBlank name then .invalidWhitespace
  else if !Text.isTypeable name then .untypeableName
  else registry.screenFreeName name

def screenHotkey (registry : Registry) (hotkey : String) : Verdict :=
  if !hasLength hotkey Text.maxHotkeyLength then .hotkeyLength
  else if hasBlank hotkey then .invalidWhitespace
  else if registry.contains hotkey then .hotkeyDuplicatesName
  else if registry.isHotkey (Key.ofName hotkey) then .hotkeyDuplication
  else if registry.isAlias (Key.ofName hotkey) then .hotkeyDuplicatesAlias
  else .passed

def screenAlias (registry : Registry) (phrase : String) : Verdict :=
  if !hasLength (Text.trim phrase) Text.maxNameLength then .aliasLength
  else if !Text.isTypeable phrase then .untypeableName
  else if registry.contains phrase then .aliasDuplicatesName
  else if registry.isHotkey (Key.ofName phrase) then .aliasDuplicatesHotkey
  else if registry.isAlias (Key.ofName phrase) then .aliasDuplication
  else .passed

/-- Screen the aliases of a new command in order, each also against the command's own
name and hotkey and the aliases before it. -/
def screenAliases (registry : Registry) (own : Key) (hotkey : String) (seen : List Key) :
    List String → Verdict
  | [] => .passed
  | phrase :: rest =>
      let key := Key.ofName phrase
      match registry.screenAlias phrase with
      | .passed =>
          if key = own then .aliasDuplicatesName
          else if key.matchesName hotkey then .aliasDuplicatesHotkey
          else if key ∈ seen then .aliasDuplication
          else registry.screenAliases own hotkey (seen ++ [key]) rest
      | verdict => verdict

/-- Screen all words of a new entity; the first failing check decides. -/
def screenEntity (registry : Registry) (entity : Entity) : Verdict :=
  match entity.kind with
  | .command command =>
      match registry.screenCommandName entity.name with
      | .passed =>
          match registry.screenHotkey command.hotkey with
          | .passed => registry.screenAliases entity.key command.hotkey [] command.aliases
          | verdict => verdict
      | verdict => verdict
  | _ => registry.screenName entity.name

/-- Register an entity whose words pass the screening. -/
def create (registry : Registry) (entity : Entity) : Except Fault Registry :=
  match registry.screenEntity entity with
  | .passed => .ok (registry.insert entity)
  | verdict => .error (Fault.ofCause (.configuration entity.name verdict))

end TextAdventure.Registry
