import TextAdventure.Proofs.Attributes
import TextAdventure.Proofs.Container
import TextAdventure.Proofs.Vocabulary.Words

/-!
# Sound entities

An entity is good when it is known by the key of its name, its container is tidy and its
statuses are above zero.  It is standard when the keys it names are normal and its command,
if it is one, has a built-in behavior.  The edits that a turn makes keep both.
-/

namespace TextAdventure

/-! ## Keys that are named -/

/-- A key as `Key.ofName` makes it: the key of its own text. -/
def Key.IsNormal (key : Key) : Prop :=
  Key.ofName key.text = key

instance (key : Key) : Decidable key.IsNormal :=
  inferInstanceAs (Decidable (Key.ofName key.text = key))

def Predicate.keys : Predicate → List Key
  | always => []
  | statusSet entity _ => [entity]
  | statusAtLeast entity _ _ => [entity]
  | playerAt location => [location]
  | playerHolds item _ => [item]
  | containerHolds holder item _ => [holder, item]
  | entityExists entity => [entity]
  | commandIs command => [command]
  | turnsElapsed _ => []

namespace Effect

def keys : Effect → List Key
  | say _ => []
  | setStatus entity _ _ => [entity]
  | adjustStatus entity _ _ => [entity]
  | clearStatus entity _ => [entity]
  | movePawn pawn location => [pawn, location]
  | giveItem holder item _ => [holder, item]
  | takeItem holder item _ => [holder, item]
  | removeEntity entity => [entity]
  | enableCommand command => [command]
  | disableCommand command => [command]
  | initiateDialog dialog => [dialog]
  | endGame _ => []

def IsNormal (effect : Effect) : Prop :=
  ∀ key ∈ effect.keys, key.IsNormal

end Effect

/-- The behaviors that the game itself has. -/
def Behavior.isBuiltIn : Behavior → Bool
  | custom _ => false
  | _ => true

namespace Kind

/-- The keys that a record names: in its effects, its predicate, or as an exit or a pawn. -/
def namedKeys : Kind → List Key
  | pawn record => record.location :: record.dialog.toList
  | condition record => record.predicate.keys
  | event record => record.effects.flatMap Effect.keys
  | exit record => record.origin :: record.destination :: record.direction.toList
  | dialog record => (record.options.flatMap DialogOption.effects).flatMap Effect.keys
  | _ => []

structure IsStandard (kind : Kind) : Prop where
  normal : ∀ key ∈ kind.namedKeys, key.IsNormal
  builtIn : ∀ command ∈ kind.command?, command.behavior.isBuiltIn = true

instance (kind : Kind) : Decidable kind.IsStandard :=
  decidable_of_decidable_of_iff
    (p := (∀ key ∈ kind.namedKeys, key.IsNormal) ∧
      ∀ command ∈ kind.command?, command.behavior.isBuiltIn = true)
    ⟨fun h => ⟨h.1, h.2⟩, fun h => ⟨h.normal, h.builtIn⟩⟩

theorem IsStandard.event_effects {event : Event} (h : (Kind.event event).IsStandard) :
    ∀ effect ∈ event.effects, effect.IsNormal := by
  intro effect heffect key hkey
  exact h.normal key (List.mem_flatMap.mpr ⟨effect, heffect, hkey⟩)

theorem IsStandard.dialog_effects {dialog : Dialog} (h : (Kind.dialog dialog).IsStandard)
    {option : DialogOption} (hoption : option ∈ dialog.options) :
    ∀ effect ∈ option.effects, effect.IsNormal := by
  intro effect heffect key hkey
  have hmem : effect ∈ dialog.options.flatMap DialogOption.effects :=
    List.mem_flatMap.mpr ⟨option, hoption, heffect⟩
  exact h.normal key (List.mem_flatMap.mpr ⟨effect, hmem, hkey⟩)

/-- Moving a pawn to where a key says. -/
theorem IsStandard.movePawn {kind : Kind} (h : kind.IsStandard) {location : Key}
    (hlocation : location.IsNormal) :
    (kind.mapPawn fun pawn => { pawn with location := location }).IsStandard := by
  cases kind with
  | pawn record =>
      constructor
      · intro key hkey
        rcases List.mem_cons.mp hkey with rfl | hdialog
        · exact hlocation
        · exact h.normal key (List.mem_cons_of_mem _ hdialog)
      · intro command hcommand
        cases hcommand
  | _ => exact h

/-- Taking away an option of a dialog. -/
theorem IsStandard.dropOption {kind : Kind} (h : kind.IsStandard) (index : Nat) :
    (kind.mapDialog fun dialog =>
      { dialog with options := dialog.options.eraseIdx index }).IsStandard := by
  cases kind with
  | dialog record =>
      constructor
      · intro key hkey
        obtain ⟨effect, heffect, hkey⟩ := List.mem_flatMap.mp hkey
        obtain ⟨option, hoption, heffect⟩ := List.mem_flatMap.mp heffect
        exact h.dialog_effects (List.mem_of_mem_eraseIdx hoption) effect heffect key hkey
      · intro command hcommand
        cases hcommand
  | _ => exact h

end Kind

namespace Entity

structure IsGood (entity : Entity) : Prop where
  keyed : entity.IsKeyed
  tidy : ∀ container ∈ entity.container, Container.IsTidy container.contents
  positive : entity.statuses.All (0 < ·)

instance (entity : Entity) : Decidable entity.IsGood :=
  decidable_of_decidable_of_iff
    (p := entity.key = Key.ofName entity.name ∧
      (∀ container ∈ entity.container, Container.IsTidy container.contents) ∧
      entity.statuses.All (0 < ·))
    ⟨fun h => ⟨h.1, h.2.1, h.2.2⟩, fun h => ⟨h.keyed, h.tidy, h.positive⟩⟩

structure IsSound (entity : Entity) : Prop where
  good : entity.IsGood
  standard : entity.kind.IsStandard

/-! ## Edits -/

/-- An edit that keeps entities sound, and leaves a pawn a pawn and a command a command. -/
structure IsGentle (edit : Entity → Entity) : Prop where
  sound : ∀ entity, entity.IsSound → (edit entity).IsSound
  pawn : ∀ entity, (edit entity).kind.pawn?.isSome = entity.kind.pawn?.isSome
  command : ∀ entity, (edit entity).kind.command?.isSome = entity.kind.command?.isSome

theorem IsSound.withStatuses {entity : Entity} (h : entity.IsSound) {statuses : Attributes Int64}
    (hstatuses : statuses.All (0 < ·)) : { entity with statuses := statuses }.IsSound :=
  ⟨⟨h.good.keyed, h.good.tidy, hstatuses⟩, h.standard⟩

theorem IsSound.setStatus {entity : Entity} (h : entity.IsSound) (status : String)
    (value : Int64) : (entity.setStatus status value).IsSound := by
  refine h.withStatuses ?_
  split
  next hvalue => exact h.good.positive.insert status hvalue
  · exact h.good.positive.erase status

theorem isGentle_setStatus (status : String) (value : Int64) :
    IsGentle (·.setStatus status value) where
  sound _ h := h.setStatus status value
  pawn _ := rfl
  command _ := rfl

theorem isGentle_adjustStatus (status : String) (delta : Int64) :
    IsGentle (·.adjustStatus status delta) where
  sound _ h := h.setStatus status _
  pawn _ := rfl
  command _ := rfl

theorem isGentle_clearStatus (status : String) : IsGentle (·.clearStatus status) where
  sound _ h := h.withStatuses (h.good.positive.erase status)
  pawn _ := rfl
  command _ := rfl

theorem isGentle_mapContainer {f : Container → Container}
    (hf : ∀ container, Container.IsTidy container.contents →
      Container.IsTidy (f container).contents) : IsGentle (Entity.mapContainer f) := by
  constructor
  · intro entity h
    refine ⟨⟨h.good.keyed, ?_, h.good.positive⟩, h.standard⟩
    intro container hcontainer
    obtain ⟨before, hbefore, rfl⟩ := Option.map_eq_some_iff.mp hcontainer
    exact hf before (h.good.tidy before hbefore)
  · intro entity
    rfl
  · intro entity
    rfl

theorem isGentle_mapKind {f : Kind → Kind}
    (hstandard : ∀ kind : Kind, kind.IsStandard → (f kind).IsStandard)
    (hpawn : ∀ kind, (f kind).pawn?.isSome = kind.pawn?.isSome)
    (hcommand : ∀ kind, (f kind).command?.isSome = kind.command?.isSome) :
    IsGentle (Entity.mapKind f) where
  sound entity h :=
    ⟨⟨h.good.keyed, h.good.tidy, h.good.positive⟩, hstandard entity.kind h.standard⟩
  pawn entity := hpawn entity.kind
  command entity := hcommand entity.kind

theorem isGentle_movePawn {location : Key} (h : location.IsNormal) :
    IsGentle (Entity.mapKind (Kind.mapPawn fun pawn => { pawn with location := location })) := by
  apply isGentle_mapKind
  · intro kind hkind
    exact hkind.movePawn h
  · rintro (_ | _ | _ | _ | _ | _ | _ | _) <;> rfl
  · rintro (_ | _ | _ | _ | _ | _ | _ | _) <;> rfl

theorem isGentle_dropOption (index : Nat) :
    IsGentle (Entity.mapKind (Kind.mapDialog fun dialog =>
      { dialog with options := dialog.options.eraseIdx index })) := by
  apply isGentle_mapKind
  · intro kind hkind
    exact hkind.dropOption index
  · rintro (_ | _ | _ | _ | _ | _ | _ | _) <;> rfl
  · rintro (_ | _ | _ | _ | _ | _ | _ | _) <;> rfl

end Entity

end TextAdventure
