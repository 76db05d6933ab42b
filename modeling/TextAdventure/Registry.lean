import TextAdventure.Entity
import TextAdventure.Fault

/-!
# Registries

A registry lists the entities of a world in the order of their registration.  No
two of them share a key, and only edits that keep the key are possible.
-/

namespace TextAdventure

structure Registry where
  entities : List Entity
  distinct : (entities.map Entity.key).Nodup

namespace Registry

@[ext]
theorem ext {left right : Registry} (h : left.entities = right.entities) : left = right := by
  cases left
  cases right
  cases h
  rfl

instance : DecidableEq Registry := fun left right =>
  if h : left.entities = right.entities then isTrue (ext h)
  else isFalse fun heq => h (congrArg entities heq)

def empty : Registry := ⟨[], List.nodup_nil⟩

def keys (registry : Registry) : List Key :=
  registry.entities.map Entity.key

def size (registry : Registry) : Nat :=
  registry.entities.length

def isEmpty (registry : Registry) : Bool :=
  registry.entities.isEmpty

/-- The entity registered under a key. -/
def get? (registry : Registry) (key : Key) : Option Entity :=
  registry.entities.find? fun entity => entity.key = key

/-- The entity that a written name denotes. -/
def named? (registry : Registry) (name : String) : Option Entity :=
  registry.get? (Key.ofName name)

def contains (registry : Registry) (name : String) : Bool :=
  (registry.named? name).isSome

theorem key_of_get? {registry : Registry} {key : Key} {entity : Entity}
    (h : registry.get? key = some entity) : entity.key = key := by
  simpa using List.find?_some h

theorem mem_of_get? {registry : Registry} {key : Key} {entity : Entity}
    (h : registry.get? key = some entity) : entity ∈ registry.entities :=
  List.mem_of_find?_eq_some h

theorem get?_eq_none_iff {registry : Registry} {key : Key} :
    registry.get? key = none ↔ key ∉ registry.keys := by
  simp [get?, keys, List.find?_eq_none]

/-! ## Registration -/

/-- Register an entity last, unless its key is taken. -/
def insert? (registry : Registry) (entity : Entity) : Option Registry :=
  if h : entity.key ∈ registry.keys then none
  else
    some
      { entities := registry.entities ++ [entity]
        distinct := by
          rw [List.map_append, List.map_singleton]
          refine List.nodup_append.mpr ⟨registry.distinct, by simp, ?_⟩
          intro key hkey other hother heq
          rw [List.mem_singleton] at hother
          exact h (hother ▸ heq ▸ hkey) }

/-- Register an entity, or leave the registry as it is. -/
def insert (registry : Registry) (entity : Entity) : Registry :=
  (registry.insert? entity).getD registry

/-- Register entities one after another; of those that share a key the first stays. -/
def ofList (entities : List Entity) : Registry :=
  entities.foldl insert empty

def erase (registry : Registry) (key : Key) : Registry where
  entities := registry.entities.filter fun entity => entity.key ≠ key
  distinct := by
    have hsub := List.filter_sublist (p := fun entity : Entity => decide (entity.key ≠ key))
      (l := registry.entities)
    exact registry.distinct.sublist (hsub.map Entity.key)

/-! ## Edits -/

def editEntry (key : Key) (edit : Entity → Entity) (entity : Entity) : Entity :=
  if entity.key = key then edit entity else entity

theorem key_editEntry {key : Key} {edit : Entity → Entity}
    (hedit : ∀ entity, (edit entity).key = entity.key) (entity : Entity) :
    (editEntry key edit entity).key = entity.key := by
  unfold editEntry
  split
  · exact hedit entity
  · rfl

/-- Edit the entity registered under a key, in place. -/
def modify (registry : Registry) (key : Key) (edit : Entity → Entity)
    (hedit : ∀ entity, (edit entity).key = entity.key := by intro entity; rfl) : Registry where
  entities := registry.entities.map (editEntry key edit)
  distinct := by
    have hkeys : (registry.entities.map (editEntry key edit)).map Entity.key =
        registry.entities.map Entity.key := by
      rw [List.map_map]
      exact List.map_congr_left fun entity _ => key_editEntry hedit entity
    rw [hkeys]
    exact registry.distinct

def setStatus (registry : Registry) (key : Key) (status : String) (value : Int64) : Registry :=
  registry.modify key (·.setStatus status value)

def adjustStatus (registry : Registry) (key : Key) (status : String) (delta : Int64) : Registry :=
  registry.modify key (·.adjustStatus status delta)

def clearStatus (registry : Registry) (key : Key) (status : String) : Registry :=
  registry.modify key (·.clearStatus status)

def mapContainer (registry : Registry) (key : Key) (f : Container → Container) : Registry :=
  registry.modify key (Entity.mapContainer f)

def mapKind (registry : Registry) (key : Key) (f : Kind → Kind) : Registry :=
  registry.modify key (Entity.mapKind f)

def movePawn (registry : Registry) (key location : Key) : Registry :=
  registry.mapKind key (Kind.mapPawn fun pawn => { pawn with location := location })

/-- Remove the dialog option at an index, if there is one. -/
def dropOption (registry : Registry) (key : Key) (index : Nat) : Registry :=
  registry.mapKind key (Kind.mapDialog fun dialog =>
    { dialog with options := dialog.options.eraseIdx index })

/-! ## Views by kind -/

def location? (registry : Registry) (key : Key) : Option Entity :=
  (registry.get? key).filter fun entity => entity.kind.isLocation

def item? (registry : Registry) (key : Key) : Option Item :=
  (registry.get? key).bind fun entity => entity.kind.item?

def pawn? (registry : Registry) (key : Key) : Option Pawn :=
  (registry.get? key).bind fun entity => entity.kind.pawn?

def command? (registry : Registry) (key : Key) : Option Command :=
  (registry.get? key).bind fun entity => entity.kind.command?

def condition? (registry : Registry) (key : Key) : Option Condition :=
  (registry.get? key).bind fun entity => entity.kind.condition?

def event? (registry : Registry) (key : Key) : Option Event :=
  (registry.get? key).bind fun entity => entity.kind.event?

def dialog? (registry : Registry) (key : Key) : Option Dialog :=
  (registry.get? key).bind fun entity => entity.kind.dialog?

def container? (registry : Registry) (key : Key) : Option Container :=
  (registry.get? key).bind Entity.container

/-- The entities whose kind has the record asked for, with that record. -/
def withRecord {α : Type} (registry : Registry) (record? : Kind → Option α) :
    List (Entity × α) :=
  registry.entities.filterMap fun entity => (record? entity.kind).map fun record => (entity, record)

def commands (registry : Registry) : List (Entity × Command) :=
  registry.withRecord Kind.command?

def events (registry : Registry) : List (Entity × Event) :=
  registry.withRecord Kind.event?

def conditions (registry : Registry) : List (Entity × Condition) :=
  registry.withRecord Kind.condition?

def pawnsAt (registry : Registry) (location : Key) : List Entity :=
  registry.entities.filter fun entity =>
    match entity.kind with
    | .pawn pawn => pawn.location = location
    | _ => false

/-- The exits that lead away from a location, with their records. -/
def exitsFrom (registry : Registry) (location : Key) : List (Entity × Exit) :=
  (registry.withRecord Kind.exit?).filter fun pair => pair.2.origin = location

/-- Equality of registries that compares weights as numbers. -/
def sameAs (left right : Registry) : Bool :=
  left.size == right.size &&
    (left.entities.zip right.entities).all fun pair => pair.1.sameAs pair.2

/-- The units of an item that a holder has. -/
def held (registry : Registry) (holder item : Key) : UInt32 :=
  match registry.container? holder with
  | none => 0
  | some container => container.quantityOf item

def isHidden (registry : Registry) (key : Key) : Bool :=
  match registry.get? key with
  | none => false
  | some entity => entity.isHidden

/-- The name to show for a key: the entity's own, or the key of an unregistered one. -/
def displayName (registry : Registry) (key : Key) : String :=
  match registry.get? key with
  | none => key.text
  | some entity => entity.name

/-! ## Placing items -/

/-- The fault of a name that does not denote what was expected. -/
def misnamed (registry : Registry) (name : String) (expected : Role) : Fault :=
  if registry.contains name then Fault.ofCause (.wrongKind name expected)
  else Fault.ofCause (.unknownEntity name)

/-- Put units of a named item into the container of a named holder. -/
def place (registry : Registry) (item holder : String) (quantity : UInt32) :
    Except Fault Registry :=
  match registry.item? (Key.ofName item) with
  | none => .error (registry.misnamed item .item)
  | some _ =>
      match registry.container? (Key.ofName holder) with
      | none => .error (registry.misnamed holder .container)
      | some _ =>
          .ok (registry.mapContainer (Key.ofName holder) fun container =>
            container.add (Key.ofName item) quantity)

end Registry

end TextAdventure
