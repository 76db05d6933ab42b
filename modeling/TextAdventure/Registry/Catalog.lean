import TextAdventure.Vocabulary

/-!
# Catalogs

A catalog is a registry that is kept twice: in a table that finds an entity by its key, and
in the order in which the keys were registered.  Every operation has to keep both.
-/

namespace TextAdventure

/-- Tables that keep at most one entity under each key, told by what is found in them. -/
class EntityTable (Table : Type) where
  empty : Table
  find? : Table → Key → Option Entity
  insert : Table → Key → Entity → Table
  erase : Table → Key → Table
  find?_empty : ∀ key, find? empty key = none
  find?_insert : ∀ table key entity other,
    find? (insert table key entity) other = if other = key then some entity else find? table other
  find?_erase : ∀ table key other,
    find? (erase table key) other = if other = key then none else find? table other

/-- A table may be the function that says what is found in it. -/
instance : EntityTable (Key → Option Entity) where
  empty := fun _ => none
  find? := id
  insert := fun table key entity other => if other = key then some entity else table other
  erase := fun table key other => if other = key then none else table other
  find?_empty := fun _ => rfl
  find?_insert := fun _ _ _ _ => rfl
  find?_erase := fun _ _ _ => rfl

structure Catalog (Table : Type) where
  table : Table
  order : List Key

namespace Catalog

variable {Table : Type} [EntityTable Table]

def empty : Catalog Table := ⟨EntityTable.empty, []⟩

/-! ## Views -/

/-- The entity kept under a key. -/
def get? (catalog : Catalog Table) (key : Key) : Option Entity :=
  EntityTable.find? catalog.table key

/-- The entity that a written name denotes. -/
def named? (catalog : Catalog Table) (name : String) : Option Entity :=
  catalog.get? (Key.ofName name)

def contains (catalog : Catalog Table) (name : String) : Bool :=
  (catalog.named? name).isSome

def keys (catalog : Catalog Table) : List Key :=
  catalog.order

def size (catalog : Catalog Table) : Nat :=
  catalog.order.length

def isEmpty (catalog : Catalog Table) : Bool :=
  catalog.order.isEmpty

/-- The entities in order; a key that is not in the table is passed over. -/
def entities (catalog : Catalog Table) : List Entity :=
  catalog.order.filterMap catalog.get?

/-- The entity that a name denotes, if it is of an accepted kind. -/
def namedWhere? (catalog : Catalog Table) (accepts : Kind → Bool) (name : String) :
    Option Entity :=
  (catalog.named? name).filter fun entity => accepts entity.kind

/-- The entities whose kind has the record asked for, with that record. -/
def withRecord {α : Type} (catalog : Catalog Table) (record? : Kind → Option α) :
    List (Entity × α) :=
  catalog.entities.filterMap fun entity => (record? entity.kind).map fun record => (entity, record)

/-- The entities of an accepted kind, as those that stand in a place or lead out of it. -/
def entitiesWhere (catalog : Catalog Table) (accepts : Kind → Bool) : List Entity :=
  catalog.entities.filter fun entity => accepts entity.kind

/-- Equality that compares weights as numbers. -/
def sameAs (left right : Catalog Table) : Bool :=
  left.order == right.order && left.entities.length == right.entities.length &&
    (left.entities.zip right.entities).all fun pair => pair.1.sameAs pair.2

/-! ## Registration -/

/-- Register an entity last, unless its key is taken, and say whether it was. -/
def add (catalog : Catalog Table) (entity : Entity) : Bool × Catalog Table :=
  if (catalog.get? entity.key).isSome then (false, catalog)
  else
    (true, ⟨EntityTable.insert catalog.table entity.key entity, catalog.order ++ [entity.key]⟩)

/-- Register entities one after another; of those that share a key the first stays. -/
def ofList (entities : List Entity) : Catalog Table :=
  entities.foldl (fun catalog entity => (catalog.add entity).2) empty

/-- Register an entity whose words pass the screening against all that is listed. -/
def create (catalog : Catalog Table) (entity : Entity) : Except Fault Key × Catalog Table :=
  match (Registry.ofList catalog.entities).screenEntity entity with
  | .passed => (.ok entity.key, (catalog.add entity).2)
  | verdict => (.error (Fault.ofCause (.configuration entity.name verdict)), catalog)

/-- Remove the entity that a name denotes, and give it away. -/
def remove (catalog : Catalog Table) (name : String) : Option Entity × Catalog Table :=
  match catalog.named? name with
  | none => (none, catalog)
  | some entity =>
      (some entity,
        ⟨EntityTable.erase catalog.table (Key.ofName name),
          catalog.order.filter fun key => key ≠ Key.ofName name⟩)

/-! ## Edits -/

/-- Edit the entity kept under a key, in place, and say whether there is one. -/
def edit (catalog : Catalog Table) (key : Key) (change : Entity → Entity) :
    Bool × Catalog Table :=
  match catalog.get? key with
  | none => (false, catalog)
  | some entity =>
      (true, { catalog with table := EntityTable.insert catalog.table key (change entity) })

/-- The fault of a name that does not denote what was expected. -/
def misnamed (catalog : Catalog Table) (name : String) (expected : Role) : Fault :=
  if catalog.contains name then Fault.ofCause (.wrongKind name expected)
  else Fault.ofCause (.unknownEntity name)

/-- Put units of a named item, by its own key, into the container of a named holder. -/
def place (catalog : Catalog Table) (item holder : String) (quantity : UInt32) :
    Except Fault Unit × Catalog Table :=
  match catalog.namedWhere? (fun kind => kind.item?.isSome) item with
  | none => (.error (catalog.misnamed item .item), catalog)
  | some thing =>
      match (catalog.named? holder).bind Entity.container with
      | none => (.error (catalog.misnamed holder .container), catalog)
      | some _ =>
          (.ok (), (catalog.edit (Key.ofName holder) (Entity.mapContainer fun container =>
            container.add thing.key quantity)).2)

end Catalog

end TextAdventure
