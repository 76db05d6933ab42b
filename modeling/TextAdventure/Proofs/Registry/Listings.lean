import Mathlib.Data.List.Find
import TextAdventure.Proofs.Registry.Catalogs

/-!
# Catalogs behave like lists

Whatever is asked of a catalog, its answers and its views are computed from a list of entities
with pairwise distinct normalized names, in which a registered entity comes last and a removed one
leaves the order of the rest.  The registry that lists the same entities answers the same.
-/

namespace TextAdventure

/-! ## Requests -/

namespace Catalog

/-- What can be asked of a catalog.  An entity to be registered is known by the key of its own
name, as every new entity is. -/
inductive Request where
  | add (entity : Entity) (keyed : entity.IsKeyed)
  | create (entity : Entity) (keyed : entity.IsKeyed)
  | remove (name : String)
  | clear
  | place (item holder : String) (quantity : UInt32)
  | edit (key : Key) (change : Entity.Edit)

inductive Answer where
  | added (isNew : Bool)
  | created (outcome : Except Fault Key)
  | removed (entity : Option Entity)
  | cleared
  | placed (outcome : Except Fault Unit)
  | edited (isThere : Bool)

namespace Request

variable {Table : Type} [EntityTable Table]

def onCatalog (catalog : Catalog Table) : Request → Answer × Catalog Table
  | add entity _ => (catalog.add entity).map .added id
  | create entity _ => (catalog.create entity).map .created id
  | remove name => (catalog.remove name).map .removed id
  | clear => (.cleared, empty)
  | place item holder quantity => (catalog.place item holder quantity).map .placed id
  | edit key change => (catalog.edit key change.apply).map .edited id

def onRegistry (registry : Registry) : Request → Answer × Registry
  | add entity _ => (.added (registry.insert? entity).isSome, registry.insert entity)
  | create entity _ =>
      match registry.create entity with
      | .error fault => (.created (.error fault), registry)
      | .ok after => (.created (.ok entity.key), after)
  | remove name => (.removed (registry.named? name), registry.erase (Key.ofName name))
  | clear => (.cleared, Registry.empty)
  | place item holder quantity =>
      match registry.place item holder quantity with
      | .error fault => (.placed (.error fault), registry)
      | .ok after => (.placed (.ok ()), after)
  | edit key change =>
      (.edited (registry.get? key).isSome, registry.modify key change.apply change.key_apply)

/-- Carry out requests one after another, and collect the answers. -/
def carryOut {State : Type} (step : State → Request → Answer × State) (state : State) :
    List Request → List Answer × State
  | [] => ([], state)
  | request :: rest =>
      let reply := step state request
      let later := carryOut step reply.2 rest
      (reply.1 :: later.1, later.2)

/-- Steps that answer alike and keep two states related do so over a whole run. -/
theorem carryOut_related {State Other : Type} {R : State → Other → Prop}
    {step : State → Request → Answer × State} {other : Other → Request → Answer × Other}
    (hstep : ∀ {left right}, R left right → ∀ request,
      (step left request).1 = (other right request).1 ∧
        R (step left request).2 (other right request).2)
    {left : State} {right : Other} (h : R left right) (requests : List Request) :
    (carryOut step left requests).1 = (carryOut other right requests).1 ∧
      R (carryOut step left requests).2 (carryOut other right requests).2 := by
  induction requests generalizing left right with
  | nil => exact ⟨rfl, h⟩
  | cons request rest ih =>
      obtain ⟨hanswer, hafter⟩ := hstep h request
      obtain ⟨hanswers, hend⟩ := ih hafter
      exact ⟨congrArg₂ List.cons hanswer hanswers, hend⟩

end Request

variable {Table : Type} [EntityTable Table]

/-- A catalog and the registry that it lists answer every request alike. -/
theorem Lists.onCatalog {catalog : Catalog Table} {registry : Registry}
    (h : catalog.Lists registry) (request : Request) :
    (request.onCatalog catalog).1 = (request.onRegistry registry).1 ∧
      (request.onCatalog catalog).2.Lists (request.onRegistry registry).2 := by
  cases request with
  | add entity keyed =>
      obtain ⟨hanswer, hafter⟩ := h.add entity
      exact ⟨congrArg Answer.added hanswer, hafter⟩
  | create entity keyed =>
      rw [Request.onCatalog, Request.onRegistry]
      obtain ⟨fault, hregistry, hcatalog⟩ | ⟨hregistry, hanswer, hafter⟩ := h.create entity
      · rw [hregistry, hcatalog]
        exact ⟨rfl, h⟩
      · rw [hregistry]
        exact ⟨congrArg Answer.created hanswer, hafter⟩
  | remove name =>
      obtain ⟨hanswer, hafter⟩ := h.remove name
      exact ⟨congrArg Answer.removed hanswer, hafter⟩
  | clear => exact ⟨rfl, lists_empty⟩
  | place item holder quantity =>
      rw [Request.onCatalog, Request.onRegistry]
      obtain ⟨fault, hregistry, hcatalog⟩ | ⟨after, hregistry, hanswer, hafter⟩ :=
        h.place item holder quantity
      · rw [hregistry, hcatalog]
        exact ⟨rfl, h⟩
      · rw [hregistry]
        exact ⟨congrArg Answer.placed hanswer, hafter⟩
  | edit key change =>
      obtain ⟨hanswer, hafter⟩ := h.edit key change.key_apply
      exact ⟨congrArg Answer.edited hanswer, hafter⟩

end Catalog

/-! ## Lists of entities -/

namespace Listing

/-- The normalized names of the entities of a list. -/
def names (entities : List Entity) : List Key :=
  entities.map fun entity => Key.ofName entity.name

/-- The entity of a list whose normalized name is a key. -/
def named? (entities : List Entity) (key : Key) : Option Entity :=
  entities.find? fun entity => Key.ofName entity.name = key

def edit (entities : List Entity) (key : Key) (change : Entity → Entity) : List Entity :=
  entities.map fun entity => if Key.ofName entity.name = key then change entity else entity

def misnamed (entities : List Entity) (name : String) (expected : Role) : Fault :=
  if Key.ofName name ∈ names entities then Fault.ofCause (.wrongKind name expected)
  else Fault.ofCause (.unknownEntity name)

/-- What a request does to a list of entities: an entity is added last if its normalized name is
free, and removal takes away the one of that name. -/
def onList (entities : List Entity) : Catalog.Request → Catalog.Answer × List Entity
  | .add entity _ =>
      if Key.ofName entity.name ∈ names entities then (.added false, entities)
      else (.added true, entities ++ [entity])
  | .create entity _ =>
      match (Registry.ofList entities).screenEntity entity with
      | .passed => (.created (.ok (Key.ofName entity.name)), entities ++ [entity])
      | verdict =>
          (.created (.error (Fault.ofCause (.configuration entity.name verdict))), entities)
  | .remove name =>
      (.removed (named? entities (Key.ofName name)),
        entities.filter fun entity => Key.ofName entity.name ≠ Key.ofName name)
  | .clear => (.cleared, [])
  | .place item holder quantity =>
      match (named? entities (Key.ofName item)).bind fun entity => entity.kind.item? with
      | none => (.placed (.error (misnamed entities item .item)), entities)
      | some _ =>
          match (named? entities (Key.ofName holder)).bind Entity.container with
          | none => (.placed (.error (misnamed entities holder .container)), entities)
          | some _ =>
              (.placed (.ok ()),
                edit entities (Key.ofName holder)
                  (Entity.mapContainer fun container => container.add (Key.ofName item) quantity))
  | .edit key change => (.edited (named? entities key).isSome, edit entities key change.apply)

/-! ## Registries as lists -/

/-- Whether a registry consists of the entities of a list, each known by the key of its name. -/
structure Describes (entities : List Entity) (registry : Registry) : Prop where
  entities_eq : registry.entities = entities
  keyed : ∀ entity ∈ entities, entity.IsKeyed

variable {entities : List Entity} {registry : Registry}

theorem describes_empty : Describes [] Registry.empty :=
  ⟨rfl, List.forall_mem_nil _⟩

theorem Describes.keys_eq (h : Describes entities registry) : registry.keys = names entities := by
  rw [Registry.keys, h.entities_eq]
  exact List.map_congr_left h.keyed

theorem Describes.get?_eq (h : Describes entities registry) (key : Key) :
    registry.get? key = named? entities key := by
  rw [Registry.get?, h.entities_eq, named?]
  refine List.find?_congr fun entity hentity => ?_
  rw [h.keyed entity hentity]

theorem Describes.misnamed_eq (h : Describes entities registry) (name : String)
    (expected : Role) : registry.misnamed name expected = misnamed entities name expected := by
  rw [Registry.misnamed, misnamed, ← h.keys_eq]
  exact if_congr (registry.contains_iff name) rfl rfl

theorem Describes.insert (h : Describes entities registry) {entity : Entity}
    (hkeyed : entity.IsKeyed) (hfree : entity.key ∉ registry.keys) :
    Describes (entities ++ [entity]) (registry.insert entity) where
  entities_eq := by rw [Registry.insert_entities hfree, h.entities_eq]
  keyed := List.forall_mem_append.mpr ⟨h.keyed, List.forall_mem_singleton.mpr hkeyed⟩

theorem Describes.erase (h : Describes entities registry) (key : Key) :
    Describes (entities.filter fun entity => Key.ofName entity.name ≠ key)
      (registry.erase key) where
  entities_eq := by
    change registry.entities.filter (fun entity => entity.key ≠ key) = _
    rw [h.entities_eq]
    refine List.filter_congr fun entity hentity => ?_
    rw [h.keyed entity hentity]
  keyed := fun entity hentity => h.keyed entity (List.mem_of_mem_filter hentity)

theorem Describes.modify (h : Describes entities registry) (key : Key) (change : Entity.Edit) :
    Describes (edit entities key change.apply)
      (registry.modify key change.apply change.key_apply) := by
  have hentities : (registry.modify key change.apply change.key_apply).entities =
      edit entities key change.apply := by
    change registry.entities.map (Registry.editEntry key change.apply) = _
    rw [h.entities_eq, edit]
    refine List.map_congr_left fun entity hentity => ?_
    rw [Registry.editEntry, h.keyed entity hentity]
  refine ⟨hentities, ?_⟩
  rw [← hentities]
  refine Registry.forall_mem_modify (h.entities_eq ▸ h.keyed) key change.key_apply ?_
  intro entity hkeyed
  rw [Entity.IsKeyed, change.key_apply, change.name_apply]
  exact hkeyed

/-- A registry answers a request as the list of its entities does. -/
theorem Describes.onRegistry (h : Describes entities registry) (request : Catalog.Request) :
    (request.onRegistry registry).1 = (onList entities request).1 ∧
      Describes (onList entities request).2 (request.onRegistry registry).2 := by
  cases request with
  | add entity keyed =>
      rw [Catalog.Request.onRegistry, onList, ← h.keys_eq, ← keyed]
      by_cases hkey : entity.key ∈ registry.keys
      · rw [if_pos hkey, Registry.insert_of_mem hkey, Registry.isSome_insert?_of_mem hkey]
        exact ⟨rfl, h⟩
      · rw [if_neg hkey, (registry.isSome_insert? entity).mpr hkey]
        exact ⟨rfl, h.insert keyed hkey⟩
  | create entity keyed =>
      have hregistry : Registry.ofList entities = registry := by
        rw [← h.entities_eq, Registry.ofList_entities]
      rw [Catalog.Request.onRegistry, onList, hregistry, Registry.create, ← keyed]
      cases hscreen : registry.screenEntity entity with
      | passed =>
          exact ⟨rfl, h.insert keyed (Registry.key_notMem_of_screenEntity keyed hscreen)⟩
      | _ => exact ⟨rfl, h⟩
  | remove name => exact ⟨congrArg Catalog.Answer.removed (h.get?_eq _), h.erase (Key.ofName name)⟩
  | clear => exact ⟨rfl, describes_empty⟩
  | place item holder quantity =>
      rw [Catalog.Request.onRegistry, onList, Registry.place, Registry.item?, Registry.container?,
        h.get?_eq, h.get?_eq, h.misnamed_eq, h.misnamed_eq]
      cases (named? entities (Key.ofName item)).bind fun entity => entity.kind.item? with
      | none => exact ⟨rfl, h⟩
      | some record =>
          cases (named? entities (Key.ofName holder)).bind Entity.container with
          | none => exact ⟨rfl, h⟩
          | some container =>
              exact ⟨rfl, h.modify (Key.ofName holder)
                (.changeContainer (·.add (Key.ofName item) quantity))⟩
  | edit key change =>
      refine ⟨?_, h.modify key change⟩
      rw [Catalog.Request.onRegistry, h.get?_eq]
      rfl

end Listing

/-! ## Equality -/

/-- The weights that a kind records. -/
def Kind.weights : Kind → List Weight
  | item record => [record.weight]
  | pawn record => [record.maxWeight]
  | _ => []

theorem Weight.sameNumber_self (weight : Weight) : weight.sameNumber weight = !weight.isNaN := by
  rw [sameNumber, beq_self_eq_true, Bool.true_or, Bool.and_true, Bool.and_self]

theorem Kind.sameAs_self_iff (kind : Kind) :
    kind.sameAs kind = true ↔ ∀ weight ∈ kind.weights, weight.isNaN = false := by
  cases kind with
  | item record => simp [sameAs, weights, Weight.sameNumber_self]
  | pawn record => simp [sameAs, weights, Weight.sameNumber_self]
  | _ => simp [sameAs, weights]

/-- An entity is the same as itself unless one of its weights is no number. -/
theorem Entity.sameAs_self_iff (entity : Entity) :
    entity.sameAs entity = true ↔ ∀ weight ∈ entity.kind.weights, weight.isNaN = false := by
  rw [← Kind.sameAs_self_iff]
  simp [sameAs]

theorem Entity.key_eq_of_sameAs {left right : Entity} (h : left.sameAs right = true) :
    left.key = right.key := by
  simp only [sameAs, Bool.and_eq_true, beq_iff_eq] at h
  exact h.1.1.1.1.2

/-- Whether two lists are the same entity by entity. -/
def Listing.Same (left right : List Entity) : Prop :=
  List.Forall₂ (fun entity other => entity.sameAs other = true) left right

theorem Listing.same_iff {left right : List Entity} :
    Same left right ↔
      (left.length == right.length && (left.zip right).all fun pair => pair.1.sameAs pair.2) =
        true := by
  rw [Same, List.forall₂_iff_zip, Bool.and_eq_true, beq_iff_eq, List.all_eq_true]
  exact and_congr_right' ⟨fun h pair hpair => h hpair, fun h left right hpair => h _ hpair⟩

theorem Listing.map_key_eq_of_same {left right : List Entity} (h : Same left right) :
    left.map Entity.key = right.map Entity.key := by
  have hkeys : List.Forall₂ Eq (left.map Entity.key) (right.map Entity.key) :=
    List.forall₂_map_left_iff.mpr (List.forall₂_map_right_iff.mpr
      (h.imp fun _ _ => Entity.key_eq_of_sameAs))
  exact List.forall₂_eq_eq_eq ▸ hkeys

namespace Catalog

variable {Table : Type} [EntityTable Table]

/-- Comparing the orders adds nothing to comparing the entities. -/
theorem Lists.sameAs_iff {left right : Catalog Table} {registry other : Registry}
    (h : left.Lists registry) (hother : right.Lists other) :
    left.sameAs right = true ↔ Listing.Same registry.entities other.entities := by
  rw [sameAs, h.entities_eq, hother.entities_eq, Bool.and_assoc, Bool.and_eq_true, beq_iff_eq,
    ← Listing.same_iff, h.order_eq, hother.order_eq]
  exact and_iff_right_of_imp Listing.map_key_eq_of_same

/-! ## What a catalog shows -/

/-- Whether all that a catalog shows is computed from a list of entities with pairwise distinct
normalized names. -/
structure Shows (catalog : Catalog Table) (entities : List Entity) : Prop where
  nodup_names : (Listing.names entities).Nodup
  entities_eq : catalog.entities = entities
  keys_eq : catalog.keys = Listing.names entities
  size_eq : catalog.size = entities.length
  isEmpty_eq : catalog.isEmpty = entities.isEmpty
  get?_eq : ∀ key, catalog.get? key = Listing.named? entities key
  named?_eq : ∀ name, catalog.named? name = Listing.named? entities (Key.ofName name)
  contains_iff : ∀ name,
    catalog.contains name = true ↔ Key.ofName name ∈ Listing.names entities
  namedWhere?_eq : ∀ accepts name, catalog.namedWhere? accepts name =
    (Listing.named? entities (Key.ofName name)).filter fun entity => accepts entity.kind
  withRecord_eq : ∀ {α : Type} (record? : Kind → Option α), catalog.withRecord record? =
    entities.filterMap fun entity => (record? entity.kind).map fun record => (entity, record)
  entitiesWhere_eq : ∀ accepts,
    catalog.entitiesWhere accepts = entities.filter fun entity => accepts entity.kind

theorem Lists.shows {catalog : Catalog Table} {registry : Registry} {entities : List Entity}
    (h : catalog.Lists registry) (hdescribes : Listing.Describes entities registry) :
    catalog.Shows entities := by
  have hentities : catalog.entities = entities := h.entities_eq.trans hdescribes.entities_eq
  have hkeys : catalog.keys = Listing.names entities := h.order_eq.trans hdescribes.keys_eq
  have hget : ∀ key, catalog.get? key = Listing.named? entities key :=
    fun key => (h.get?_eq key).trans (hdescribes.get?_eq key)
  exact
    { nodup_names := hdescribes.keys_eq ▸ registry.distinct
      entities_eq := hentities
      keys_eq := hkeys
      size_eq := by rw [size, ← keys, hkeys, Listing.names, List.length_map]
      isEmpty_eq := by rw [isEmpty, ← keys, hkeys, Listing.names, List.isEmpty_map]
      get?_eq := hget
      named?_eq := fun name => hget (Key.ofName name)
      contains_iff := fun name => by
        rw [h.contains_eq, registry.contains_iff, hdescribes.keys_eq]
      namedWhere?_eq := fun accepts name => by rw [namedWhere?, named?, hget]
      withRecord_eq := fun record? => by rw [withRecord, hentities]
      entitiesWhere_eq := fun accepts => by rw [entitiesWhere, hentities] }

/-! ## Runs -/

/-- The answers to requests that are made of an empty catalog, and the catalog afterwards. -/
def run (Table : Type) [EntityTable Table] (requests : List Request) :
    List Answer × Catalog Table :=
  Request.carryOut Request.onCatalog empty requests

end Catalog

/-- The answers to requests that are made of an empty list, and the list afterwards. -/
def Listing.run (requests : List Catalog.Request) : List Catalog.Answer × List Entity :=
  Catalog.Request.carryOut onList [] requests

/-- The answers to requests that are made of an empty registry, and the registry afterwards. -/
def Registry.answering (requests : List Catalog.Request) : List Catalog.Answer × Registry :=
  Catalog.Request.carryOut Catalog.Request.onRegistry empty requests

theorem Listing.describes_answering (requests : List Catalog.Request) :
    (Registry.answering requests).1 = (run requests).1 ∧
      Describes (run requests).2 (Registry.answering requests).2 :=
  Catalog.Request.carryOut_related (R := fun registry entities => Describes entities registry)
    (fun h => h.onRegistry) describes_empty requests

namespace Catalog

variable {Table : Type} [EntityTable Table]

theorem lists_run (Table : Type) [EntityTable Table] (requests : List Request) :
    (run Table requests).1 = (Registry.answering requests).1 ∧
      (run Table requests).2.Lists (Registry.answering requests).2 :=
  Request.carryOut_related (R := Lists) (fun h => h.onCatalog) lists_empty requests

/-- Whatever is asked of a catalog, it answers as the list of its entities does and shows that
list, and so does the registry of the same entities.  Two catalogs are the same exactly when
their lists are, entity by entity.  A catalog that is made of the list of another shows the same
list; the two are the same unless there is a weight that is no number. -/
theorem shows_run (requests others : List Request) :
    (run Table requests).1 = (Listing.run requests).1 ∧
      (run Table requests).2.Shows (Listing.run requests).2 ∧
      ((run Table requests).2.sameAs (run Table others).2 = true ↔
        Listing.Same (Listing.run requests).2 (Listing.run others).2) ∧
      (ofList (run Table requests).2.entities : Catalog Table).Shows (Listing.run requests).2 ∧
      ((ofList (run Table requests).2.entities : Catalog Table).sameAs (run Table requests).2 =
          true ↔
        ∀ entity ∈ (Listing.run requests).2, ∀ weight ∈ entity.kind.weights,
          weight.isNaN = false) ∧
      (Registry.answering requests).1 = (Listing.run requests).1 ∧
      (Registry.answering requests).2.entities = (Listing.run requests).2 := by
  obtain ⟨hanswers, hlists⟩ := lists_run Table requests
  obtain ⟨-, hothers⟩ := lists_run Table others
  obtain ⟨hregistry, hdescribes⟩ := Listing.describes_answering requests
  have hentities := hdescribes.entities_eq
  have hother := (Listing.describes_answering others).2.entities_eq
  refine ⟨hanswers.trans hregistry, hlists.shows hdescribes, ?_,
    hlists.ofList_entities.shows hdescribes, ?_, hregistry, hentities⟩
  · rw [hlists.sameAs_iff hothers, hentities, hother]
  · rw [hlists.ofList_entities.sameAs_iff hlists, hentities, Listing.Same, List.forall₂_same]
    exact forall₂_congr fun entity _ => entity.sameAs_self_iff

/-- A name is taken in any casing until what it denotes is removed in any casing. -/
example :
    (run (Key → Option Entity)
      [ .add (.location "Hall") rfl,
        .add (.item " HALL" .zero) rfl,
        .create (.location "Well") rfl,
        .remove "hALL",
        .add (.item "hall" .zero) rfl ]).2.keys = [⟨"well"⟩, ⟨"hall"⟩] := by
  decide +kernel

/-- An item whose weight is no number. -/
def flour : Entity :=
  .item "Flour" ⟨0x7FF8000000000000⟩

/-- The catalog of flour is not the same as the one that is made of its list. -/
theorem not_sameAs_ofList_flour :
    (run (Key → Option Entity) [.create flour rfl]).2.entities = [flour] ∧
      (ofList [flour] : Catalog (Key → Option Entity)).sameAs
        (run (Key → Option Entity) [.create flour rfl]).2 = false := by
  decide +kernel

end Catalog

end TextAdventure
