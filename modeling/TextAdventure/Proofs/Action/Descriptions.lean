import Mathlib.Data.List.Forall2
import TextAdventure.Proofs.Action.Replies
import TextAdventure.Proofs.Input.Denotations
import TextAdventure.Stage

/-!
# Descriptions

The description of a place mentions the things, the other pawns and the ways out that show there,
each once and in order.  It betrays nothing of what is hidden: two worlds that differ in hidden
entities only, and in the units of hidden things that lie in the place, are described alike.
-/

namespace TextAdventure

/-! ## What there is to mention -/

instance (registry : Registry) (key : Key) : Decidable (registry.Shows key) :=
  decidable_of_iff _ Registry.isHidden_eq_false_iff

instance (actor here : Key) (entity : Entity) : Decidable (entity.IsCompanion actor here) :=
  decidable_of_iff _ Scope.isCompanion_iff

instance (here : Key) (entity : Entity) : Decidable (entity.IsWayOut here) :=
  decidable_of_iff _ Scope.isWayOut_iff

/-- The stacks in an entity whose items show; an unregistered one does. -/
def Registry.shownStacks (registry : Registry) (holder : Entity) : List Stack :=
  (holder.container.elim [] Container.contents).filter fun stack => registry.Shows stack.item

/-- How a stack is mentioned. -/
def Registry.stackText (registry : Registry) (stack : Stack) : String :=
  countedName (registry.displayName stack.item) stack.quantity

/-- How a companion is mentioned. -/
def Entity.companionText (entity : Entity) : String :=
  entity.name ++ " is here."

/-- How a way out is mentioned: by its direction, or else by its name. -/
def Entity.wayText (entity : Entity) : String :=
  (entity.kind.exit?.bind Exit.direction).elim entity.name Key.text

/-- A paragraph that lists some texts, unless there are none. -/
def Text.listing (heading : String) (texts : List String) : List String :=
  if texts.isEmpty then [] else [heading ++ Text.enumerate texts ++ "."]

namespace World

/-- A place by its name and description, with the things, the other pawns and the ways out that show
there, each once and in order. -/
def account (world : World) (here : Key) (place : Entity) : List String :=
  [place.name] ++ place.description?.toList ++
    Text.listing "You see: "
      ((world.registry.shownStacks place).map world.registry.stackText) ++
    (world.registry.entities.filter fun entity =>
      entity.IsCompanion world.player here).map Entity.companionText ++
    Text.listing "Exits: " ((world.registry.entities.filter fun entity =>
      entity.IsWayOut here).map Entity.wayText)

/-- What is said about where the player is. -/
inductive Tells (world : World) : List String → Prop where
  | place {pawn : Pawn} {place : Entity} (hstands : world.registry.pawn? world.player = some pawn)
      (hplace : place ∈ world.registry.entities) (hkey : place.key = Key.ofName pawn.location.text)
      (hlocation : place.kind = .location) : Tells world (world.account pawn.location place)
  | nowhere (hlost : ∀ pawn place, world.registry.pawn? world.player = some pawn →
        place ∈ world.registry.entities → place.key = Key.ofName pawn.location.text →
        place.kind ≠ .location) :
      Tells world ["You are nowhere at all."]

/-- The key under which the place of the player is registered, if it is. -/
def placeKey? (world : World) : Option Key :=
  (world.registry.pawn? world.player).map fun pawn => Key.ofName pawn.location.text

end World

/-- Whether an entity stands for another one in a world that looks the same to the player: both are
hidden, and neither the player nor its place, or they are one entity but for what lies hidden in the
place. -/
inductive Entity.LooksLike (world other : World) (entity : Entity) : Entity → Prop where
  | same : LooksLike world other entity entity
  | hidden {shadow : Entity} (hkey : shadow.key = entity.key) (hplayer : entity.key ≠ world.player)
      (hplace : world.placeKey? ≠ some entity.key) (hhidden : entity.isHidden = true)
      (hshadow : shadow.isHidden = true) : LooksLike world other entity shadow
  | place {container : Option Container} (hplace : world.placeKey? = some entity.key)
      (hshown : other.registry.shownStacks { entity with container := container } =
        world.registry.shownStacks entity) :
      LooksLike world other entity { entity with container := container }

/-- Whether two worlds differ only in what the player cannot see where it is. -/
structure World.LooksLike (world other : World) : Prop where
  player : other.player = world.player
  entities : List.Forall₂ (Entity.LooksLike world other) world.registry.entities
    other.registry.entities

namespace Entity.LooksLike

variable {world other : World} {entity shadow : Entity}

/-- What is said of entities that show does not tell one from the other, if it leaves out their
containers. -/
theorem agree (h : LooksLike world other entity shadow) {P : Entity → Prop} {text : Entity → String}
    (hshows : ∀ entity, P entity → entity.isHidden = false)
    (hkeep : ∀ entity : Entity, ∀ container, P { entity with container := container } ↔ P entity)
    (htext : ∀ entity : Entity, ∀ container,
      text { entity with container := container } = text entity) :
    (P shadow ↔ P entity) ∧ (P entity → text shadow = text entity) := by
  cases h with
  | same => exact ⟨Iff.rfl, fun _ => rfl⟩
  | hidden _ _ _ hhidden hshadow =>
      have hneither : ∀ entity, entity.isHidden = true → ¬ P entity := fun entity hhidden hP =>
        Bool.noConfusion (hhidden.symm.trans (hshows entity hP))
      exact ⟨iff_of_false (hneither shadow hshadow) (hneither entity hhidden),
        fun hP => absurd hP (hneither entity hhidden)⟩
  | place => exact ⟨hkeep entity _, fun _ => htext entity _⟩

end Entity.LooksLike

theorem map_filter_eq_of_forall₂ {α β : Type} {R : α → α → Prop} {P : α → Prop} [DecidablePred P]
    {f : α → β} {left right : List α} (h : List.Forall₂ R left right)
    (hagree : ∀ a b, R a b → (P b ↔ P a) ∧ (P a → f b = f a)) :
    (right.filter P).map f = (left.filter P).map f := by
  induction h with
  | nil => rfl
  | @cons a b left right hhead _ ih =>
      obtain ⟨hiff, heq⟩ := hagree a b hhead
      rw [List.filter_cons, List.filter_cons]
      by_cases hP : P a
      · rw [if_pos (decide_eq_true (hiff.mpr hP)), if_pos (decide_eq_true hP), List.map_cons,
          List.map_cons, heq hP, ih]
      · have hother : ¬ P b := mt hiff.mp hP
        rw [if_neg (by simpa using hother), if_neg (by simpa using hP), ih]

namespace World.LooksLike

variable {world other : World}

theorem companions_eq (h : world.LooksLike other) (here : Key) :
    (other.registry.entities.filter fun entity =>
        entity.IsCompanion other.player here).map Entity.companionText =
      (world.registry.entities.filter fun entity =>
        entity.IsCompanion world.player here).map Entity.companionText := by
  rw [h.player]
  exact map_filter_eq_of_forall₂ h.entities fun _ _ hlooks =>
    hlooks.agree (fun _ h => h.shows)
      (fun _ _ => ⟨fun h => ⟨h.shows, h.other, h.stands⟩, fun h => ⟨h.shows, h.other, h.stands⟩⟩)
      fun _ _ => rfl

end World.LooksLike

namespace World

variable {world other : World}

/-! ## What is said -/

theorem companions_eq (world : World) (here : Key) :
    Scope.companions world.registry world.player here =
      world.registry.entities.filter fun entity => entity.IsCompanion world.player here := by
  rw [Scope.companions_eq]
  refine List.filter_congr fun entity _ => ?_
  rw [Bool.eq_iff_iff, Scope.isCompanion_iff, decide_eq_true_iff]

end World

namespace Activity

end Activity

/-! ## A trunk in the hall -/

/-- A hall where some things lie, and something hidden. -/
def hallThings (contents : List (Key × UInt32)) (lurking : Entity) : List Entity :=
  [ (Entity.location "Hall").withContainer (Container.ofPairs contents),
    Entity.item "Coin" Weight.zero,
    lurking.hide,
    Entity.pawn "Guest" "Hall" ⟨0x4024000000000000⟩ ]

def Stage.hall (contents : List (Key × UInt32)) (lurking : Entity) : Stage where
  session := { Session.fresh with
    world := ⟨Registry.ofList (hallThings contents lurking), [], ⟨"guest"⟩, 0⟩ }
  terminal := .scripted (Script.ofLines [])
  store := .slots Slots.empty

namespace Activity

end Activity

end TextAdventure
