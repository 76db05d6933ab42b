import Mathlib.Data.List.Forall2
import TextAdventure.Proofs.Action.Replies
import TextAdventure.Proofs.Attributes
import TextAdventure.Proofs.Input.Denotations
import TextAdventure.Proofs.Soundness.Entities
import TextAdventure.Stage.Command

/-!
# Journeys

A player who moves in a direction or goes somewhere takes the first way out that shows and is asked
for, and gets to where it leads if that is a registered location.  Then the player's pawn stands
there and the place has been visited once more; nothing else is changed, and without such a way out
nothing is changed at all.
-/

namespace TextAdventure

/-! ## One more visit -/

theorem toInt_addStatuses_one (value : Int64) :
    (addStatuses value 1).toInt = min 0x7FFFFFFFFFFFFFFF (value.toInt + 1) := by
  have hone : (1 : Int64).toInt = 1 := rfl
  have hlow := value.le_toInt
  rw [addStatuses, hone, Int64.toInt_ofInt_of_le]
  · omega
  · omega
  · omega

namespace Entity

/-- A status goes up by one, unless it is the largest there is; below zero none is kept. -/
theorem toInt_status_adjustStatus (entity : Entity) (status : String) :
    ((entity.adjustStatus status 1).status status).toInt =
      max 0 (min 0x7FFFFFFFFFFFFFFF ((entity.status status).toInt + 1)) := by
  have hsum := toInt_addStatuses_one (entity.status status)
  rw [adjustStatus, setStatus]
  split
  next hpositive =>
    rw [Int64.lt_iff_toInt_lt, hsum, Int64.toInt_zero] at hpositive
    rw [Entity.status, Attributes.get?_insert_self, Option.getD_some, hsum]
    omega
  next hcleared =>
    rw [Int64.lt_iff_toInt_lt, hsum, Int64.toInt_zero] at hcleared
    rw [Entity.status, Attributes.get?_erase_self, Option.getD_none, Int64.toInt_zero]
    omega

theorem get?_statuses_adjustStatus (entity : Entity) {status other : String} (h : other ≠ status)
    (delta : Int64) :
    (entity.adjustStatus status delta).statuses.get? other = entity.statuses.get? other := by
  rw [adjustStatus, setStatus]
  split
  · exact Attributes.get?_insert_of_ne _ h _
  · exact Attributes.get?_erase_of_ne _ h

end Entity

/-! ## What an operation asks for -/

/-- The phrase that says where to go. -/
def Operation.wayPhrase (operation : Operation) : NounPhrase :=
  if operation.directPhrase.isEmpty then operation.indirectPhrase else operation.directPhrase

/-- Whether an operation asks for an exit.  A movement does by its own direction, and going
somewhere by a phrase that names the exit or its direction. -/
inductive Operation.AsksFor (operation : Operation) (way : Entity) (exit : Exit) :
    Behavior → Prop where
  | along (hdirection : exit.direction = some operation.command) : AsksFor operation way exit .move
  | byName (hnames : operation.wayPhrase.Names way.key) : AsksFor operation way exit .go
  | byDirection {direction : Key} (hdirection : exit.direction = some direction)
      (hnames : operation.wayPhrase.Names direction) : AsksFor operation way exit .go

/-- Whether an entity is a way out of a place that shows and is asked for. -/
def Operation.Fits (operation : Operation) (behavior : Behavior) (here : Key) (way : Entity) :
    Prop :=
  way.IsWayOut here ∧ ∃ exit, way.kind = .exit exit ∧ operation.AsksFor way exit behavior

/-- Whether every exit leads to a normal key. -/
def Registry.HasNormalWays (registry : Registry) : Prop :=
  ∀ entity ∈ registry.entities, ∀ exit ∈ entity.kind.exit?, exit.destination.IsNormal

instance (registry : Registry) : Decidable registry.HasNormalWays :=
  inferInstanceAs (Decidable (∀ entity ∈ registry.entities, ∀ exit ∈ entity.kind.exit?,
    exit.destination.IsNormal))

/-- What a journey to a destination makes of an entity. -/
inductive Entity.Travels (player destination : Key) (entity : Entity) : Entity → Prop where
  | moved {pawn : Pawn} (hkey : entity.key = player) (hkind : entity.kind = .pawn pawn) :
      Travels player destination entity
        { entity with kind := .pawn { pawn with location := destination } }
  | visited {statuses : Attributes Int64} (hkey : entity.key = destination)
      (hcount : (({ entity with statuses := statuses } : Entity).status visitedStatus).toInt =
        max 0 (min 0x7FFFFFFFFFFFFFFF ((entity.status visitedStatus).toInt + 1)))
      (hothers : ∀ status ≠ visitedStatus, statuses.get? status = entity.statuses.get? status) :
      Travels player destination entity { entity with statuses := statuses }
  | elsewhere (hplayer : entity.key ≠ player) (hdestination : entity.key ≠ destination) :
      Travels player destination entity entity

/-- What becomes of a world when the player asks for a way out. -/
inductive World.Departs (operation : Operation) (behavior : Behavior) (before : World) :
    World → Prop where
  /-- The first way out that is asked for leads to a registered location. -/
  | arrives {pawn : Pawn} {way place : Entity} {exit : Exit} {registry : Registry}
      (hstands : before.registry.pawn? before.player = some pawn)
      (hway : IsFirst (operation.Fits behavior pawn.location) before.registry.entities way)
      (hexit : way.kind = .exit exit)
      (hplace : place ∈ before.registry.entities) (hlocation : place.kind = .location)
      (hleads : place.key = exit.destination)
      (hmoved : registry.pawn? before.player = some { pawn with location := place.key })
      (hentities : List.Forall₂ (Entity.Travels before.player place.key)
        before.registry.entities registry.entities) :
      Departs operation behavior before { before with registry := registry }
  | stays (hnowhere : ∀ pawn way exit place, before.registry.pawn? before.player = some pawn →
        IsFirst (operation.Fits behavior pawn.location) before.registry.entities way →
        way.kind = .exit exit → place ∈ before.registry.entities → place.kind = .location →
        place.key ≠ exit.destination) :
      Departs operation behavior before before

namespace Scope

/-- A search among the ways out that show finds the first one, as an exit, that is suitable. -/
theorem find?_visibleExits_eq_some_iff {registry : Registry} {here : Key}
    {suits : Entity → Exit → Bool} {way : Entity} {exit : Exit} :
    (visibleExits registry here).find? (fun pair => suits pair.1 pair.2) = some (way, exit) ↔
      way.kind = .exit exit ∧
        IsFirst (fun entity => entity.IsWayOut here ∧
          ∃ exit, entity.kind = .exit exit ∧ suits entity exit = true) registry.entities way := by
  have hsuits : ∀ entity : Entity, Option.any (fun pair => suits pair.1 pair.2)
      ((entity.kind.exit?.filter fun exit => exit.origin = here && !entity.isHidden).map
        fun exit => (entity, exit)) = true ↔
        entity.IsWayOut here ∧ ∃ exit, entity.kind = .exit exit ∧ suits entity exit = true := by
    intro entity
    simp only [Option.any_map, Option.any_filter, Option.any_eq_true, Kind.exit?_eq_some_iff,
      Bool.and_eq_true, decide_eq_true_eq, Bool.not_eq_true']
    constructor
    · rintro ⟨exit, hkind, ⟨horigin, hshows⟩, hsuits⟩
      exact ⟨⟨hshows, exit, hkind, horigin⟩, exit, hkind, hsuits⟩
    · rintro ⟨⟨hshows, exit, hkind, horigin⟩, other, hother, hsuits⟩
      cases hkind.symm.trans hother
      exact ⟨exit, hkind, ⟨horigin, hshows⟩, hsuits⟩
  rw [visibleExits_eq, List.find?_filterMap, Option.bind_eq_some_iff]
  simp only [List.find?_eq_some_iff_append, Bool.not_eq_true', ← Bool.not_eq_true, hsuits]
  constructor
  · rintro ⟨entity, hfirst, hpair⟩
    obtain ⟨found, hfound, heq⟩ := Option.map_eq_some_iff.mp hpair
    cases heq
    exact ⟨Kind.eq_exit_of_exit? (Option.filter_eq_some_iff.mp hfound).1, hfirst⟩
  · rintro ⟨hkind, hfirst⟩
    obtain ⟨⟨hshows, other, hother, horigin⟩, -⟩ := hfirst.1
    cases hkind.symm.trans hother
    exact ⟨way, hfirst, by simp [Kind.exit?, hkind, horigin, hshows]⟩

end Scope

namespace Registry

/-- A location is not a pawn that could be moved. -/
theorem location?_movePawn {registry : Registry} {destination : Key} {place : Entity}
    (h : registry.location? destination = some place) (player location : Key) :
    (registry.movePawn player location).location? destination = some place := by
  obtain ⟨hget, hlocation⟩ := Option.filter_eq_some_iff.mp h
  have hkind : ∀ f : Pawn → Pawn, place.kind.mapPawn f = place.kind := by
    intro f
    rw [(location?_eq_some_iff.mp h).2.2, Kind.mapPawn]
    exact nofun
  refine Option.filter_eq_some_iff.mpr ⟨?_, hlocation⟩
  refine (get?_modify registry player destination (Entity.key_mapKind _)).trans ?_
  rw [hget, Option.map_some, editEntry, Entity.mapKind, hkind, ite_self]

end Registry

namespace World

variable {world : World} {operation : Operation} {behavior : Behavior}

theorem world_describeLocation {here : Key} {place : Entity}
    (hhere : world.playerLocation? = some here) (hnormal : here.IsNormal)
    (hplace : world.registry.location? here = some place) :
    world.describeLocation.world =
      { world with registry := world.registry.adjustStatus here Entity.visitedStatus 1 } := by
  have hnamed : Key.ofName here.text = here := hnormal
  simp only [describeLocation, hhere, hnamed, hplace]

theorem world_travel_of_location? {pawn : Pawn} {destination : Key} {place : Entity}
    (hstands : world.registry.pawn? world.player = some pawn) (hnormal : destination.IsNormal)
    (hplace : world.registry.location? destination = some place) :
    (world.travel (some destination)).world =
      { world with
        registry := (world.registry.movePawn world.player destination).adjustStatus destination
          Entity.visitedStatus 1 } := by
  have hnamed : Key.ofName destination.text = destination := hnormal
  have hmoved : ({ world with
      registry := world.registry.movePawn world.player destination } : World).playerLocation? =
        some destination := by
    rw [playerLocation?_eq, Registry.pawn?_movePawn, hstands]
    rfl
  simp only [travel, hnamed, hplace]
  exact world_describeLocation hmoved hnormal (Registry.location?_movePawn hplace _ _)

theorem world_travel_of_location?_eq_none {destination : Key} (hnormal : destination.IsNormal)
    (hplace : world.registry.location? destination = none) :
    (world.travel (some destination)).world = world := by
  have hnamed : Key.ofName destination.text = destination := hnormal
  simp only [travel, hnamed, hplace]
  rfl

/-- What a journey makes of the registered entities, one by one. -/
theorem forall₂_travels {registry : Registry} {player destination : Key} {pawn : Pawn}
    {place : Entity} (hstands : registry.pawn? player = some pawn)
    (hplace : registry.location? destination = some place) :
    List.Forall₂ (Entity.Travels player destination) registry.entities
      ((registry.movePawn player destination).adjustStatus destination
        Entity.visitedStatus 1).entities := by
  obtain ⟨hmem, rfl, hlocation⟩ := Registry.location?_eq_some_iff.mp hplace
  obtain ⟨mover, hmover, hpawn⟩ := Option.bind_eq_some_iff.mp hstands
  -- The place is a location and the player is a pawn, so that no entity is both.
  have hapart : place.key ≠ player := by
    rintro rfl
    cases (Registry.get?_of_mem hmem).symm.trans hmover
    cases hlocation.symm.trans (Kind.eq_pawn_of_pawn? hpawn)
  refine List.forall₂_map_right_iff.mpr (List.forall₂_map_right_iff.mpr ?_)
  refine List.forall₂_same.mpr fun entity hentity => ?_
  by_cases hplayer : entity.key = player
  · subst hplayer
    cases (Registry.get?_of_mem hentity).symm.trans hmover
    have hkind := Kind.eq_pawn_of_pawn? hpawn
    rw [Registry.editEntry, Registry.editEntry, if_pos rfl, Entity.key_mapKind,
      if_neg (Ne.symm hapart), Entity.mapKind, hkind, Kind.mapPawn]
    exact .moved rfl hkind
  · have hstill : Registry.editEntry player (Entity.mapKind (Kind.mapPawn fun pawn =>
        { pawn with location := place.key })) entity = entity := if_neg hplayer
    rw [hstill]
    by_cases hdestination : entity.key = place.key
    · rw [Registry.editEntry, if_pos hdestination]
      exact .visited hdestination (entity.toInt_status_adjustStatus _)
        fun status hother => entity.get?_statuses_adjustStatus hother 1
    · rw [Registry.editEntry, if_neg hdestination]
      exact .elsewhere hplayer hdestination

theorem departs_of_location? {pawn : Pawn} {way place : Entity} {exit : Exit}
    (hstands : world.registry.pawn? world.player = some pawn)
    (hway : IsFirst (operation.Fits behavior pawn.location) world.registry.entities way)
    (hexit : way.kind = .exit exit)
    (hplace : world.registry.location? exit.destination = some place) :
    world.Departs operation behavior
      { world with
        registry := (world.registry.movePawn world.player exit.destination).adjustStatus
          exit.destination Entity.visitedStatus 1 } := by
  obtain ⟨hmem, hkey, hlocation⟩ := Registry.location?_eq_some_iff.mp hplace
  have hmoved : ((world.registry.movePawn world.player exit.destination).adjustStatus
      exit.destination Entity.visitedStatus 1).pawn? world.player =
        some { pawn with location := exit.destination } := by
    have hkeeps : ∀ entity : Entity,
        (entity.adjustStatus Entity.visitedStatus 1).key = entity.key := fun _ => rfl
    refine (Registry.view_modify_of_kind Kind.pawn? _ _ world.player hkeeps fun _ => rfl).trans ?_
    rw [← Registry.pawn?, Registry.pawn?_movePawn, hstands]
    rfl
  have hentities := forall₂_travels hstands hplace
  rw [← hkey] at hmoved hentities ⊢
  exact .arrives hstands hway hexit hmem hlocation hkey hmoved hentities

/-- The first way out that an operation asks for is the one that is found by looking for it. -/
theorem isFirst_fits_iff {suits : Entity → Exit → Bool}
    (hsuits : ∀ way exit, suits way exit = true ↔ operation.AsksFor way exit behavior)
    {here : Key} {way : Entity} {exit : Exit} (hexit : way.kind = .exit exit) :
    IsFirst (operation.Fits behavior here) world.registry.entities way ↔
      (Scope.visibleExits world.registry here).find? (fun pair => suits pair.1 pair.2) =
        some (way, exit) := by
  rw [Scope.find?_visibleExits_eq_some_iff, and_iff_right hexit]
  simp only [hsuits]
  exact Iff.rfl

/-- The way out that is found is taken, unless it leads nowhere. -/
theorem departs_of_find? (hnormal : world.registry.HasNormalWays)
    {suits : Entity → Exit → Bool}
    (hsuits : ∀ way exit, suits way exit = true ↔ operation.AsksFor way exit behavior)
    {pawn : Pawn} {way : Entity} {exit : Exit}
    (hstands : world.registry.pawn? world.player = some pawn)
    (hfind : (Scope.visibleExits world.registry pawn.location).find?
      (fun pair => suits pair.1 pair.2) = some (way, exit)) :
    world.Departs operation behavior (world.travel (some exit.destination)).world := by
  obtain ⟨hexit, hfirst⟩ := Scope.find?_visibleExits_eq_some_iff.mp hfind
  have hway : IsFirst (operation.Fits behavior pawn.location) world.registry.entities way :=
    (isFirst_fits_iff hsuits hexit).mpr hfind
  have hdestination : exit.destination.IsNormal :=
    hnormal way hfirst.mem exit (Kind.exit?_eq_some_iff.mpr hexit)
  cases hplace : world.registry.location? exit.destination with
  | none =>
      rw [world_travel_of_location?_eq_none hdestination hplace]
      refine .stays fun other otherWay otherExit place hother hotherWay hotherExit hmem
        hlocation hkey => ?_
      cases hstands.symm.trans hother
      cases hway.unique hotherWay
      cases hexit.symm.trans hotherExit
      cases hplace.symm.trans (Registry.location?_eq_some_iff.mpr ⟨hmem, hkey, hlocation⟩)
  | some place =>
      rw [world_travel_of_location? hstands hdestination hplace]
      exact departs_of_location? hstands hway hexit hplace

/-- Whoever looks for a way out that an operation asks for departs by it, or stays. -/
theorem departs_travel (hnormal : world.registry.HasNormalWays)
    {suits : Entity → Exit → Bool}
    (hsuits : ∀ way exit, suits way exit = true ↔ operation.AsksFor way exit behavior) :
    world.Departs operation behavior (world.travel (world.exitWhere suits)).world := by
  rw [exitWhere, playerLocation?_eq]
  cases hstands : world.registry.pawn? world.player with
  | none =>
      refine .stays fun pawn _ _ _ hpawn => ?_
      cases hstands.symm.trans hpawn
  | some pawn =>
      rw [Option.map_some, Option.bind_some]
      cases hfind : (Scope.visibleExits world.registry pawn.location).find? fun pair =>
          suits pair.1 pair.2 with
      | none =>
          refine .stays fun other way exit place hother hway hexit => ?_
          cases hstands.symm.trans hother
          cases hfind.symm.trans ((isFirst_fits_iff hsuits hexit).mp hway)
      | some taken => exact departs_of_find? hnormal hsuits hstands hfind

theorem asksFor_move_iff {way : Entity} {exit : Exit} :
    (exit.direction == some operation.command) = true ↔ operation.AsksFor way exit .move := by
  rw [beq_iff_eq]
  refine ⟨.along, fun h => ?_⟩
  cases h with
  | along hdirection => exact hdirection

theorem asksFor_go_iff {way : Entity} {exit : Exit} :
    phraseSuits operation.wayPhrase way exit = true ↔ operation.AsksFor way exit .go := by
  have hsuits : phraseSuits operation.wayPhrase way exit =
      (operation.wayPhrase.names way.key || exit.direction.any operation.wayPhrase.names) := by
    rw [phraseSuits]
    cases exit.direction <;> rfl
  rw [hsuits, Bool.or_eq_true, Option.any_eq_true, NounPhrase.names_iff_names]
  simp only [NounPhrase.names_iff_names]
  constructor
  · rintro (hname | ⟨direction, hdirection, hname⟩)
    · exact .byName hname
    · exact .byDirection hdirection hname
  · intro h
    cases h with
    | byName hname => exact Or.inl hname
    | byDirection hdirection hname => exact Or.inr ⟨_, hdirection, hname⟩

theorem departs_moveAlong (hnormal : world.registry.HasNormalWays) :
    world.Departs operation .move (world.moveAlong operation).world :=
  departs_travel hnormal fun _ _ => asksFor_move_iff

/-- An empty phrase asks for no way out. -/
theorem departs_go (hnormal : world.registry.HasNormalWays) :
    world.Departs operation .go (world.go operation).world := by
  by_cases hempty : operation.wayPhrase.isEmpty = true
  · have hreply : world.go operation = Reply.saying world "Go where?" := if_pos hempty
    have hwords : operation.wayPhrase.words = [] := List.isEmpty_iff.mp hempty
    rw [hreply]
    refine .stays fun _ _ _ _ _ hway => ?_
    obtain ⟨-, exit, -, hasked⟩ := hway.1
    cases hasked with
    | byName hnames => exact absurd hwords hnames.words_ne_nil
    | byDirection _ hnames => exact absurd hwords hnames.words_ne_nil
  · have hreply : world.go operation =
        world.travel (world.exitWhere (phraseSuits operation.wayPhrase)) := if_neg hempty
    rw [hreply]
    exact departs_travel hnormal fun _ _ => asksFor_go_iff

/-- Whether the player of a world has gone through an exit that shows to a registered location. -/
structure Reaches (before after : World) (way place : Entity) (exit : Exit) : Prop where
  way_mem : way ∈ before.registry.entities
  way_kind : way.kind = .exit exit
  way_shows : way.isHidden = false
  origin : before.playerLocation? = some exit.origin
  place_mem : place ∈ before.registry.entities
  place_kind : place.kind = .location
  destination : exit.destination = place.key
  location : after.playerLocation? = some place.key

/-- Whoever does not get anywhere is left where it is. -/
theorem Departs.stays_or_reaches {after : World} (h : world.Departs operation behavior after) :
    after.playerLocation? = world.playerLocation? ∨
      ∃ way place exit, world.Reaches after way place exit := by
  cases h with
  | arrives hstands hway hexit hplace hlocation hleads hmoved _ =>
      obtain ⟨⟨hshows, exit, hkind, horigin⟩, -⟩ := hway.1
      cases hexit.symm.trans hkind
      refine Or.inr ⟨_, _, _, hway.mem, hexit, hshows, ?_, hplace, hlocation, hleads.symm, ?_⟩
      · rw [playerLocation?_eq, hstands, Option.map_some, horigin]
      · rw [playerLocation?_eq, hmoved, Option.map_some]
  | stays _ => exact Or.inl rfl

end World

namespace Activity

/-- Moving and going take the player along the first way out that shows and is asked for, or leave
the world alone: never through a hidden exit, and never to what is not a registered location. -/
theorem departs_runBehavior (handlers : Handlers) {operation : Operation} {behavior : Behavior}
    {stage : Stage} (hbehavior : behavior = .move ∨ behavior = .go)
    (hnormal : stage.session.world.registry.HasNormalWays) :
    let after := ((runBehavior handlers operation behavior).perform stage).2.session.world
    stage.session.world.Departs operation behavior after ∧
      (after.playerLocation? = stage.session.world.playerLocation? ∨
        ∃ way place exit, stage.session.world.Reaches after way place exit) := by
  have hdeparts : stage.session.world.Departs operation behavior
      ((runBehavior handlers operation behavior).perform stage).2.session.world := by
    rcases hbehavior with rfl | rfl
    · exact World.departs_moveAlong hnormal
    · exact World.departs_go hnormal
  exact ⟨hdeparts, hdeparts.stays_or_reaches⟩

end Activity

/-! ## Two ways to the north -/

/-- A lane whose visits have been counted below zero. -/
def Entity.lane : Entity :=
  { Entity.location "Lane" with
    statuses := ⟨[(Entity.visitedStatus, -5)], List.pairwise_singleton _ _⟩ }

/-- From the yard a hidden tunnel leads north to the cellar, and a gate to the lane. -/
def World.yard : World where
  registry := Registry.ofList [
    Entity.location "Yard",
    Entity.lane,
    Entity.location "Cellar",
    ((Entity.exit "Tunnel" "Yard" "Cellar").withDirection "North").hide,
    (Entity.exit "Gate" "Yard" "Lane").withDirection "North",
    Entity.pawn "Walker" "Yard" ⟨0x4024000000000000⟩]
  active := []
  player := ⟨"walker"⟩
  turns := 0

def Stage.yard : Stage where
  session := { Session.fresh with world := World.yard }
  terminal := .scripted (Script.ofLines [])
  store := .slots Slots.empty

namespace Activity

/-- The walker gets to the lane by the gate. -/
theorem departs_runBehavior_yard :
    Stage.yard.session.world.registry.HasNormalWays ∧
      let after := ((runBehavior [] (Operation.bare "north") .move).perform
        Stage.yard).2.session.world
      World.yard.Departs (Operation.bare "north") .move after ∧
        ∃ way place exit, World.yard.Reaches after way place exit := by
  have hnormal : Stage.yard.session.world.registry.HasNormalWays := by decide +kernel
  have hmoved : ((runBehavior [] (Operation.bare "north") .move).perform
      Stage.yard).2.session.world.playerLocation? ≠ World.yard.playerLocation? := by
    decide +kernel
  obtain ⟨hdeparts, hreaches⟩ := departs_runBehavior [] (Or.inl rfl) hnormal
  exact ⟨hnormal, hdeparts, hreaches.resolve_left hmoved⟩

/-- The lane has not been visited minus four times then, but not at all. -/
theorem not_visited_once_more_lane :
    World.yard.registry.HasNormalWays ∧
      IsFirst ((Operation.bare "north").Fits .move ⟨"yard"⟩) World.yard.registry.entities
        ((Entity.exit "Gate" "Yard" "Lane").withDirection "North") ∧
      World.yard.registry.location? ⟨"lane"⟩ = some Entity.lane ∧
      (Entity.lane.status Entity.visitedStatus).toInt = -5 ∧
      ∃ later,
        ((runBehavior [] (Operation.bare "north") .move).perform
          Stage.yard).2.session.world.registry.location? ⟨"lane"⟩ = some later ∧
        (later.status Entity.visitedStatus).toInt ≠ -4 := by
  have hgate : ((Entity.exit "Gate" "Yard" "Lane").withDirection "North").kind =
      .exit ⟨⟨"yard"⟩, ⟨"lane"⟩, some ⟨"north"⟩⟩ := by
    decide +kernel
  refine ⟨by decide +kernel, ?_, by decide +kernel, by decide +kernel, ?_⟩
  · exact (World.isFirst_fits_iff (fun _ _ => World.asksFor_move_iff) hgate).mpr
      (by decide +kernel)
  · exact ⟨Entity.lane.adjustStatus Entity.visitedStatus 1, by decide +kernel, by decide +kernel⟩

end Activity

end TextAdventure
