import Mathlib.Algebra.Order.BigOperators.Group.List
import TextAdventure.Proofs.Action.HiddenThings
import TextAdventure.Proofs.Action.Replies
import TextAdventure.Proofs.OldMill.Opening
import TextAdventure.Proofs.Rulebook.Worlds
import TextAdventure.Proofs.Stage.Commands

/-!
# The Old Mill in play

Whatever is played at the mill, the player stays in its four locations, and the units that the
level has placed are neither more nor fewer.  As long as the trapdoor is hidden, no exit that shows
leads to the cellar, and nothing can be taken from where the player is not: the key stays there.
So who brings it to the meadow has been told about the trapdoor.
-/

namespace TextAdventure

namespace Entity

/-- An entity that is no longer marked as hidden shows. -/
theorem isHidden_setStatus_zero (entity : Entity) :
    (entity.setStatus hiddenStatus 0).isHidden = false := by
  have herased : (entity.setStatus hiddenStatus 0).statuses = entity.statuses.erase hiddenStatus :=
    rfl
  rw [isHidden, isSet, status, herased, Attributes.get?_erase_self]
  rfl

/-- The other statuses have no part in whether an entity shows. -/
theorem isHidden_adjustStatus_of_ne (entity : Entity) {status : String} (delta : Int64)
    (h : hiddenStatus ≠ status) : (entity.adjustStatus status delta).isHidden = entity.isHidden := by
  rw [isHidden, isHidden, isSet, isSet, Entity.status, Entity.status, adjustStatus, setStatus]
  dsimp only
  split
  · rw [Attributes.get?_insert_of_ne _ h]
  · rw [Attributes.get?_erase_of_ne _ h]

theorem isHidden_visited (entity : Entity) :
    (entity.adjustStatus visitedStatus 1).isHidden = entity.isHidden :=
  entity.isHidden_adjustStatus_of_ne 1 (by decide)

end Entity

namespace Registry

variable {registry : Registry}

/-- Who holds at least so many units holds one, even if none was asked for. -/
theorem held_ne_zero_of_holdsAtLeast {holder item : Key} {quantity : UInt32}
    (h : registry.holdsAtLeast holder item quantity = true) : registry.held holder item ≠ 0 := by
  rw [holdsAtLeast] at h
  split at h
  · cases h
  next container hcontainer =>
    rw [Registry.held, hcontainer]
    intro hnone
    dsimp only at hnone
    have hmax : max quantity 1 = if quantity ≤ 1 then 1 else quantity := rfl
    rw [hnone, decide_eq_true_eq, hmax] at h
    split at h
    · exact absurd h (by decide)
    next hlarge => exact hlarge (UInt32.le_trans h (by decide))

end Registry

theorem Container.tally_unit_le (item : Key) (contents : List Stack) :
    tally (unit item) contents ≤ (contents.map fun stack => stack.quantity.toNat).sum := by
  induction contents with
  | nil => exact Nat.le_refl _
  | cons stack rest ih =>
      rw [tally_cons, List.map_cons, List.sum_cons, Nat.nsmul_eq_mul, mul_unit]
      split
      · exact Nat.add_le_add_left ih _
      · exact Nat.add_le_add (Nat.zero_le _) ih

namespace OldMill

theorem placed_le (item : Key) : placed item ≤ 9 :=
  Container.tally_unit_le item placedStacks

theorem player_ne_cellar : OldMill.player ≠ cellar := by
  decide

/-! ## The invariant -/

/-- The player is not in the cellar, and the only key is there. -/
structure IsGuarded (world : World) : Prop where
  away : world.playerLocation? ≠ some cellar
  key : world.registry.held cellar cellarKey = 1
  alone : ∀ holder, holder ≠ cellar → world.registry.held holder cellarKey = 0

/-- A world of the mill in which only play has changed anything. -/
structure InPlay (world : World) : Prop where
  rules : ∀ entity ∈ world.registry.entities, Complies entity
  player : world.player = OldMill.player
  place : ∃ here ∈ places, world.playerLocation? = some here
  tidy : world.registry.IsTidy
  units : ∀ item, world.registry.units item = placed item
  guarded : world.registry.isHidden trapdoor = true → IsGuarded world

theorem inPlay_of_isLaidOut {result : Except Fault Unit} {world : World}
    (h : IsLaidOut result world) : InPlay world where
  rules := h.rules
  player := h.player
  place := ⟨meadow, List.mem_cons_self, h.place⟩
  tidy := h.tidy
  units := fun item => by
    rw [Registry.units, ← Container.tally_flatMap, Container.tally_perm _ h.contents, placed]
  guarded := fun _ => by
    refine ⟨?_, h.key, fun holder hholder => ?_⟩
    · rw [h.place]
      decide
    · by_cases hregistered : holder ∈ world.registry.keys
      · exact h.alone holder hregistered hholder
      · exact Registry.held_eq_zero_of_notMem_keys hregistered cellarKey

theorem canStart_of_isLaidOut {level : Level}
    (h : IsLaidOut level.draft.1 level.draft.2.world) : level.CanStart where
  completes := by
    have hcompletes := h.completes
    generalize level.draft.1 = result at hcompletes ⊢
    cases result with
    | error fault => cases hcompletes
    | ok value => rfl
  player := by
    obtain ⟨pawn, hpawn, -⟩ := Option.map_eq_some_iff.mp h.place
    exact Option.isSome_of_eq_some hpawn

/-- The game is won: the player has brought the key to the meadow, by the trapdoor. -/
structure HasComeHome (world : World) : Prop where
  place : world.playerLocation? = some meadow
  key : world.registry.held world.player cellarKey ≠ 0
  revealed : world.registry.isHidden trapdoor = false

namespace InPlay

variable {world after : World}

/-! ## Frames -/

theorem rules_of_leadsTo (h : InPlay world) {registry : Registry}
    (hleads : world.registry.LeadsTo registry) : ∀ entity ∈ registry.entities, Complies entity := by
  intro entity hentity
  obtain ⟨old, hold, hlater⟩ := hleads.entities entity hentity
  exact (h.rules old hold).leadsTo hlater

/-- What becomes of the world where nothing is carried. -/
theorem of_keepsContents (h : InPlay world)
    (hleads : world.registry.LeadsTo after.registry)
    (hcontents : world.registry.KeepsContents after.registry)
    (hplayer : after.player = world.player)
    (hplace : ∃ here ∈ places, after.playerLocation? = some here)
    (hguarded : after.registry.isHidden trapdoor = true →
      world.registry.isHidden trapdoor = true ∧ after.playerLocation? ≠ some cellar) :
    InPlay after where
  rules := h.rules_of_leadsTo hleads
  player := hplayer.trans h.player
  place := hplace
  tidy := hcontents.isTidy h.tidy
  units := fun item => (hcontents.units item).trans (h.units item)
  guarded := fun hhidden => by
    obtain ⟨hbefore, haway⟩ := hguarded hhidden
    have hold := h.guarded hbefore
    refine ⟨haway, ?_, fun holder hholder => ?_⟩
    · rw [hcontents.held]
      exact hold.key
    · rw [hcontents.held]
      exact hold.alone holder hholder

/-- An edit that has to do neither with pawns nor with containers, and that hides nothing. -/
theorem modify (h : InPlay world) (key : Key) (edit : Entity → Entity)
    (hleads : ∀ entity : Entity, entity.LeadsTo (edit entity))
    (hcontainer : ∀ entity, (edit entity).container = entity.container)
    (hpawn : ∀ entity, (edit entity).kind.pawn? = entity.kind.pawn?)
    (hhides : ∀ entity, (edit entity).isHidden = true → entity.isHidden = true) :
    InPlay { world with
      registry := world.registry.modify key edit fun entity => (hleads entity).key } := by
  have hkey (entity : Entity) : (edit entity).key = entity.key := (hleads entity).key
  have hlocation : ({ world with
      registry := world.registry.modify key edit hkey } : World).playerLocation? =
      world.playerLocation? :=
    congrArg (Option.map Pawn.location)
      (Registry.bind_get?_modify (fun entity => entity.kind.pawn?) world.registry key world.player
        hkey hpawn)
  refine h.of_keepsContents (.modify world.registry key hleads hkey)
    (Registry.keepsContents_modify world.registry key hkey hcontainer) rfl ?_ fun hhidden => ?_
  · rw [hlocation]
    exact h.place
  · have hbefore := Registry.isHidden_of_modify hkey hhides hhidden
    rw [hlocation]
    exact ⟨hbefore, (h.guarded hbefore).away⟩

/-! ## Dialogs and turns -/

theorem dropOption (h : InPlay world) (dialog : Key) (index : Nat) :
    InPlay { world with registry := world.registry.dropOption dialog index } := by
  have hpawn (kind : Kind) : (kind.mapDialog fun dialog =>
      { dialog with options := dialog.options.eraseIdx index }).pawn? = kind.pawn? := by
    cases kind <;> rfl
  exact h.modify dialog _ (.mapKind fun kind => .dropOption kind index) (fun _ => rfl)
    (fun entity => hpawn entity.kind) fun _ => id

/-- When the miller has told about it, the trapdoor is hidden no more. -/
theorem reveal (h : InPlay world) : InPlay (revelation.changeWorld world) := by
  refine h.modify trapdoor (·.setStatus Entity.hiddenStatus 0) (fun entity => .setStatus entity _ _)
    (fun _ => rfl) (fun _ => rfl) fun entity hhidden => ?_
  rw [entity.isHidden_setStatus_zero] at hhidden
  cases hhidden

theorem withTurns (h : InPlay world) (turns : UInt64) : InPlay { world with turns := turns } :=
  ⟨h.rules, h.player, h.place, h.tidy, h.units, fun hhidden => by
    have hold := h.guarded hhidden
    exact ⟨hold.away, hold.key, hold.alone⟩⟩

/-! ## Travelling -/

theorem describeLocation (h : InPlay world) : InPlay world.describeLocation.world := by
  rcases world.world_describeLocation_cases with hsame | ⟨here, hvisited⟩
  · rw [hsame]
    exact h
  · rw [hvisited]
    refine h.modify here (·.adjustStatus Entity.visitedStatus 1)
      (fun entity => .adjustStatus entity _ _) (fun _ => rfl) (fun _ => rfl) fun entity hhidden => ?_
    exact entity.isHidden_visited.symm.trans hhidden

/-- No exit leads out of the mill, and none that shows leads to the cellar if the trapdoor does
not. -/
theorem of_exitWhere (h : InPlay world) {suits : Entity → Exit → Bool} {destination : Key}
    (hexit : world.exitWhere suits = some destination) :
    destination ∈ places ∧
      (world.registry.isHidden trapdoor = true → destination ≠ cellar) := by
  obtain ⟨here, -, pair, hpair, rfl⟩ := World.exists_of_exitWhere hexit
  obtain ⟨hentity, hkind, -⟩ := Registry.of_mem_exitsFrom (List.mem_filter.mp hpair).1
  obtain ⟨hplaces, hcellar⟩ := (h.rules pair.1 hentity).exit pair.2 (by rw [hkind]; rfl)
  refine ⟨hplaces, fun hhidden hdestination => ?_⟩
  exact Scope.key_ne_of_mem_visibleExits hhidden hpair (hcellar hdestination)

theorem movePawn (h : InPlay world) {destination : Key} (hplaces : destination ∈ places)
    (hcellar : world.registry.isHidden trapdoor = true → destination ≠ cellar) :
    InPlay { world with registry := world.registry.movePawn world.player destination } := by
  have hkey := Entity.key_mapKind (Kind.mapPawn fun pawn => { pawn with location := destination })
  have hlocation : ({ world with
      registry := world.registry.movePawn world.player destination } : World).playerLocation? =
      some destination := by
    obtain ⟨here, -, hhere⟩ := h.place
    obtain ⟨pawn, hpawn, -⟩ := Option.map_eq_some_iff.mp hhere
    have hregistered : world.registry.pawn? world.player = some pawn := hpawn
    rw [World.playerLocation?, World.playerPawn?, Registry.pawn?_movePawn, hregistered]
    rfl
  refine h.of_keepsContents
    (Registry.PassesTo.movePawn world.registry world.player destination).toLeadsTo
    (Registry.keepsContents_modify world.registry world.player hkey fun _ => rfl) rfl
    ⟨destination, hplaces, hlocation⟩ fun hhidden => ?_
  have hbefore := Registry.isHidden_of_modify hkey (fun _ => id) hhidden
  rw [hlocation]
  exact ⟨hbefore, fun hsome => hcellar hbefore (Option.some.inj hsome)⟩

theorem travel (h : InPlay world) (suits : Entity → Exit → Bool) :
    InPlay (world.travel (world.exitWhere suits)).world := by
  rcases world.world_travel_cases (world.exitWhere suits) with hsame | ⟨key, hexit, hmoved⟩
  · rw [hsame]
    exact h
  · obtain ⟨hplaces, hcellar⟩ := h.of_exitWhere hexit
    rw [hmoved]
    exact (h.movePawn hplaces hcellar).describeLocation

theorem go (h : InPlay world) (operation : Operation) : InPlay (world.go operation).world := by
  rcases world.world_go_cases operation with hsame | ⟨suits, hgone⟩
  · rw [hsame]
    exact h
  · rw [hgone]
    exact h.travel suits

/-! ## Carrying -/

/-- No stack of the mill ever overflows. -/
theorem room (h : InPlay world) (source target item : Key) :
    (world.registry.held target item).toNat + (world.registry.held source item).toNat ≤
      maxCount := by
  have htarget := h.tidy.held_le_units target item
  have hsource := h.tidy.held_le_units source item
  rw [h.units] at htarget hsource
  have hplaced := placed_le item
  have hmax : 18 ≤ maxCount := by decide
  omega

/-- While the key is where the player is not, no errand moves it. -/
theorem ne_cellarKey (h : InPlay world) (hguarded : IsGuarded world) {arithmetic : Arithmetic}
    {errand : Errand} {registry : Registry} {source target item : Key}
    (hmoves : errand.Moves arithmetic world registry source target item) : item ≠ cellarKey := by
  rintro rfl
  have hsource : source ≠ cellar := by
    rintro rfl
    cases errand with
    | get operation => exact hguarded.away hmoves.source_eq
    | drop operation =>
        exact player_ne_cellar (h.player.symm.trans (Option.some.inj hmoves.source_eq))
    | put operation =>
        exact player_ne_cellar (h.player.symm.trans (Option.some.inj hmoves.source_eq))
  have henough := hmoves.enough
  rw [hguarded.alone source hsource] at henough
  have hcount : errand.count.toNat = min errand.requested.toNat maxCount :=
    toNat_clampCount hmoves.positive.le
  have hpositive := hmoves.positive
  have hmax : 0 < maxCount := by decide
  rw [UInt32.le_iff_toNat_le, hcount] at henough
  simp only [UInt32.toNat_zero] at henough
  omega

theorem errand (h : InPlay world) (arithmetic : Arithmetic) (errand : Errand) :
    InPlay (errand.reply arithmetic world).world := by
  rcases errand.world_reply_cases arithmetic world with hsame | hmoved
  · rw [hsame]
    exact h
  obtain ⟨registry, source, target, item, hmoves, hworld⟩ := hmoved
  rw [hworld]
  have htransfer := hmoves.transferred
  have hroom : (world.registry.held target item).toNat + errand.count.toNat ≤ maxCount :=
    (Nat.add_le_add_left (UInt32.le_iff_toNat_le.mp hmoves.enough) _).trans
      (h.room source target item)
  have hlocation : ({ world with registry := registry } : World).playerLocation? =
      world.playerLocation? :=
    congrArg (Option.map Pawn.location) (Registry.pawn?_transfer? htransfer world.player)
  refine ⟨h.rules_of_leadsTo (World.PassesTo.transfer htransfer).toLeadsTo, h.player, ?_,
    h.tidy.transfer? htransfer, fun other => ?_, fun hhidden => ?_⟩
  · rw [hlocation]
    exact h.place
  · exact (Registry.units_transfer? h.tidy htransfer (Or.inr hroom) other).trans (h.units other)
  · have hguarded := h.guarded (Registry.isHidden_of_transfer? htransfer hhidden)
    have hkey := (h.ne_cellarKey hguarded hmoves).symm
    refine ⟨by rw [hlocation]; exact hguarded.away, ?_, fun holder hholder => ?_⟩
    · exact (Registry.held_transfer?_of_ne htransfer hkey cellar).trans hguarded.key
    · exact (Registry.held_transfer?_of_ne htransfer hkey holder).trans
        (hguarded.alone holder hholder)

/-! ## Coming home -/

theorem condition?_eq (h : InPlay world) {key : Key} {condition : Condition}
    (hcondition : world.registry.condition? key = some condition) :
    (key = hasKey → condition = ⟨.playerHolds cellarKey 1, false⟩) ∧
      (key = inMeadow → condition = ⟨.playerAt meadow, false⟩) := by
  obtain ⟨entity, hget, hkind⟩ := Option.bind_eq_some_iff.mp hcondition
  have hrule := (h.rules entity (Registry.mem_of_get? hget)).condition condition hkind
  rw [Registry.key_of_get? hget] at hrule
  exact hrule

theorem holds_of_meets {operation : Option Operation} {key : Key}
    (hmeets : world.meets operation key = true) :
    ∃ condition, world.registry.condition? key = some condition ∧
      (condition.predicate.holds world operation != condition.negated) = true := by
  unfold World.meets at hmeets
  split at hmeets
  · cases hmeets
  next condition hcondition => exact ⟨condition, hcondition, hmeets⟩

/-- Who has the key in the meadow has been told about the trapdoor: as long as it is hidden, the
key is in the cellar. -/
theorem hasComeHome_of_meets (h : InPlay world) {operation : Option Operation}
    (hkey : world.meets operation hasKey = true)
    (hmeadow : world.meets operation inMeadow = true) : HasComeHome world := by
  obtain ⟨holding, hholding, hholds⟩ := holds_of_meets hkey
  obtain ⟨being, hbeing, hat⟩ := holds_of_meets hmeadow
  rw [(h.condition?_eq hholding).1 rfl] at hholds
  rw [(h.condition?_eq hbeing).2 rfl] at hat
  have hheld : world.registry.held world.player cellarKey ≠ 0 :=
    Registry.held_ne_zero_of_holdsAtLeast (by simpa [Predicate.holds] using hholds)
  refine ⟨by simpa [Predicate.holds] using hat, hheld, ?_⟩
  cases hhidden : world.registry.isHidden trapdoor with
  | false => rfl
  | true =>
      have halone := (h.guarded hhidden).alone world.player
      rw [h.player] at hheld halone
      exact absurd (halone player_ne_cellar) hheld

end InPlay

theorem HasComeHome.describeLocation {world : World} (h : HasComeHome world) :
    HasComeHome world.describeLocation.world := by
  rcases world.world_describeLocation_cases with hsame | ⟨here, hvisited⟩
  · rw [hsame]
    exact h
  have hkey (entity : Entity) :
      (entity.adjustStatus Entity.visitedStatus 1).key = entity.key := rfl
  have hcontents := Registry.keepsContents_modify world.registry here hkey fun _ => rfl
  have hlocation : world.describeLocation.world.playerLocation? = world.playerLocation? :=
    congrArg (Option.map Pawn.location) world.playerPawn?_describeLocation
  rw [hvisited] at hlocation ⊢
  refine ⟨hlocation.trans h.place, fun hnone => ?_, eq_false_of_ne_true fun hhidden => ?_⟩
  · exact h.key ((hcontents.held _ _).symm.trans hnone)
  · have hbefore := Registry.isHidden_of_modify hkey
      (fun entity hentity => entity.isHidden_visited.symm.trans hentity) hhidden
    exact absurd (hbefore.symm.trans h.revealed) nofun

end OldMill

end TextAdventure
