import TextAdventure.Action.Carry
import TextAdventure.Proofs.Container.Counts
import TextAdventure.Proofs.Registry

/-!
# What a transfer changes

A transfer takes units out of the source, if so many are held there, and then adds them to the
target.  Everything but these two containers stays, and source and target may be the same.
-/

namespace TextAdventure

theorem Entity.key_mapContainer (f : Container → Container) (entity : Entity) :
    (entity.mapContainer f).key = entity.key := rfl

namespace Registry

variable {registry after : Registry} {source target item : Key} {quantity : UInt32}

/-! ## Editing one container -/

theorem get?_mapContainer (registry : Registry) (key other : Key) (f : Container → Container) :
    (registry.mapContainer key f).get? other =
      (registry.get? other).map (editEntry key (Entity.mapContainer f)) :=
  get?_modify registry key other (Entity.key_mapContainer f)

theorem container?_mapContainer (registry : Registry) (key other : Key)
    (f : Container → Container) :
    (registry.mapContainer key f).container? other =
      if other = key then (registry.container? other).map f else registry.container? other := by
  rw [container?, container?, get?_mapContainer]
  cases hget : registry.get? other with
  | none => split <;> rfl
  | some entity =>
      rw [Option.map_some, Option.bind_some, Option.bind_some, editEntry, key_of_get? hget]
      split <;> rfl

/-- Nothing that is read off the kinds depends on the containers. -/
theorem view_mapContainer {α : Type} (view : Kind → Option α) (registry : Registry)
    (key other : Key) (f : Container → Container) :
    (((registry.mapContainer key f).get? other).bind fun entity => view entity.kind) =
      (registry.get? other).bind fun entity => view entity.kind :=
  view_modify_of_kind view registry key other (Entity.key_mapContainer f) fun _ => rfl

theorem keys_mapContainer (registry : Registry) (key : Key) (f : Container → Container) :
    (registry.mapContainer key f).keys = registry.keys :=
  keys_modify registry key (Entity.key_mapContainer f)

theorem mem_keys_of_container? {key : Key} {container : Container}
    (h : registry.container? key = some container) : key ∈ registry.keys := by
  refine Decidable.byContradiction fun hnot => ?_
  rw [container?, get?_eq_none_iff.mpr hnot] at h
  cases h

theorem stacksOf_of_container? {key : Key} {container : Container}
    (h : registry.container? key = some container) :
    Scope.stacksOf registry key = container.contents := by
  rw [Scope.stacksOf, h]

theorem held_eq_quantityIn (registry : Registry) (holder item : Key) :
    registry.held holder item = Container.quantityIn item (Scope.stacksOf registry holder) := by
  rw [held, Scope.stacksOf]
  cases registry.container? holder <;> rfl

/-! ## Transfers -/

/-- A transfer is made when source and target have containers and the source holds enough. -/
theorem transfer?_eq_some_iff :
    registry.transfer? source target item quantity = some after ↔
      ∃ container lighter other, registry.container? source = some container ∧
        container.remove? item quantity = some lighter ∧
        registry.container? target = some other ∧
        after = (registry.mapContainer source fun _ => lighter).mapContainer target
          (·.add item quantity) := by
  unfold transfer?
  constructor
  · intro h
    split at h
    · cases h
    next other htarget =>
      split at h
      · cases h
      next container hsource =>
        split at h
        · cases h
        next lighter hlighter =>
          exact ⟨container, lighter, other, hsource, hlighter, htarget, (Option.some.inj h).symm⟩
  · rintro ⟨container, lighter, other, hsource, hlighter, htarget, rfl⟩
    simp only [hsource, hlighter, htarget]

theorem exists_transfer? {container other : Container}
    (hsource : registry.container? source = some container)
    (htarget : registry.container? target = some other)
    (henough : quantity ≤ registry.held source item) :
    ∃ after, registry.transfer? source target item quantity = some after := by
  rw [held_eq_quantityIn, stacksOf_of_container? hsource] at henough
  obtain ⟨rest, hrest⟩ := Option.isSome_iff_exists.mp (Container.isSome_removeFrom?_iff.mpr henough)
  refine ⟨_, transfer?_eq_some_iff.mpr ⟨container, ⟨rest⟩, other, hsource, ?_, htarget, rfl⟩⟩
  rw [Container.remove?, hrest, Option.map_some]

theorem view_transfer? {α : Type} (view : Kind → Option α)
    (h : registry.transfer? source target item quantity = some after) (other : Key) :
    ((after.get? other).bind fun entity => view entity.kind) =
      (registry.get? other).bind fun entity => view entity.kind := by
  obtain ⟨_, lighter, _, -, -, -, rfl⟩ := transfer?_eq_some_iff.mp h
  rw [view_mapContainer, view_mapContainer]

theorem item?_transfer? (h : registry.transfer? source target item quantity = some after)
    (other : Key) : after.item? other = registry.item? other :=
  view_transfer? Kind.item? h other

theorem pawn?_transfer? (h : registry.transfer? source target item quantity = some after)
    (other : Key) : after.pawn? other = registry.pawn? other :=
  view_transfer? Kind.pawn? h other

theorem keys_transfer? (h : registry.transfer? source target item quantity = some after) :
    after.keys = registry.keys := by
  obtain ⟨_, lighter, _, -, -, -, rfl⟩ := transfer?_eq_some_iff.mp h
  rw [keys_mapContainer, keys_mapContainer]

theorem isHidden_of_transfer? (h : registry.transfer? source target item quantity = some after)
    {other : Key} (hhidden : after.isHidden other = true) : registry.isHidden other = true := by
  obtain ⟨_, lighter, _, -, -, -, rfl⟩ := transfer?_eq_some_iff.mp h
  have hbetween := isHidden_of_modify (Entity.key_mapContainer _) (fun _ => id) hhidden
  exact isHidden_of_modify (Entity.key_mapContainer _) (fun _ => id) hbetween

/-- The contents of all keys before, in the middle of and after a transfer: first only the source
changes, which loses the units, and then only the target, which gets them. -/
structure Passes (before between later : Key → List Stack) (source target item : Key)
    (quantity : UInt32) : Prop where
  lightens : Container.removeFrom? item quantity (before source) = some (between source)
  between_eq : ∀ key, key ≠ source → between key = before key
  adds : later target = (Container.add ⟨between target⟩ item quantity).contents
  later_eq : ∀ key, key ≠ target → later key = between key

theorem exists_passes (h : registry.transfer? source target item quantity = some after) :
    ∃ between, Passes (Scope.stacksOf registry) between (Scope.stacksOf after) source target item
      quantity := by
  obtain ⟨container, lighter, other, hsource, hlighter, htarget, rfl⟩ :=
    transfer?_eq_some_iff.mp h
  obtain ⟨rest, hrest, rfl⟩ := Option.map_eq_some_iff.mp hlighter
  have hbetween : (registry.mapContainer source fun _ => ⟨rest⟩).container? source =
      some ⟨rest⟩ := by
    rw [container?_mapContainer, if_pos rfl, hsource, Option.map_some]
  refine ⟨Scope.stacksOf (registry.mapContainer source fun _ => ⟨rest⟩), ?_, ?_, ?_, ?_⟩
  · rw [stacksOf_of_container? hsource, stacksOf_of_container? hbetween, hrest]
  · intro key hkey
    rw [Scope.stacksOf, Scope.stacksOf, container?_mapContainer, if_neg hkey]
  · have hcontainer : ∃ middle, (registry.mapContainer source fun _ => ⟨rest⟩).container? target =
        some middle := by
      rw [container?_mapContainer, htarget]
      split
      · exact ⟨_, rfl⟩
      · exact ⟨_, rfl⟩
    obtain ⟨middle, hmiddle⟩ := hcontainer
    rw [stacksOf_of_container? hmiddle, Scope.stacksOf, container?_mapContainer, if_pos rfl,
      hmiddle, Option.map_some]
  · intro key hkey
    rw [Scope.stacksOf, Scope.stacksOf, container?_mapContainer, if_neg hkey]

namespace Passes

variable {before between later : Key → List Stack}

/-! ## Sums over what is moved -/

section Tally

variable {M : Type} [AddCommMonoid M]

theorem tally_between (h : Passes before between later source target item quantity)
    (value : Key → M) (key : Key) :
    Container.tally value (between key) +
        (if key = source then quantity.toNat • value item else 0) =
      Container.tally value (before key) := by
  split
  next hkey =>
    rw [add_comm, hkey]
    exact Container.tally_removeFrom? value h.lightens
  next hkey => rw [add_zero, h.between_eq key hkey]

/-- What the units are worth leaves the source, and at most as much is added to the target. -/
theorem tally_le [PartialOrder M] [IsOrderedAddMonoid M] [CanonicallyOrderedAdd M]
    (h : Passes before between later source target item quantity) (value : Key → M) (key : Key) :
    Container.tally value (later key) +
        (if key = source then quantity.toNat • value item else 0) ≤
      Container.tally value (before key) +
        (if key = target then quantity.toNat • value item else 0) := by
  rw [← h.tally_between value key, add_right_comm]
  refine add_le_add_left ?_ _
  split
  next hkey =>
    rw [hkey, h.adds, add_comm]
    exact Container.tally_add_le value _ item quantity
  next hkey => rw [h.later_eq key hkey, add_zero]

/-- With room for the units in the target, all that leaves the source is added there. -/
theorem tally_eq (h : Passes before between later source target item quantity)
    (hroom : (Container.quantityIn item (between target)).toNat + quantity.toNat ≤ maxCount)
    (value : Key → M) (key : Key) :
    Container.tally value (later key) +
        (if key = source then quantity.toNat • value item else 0) =
      Container.tally value (before key) +
        (if key = target then quantity.toNat • value item else 0) := by
  rw [← h.tally_between value key, add_right_comm]
  congr 1
  split
  next hkey =>
    rw [hkey, h.adds, add_comm]
    exact Container.tally_add value hroom
  next hkey => rw [h.later_eq key hkey, add_zero]

end Tally

/-! ## Tidy contents -/

theorem isTidy_between (h : Passes before between later source target item quantity)
    (htidy : ∀ key, Container.IsTidy (before key)) (key : Key) :
    Container.IsTidy (between key) := by
  by_cases hkey : key = source
  · rw [hkey]
    exact (htidy source).removeFrom? h.lightens
  · rw [h.between_eq key hkey]
    exact htidy key

theorem isTidy_later (h : Passes before between later source target item quantity)
    (htidy : ∀ key, Container.IsTidy (before key)) (key : Key) :
    Container.IsTidy (later key) := by
  by_cases hkey : key = target
  · rw [hkey, h.adds]
    exact (h.isTidy_between htidy target).add item quantity
  · rw [h.later_eq key hkey]
    exact h.isTidy_between htidy key

end Passes

/-- A transfer leaves the counts of all other items as they are. -/
theorem held_transfer?_of_ne (h : registry.transfer? source target item quantity = some after)
    {other : Key} (hne : other ≠ item) (holder : Key) :
    after.held holder other = registry.held holder other := by
  obtain ⟨between, hpasses⟩ := exists_passes h
  have hlightened : Container.quantityIn other (between holder) =
      Container.quantityIn other (Scope.stacksOf registry holder) := by
    by_cases hsource : holder = source
    · rw [hsource]
      exact Container.quantityIn_removeFrom?_of_ne hne hpasses.lightens
    · rw [hpasses.between_eq holder hsource]
  rw [held_eq_quantityIn, held_eq_quantityIn, ← hlightened]
  by_cases htarget : holder = target
  · rw [htarget, hpasses.adds]
    exact Container.quantityIn_add_of_ne hne quantity _
  · rw [hpasses.later_eq holder htarget]

end Registry

end TextAdventure
