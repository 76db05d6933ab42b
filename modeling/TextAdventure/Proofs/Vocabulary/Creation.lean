import TextAdventure.Proofs.Vocabulary.Requests

/-!
# Creating entities

Every entity that is built is known by the key of its own name.  Whether it is created depends on
whether it is admitted, and nothing else becomes of the registry than that it is the last.
-/

namespace TextAdventure

/-- Whether an entity is made by the constructors, which all start from a name and a kind, and by
steps that build on them: a note, a status, a container, or a change to what its kind tells. -/
inductive Entity.IsBuilt : Entity → Prop where
  | ofKind (name : String) (kind : Kind) : IsBuilt (Entity.ofKind name kind)
  | setNote {entity : Entity} (built : IsBuilt entity) (note text : String) :
      IsBuilt (entity.setNote note text)
  | setStatus {entity : Entity} (built : IsBuilt entity) (status : String) (value : Int64) :
      IsBuilt (entity.setStatus status value)
  | withContainer {entity : Entity} (built : IsBuilt entity) (container : Container) :
      IsBuilt (entity.withContainer container)
  | mapKind {entity : Entity} (built : IsBuilt entity) (change : Kind → Kind) :
      IsBuilt (entity.mapKind change)

theorem Entity.IsBuilt.isKeyed {entity : Entity} (h : entity.IsBuilt) : entity.IsKeyed := by
  induction h with
  | ofKind name kind => rfl
  | setNote _ _ _ ih => exact ih
  | setStatus _ _ _ ih => exact ih
  | withContainer _ _ ih => exact ih
  | mapKind _ _ ih => exact ih

namespace Registry

theorem create_eq_ok_iff {registry after : Registry} {entity : Entity} :
    registry.create entity = .ok after ↔
      registry.screenEntity entity = .passed ∧ after = registry.insert entity := by
  unfold create
  split
  next hpassed => simp [hpassed, eq_comm]
  next hrefused =>
    have hne : registry.screenEntity entity ≠ .passed := hrefused
    simp [hne]

theorem create_eq_error_iff {registry : Registry} {entity : Entity} {fault : Fault} :
    registry.create entity = .error fault ↔
      registry.screenEntity entity ≠ .passed ∧
        fault = Fault.ofCause (.configuration entity.name (registry.screenEntity entity)) := by
  unfold create
  split
  next hpassed => simp [hpassed]
  next hrefused =>
    have hne : registry.screenEntity entity ≠ .passed := hrefused
    simp only [Except.error.injEq, hne, ne_eq, not_false_eq_true, true_and]
    exact eq_comm

/-- A new entity is accepted exactly if it is admitted, and it is then the last of the registry.  An
entity that is refused leaves the registry as it was, and the fault tells the first requirement that
it does not meet. -/
theorem create_iff_admits (registry : Registry) {entity : Entity} (hbuilt : entity.IsBuilt) :
    ((∃ after, registry.create entity = .ok after) ↔ registry.Admits entity) ∧
      (∀ after, registry.create entity = .ok after →
        after.entities = registry.entities ++ [entity]) ∧
      ∀ fault, registry.create entity = .error fault →
        (Request.create entity hbuilt.isKeyed).carryOut registry = registry ∧
          ∃ before requirement later,
            registry.requirements entity = before ++ requirement :: later ∧
              (∀ earlier ∈ before, earlier.condition) ∧ ¬requirement.condition ∧
                fault = Fault.ofCause (.configuration entity.name requirement.verdict) := by
  refine ⟨?_, ?_, ?_⟩
  · simp only [create_eq_ok_iff, exists_and_left, exists_eq, and_true]
    exact screenEntity_eq_passed_iff
  · intro after hcreate
    obtain ⟨hpassed, rfl⟩ := create_eq_ok_iff.mp hcreate
    exact insert_entities (key_notMem_of_screenEntity hbuilt.isKeyed hpassed)
  · intro fault hcreate
    obtain ⟨hrefused, rfl⟩ := create_eq_error_iff.mp hcreate
    obtain ⟨before, first, later, hsplit, hbefore, hunmet, hverdict⟩ :=
      (registry.settle_screenEntity entity).exists_first hrefused
    refine ⟨?_, before, first, later, hsplit, hbefore, hunmet, by rw [hverdict]⟩
    rw [Request.carryOut, hcreate]

/-- A registry with a single action. -/
def grasp : Registry :=
  ofList [Entity.action "get" "g" .get]

/-- An action with two aliases, of which the second is more than one word. -/
def climb : Entity :=
  ((Entity.action "climb" "cl" .wait).withAlias "Scale").withAlias "go up "

/-- The words of the action are accepted next to those of another, and a third alias that repeats
the first one is not. -/
theorem create_iff_admits_climb :
    climb.IsBuilt ∧ (climb.withAlias "SCALE").IsBuilt ∧
      ∃ after fault, grasp.create climb = .ok after ∧ grasp.Admits climb ∧
        after.entities = grasp.entities ++ [climb] ∧
        grasp.create (climb.withAlias "SCALE") = .error fault ∧
        ∃ requirement ∈ grasp.requirements (climb.withAlias "SCALE"),
          ¬requirement.condition ∧ requirement.verdict = .aliasDuplication := by
  have hbuilt : climb.IsBuilt := ((Entity.IsBuilt.ofKind _ _).mapKind _).mapKind _
  have hrepeats : (climb.withAlias "SCALE").IsBuilt := hbuilt.mapKind _
  have hpassed : grasp.screenEntity climb = .passed := by decide +kernel
  have hrefused : grasp.screenEntity (climb.withAlias "SCALE") = .aliasDuplication := by
    decide +kernel
  have hcreate := create_eq_ok_iff.mpr ⟨hpassed, rfl⟩
  have hfails := create_eq_error_iff.mpr ⟨by rw [hrefused]; decide, rfl⟩
  obtain ⟨hmeets, happended, -⟩ := create_iff_admits grasp hbuilt
  obtain ⟨-, before, requirement, later, hsplit, -, hunmet, hfault⟩ :=
    (create_iff_admits grasp hrepeats).2.2 _ hfails
  have hverdict := (Cause.configuration.inj (Fault.mk.inj hfault).1).2
  exact ⟨hbuilt, hrepeats, _, _, hcreate, hmeets.mp ⟨_, hcreate⟩, happended _ hcreate, hfails,
    requirement, by simp [hsplit], hunmet, hverdict.symm.trans hrefused⟩

end Registry

end TextAdventure
