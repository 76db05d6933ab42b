import TextAdventure.Proofs.Vocabulary.Words

/-!
# Registries made by requests

A registry is built up from the empty one by requests, of which some may fail.  Its words
are pairwise distinct at every moment: only creation brings new words, after screening them.
-/

namespace TextAdventure

/-! ## Edits of an entity -/

/-- A change that can be made to a registered entity in place. -/
inductive Entity.Edit where
  | setNote (note text : String)
  | setStatus (status : String) (value : Int64)
  | adjustStatus (status : String) (delta : Int64)
  | clearStatus (status : String)
  | changeContainer (change : Container → Container)
  | changePawn (change : Pawn → Pawn)
  | changeDialog (change : Dialog → Dialog)

namespace Entity.Edit

def apply : Edit → Entity → Entity
  | setNote note text => (·.setNote note text)
  | setStatus status value => (·.setStatus status value)
  | adjustStatus status delta => (·.adjustStatus status delta)
  | clearStatus status => (·.clearStatus status)
  | changeContainer change => Entity.mapContainer change
  | changePawn change => Entity.mapKind (Kind.mapPawn change)
  | changeDialog change => Entity.mapKind (Kind.mapDialog change)

theorem name_apply (edit : Edit) (entity : Entity) : (edit.apply entity).name = entity.name := by
  cases edit <;> rfl

theorem key_apply (edit : Edit) (entity : Entity) : (edit.apply entity).key = entity.key := by
  cases edit <;> rfl

/-- No edit touches the record of a command. -/
theorem command?_apply (edit : Edit) (entity : Entity) :
    (edit.apply entity).kind.command? = entity.kind.command? := by
  cases edit with
  | changePawn change =>
      obtain ⟨_, _, _, _, kind, _⟩ := entity
      cases kind <;> rfl
  | changeDialog change =>
      obtain ⟨_, _, _, _, kind, _⟩ := entity
      cases kind <;> rfl
  | _ => rfl

end Entity.Edit

namespace Registry

/-! ## Requests -/

/-- What can be asked of a registry.  An entity to be created is known by the key of its own
name, as every new entity is. -/
inductive Request where
  | create (entity : Entity) (keyed : entity.IsKeyed)
  | remove (name : String)
  | clear
  | place (item holder : String) (quantity : UInt32)
  | edit (name : String) (change : Entity.Edit)

namespace Request

/-- What the registry is after a request; a request that fails leaves it as it was. -/
def carryOut (registry : Registry) : Request → Registry
  | create entity _ =>
      match registry.create entity with
      | .error _ => registry
      | .ok after => after
  | remove name => registry.erase (Key.ofName name)
  | clear => empty
  | place item holder quantity =>
      match registry.place item holder quantity with
      | .error _ => registry
      | .ok after => after
  | edit name change => registry.modify (Key.ofName name) change.apply change.key_apply

/-- The registry that requests make of the empty one, carried out in order. -/
def run (requests : List Request) : Registry :=
  requests.foldl carryOut empty

end Request

/-! ## Words after requests -/

theorem IsScreened.erase {registry : Registry} (h : registry.IsScreened) (key : Key) :
    (registry.erase key).IsScreened := by
  have hsub : (registry.erase key).entities.Sublist registry.entities := List.filter_sublist
  constructor
  · exact fun entity hentity => h.keyed entity (hsub.subset hentity)
  · exact fun entity hentity => h.typeable entity (hsub.subset hentity)
  · exact fun entity hentity => h.unbroken entity (hsub.subset hentity)
  · obtain ⟨hown, hapart⟩ := List.pairwise_flatMap.mp h.distinct
    exact List.pairwise_flatMap.mpr
      ⟨fun entity hentity => hown entity (hsub.subset hentity), hapart.sublist hsub⟩

/-- An edit that keeps the names and the records of commands keeps the words. -/
theorem IsScreened.modify {registry : Registry} (h : registry.IsScreened) (key : Key)
    {edit : Entity → Entity} (hedit : ∀ entity, (edit entity).key = entity.key)
    (hname : ∀ entity, (edit entity).name = entity.name)
    (hcommand : ∀ entity, (edit entity).kind.command? = entity.kind.command?) :
    (registry.modify key edit hedit).IsScreened := by
  constructor
  · refine forall_mem_modify h.keyed key hedit ?_
    intro entity hkeyed
    rw [Entity.IsKeyed, hedit, hname]
    exact hkeyed
  · refine forall_mem_modify h.typeable key hedit ?_
    intro entity htypeable
    rw [Entity.typedPhrases_congr (hname entity) (hcommand entity)]
    exact htypeable
  · refine forall_mem_modify h.unbroken key hedit ?_
    intro entity hunbroken command hedited
    exact hunbroken command (hcommand entity ▸ hedited)
  · have hwords : (registry.modify key edit hedit).words = registry.words := by
      rw [words, words, List.flatMap_def, List.flatMap_def, Registry.modify, List.map_map]
      refine congrArg List.flatten (List.map_congr_left fun entity _ => ?_)
      rw [Function.comp_apply, editEntry]
      split
      · exact Entity.words_congr (hname entity) (hcommand entity)
      · rfl
    rw [hwords]
    exact h.distinct

theorem IsScreened.carryOut {registry : Registry} (h : registry.IsScreened) (request : Request) :
    (request.carryOut registry).IsScreened := by
  cases request with
  | create entity keyed =>
      rw [Request.carryOut]
      split
      · exact h
      next after hcreate => exact h.create keyed hcreate
  | remove name => exact h.erase (Key.ofName name)
  | clear => exact isScreened_empty
  | place item holder quantity =>
      rw [Request.carryOut]
      split
      · exact h
      next after hplace =>
        rw [eq_mapContainer_of_place hplace]
        exact h.modify _ (Entity.Edit.changeContainer _).key_apply (fun _ => rfl) (fun _ => rfl)
  | edit name change =>
      exact h.modify _ change.key_apply change.name_apply change.command?_apply

theorem IsScreened.foldl_carryOut {registry : Registry} (h : registry.IsScreened)
    (requests : List Request) : (requests.foldl Request.carryOut registry).IsScreened := by
  induction requests generalizing registry with
  | nil => exact h
  | cons request requests ih => exact ih (h.carryOut request)

theorem isScreened_run (requests : List Request) : (Request.run requests).IsScreened :=
  isScreened_empty.foldl_carryOut requests

/-- What screening makes sure of, and no edit undoes, holds of every entity at every moment. -/
theorem Request.forall_mem_carryOut {P : Entity → Prop}
    (hscreen : ∀ registry : Registry, ∀ entity, registry.screenEntity entity = .passed → P entity)
    (hedit : ∀ change entity, P entity → P (Entity.Edit.apply change entity)) {registry : Registry}
    (h : ∀ entity ∈ registry.entities, P entity) (request : Request) :
    ∀ entity ∈ (request.carryOut registry).entities, P entity := by
  cases request with
  | create entity keyed =>
      rw [carryOut]
      split
      next => exact h
      next after hcreate =>
        unfold Registry.create at hcreate
        split at hcreate
        next hpassed =>
          cases hcreate
          rw [insert_entities (key_notMem_of_screenEntity keyed hpassed), List.forall_mem_append]
          exact ⟨h, List.forall_mem_singleton.mpr (hscreen registry entity hpassed)⟩
        next => cases hcreate
  | remove name => exact fun entity hentity => h entity (List.mem_of_mem_filter hentity)
  | clear => exact nofun
  | place item holder quantity =>
      rw [carryOut]
      split
      · exact h
      next after hplace =>
        rw [eq_mapContainer_of_place hplace]
        exact forall_mem_modify h _ (Entity.Edit.changeContainer _).key_apply (hedit _)
  | edit name change => exact forall_mem_modify h _ change.key_apply (hedit change)

theorem Request.forall_mem_run {P : Entity → Prop}
    (hscreen : ∀ registry : Registry, ∀ entity, registry.screenEntity entity = .passed → P entity)
    (hedit : ∀ change entity, P entity → P (Entity.Edit.apply change entity))
    (requests : List Request) : ∀ entity ∈ (run requests).entities, P entity := by
  have hfold : ∀ registry : Registry, (∀ entity ∈ registry.entities, P entity) →
      ∀ entity ∈ (requests.foldl carryOut registry).entities, P entity := by
    induction requests with
    | nil => exact fun registry h => h
    | cons request requests ih =>
        exact fun registry h => ih _ (forall_mem_carryOut hscreen hedit h request)
  exact hfold empty nofun

/-- The names, hotkeys and aliases in force are pairwise distinct at every moment, but for
hotkeys that repeat the name of their own command. -/
theorem nodup_words_run (requests : List Request) : (Request.run requests).words.Nodup :=
  (isScreened_run requests).distinct

end Registry

end TextAdventure
