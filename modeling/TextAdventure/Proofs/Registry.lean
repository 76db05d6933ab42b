import TextAdventure.Registry

/-!
# Entries of a registry

What registering, removing and editing entities do to the entities of a registry.
-/

namespace TextAdventure

/-! ## Kinds -/

theorem Kind.eq_exit_of_exit? {kind : Kind} {record : Exit} (h : kind.exit? = some record) :
    kind = .exit record := by
  cases kind with
  | exit other => exact congrArg Kind.exit (Option.some.inj h)
  | _ => cases h

theorem Kind.eq_pawn_of_pawn? {kind : Kind} {record : Pawn} (h : kind.pawn? = some record) :
    kind = .pawn record := by
  cases kind with
  | pawn other => exact congrArg Kind.pawn (Option.some.inj h)
  | _ => cases h

theorem Kind.eq_event_of_event? {kind : Kind} {record : Event}
    (h : kind.event? = some record) : kind = .event record := by
  cases kind with
  | event other => exact congrArg Kind.event (Option.some.inj h)
  | _ => cases h

theorem Kind.eq_dialog_of_dialog? {kind : Kind} {record : Dialog}
    (h : kind.dialog? = some record) : kind = .dialog record := by
  cases kind with
  | dialog other => exact congrArg Kind.dialog (Option.some.inj h)
  | _ => cases h

theorem Kind.eq_command_of_command? {kind : Kind} {record : Command}
    (h : kind.command? = some record) : kind = .command record := by
  cases kind with
  | command other => exact congrArg Kind.command (Option.some.inj h)
  | _ => cases h

theorem Kind.pawn?_mapPawn (f : Pawn → Pawn) (kind : Kind) :
    (kind.mapPawn f).pawn? = kind.pawn?.map f := by
  cases kind <;> rfl

theorem Entity.key_mapKind (f : Kind → Kind) (entity : Entity) :
    (entity.mapKind f).key = entity.key := rfl

namespace Registry

/-! ## Views -/

theorem isSome_get?_iff {registry : Registry} {key : Key} :
    (registry.get? key).isSome = true ↔ key ∈ registry.keys := by
  rw [Option.isSome_iff_ne_none, ne_eq, get?_eq_none_iff, Decidable.not_not]

theorem contains_iff (registry : Registry) (name : String) :
    registry.contains name = true ↔ Key.ofName name ∈ registry.keys :=
  isSome_get?_iff

theorem mem_commands {registry : Registry} {entity : Entity} {command : Command}
    (hentity : entity ∈ registry.entities) (hkind : entity.kind = .command command) :
    (entity, command) ∈ registry.commands := by
  rw [commands, withRecord, List.mem_filterMap]
  exact ⟨entity, hentity, by rw [hkind]; rfl⟩

theorem of_mem_commands {registry : Registry} {entity : Entity} {command : Command}
    (h : (entity, command) ∈ registry.commands) :
    entity ∈ registry.entities ∧ entity.kind = .command command := by
  obtain ⟨other, hentity, hpair⟩ := List.mem_filterMap.mp h
  obtain ⟨record, hkind, heq⟩ := Option.map_eq_some_iff.mp hpair
  cases heq
  exact ⟨hentity, Kind.eq_command_of_command? hkind⟩

/-- An exit that leads away from a location is a registered one with its own record. -/
theorem of_mem_exitsFrom {registry : Registry} {location : Key} {pair : Entity × Exit}
    (h : pair ∈ registry.exitsFrom location) :
    pair.1 ∈ registry.entities ∧ pair.1.kind = .exit pair.2 ∧ pair.2.origin = location := by
  obtain ⟨hrecord, horigin⟩ := List.mem_filter.mp h
  obtain ⟨entity, hentity, hpair⟩ := List.mem_filterMap.mp hrecord
  obtain ⟨record, hkind, rfl⟩ := Option.map_eq_some_iff.mp hpair
  exact ⟨hentity, Kind.eq_exit_of_exit? hkind, of_decide_eq_true horigin⟩

theorem get?_of_mem {registry : Registry} {entity : Entity} (h : entity ∈ registry.entities) :
    registry.get? entity.key = some entity := by
  obtain ⟨entities, distinct⟩ := registry
  unfold get?
  induction entities with
  | nil => cases h
  | cons first rest ih =>
      obtain ⟨hfirst, hrest⟩ := List.nodup_cons.mp distinct
      rcases List.mem_cons.mp h with rfl | hmem
      · exact List.find?_cons_of_pos (by simp)
      · have hne : first.key ≠ entity.key := fun heq => hfirst (heq ▸ List.mem_map_of_mem hmem)
        exact (List.find?_cons_of_neg (by simpa using hne)).trans (ih hrest hmem)

theorem location?_eq_some_iff {registry : Registry} {key : Key} {place : Entity} :
    registry.location? key = some place ↔
      place ∈ registry.entities ∧ place.key = key ∧ place.kind = .location := by
  have hlocation : place.kind.isLocation = true ↔ place.kind = .location := by
    cases place.kind <;> simp [Kind.isLocation]
  rw [location?, Option.filter_eq_some_iff, hlocation]
  constructor
  · rintro ⟨hget, hkind⟩
    exact ⟨mem_of_get? hget, key_of_get? hget, hkind⟩
  · rintro ⟨hmem, rfl, hkind⟩
    exact ⟨get?_of_mem hmem, hkind⟩

/-! ## Registration -/

theorem insert_entities {registry : Registry} {entity : Entity}
    (h : entity.key ∉ registry.keys) :
    (registry.insert entity).entities = registry.entities ++ [entity] := by
  simp [insert, insert?, h]

theorem entities_foldl_insert {entities : List Entity} {registry : Registry}
    (h : ((registry.entities ++ entities).map Entity.key).Nodup) :
    (entities.foldl insert registry).entities = registry.entities ++ entities := by
  induction entities generalizing registry with
  | nil => simp
  | cons entity entities ih =>
      have hfresh : entity.key ∉ registry.keys := by
        rw [List.map_append, List.nodup_append] at h
        exact fun hmem => h.2.2 _ hmem _ (by simp) rfl
      have hentities := insert_entities hfresh
      rw [List.foldl_cons, ih (by simpa [hentities] using h), hentities, List.append_assoc]
      rfl

/-- Registering the entities of a registry again, one after another, rebuilds it. -/
theorem ofList_entities (registry : Registry) : ofList registry.entities = registry := by
  have hentities : (ofList registry.entities).entities = empty.entities ++ registry.entities :=
    entities_foldl_insert registry.distinct
  exact ext hentities

/-! ## Removal and edits -/

theorem get?_erase_self (registry : Registry) (key : Key) :
    (registry.erase key).get? key = none := by
  rw [get?, List.find?_eq_none]
  intro entity hentity
  simpa using (List.mem_filter.mp hentity).2

theorem get?_erase (registry : Registry) {key other : Key} (h : other ≠ key) :
    (registry.erase key).get? other = registry.get? other := by
  rw [get?, get?, erase, List.find?_filter]
  congr 1
  funext entity
  by_cases hkey : entity.key = other
  · simp [hkey, h]
  · simp [hkey]

theorem get?_modify (registry : Registry) (key other : Key) {edit : Entity → Entity}
    (hedit : ∀ entity, (edit entity).key = entity.key) :
    (registry.modify key edit hedit).get? other =
      (registry.get? other).map (editEntry key edit) := by
  rw [get?, get?, modify, List.find?_map]
  congr 2
  funext entity
  rw [Function.comp_apply, key_editEntry hedit]

theorem forall_mem_modify {P : Entity → Prop} {registry : Registry}
    (h : ∀ entity ∈ registry.entities, P entity) (key : Key) {edit : Entity → Entity}
    (hedit : ∀ entity, (edit entity).key = entity.key)
    (hkeeps : ∀ entity, P entity → P (edit entity)) :
    ∀ entity ∈ (registry.modify key edit hedit).entities, P entity := by
  intro entity hentity
  obtain ⟨before, hbefore, rfl⟩ := List.mem_map.mp hentity
  unfold editEntry
  split
  · exact hkeeps before (h before hbefore)
  · exact h before hbefore

/-- An edit that keeps whether a kind has a record keeps which keys have that record. -/
theorem isSome_view_modify {α : Type} (view : Kind → Option α) (registry : Registry)
    (key other : Key) {edit : Entity → Entity}
    (hedit : ∀ entity, (edit entity).key = entity.key)
    (hview : ∀ entity, (view (edit entity).kind).isSome = (view entity.kind).isSome) :
    (((registry.modify key edit hedit).get? other).bind fun entity => view entity.kind).isSome =
      ((registry.get? other).bind fun entity => view entity.kind).isSome := by
  rw [get?_modify]
  cases registry.get? other with
  | none => rfl
  | some entity =>
      simp only [Option.map_some, Option.bind_some, editEntry]
      split
      · exact hview entity
      · rfl

/-- What is read off an entity does not change in an edit that keeps it. -/
theorem bind_get?_modify {α : Type} (view : Entity → Option α) (registry : Registry)
    (key other : Key) {edit : Entity → Entity}
    (hedit : ∀ entity, (edit entity).key = entity.key)
    (hview : ∀ entity, view (edit entity) = view entity) :
    ((registry.modify key edit hedit).get? other).bind view = (registry.get? other).bind view := by
  rw [get?_modify]
  cases registry.get? other with
  | none => rfl
  | some entity =>
      rw [Option.map_some, Option.bind_some, Option.bind_some, editEntry]
      split
      · exact hview entity
      · rfl

/-- Nothing that is read off the kinds changes in an edit that keeps them. -/
theorem view_modify_of_kind {α : Type} (view : Kind → Option α) (registry : Registry)
    (key other : Key) {edit : Entity → Entity}
    (hedit : ∀ entity, (edit entity).key = entity.key)
    (hkind : ∀ entity, (edit entity).kind = entity.kind) :
    (((registry.modify key edit hedit).get? other).bind fun entity => view entity.kind) =
      (registry.get? other).bind fun entity => view entity.kind :=
  bind_get?_modify _ registry key other hedit fun entity => by rw [hkind]

theorem container?_modify (registry : Registry) (key other : Key) {edit : Entity → Entity}
    (hedit : ∀ entity, (edit entity).key = entity.key)
    (hcontainer : ∀ entity, (edit entity).container = entity.container) :
    (registry.modify key edit hedit).container? other = registry.container? other :=
  bind_get?_modify Entity.container registry key other hedit hcontainer

theorem pawn?_movePawn (registry : Registry) (key location : Key) :
    (registry.movePawn key location).pawn? key =
      (registry.pawn? key).map fun pawn => { pawn with location := location } := by
  rw [pawn?, pawn?, movePawn, mapKind, get?_modify _ _ _ (Entity.key_mapKind _)]
  cases hget : registry.get? key with
  | none => rfl
  | some entity =>
      rw [Option.map_some, Option.bind_some, Option.bind_some, editEntry,
        if_pos (key_of_get? hget)]
      exact Kind.pawn?_mapPawn _ entity.kind

/-- No edit hides anything if it hides no entity. -/
theorem isHidden_of_modify {registry : Registry} {key other : Key} {edit : Entity → Entity}
    (hedit : ∀ entity, (edit entity).key = entity.key)
    (hhides : ∀ entity, (edit entity).isHidden = true → entity.isHidden = true)
    (h : (registry.modify key edit hedit).isHidden other = true) :
    registry.isHidden other = true := by
  rw [isHidden, get?_modify] at h
  rw [isHidden]
  cases hget : registry.get? other with
  | none =>
      rw [hget] at h
      cases h
  | some entity =>
      rw [hget, Option.map_some] at h
      dsimp only at h ⊢
      rw [editEntry] at h
      split at h
      · exact hhides entity h
      · exact h

theorem keys_modify (registry : Registry) (key : Key) {edit : Entity → Entity}
    (hedit : ∀ entity, (edit entity).key = entity.key) :
    (registry.modify key edit hedit).keys = registry.keys := by
  rw [keys, modify, List.map_map]
  exact List.map_congr_left fun entity _ => key_editEntry hedit entity

theorem eq_mapContainer_of_place {registry after : Registry} {item holder : String}
    {quantity : UInt32} (h : registry.place item holder quantity = .ok after) :
    after = registry.mapContainer (Key.ofName holder) fun container =>
      container.add (Key.ofName item) quantity := by
  unfold place at h
  split at h
  · cases h
  · split at h
    · cases h
    · cases h
      rfl

end Registry

end TextAdventure
