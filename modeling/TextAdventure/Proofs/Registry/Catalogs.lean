import Mathlib.Data.List.Forall2
import TextAdventure.Proofs.Vocabulary.Requests
import TextAdventure.Registry.Catalog

/-!
# Catalogs and registries

A catalog lists a registry when its order is that of the registry's keys and its table finds what
the registry finds.  Every operation answers on the catalog as it does on the registry and keeps
the two alike, so a catalog never shows that it is kept twice: it behaves like the list of its
entities, of which no two have the same name.
-/

namespace TextAdventure

namespace Registry

/-! ## What is found after an operation -/

theorem get?_insert {registry : Registry} {entity : Entity} (h : entity.key ∉ registry.keys)
    (key : Key) :
    (registry.insert entity).get? key =
      if key = entity.key then some entity else registry.get? key := by
  rw [get?, insert_entities h, List.find?_append]
  split
  next heq =>
    have hnone : registry.get? key = none := get?_eq_none_iff.mpr (heq ▸ h)
    rw [get?] at hnone
    rw [hnone, Option.none_or, heq]
    exact List.find?_cons_of_pos (decide_eq_true rfl)
  next hne =>
    have hother : ¬ entity.key = key := fun heq => hne heq.symm
    simp [get?, hother]

theorem insert_of_mem {registry : Registry} {entity : Entity} (h : entity.key ∈ registry.keys) :
    registry.insert entity = registry := by
  simp [insert, insert?, h]

theorem isSome_insert? (registry : Registry) (entity : Entity) :
    (registry.insert? entity).isSome = true ↔ entity.key ∉ registry.keys := by
  unfold insert?
  split
  next h => simp [h]
  next h => simp [h]

theorem isSome_insert?_of_mem {registry : Registry} {entity : Entity}
    (h : entity.key ∈ registry.keys) : (registry.insert? entity).isSome = false :=
  Bool.eq_false_iff.mpr fun hsome => (registry.isSome_insert? entity).mp hsome h

theorem keys_erase (registry : Registry) (key : Key) :
    (registry.erase key).keys = registry.keys.filter fun other => other ≠ key := by
  rw [keys, keys, List.filter_map]
  rfl

/-- An edit under a key that is not registered changes nothing. -/
theorem modify_eq_self {registry : Registry} {key : Key} (h : key ∉ registry.keys)
    {edit : Entity → Entity} (hedit : ∀ entity, (edit entity).key = entity.key) :
    registry.modify key edit hedit = registry := by
  have hentities : registry.entities.map (editEntry key edit) = registry.entities.map id := by
    refine List.map_congr_left fun entity hentity => if_neg ?_
    rintro rfl
    exact h (List.mem_map_of_mem hentity)
  exact ext (hentities.trans (List.map_id _))

end Registry

namespace Catalog

variable {Table : Type} [EntityTable Table]

/-! ## Listing a registry -/

/-- Whether both parts of a catalog agree with a registry. -/
structure Lists (catalog : Catalog Table) (registry : Registry) : Prop where
  order_eq : catalog.order = registry.keys
  get?_eq : ∀ key, catalog.get? key = registry.get? key

variable {catalog : Catalog Table} {registry : Registry}

theorem lists_empty : (empty : Catalog Table).Lists Registry.empty :=
  ⟨rfl, EntityTable.find?_empty⟩

/-- No key of the order is missing in the table. -/
theorem Lists.entities_eq (h : catalog.Lists registry) : catalog.entities = registry.entities := by
  rw [entities, h.order_eq, Registry.keys, List.filterMap_map]
  have hfound : ∀ entity ∈ registry.entities,
      (catalog.get? ∘ Entity.key) entity = some entity := fun entity hentity =>
    (h.get?_eq entity.key).trans (Registry.get?_of_mem hentity)
  rw [List.filterMap_congr hfound, List.filterMap_some]

theorem Lists.registry_eq (h : catalog.Lists registry) :
    Registry.ofList catalog.entities = registry := by
  rw [h.entities_eq, Registry.ofList_entities]

theorem Lists.contains_eq (h : catalog.Lists registry) (name : String) :
    catalog.contains name = registry.contains name := by
  rw [contains, named?, h.get?_eq]
  rfl

theorem Lists.misnamed_eq (h : catalog.Lists registry) (name : String) (expected : Role) :
    catalog.misnamed name expected = registry.misnamed name expected := by
  rw [misnamed, h.contains_eq]
  rfl

/-! ## Operations keep the two alike -/

theorem Lists.add (h : catalog.Lists registry) (entity : Entity) :
    (catalog.add entity).1 = (registry.insert? entity).isSome ∧
      (catalog.add entity).2.Lists (registry.insert entity) := by
  rw [Catalog.add, h.get?_eq]
  by_cases hkey : entity.key ∈ registry.keys
  · rw [if_pos (Registry.isSome_get?_iff.mpr hkey), Registry.insert_of_mem hkey,
      Registry.isSome_insert?_of_mem hkey]
    exact ⟨rfl, h⟩
  · rw [if_neg fun hsome => hkey (Registry.isSome_get?_iff.mp hsome)]
    refine ⟨((registry.isSome_insert? entity).mpr hkey).symm, ?_, fun key => ?_⟩
    · rw [Registry.keys, Registry.insert_entities hkey, List.map_append, h.order_eq]
      rfl
    · rw [Registry.get?_insert hkey, ← h.get?_eq]
      exact EntityTable.find?_insert _ _ _ _

theorem Lists.remove (h : catalog.Lists registry) (name : String) :
    (catalog.remove name).1 = registry.named? name ∧
      (catalog.remove name).2.Lists (registry.erase (Key.ofName name)) := by
  have hnamed : catalog.named? name = registry.named? name := h.get?_eq _
  rw [Catalog.remove, hnamed]
  have hget : ∀ key, (registry.erase (Key.ofName name)).get? key =
      if key = Key.ofName name then none else registry.get? key := by
    intro key
    split
    next heq => rw [heq, Registry.get?_erase_self]
    next hne => exact Registry.get?_erase registry hne
  cases hfound : registry.named? name with
  | none =>
      have habsent : Key.ofName name ∉ registry.keys := Registry.get?_eq_none_iff.mp hfound
      refine ⟨rfl, ?_, fun key => ?_⟩
      · rw [Registry.keys_erase, h.order_eq, List.filter_eq_self.mpr]
        intro key hkey
        exact decide_eq_true fun heq => habsent (heq ▸ hkey)
      · rw [hget, h.get?_eq]
        split
        next heq => rw [heq]; exact hfound
        next => rfl
  | some entity =>
      refine ⟨rfl, ?_, fun key => ?_⟩
      · rw [Registry.keys_erase, h.order_eq]
      · rw [hget, ← h.get?_eq]
        exact EntityTable.find?_erase _ _ _

theorem Lists.edit (h : catalog.Lists registry) (key : Key) {change : Entity → Entity}
    (hchange : ∀ entity, (change entity).key = entity.key) :
    (catalog.edit key change).1 = (registry.get? key).isSome ∧
      (catalog.edit key change).2.Lists (registry.modify key change hchange) := by
  rw [Catalog.edit, h.get?_eq]
  cases hfound : registry.get? key with
  | none =>
      have hsame : registry.modify key change hchange = registry :=
        Registry.modify_eq_self (Registry.get?_eq_none_iff.mp hfound) hchange
      rw [hsame]
      exact ⟨rfl, h⟩
  | some entity =>
      refine ⟨rfl, ?_, fun other => ?_⟩
      · rw [Registry.keys_modify]
        exact h.order_eq
      · refine (EntityTable.find?_insert _ _ _ _).trans ?_
        rw [Registry.get?_modify]
        split
        next heq =>
          rw [heq, hfound, Option.map_some, Registry.editEntry,
            if_pos (Registry.key_of_get? hfound)]
        next hne =>
          refine (h.get?_eq other).trans ?_
          cases hother : registry.get? other with
          | none => rfl
          | some entity =>
              have hkey : ¬ entity.key = key := Registry.key_of_get? hother ▸ hne
              rw [Option.map_some, Registry.editEntry, if_neg hkey]

theorem Lists.create (h : catalog.Lists registry) (entity : Entity) :
    (∃ fault, registry.create entity = .error fault ∧
        catalog.create entity = (.error fault, catalog)) ∨
      (registry.create entity = .ok (registry.insert entity) ∧
        (catalog.create entity).1 = .ok entity.key ∧
        (catalog.create entity).2.Lists (registry.insert entity)) := by
  rw [Catalog.create, Registry.create, h.registry_eq]
  cases registry.screenEntity entity with
  | passed => exact .inr ⟨rfl, rfl, (h.add entity).2⟩
  | _ => exact .inl ⟨_, rfl, rfl⟩

theorem Lists.place (h : catalog.Lists registry) (item holder : String) (quantity : UInt32) :
    (∃ fault, registry.place item holder quantity = .error fault ∧
        catalog.place item holder quantity = (.error fault, catalog)) ∨
      (∃ after, registry.place item holder quantity = .ok after ∧
        (catalog.place item holder quantity).1 = .ok () ∧
        (catalog.place item holder quantity).2.Lists after) := by
  have hnamed : ∀ name, catalog.named? name = registry.get? (Key.ofName name) :=
    fun name => h.get?_eq (Key.ofName name)
  rw [Catalog.place, Registry.place, namedWhere?, hnamed, hnamed, h.misnamed_eq, h.misnamed_eq,
    Registry.item?, Registry.container?]
  cases hitem : registry.get? (Key.ofName item) with
  | none => exact .inl ⟨_, rfl, rfl⟩
  | some thing =>
      have hkey : thing.key = Key.ofName item := Registry.key_of_get? hitem
      rw [Option.filter_some, Option.bind_some]
      cases thing.kind.item? with
      | none => exact .inl ⟨_, rfl, rfl⟩
      | some record =>
          cases (registry.get? (Key.ofName holder)).bind Entity.container with
          | none => exact .inl ⟨_, rfl, rfl⟩
          | some container =>
              refine .inr ⟨_, rfl, rfl, ?_⟩
              change (catalog.edit (Key.ofName holder) (Entity.mapContainer fun container =>
                container.add thing.key quantity)).2.Lists _
              rw [hkey]
              have hadded := h.edit (Key.ofName holder)
                (Entity.Edit.changeContainer (·.add (Key.ofName item) quantity)).key_apply
              exact hadded.2

/-! ## Conversions -/

theorem Lists.foldl_add (h : catalog.Lists registry) (entities : List Entity) :
    (entities.foldl (fun catalog entity => (catalog.add entity).2) catalog).Lists
      (entities.foldl Registry.insert registry) := by
  induction entities generalizing catalog registry with
  | nil => exact h
  | cons entity rest ih => exact ih (h.add entity).2

theorem lists_ofList (entities : List Entity) :
    (ofList entities : Catalog Table).Lists (Registry.ofList entities) :=
  lists_empty.foldl_add entities

/-- Making a list of a catalog and a catalog of that list gives the same entities in the same
order. -/
theorem Lists.ofList_entities (h : catalog.Lists registry) :
    (ofList catalog.entities : Catalog Table).Lists registry :=
  h.registry_eq ▸ lists_ofList catalog.entities

end Catalog

end TextAdventure
