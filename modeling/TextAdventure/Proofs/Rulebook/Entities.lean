import TextAdventure.Proofs.Registry

/-!
# The rulebook

What play may do to an entity: change its statuses and what it contains, move a pawn, and
use up options of a dialog.  A registry leads to another when the other has the same
entities, as far as they are still there, in the same order, and play has done no more than
that to any of them.
-/

namespace TextAdventure

namespace Kind

/-- What becomes of a record in play. -/
inductive LeadsTo : Kind → Kind → Prop where
  | same (kind : Kind) : LeadsTo kind kind
  | moved (record : Pawn) (location : Key) :
      LeadsTo (.pawn record) (.pawn { record with location := location })
  | spent (record : Dialog) {options : List DialogOption} (h : options.Sublist record.options) :
      LeadsTo (.dialog record) (.dialog { record with options := options })

namespace LeadsTo

theorem trans {first second third : Kind} (h : first.LeadsTo second)
    (hnext : second.LeadsTo third) : first.LeadsTo third := by
  cases h with
  | same => exact hnext
  | moved record location =>
      cases hnext with
      | same => exact .moved record location
      | moved _ later => exact .moved record later
  | spent record hleft =>
      cases hnext with
      | same => exact .spent record hleft
      | spent _ hlater => exact .spent record (hlater.trans hleft)

variable {before after : Kind}

theorem command?_eq (h : before.LeadsTo after) : after.command? = before.command? := by
  cases h <;> rfl

theorem event?_eq (h : before.LeadsTo after) : after.event? = before.event? := by
  cases h <;> rfl

theorem exit?_eq (h : before.LeadsTo after) : after.exit? = before.exit? := by
  cases h <;> rfl

theorem condition?_eq (h : before.LeadsTo after) : after.condition? = before.condition? := by
  cases h <;> rfl

/-- A dialog has no options that it did not have before. -/
theorem exists_dialog? (h : before.LeadsTo after) {dialog : Dialog}
    (hdialog : after.dialog? = some dialog) :
    ∃ old, before.dialog? = some old ∧ dialog.options.Sublist old.options := by
  cases h with
  | same => exact ⟨dialog, hdialog, List.Sublist.refl _⟩
  | moved record location => cases hdialog
  | spent record hleft =>
      cases hdialog
      exact ⟨record, rfl, hleft⟩

theorem movePawn (kind : Kind) (location : Key) :
    kind.LeadsTo (kind.mapPawn fun pawn => { pawn with location := location }) := by
  cases kind with
  | pawn record => exact .moved record location
  | _ => exact .same _

theorem dropOption (kind : Kind) (index : Nat) :
    kind.LeadsTo (kind.mapDialog fun dialog =>
      { dialog with options := dialog.options.eraseIdx index }) := by
  cases kind with
  | dialog record => exact .spent record (List.eraseIdx_sublist record.options index)
  | _ => exact .same _

end LeadsTo

end Kind

namespace Entity

/-- What becomes of an entity in play; nothing is said of its statuses, nor of what is in
its container. -/
structure LeadsTo (before after : Entity) : Prop where
  name : after.name = before.name
  key : after.key = before.key
  notes : after.notes = before.notes
  kind : before.kind.LeadsTo after.kind
  container : after.container.isSome = before.container.isSome

namespace LeadsTo

theorem refl (entity : Entity) : entity.LeadsTo entity :=
  ⟨rfl, rfl, rfl, .same _, rfl⟩

theorem trans {first second third : Entity} (h : first.LeadsTo second)
    (hnext : second.LeadsTo third) : first.LeadsTo third where
  name := hnext.name.trans h.name
  key := hnext.key.trans h.key
  notes := hnext.notes.trans h.notes
  kind := h.kind.trans hnext.kind
  container := hnext.container.trans h.container

theorem setStatus (entity : Entity) (status : String) (value : Int64) :
    entity.LeadsTo (entity.setStatus status value) :=
  ⟨rfl, rfl, rfl, .same _, rfl⟩

theorem adjustStatus (entity : Entity) (status : String) (delta : Int64) :
    entity.LeadsTo (entity.adjustStatus status delta) :=
  ⟨rfl, rfl, rfl, .same _, rfl⟩

theorem clearStatus (entity : Entity) (status : String) :
    entity.LeadsTo (entity.clearStatus status) :=
  ⟨rfl, rfl, rfl, .same _, rfl⟩

theorem mapContainer (entity : Entity) (f : Container → Container) :
    entity.LeadsTo (entity.mapContainer f) :=
  ⟨rfl, rfl, rfl, .same _, Option.isSome_map⟩

theorem mapKind {f : Kind → Kind} (h : ∀ kind, Kind.LeadsTo kind (f kind)) (entity : Entity) :
    entity.LeadsTo (entity.mapKind f) :=
  ⟨rfl, rfl, rfl, h entity.kind, rfl⟩

end LeadsTo

end Entity

namespace Registry

/-- What becomes of a registry in play. -/
structure LeadsTo (before after : Registry) : Prop where
  order : after.keys.Sublist before.keys
  entities : ∀ entity ∈ after.entities, ∃ old ∈ before.entities, old.LeadsTo entity

namespace LeadsTo

theorem refl (registry : Registry) : registry.LeadsTo registry :=
  ⟨List.Sublist.refl _, fun entity h => ⟨entity, h, .refl entity⟩⟩

theorem trans {first second third : Registry} (h : first.LeadsTo second)
    (hnext : second.LeadsTo third) : first.LeadsTo third where
  order := hnext.order.trans h.order
  entities entity hentity := by
    obtain ⟨middle, hmiddle, hlater⟩ := hnext.entities entity hentity
    obtain ⟨old, hold, hearlier⟩ := h.entities middle hmiddle
    exact ⟨old, hold, hearlier.trans hlater⟩

theorem modify (registry : Registry) (key : Key) {edit : Entity → Entity}
    (h : ∀ entity : Entity, entity.LeadsTo (edit entity))
    (hedit : ∀ entity, (edit entity).key = entity.key) :
    registry.LeadsTo (registry.modify key edit hedit) := by
  constructor
  · exact (congrArg (List.Sublist · registry.keys) (keys_modify registry key hedit)).mpr
      (List.Sublist.refl registry.keys)
  · intro entity hentity
    obtain ⟨old, hold, rfl⟩ := List.mem_map.mp hentity
    refine ⟨old, hold, ?_⟩
    unfold editEntry
    split
    · exact h old
    · exact .refl old

theorem erase (registry : Registry) (key : Key) : registry.LeadsTo (registry.erase key) := by
  constructor
  · exact List.filter_sublist.map Entity.key
  · intro entity hentity
    exact ⟨entity, (List.mem_filter.mp hentity).1, .refl entity⟩

theorem dropOption (registry : Registry) (key : Key) (index : Nat) :
    registry.LeadsTo (registry.dropOption key index) :=
  modify registry key (.mapKind fun kind => .dropOption kind index) fun _ => rfl

/-! ## What is still registered -/

variable {before after : Registry}

theorem get? (h : before.LeadsTo after) {key : Key} {entity : Entity}
    (hget : after.get? key = some entity) :
    ∃ old, before.get? key = some old ∧ old.LeadsTo entity := by
  obtain ⟨old, hold, hleads⟩ := h.entities entity (mem_of_get? hget)
  refine ⟨old, ?_, hleads⟩
  rw [← key_of_get? hget, hleads.key]
  exact get?_of_mem hold

/-- The record of an event stays as it is for as long as the event is registered. -/
theorem event? (h : before.LeadsTo after) {key : Key} (hkey : key ∈ after.keys) :
    after.event? key = before.event? key := by
  obtain ⟨entity, hentity, rfl⟩ := List.mem_map.mp hkey
  have hget := get?_of_mem hentity
  obtain ⟨old, hold, hleads⟩ := h.get? hget
  rw [Registry.event?, Registry.event?, hget, hold, Option.bind_some, Option.bind_some,
    hleads.kind.event?_eq]

end LeadsTo

/-! ## While no option is chosen -/

/-- No dialog is altered, though one may be gone. -/
def SparesDialogs (before after : Registry) : Prop :=
  ∀ key dialog, after.dialog? key = some dialog → before.dialog? key = some dialog

theorem SparesDialogs.trans {first second third : Registry} (h : first.SparesDialogs second)
    (hnext : second.SparesDialogs third) : first.SparesDialogs third :=
  fun key dialog hdialog => h key dialog (hnext key dialog hdialog)

/-- What becomes of a registry in play as long as no option of a dialog is chosen. -/
structure PassesTo (before after : Registry) : Prop extends before.LeadsTo after where
  dialogs : before.SparesDialogs after

namespace PassesTo

theorem refl (registry : Registry) : registry.PassesTo registry :=
  ⟨.refl registry, fun _ _ h => h⟩

theorem trans {first second third : Registry} (h : first.PassesTo second)
    (hnext : second.PassesTo third) : first.PassesTo third :=
  ⟨h.toLeadsTo.trans hnext.toLeadsTo, h.dialogs.trans hnext.dialogs⟩

theorem modify (registry : Registry) (key : Key) {edit : Entity → Entity}
    (h : ∀ entity : Entity, entity.LeadsTo (edit entity))
    (hdialog : ∀ entity : Entity, (edit entity).kind.dialog? = entity.kind.dialog?)
    (hedit : ∀ entity, (edit entity).key = entity.key) :
    registry.PassesTo (registry.modify key edit hedit) where
  toLeadsTo := .modify registry key h hedit
  dialogs other _ hother :=
    (bind_get?_modify _ registry key other hedit hdialog).symm.trans hother

theorem erase (registry : Registry) (key : Key) : registry.PassesTo (registry.erase key) where
  toLeadsTo := .erase registry key
  dialogs other dialog hother := by
    obtain ⟨entity, hget, hdialog⟩ := Option.bind_eq_some_iff.mp hother
    have hmem := (List.mem_filter.mp (mem_of_get? hget)).1
    rw [dialog?, ← key_of_get? hget, get?_of_mem hmem]
    exact hdialog

theorem adjustStatus (registry : Registry) (key : Key) (status : String) (delta : Int64) :
    registry.PassesTo (registry.adjustStatus key status delta) :=
  modify registry key (fun entity => .adjustStatus entity status delta) (fun _ => rfl) fun _ => rfl

theorem mapContainer (registry : Registry) (key : Key) (f : Container → Container) :
    registry.PassesTo (registry.mapContainer key f) :=
  modify registry key (fun entity => .mapContainer entity f) (fun _ => rfl) fun _ => rfl

theorem movePawn (registry : Registry) (key location : Key) :
    registry.PassesTo (registry.movePawn key location) := by
  refine modify registry key (.mapKind fun kind => .movePawn kind location) (fun entity => ?_)
    fun _ => rfl
  rw [Entity.mapKind]
  cases entity.kind <;> rfl

end PassesTo

end Registry

end TextAdventure
