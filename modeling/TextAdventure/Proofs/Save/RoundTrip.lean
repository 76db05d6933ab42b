import TextAdventure.Proofs.Registry
import TextAdventure.Proofs.Save.Entities
import TextAdventure.Proofs.Save.ReadBack
import TextAdventure.Save.Worlds

/-!
# Saved worlds read back

The bytes of a world give the world back, whatever follows them: entities come back as they
were and in the order in which they were registered.
-/

namespace TextAdventure

open Save

/-! ## Nesting of records -/

namespace Save.Packed

@[simp]
theorem nesting_ofText (text : String) : (ofText text).nesting = 0 := rfl

@[simp]
theorem nesting_ofInt64 (value : Int64) : (ofInt64 value).nesting = 0 := by
  unfold ofInt64
  split <;> rfl

theorem nesting_ofRecord_le_iff {depth : Nat} {fields : List (String × Packed)} :
    (ofRecord fields).nesting ≤ depth + 1 ↔ ∀ field ∈ fields, field.2.nesting ≤ depth := by
  rw [ofRecord, nesting_map_le_iff, List.forall_mem_map]
  simp

theorem nesting_ofVariant_le_iff {depth : Nat} {name : String} {content : Packed} :
    (ofVariant name content).nesting ≤ depth + 1 ↔ content.nesting ≤ depth := by
  rw [ofVariant, nesting_map_le_iff]
  simp

theorem nesting_ofList_le {α : Type} {pack : α → Packed} {depth : Nat} {values : List α}
    (h : ∀ value, (pack value).nesting ≤ depth) : (ofList pack values).nesting ≤ depth + 1 := by
  rw [ofList, nesting_array_le_iff, List.forall_mem_map]
  exact fun value _ => h value

theorem nesting_ofOption_le {α : Type} {pack : α → Packed} {depth : Nat} {value : Option α}
    (h : ∀ value, (pack value).nesting ≤ depth) : (ofOption pack value).nesting ≤ depth := by
  cases value with
  | none => exact Nat.zero_le depth
  | some value => exact h value

end Save.Packed

open Packed

theorem Key.nesting_pack (key : Key) : key.pack.nesting = 0 := rfl

theorem Predicate.nesting_pack (predicate : Predicate) : predicate.pack.nesting ≤ 2 := by
  cases predicate <;>
    simp [pack, nesting_ofVariant_le_iff, nesting_ofRecord_le_iff, Key.nesting_pack, nesting,
      ofCount, ofNat]

theorem Effect.nesting_pack (effect : Effect) : effect.pack.nesting ≤ 2 := by
  cases effect <;>
    simp [pack, packTransfer, nesting_ofVariant_le_iff, nesting_ofRecord_le_iff,
      Key.nesting_pack, nesting, ofCount, ofNat]

theorem Attributes.nesting_pack {α : Type} {packValue : α → Packed} {table : Attributes α}
    (h : ∀ value, (packValue value).nesting = 0) : (table.pack packValue).nesting ≤ 1 := by
  rw [pack, nesting_map_le_iff, List.forall_mem_map]
  simp [h]

theorem Container.nesting_pack (container : Container) : container.pack.nesting ≤ 3 := by
  have hstack : ∀ stack : Stack, stack.pack.nesting ≤ 1 := by
    intro stack
    simp [Stack.pack, nesting_ofRecord_le_iff, Key.nesting_pack, nesting, ofCount, ofNat]
  rw [pack, nesting_ofRecord_le_iff]
  simpa using nesting_ofList_le hstack

theorem Exit.nesting_pack (exit : Exit) : exit.pack.nesting ≤ 1 := by
  have hdirection : (ofOption Key.pack exit.direction).nesting ≤ 0 :=
    nesting_ofOption_le fun key => Nat.le_of_eq key.nesting_pack
  rw [pack, nesting_ofRecord_le_iff]
  simpa [Key.nesting_pack] using hdirection

theorem Pawn.nesting_pack (pawn : Pawn) : pawn.pack.nesting ≤ 1 := by
  have hdialog : (ofOption Key.pack pawn.dialog).nesting ≤ 0 :=
    nesting_ofOption_le fun key => Nat.le_of_eq key.nesting_pack
  rw [pack, nesting_ofRecord_le_iff]
  simpa [Key.nesting_pack, Weight.pack, nesting] using hdialog

theorem Behavior.nesting_pack (behavior : Behavior) : behavior.pack.nesting ≤ 1 := by
  cases behavior with
  | custom handler => simp [pack, nesting_ofVariant_le_iff]
  | _ => exact Nat.zero_le 1

theorem ActionWords.nesting_pack (words : ActionWords) : words.pack.nesting ≤ 2 := by
  have hlist : ∀ texts, (ofList ofText texts).nesting ≤ 1 := fun _ =>
    nesting_ofList_le fun text => Nat.le_of_eq (nesting_ofText text)
  rw [pack, nesting_ofRecord_le_iff]
  simp [hlist]

theorem Command.nesting_pack (command : Command) : command.pack.nesting ≤ 3 := by
  have hbehavior := command.behavior.nesting_pack
  have haction : (ofOption ActionWords.pack command.action).nesting ≤ 2 :=
    nesting_ofOption_le ActionWords.nesting_pack
  rw [pack, nesting_ofRecord_le_iff]
  simp only [List.mem_cons, List.not_mem_nil, forall_eq_or_imp, nesting_ofText]
  simp [haction]
  omega

theorem Condition.nesting_pack (condition : Condition) : condition.pack.nesting ≤ 3 := by
  rw [pack, nesting_ofRecord_le_iff]
  simp [Predicate.nesting_pack, ofBool, nesting]

theorem Event.nesting_pack (event : Event) : event.pack.nesting ≤ 4 := by
  have hconditions : (ofList Key.pack event.conditions).nesting ≤ 3 :=
    nesting_ofList_le fun _ => Nat.zero_le 2
  have heffects : (ofList Effect.pack event.effects).nesting ≤ 3 :=
    nesting_ofList_le Effect.nesting_pack
  rw [pack, nesting_ofRecord_le_iff]
  simp [hconditions, heffects]

theorem DialogOption.nesting_pack (option : DialogOption) : option.pack.nesting ≤ 4 := by
  have heffects : (ofList Effect.pack option.effects).nesting ≤ 3 :=
    nesting_ofList_le Effect.nesting_pack
  rw [pack, nesting_ofRecord_le_iff]
  simp [heffects, ofBool, nesting]

theorem Dialog.nesting_pack (dialog : Dialog) : dialog.pack.nesting ≤ 6 := by
  rw [pack, nesting_ofRecord_le_iff]
  simp [nesting_ofList_le DialogOption.nesting_pack]

theorem Kind.nesting_pack (kind : Kind) : kind.pack.nesting ≤ 7 := by
  have hvariant : ∀ {name : String} {content : Packed} {depth : Nat},
      content.nesting ≤ depth → depth ≤ 6 → (ofVariant name content).nesting ≤ 7 := by
    intro name content depth hcontent hdepth
    exact nesting_ofVariant_le_iff.mpr (Nat.le_trans hcontent hdepth)
  cases kind with
  | location => exact Nat.zero_le 7
  | item record =>
      simp [pack, nesting_ofVariant_le_iff, Item.pack, nesting_ofRecord_le_iff, Weight.pack,
        nesting]
  | pawn record => exact hvariant record.nesting_pack (by decide)
  | command record => exact hvariant record.nesting_pack (by decide)
  | condition record => exact hvariant record.nesting_pack (by decide)
  | event record => exact hvariant record.nesting_pack (by decide)
  | exit record => exact hvariant record.nesting_pack (by decide)
  | dialog record => exact hvariant record.nesting_pack (by decide)

theorem Entity.nesting_pack (entity : Entity) : entity.pack.nesting ≤ 8 := by
  have hnotes : (entity.notes.pack ofText).nesting ≤ 1 := Attributes.nesting_pack nesting_ofText
  have hstatuses : (entity.statuses.pack ofInt64).nesting ≤ 1 :=
    Attributes.nesting_pack nesting_ofInt64
  have hcontainer : (ofOption Container.pack entity.container).nesting ≤ 3 :=
    nesting_ofOption_le Container.nesting_pack
  rw [pack, nesting_ofRecord_le_iff]
  simp [Key.nesting_pack, Kind.nesting_pack]
  omega

theorem World.nesting_pack (world : World) : world.pack.nesting ≤ 10 := by
  have hregistry : (ofList Entity.pack world.registry.entities).nesting ≤ 9 :=
    nesting_ofList_le Entity.nesting_pack
  have hactive : (ofList Key.pack world.active).nesting ≤ 9 :=
    nesting_ofList_le fun _ => Nat.zero_le 8
  rw [pack, nesting_ofRecord_le_iff]
  simp [Key.nesting_pack, nesting, hregistry, hactive]

/-! ## Worlds -/

namespace World

theorem unpack?_pack (world : World) : unpack? world.pack = some world := by
  simp [unpack?, pack, Packed.fields?_ofRecord, Registry.ofList_entities]

theorem read_toBytes {world : World} (h : world.pack.isWritable = true) (extra : List UInt8) :
    Packed.read (world.toBytes ++ extra) = some (world.pack, extra) :=
  read_write (Nat.le_trans world.nesting_pack (by decide)) h extra

/-- The format announces no text, array or map of 2³² or more parts; any other world is read
back from its bytes, to the bit and in the order of registration. -/
theorem ofBytes_toBytes {world : World} (h : world.pack.isWritable = true)
    (extra : List UInt8) : ofBytes (world.toBytes ++ extra) = .ok world := by
  have hread := read_toBytes h extra
  rw [ofBytes, hread]
  simp only [unpack?_pack]

/-- A cellar with a rat that weighs no number, and rules about it. -/
def cellar : World where
  registry := Registry.ofList
    [ ((Entity.location "Cellar").withContainer ⟨[⟨⟨"wine"⟩, 4294967295⟩]⟩).setStatus "visited" 1,
      (Entity.item "Wine" ⟨0x3FF0000000000000⟩).describe "Old, and very much of it.",
      Entity.pawn "Rat" "Cellar" ⟨0x7FF8000000000001⟩,
      (Entity.exit "Crack" "Cellar" "Garden").withDirection "up",
      Entity.action "Gnaw" "g" (.custom "gnaw"),
      Entity.condition "Feared" (.statusAtLeast ⟨"rat"⟩ "fear" (-9223372036854775808)),
      ((Entity.event "Flight").onlyWhen "Feared").andThen (.takeItem ⟨"rat"⟩ ⟨"wine"⟩ 70000),
      (Entity.dialog "Squeak" "Squeak?").withOption
        ⟨"Squeak.", "", [.movePawn ⟨"rat"⟩ ⟨"garden"⟩, .endGame "Gone."], true⟩ ]
  active := [⟨"gnaw"⟩]
  player := ⟨"rat"⟩
  turns := 18446744073709551615

theorem ofBytes_toBytes_cellar : cellar.pack.isWritable = true ∧
    ofBytes (cellar.toBytes ++ [0xC1]) = .ok cellar :=
  ⟨by decide +kernel, ofBytes_toBytes (by decide +kernel) [0xC1]⟩

end World

end TextAdventure
