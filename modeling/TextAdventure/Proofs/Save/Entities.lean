import TextAdventure.Proofs.Save.Records
import TextAdventure.Save.Entities

/-!
# Entities unpacked

Every rule and every record of an entity is read back from what it is packed as, at every
depth.
-/

namespace TextAdventure

open Save

/-! ## Numbers -/

namespace Save.Packed

theorem integer?_ofNat {n : Nat} (h : n < UInt64.size) : (ofNat n).integer? = some (n : Int) := by
  rw [ofNat, integer?, UInt64.toNat_ofNat_of_lt' h]

theorem integer?_ofInt64 (value : Int64) : (ofInt64 value).integer? = some value.toInt := by
  unfold ofInt64
  split
  next hnonneg =>
    have hvalue : (value.toUInt64.toNat : Int) = value.toInt := by
      rw [Int64.toNat_toUInt64_of_le hnonneg, Int64.cast_toNatClampNeg value hnonneg]
    rw [integer?, hvalue]
  next => rfl

theorem count?_of_integer? {packed : Packed} {n : Int} (h : packed.integer? = some n)
    (hrange : 0 ≤ n ∧ n < UInt32.size) : packed.count? = some (UInt32.ofNat n.toNat) := by
  rw [count?, h]
  exact if_pos hrange

theorem status?_of_integer? {packed : Packed} {n : Int} (h : packed.integer? = some n)
    (hrange : n < 0x8000000000000000) : packed.status? = some (Int64.ofInt n) := by
  rw [status?, h]
  exact if_pos hrange

@[simp]
theorem count?_ofCount (count : UInt32) : (ofCount count).count? = some count := by
  have hless := count.toNat_lt
  have hcount := count?_of_integer? (integer?_ofNat (Nat.lt_trans hless (by decide)))
    ⟨Int.natCast_nonneg _, Int.ofNat_lt.mpr hless⟩
  rw [Int.toNat_natCast, UInt32.ofNat_toNat] at hcount
  exact hcount

@[simp]
theorem status?_ofInt64 (status : Int64) : (ofInt64 status).status? = some status := by
  have hstatus := status?_of_integer? (integer?_ofInt64 status) status.toInt_lt
  rw [Int64.ofInt_toInt] at hstatus
  exact hstatus

@[simp]
theorem turns?_unsigned (turns : UInt64) : (unsigned turns).turns? = some turns := by
  simp [turns?, integer?]

end Save.Packed

/-! ## Rules -/

namespace Key

@[simp]
theorem unpack?_pack (key : Key) : unpack? key.pack = some key := by
  simp [unpack?, pack]

theorem pack_ne_nil (key : Key) : key.pack ≠ .nil := Packed.noConfusion

end Key

namespace Predicate

theorem unpackPlayerHolds?_packed (depth : Nat) (item : Key) {packed : Packed} {quantity : UInt32}
    (h : packed.count? = some quantity) :
    unpackPlayerHolds? depth
        (Packed.ofRecord [("item", item.pack), ("quantity", packed)]) =
      some (playerHolds item quantity) := by
  simp [unpackPlayerHolds?, Packed.fields?_ofRecord, h]

theorem unpackContainerHolds?_packed (depth : Nat) (holder item : Key) {packed : Packed}
    {quantity : UInt32} (h : packed.count? = some quantity) :
    unpackContainerHolds? depth
        (Packed.ofRecord [("holder", holder.pack), ("item", item.pack), ("quantity", packed)]) =
      some (containerHolds holder item quantity) := by
  simp [unpackContainerHolds?, Packed.fields?_ofRecord, h]

@[simp]
theorem unpack?_pack (depth : Nat) (predicate : Predicate) :
    unpack? depth predicate.pack = some predicate := by
  cases predicate with
  | always => simp [unpack?, pack, variants, Packed.variant?_ofText, Packed.isBare]
  | statusSet entity status =>
      simp [unpack?, pack, variants, Packed.variant?_ofVariant, unpackStatusSet?,
        Packed.fields?_ofRecord]
  | statusAtLeast entity status value =>
      simp [unpack?, pack, variants, Packed.variant?_ofVariant, unpackStatusAtLeast?,
        Packed.fields?_ofRecord]
  | playerHolds item quantity =>
      rw [pack, unpack?, Packed.variant?_ofVariant (by simp [variants])]
      exact unpackPlayerHolds?_packed depth item (Packed.count?_ofCount quantity)
  | containerHolds holder item quantity =>
      rw [pack, unpack?, Packed.variant?_ofVariant (by simp [variants])]
      exact unpackContainerHolds?_packed depth holder item (Packed.count?_ofCount quantity)
  | _ => simp [unpack?, pack, variants, Packed.variant?_ofVariant]

end Predicate

namespace Effect

theorem unpackTransfer?_packed (make : Key → Key → UInt32 → Effect) (depth : Nat)
    (holder item : Key) {packed : Packed} {quantity : UInt32}
    (h : packed.count? = some quantity) :
    unpackTransfer? make depth
        (Packed.ofRecord [("holder", holder.pack), ("item", item.pack), ("quantity", packed)]) =
      some (make holder item quantity) := by
  simp [unpackTransfer?, Packed.fields?_ofRecord, h]

@[simp]
theorem unpack?_pack (depth : Nat) (effect : Effect) :
    unpack? depth effect.pack = some effect := by
  cases effect with
  | setStatus entity status value =>
      simp [unpack?, pack, variants, Packed.variant?_ofVariant, unpackStatusChange?,
        Packed.fields?_ofRecord]
  | adjustStatus entity status delta =>
      simp [unpack?, pack, variants, Packed.variant?_ofVariant, unpackStatusChange?,
        Packed.fields?_ofRecord]
  | clearStatus entity status =>
      simp [unpack?, pack, variants, Packed.variant?_ofVariant, unpackClearStatus?,
        Packed.fields?_ofRecord]
  | movePawn pawn location =>
      simp [unpack?, pack, variants, Packed.variant?_ofVariant, unpackMovePawn?,
        Packed.fields?_ofRecord]
  | giveItem holder item quantity =>
      rw [pack, packTransfer, unpack?, Packed.variant?_ofVariant (by simp [variants])]
      exact unpackTransfer?_packed giveItem depth holder item (Packed.count?_ofCount quantity)
  | takeItem holder item quantity =>
      rw [pack, packTransfer, unpack?, Packed.variant?_ofVariant (by simp [variants])]
      exact unpackTransfer?_packed takeItem depth holder item (Packed.count?_ofCount quantity)
  | _ => simp [unpack?, pack, variants, Packed.variant?_ofVariant]

end Effect

/-! ## Tables and containers -/

namespace Attributes

variable {α : Type}

theorem insertEntry_last {key : String} {entries : List (String × α)}
    (h : ∀ entry ∈ entries, entry.1 < key) (value : α) :
    insertEntry key value entries = entries ++ [(key, value)] := by
  induction entries with
  | nil => rfl
  | cons entry rest ih =>
      obtain ⟨other, old⟩ := entry
      have hless : other < key := h _ (List.mem_cons_self ..)
      have hnot : ¬key < other := String.lt_asymm hless
      have hne : key ≠ other := fun heq => String.lt_irrefl key (heq ▸ hless)
      rw [insertEntry, if_neg hnot, if_neg hne,
        ih fun entry hentry => h entry (List.mem_cons_of_mem _ hentry), List.cons_append]

theorem entries_foldl_insert {pairs : List (String × α)} {table : Attributes α}
    (h : ((table.entries ++ pairs).map Prod.fst).Pairwise (· < ·)) :
    (pairs.foldl (fun table pair => table.insert pair.1 pair.2) table).entries =
      table.entries ++ pairs := by
  induction pairs generalizing table with
  | nil => simp
  | cons pair pairs ih =>
      have hbefore : ∀ entry ∈ table.entries, entry.1 < pair.1 := by
        intro entry hentry
        rw [List.map_append, List.pairwise_append] at h
        exact h.2.2 entry.1 (List.mem_map_of_mem hentry) pair.1 (by simp)
      have hinsert : (table.insert pair.1 pair.2).entries = table.entries ++ [pair] :=
        insertEntry_last hbefore pair.2
      rw [List.foldl_cons, ih (by simpa [hinsert] using h), hinsert, List.append_assoc]
      rfl

/-- A table is the table of its own entries. -/
theorem ofList_entries (table : Attributes α) : ofList table.entries = table := by
  have hentries : (ofList table.entries).entries = empty.entries ++ table.entries :=
    entries_foldl_insert table.sorted
  exact ext hentries

@[simp]
theorem unpack?_pack {packValue : α → Packed} {unpackValue? : Packed → Option α}
    (h : ∀ value, unpackValue? (packValue value) = some value) (table : Attributes α) :
    unpack? unpackValue? (table.pack packValue) = some table := by
  have hentries : (table.entries.map fun entry =>
      (Packed.ofText entry.1, packValue entry.2)).mapM (unpackPair? unpackValue?) =
        some table.entries := by
    induction table.entries with
    | nil => rfl
    | cons entry entries ih => simp [List.mapM_cons, unpackPair?, h, ih]
  simp [unpack?, pack, hentries, ofList_entries]

end Attributes

namespace Stack

theorem unpack?_packed (depth : Nat) (item : Key) {packed : Packed} {quantity : UInt32}
    (h : packed.count? = some quantity) :
    unpack? depth (Packed.ofRecord [("item", item.pack), ("quantity", packed)]) =
      some ⟨item, quantity⟩ := by
  simp [unpack?, Packed.fields?_ofRecord, h]

@[simp]
theorem unpack?_pack (depth : Nat) (stack : Stack) : unpack? depth stack.pack = some stack :=
  unpack?_packed depth stack.item (Packed.count?_ofCount stack.quantity)

end Stack

namespace Container

@[simp]
theorem unpack?_pack (depth : Nat) (container : Container) :
    unpack? depth container.pack = some container := by
  simp [unpack?, pack, Packed.fields?_ofRecord]

theorem pack_ne_nil (container : Container) : container.pack ≠ .nil := Packed.noConfusion

end Container

/-! ## Records of each kind -/

namespace Weight

@[simp]
theorem unpack?_pack (weight : Weight) : unpack? weight.pack = some weight := rfl

end Weight

namespace Item

@[simp]
theorem unpack?_pack (depth : Nat) (item : Item) : unpack? depth item.pack = some item := by
  simp [unpack?, pack, Packed.fields?_ofRecord]

end Item

namespace Pawn

@[simp]
theorem unpack?_pack (depth : Nat) (pawn : Pawn) : unpack? depth pawn.pack = some pawn := by
  simp [unpack?, pack, Packed.fields?_ofRecord, Key.pack_ne_nil]

end Pawn

namespace Exit

@[simp]
theorem unpack?_pack (depth : Nat) (exit : Exit) : unpack? depth exit.pack = some exit := by
  simp [unpack?, pack, Packed.fields?_ofRecord, Key.pack_ne_nil]

end Exit

namespace Behavior

@[simp]
theorem unpack?_pack (behavior : Behavior) : unpack? behavior.pack = some behavior := by
  cases behavior with
  | custom handler => simp [unpack?, pack, variants, Packed.variant?_ofVariant]
  | _ =>
      simp [unpack?, pack, variantName, variants, Packed.variant?_ofText, Packed.isBare,
        ofVariantName?]

end Behavior

namespace ActionWords

@[simp]
theorem unpack?_pack (depth : Nat) (words : ActionWords) :
    unpack? depth words.pack = some words := by
  simp [unpack?, pack, Packed.fields?_ofRecord]

theorem pack_ne_nil (words : ActionWords) : words.pack ≠ .nil := Packed.noConfusion

end ActionWords

namespace Command

@[simp]
theorem unpack?_pack (depth : Nat) (command : Command) :
    unpack? depth command.pack = some command := by
  simp [unpack?, pack, Packed.fields?_ofRecord, ActionWords.pack_ne_nil]

end Command

namespace Condition

@[simp]
theorem unpack?_pack (depth : Nat) (condition : Condition) :
    unpack? depth condition.pack = some condition := by
  simp [unpack?, pack, Packed.fields?_ofRecord]

end Condition

namespace Event

@[simp]
theorem unpack?_pack (depth : Nat) (event : Event) : unpack? depth event.pack = some event := by
  simp [unpack?, pack, Packed.fields?_ofRecord]

end Event

namespace DialogOption

@[simp]
theorem unpack?_pack (depth : Nat) (option : DialogOption) :
    unpack? depth option.pack = some option := by
  simp [unpack?, pack, Packed.fields?_ofRecord]

end DialogOption

namespace Dialog

@[simp]
theorem unpack?_pack (depth : Nat) (dialog : Dialog) :
    unpack? depth dialog.pack = some dialog := by
  simp [unpack?, pack, Packed.fields?_ofRecord]

end Dialog

namespace Kind

@[simp]
theorem unpack?_pack (depth : Nat) (kind : Kind) : unpack? depth kind.pack = some kind := by
  cases kind with
  | location => simp [unpack?, pack, variants, Packed.variant?_ofText, Packed.isBare]
  | _ => simp [unpack?, pack, variants, Packed.variant?_ofVariant]

end Kind

namespace Entity

@[simp]
theorem unpack?_pack (depth : Nat) (entity : Entity) :
    unpack? depth entity.pack = some entity := by
  simp [unpack?, pack, Packed.fields?_ofRecord, Container.pack_ne_nil]

end Entity

end TextAdventure
