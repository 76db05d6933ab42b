import TextAdventure.Save.Record

/-!
# Records and variants unpacked

What a record or a variant is packed as gives its fields, or its name and contents, back.
Nothing but the distinctness of the field names is used, so that it holds at every depth.
-/

namespace TextAdventure.Save

/-! ## Texts as bytes -/

theorem toList_loop (bytes : ByteArray) (index : Nat) (passed : List UInt8) :
    ByteArray.toList.loop bytes index passed = passed.reverse ++ bytes.data.toList.drop index := by
  fun_induction ByteArray.toList.loop bytes index passed with
  | case1 index passed hless ih =>
      have hindex : index < bytes.data.toList.length := hless
      have hbyte : bytes.get! index = bytes.data.toList[index] := by
        rw [ByteArray.get!, getElem!_pos bytes.data index hless, Array.getElem_toList]
      rw [ih, List.drop_eq_getElem_cons hindex, hbyte]
      simp
  | case2 index passed hless =>
      have hindex : bytes.data.toList.length ≤ index := Nat.le_of_not_lt hless
      rw [List.drop_eq_nil_of_le hindex, List.append_nil]

theorem toList_eq (bytes : ByteArray) : bytes.toList = bytes.data.toList := by
  rw [ByteArray.toList, toList_loop]
  rfl

theorem fromUTF8?_toUTF8 (text : String) :
    String.fromUTF8? ⟨text.toUTF8.toList.toArray⟩ = some text := by
  have hbytes : (⟨text.toUTF8.toList.toArray⟩ : ByteArray) = text.toUTF8 := by
    rw [toList_eq]
  rw [hbytes]
  exact dif_pos text.isValidUTF8

theorem toUTF8_inj {left right : String} (h : left.toUTF8.toList = right.toUTF8.toList) :
    left = right := by
  have hleft := fromUTF8?_toUTF8 left
  rw [h, fromUTF8?_toUTF8] at hleft
  exact (Option.some.inj hleft).symm

namespace Packed

/-! ## Single values -/

@[simp]
theorem text?_ofText (text : String) : (ofText text).text? = some text :=
  fromUTF8?_toUTF8 text

@[simp]
theorem bool?_ofBool (value : Bool) : (ofBool value).bool? = some value := rfl

@[simp]
theorem list?_ofList {α : Type} {pack : α → Packed} {unpack? : Packed → Option α}
    (h : ∀ value, unpack? (pack value) = some value) (values : List α) :
    list? unpack? (ofList pack values) = some values := by
  rw [ofList, list?]
  induction values with
  | nil => rfl
  | cons value values ih => simp [List.mapM_cons, h, ih]

/-- An optional value is read back if no value at all is packed as nothing. -/
@[simp]
theorem optional_ofOption {α : Type} {pack : α → Packed} {unpack? : Packed → Option α}
    (h : ∀ value, unpack? (pack value) = some value) (hnil : ∀ value, pack value ≠ nil)
    (value : Option α) : optional unpack? (some (ofOption pack value)) = some value := by
  cases value with
  | none => rfl
  | some value =>
      have hoption : option? unpack? (pack value) = (unpack? (pack value)).map some := by
        unfold option?
        split
        next hpack => exact absurd hpack (hnil value)
        next => rfl
      rw [optional, ofOption, hoption, h]
      rfl

@[simp]
theorem required_some {α : Type} (unpack? : Packed → Option α) (packed : Packed) :
    required unpack? (some packed) = unpack? packed := rfl

/-! ## Names -/

theorem findIdx?_toUTF8 {before : List String} {name : String} (h : name ∉ before)
    (after : List String) :
    (before ++ name :: after).findIdx? (fun other => other.toUTF8.toList = name.toUTF8.toList) =
      some before.length := by
  induction before with
  | nil => rw [List.nil_append, List.findIdx?_cons, if_pos (decide_eq_true rfl), List.length_nil]
  | cons first before ih =>
      have hfirst : first.toUTF8.toList ≠ name.toUTF8.toList := fun heq =>
        h (toUTF8_inj heq ▸ List.mem_cons_self ..)
      have hbefore : name ∉ before := fun hmem => h (List.mem_cons_of_mem _ hmem)
      rw [List.cons_append, List.findIdx?_cons, ih hbefore, if_neg (by simpa using hfirst)]
      rfl

theorem position?_ofText {before : List String} {name : String} (h : name ∉ before)
    (after : List String) :
    position? (before ++ name :: after) (ofText name) = some (some before.length) := by
  rw [ofText, position?, findIdx?_toUTF8 h]

/-! ## Records -/

theorem enterField_next (value : Packed) (before after : List (Option Packed)) :
    enterField before.length value (before ++ none :: after) =
      some (before ++ some value :: after) := by
  simp [enterField]

/-- The fields are entered one after another; those entered so far are `before`. -/
theorem enterFields_ofRecord (depth : Nat) (before after : List (String × Packed))
    (h : ((before ++ after).map Prod.fst).Nodup) :
    enterFields depth ((before ++ after).map Prod.fst)
        (after.map fun field => (ofText field.1, field.2))
        (before.map (fun field => some field.2) ++ after.map fun _ => none) =
      some ((before ++ after).map fun field => some field.2) := by
  induction after generalizing before with
  | nil => simp [enterFields]
  | cons field after ih =>
      obtain ⟨name, value⟩ := field
      have hmem : name ∉ before.map Prod.fst := by
        rw [List.map_append, List.map_cons, List.nodup_append] at h
        exact fun hmem => h.2.2 name hmem name (List.mem_cons_self ..) rfl
      have hposition := position?_ofText hmem (after.map Prod.fst)
      have hentered := enterField_next value (before.map fun field => some field.2)
        (after.map fun _ => none)
      rw [List.length_map] at hposition hentered
      have hnext := ih (before ++ [(name, value)]) (by simpa using h)
      simp only [List.map_append, List.map_cons, List.map_nil, List.append_assoc,
        List.cons_append, List.nil_append] at hnext ⊢
      rw [enterFields, hposition]
      simp only [hentered, Option.bind_eq_bind, Option.bind_some, hnext]

theorem fields?_ofRecord {names : List String} {fields : List (String × Packed)}
    (hnames : fields.map Prod.fst = names) (h : names.Nodup) (depth : Nat) :
    (ofRecord fields).fields? depth names = some (fields.map fun field => some field.2) := by
  subst hnames
  have hentered := enterFields_ofRecord (depth + 1) [] fields h
  simpa [fields?, ofRecord, List.map_map, Function.comp_def] using hentered

/-! ## Variants -/

theorem position?_mem {names : List String} {name : String} (h : name ∈ names) :
    ∃ index, position? names (ofText name) = some (some index) ∧ names[index]? = some name := by
  obtain ⟨before, after, rfl, hbefore⟩ := List.eq_append_cons_of_mem h
  exact ⟨before.length, position?_ofText hbefore after, by simp⟩

theorem variant?_ofVariant {names : List String} {name : String} (h : name ∈ names)
    (content : Packed) : (ofVariant name content).variant? names = some (name, some content) := by
  obtain ⟨index, hposition, hname⟩ := position?_mem h
  simp [ofVariant, variant?, hposition, hname]

theorem variant?_ofText {names : List String} {name : String} (h : name ∈ names) :
    (ofText name).variant? names = some (name, none) := by
  obtain ⟨index, hposition, hname⟩ := position?_mem h
  have hunfold : (ofText name).variant? names = (do
      let index ← ← position? names (ofText name)
      return (← names[index]?, none)) := rfl
  simp [hunfold, hposition, hname]

end Packed

end TextAdventure.Save
