import TextAdventure.Proofs.Registry.Transfers

/-!
# Errands

An errand is a command that carries items: a get, a drop or a put, with its operation.  It ends
in one of two ways.  Either it is refused, or it moves the units it counts from its source to
its target, which hold them and can hold them.
-/

namespace TextAdventure

inductive Errand where
  | get (operation : Operation)
  | drop (operation : Operation)
  | put (operation : Operation)

namespace Errand

def operation : Errand → Operation
  | get operation => operation
  | drop operation => operation
  | put operation => operation

def isGet : Errand → Bool
  | get _ => true
  | _ => false

def reply (arithmetic : Arithmetic) (world : World) : Errand → Reply
  | get operation => world.get arithmetic operation
  | drop operation => world.drop operation
  | put operation => world.put operation

/-- What the errand comes to. -/
def handling (arithmetic : Arithmetic) (world : World) : Errand → Handling
  | get operation => Handling.ofGet arithmetic world operation
  | drop operation => Handling.ofDrop world operation
  | put operation => Handling.ofPut world operation

theorem reply_eq_carryOut (arithmetic : Arithmetic) (world : World) (errand : Errand) :
    errand.reply arithmetic world = (errand.handling arithmetic world).carryOut world := by
  cases errand <;> rfl

/-- The container that the units come from. -/
def source? (world : World) : Errand → Option Key
  | get _ => world.playerLocation?
  | drop _ => some world.player
  | put _ => some world.player

/-- The container that the units go to. -/
def target? (world : World) : Errand → Option Key
  | get _ => some world.player
  | drop _ => world.playerLocation?
  | put operation => operation.indirect

/-- The number of units asked for; a get of nothing or less asks for one. -/
def requested : Errand → Int
  | get operation => if operation.quantity ≤ 0 then 1 else operation.quantity
  | drop operation => operation.quantity
  | put operation => operation.quantity

/-- The number asked for as a count. -/
def count (errand : Errand) : UInt32 :=
  clampCount errand.requested

theorem count_get (operation : Operation) :
    (get operation).count = Handling.wanted operation.quantity := by
  rw [count, requested, Handling.wanted]
  split <;> rfl

/-- What is true when an errand moves the units it counts. -/
structure Moves (arithmetic : Arithmetic) (world : World) (errand : Errand) (after : Registry)
    (source target item : Key) : Prop where
  source_eq : errand.source? world = some source
  target_eq : errand.target? world = some target
  item_eq : errand.operation.direct = some item
  positive : 0 < errand.requested
  enough : errand.count ≤ world.registry.held source item
  transferred : world.registry.transfer? source target item errand.count = some after
  /-- A get leaves the player within its limit. -/
  within : errand.isGet = true → ∃ pawn, world.playerPawn? = some pawn ∧
    arithmetic.exceeds (after.carriedWeight arithmetic world.player)
      (arithmetic.ofWeight pawn.maxWeight) = false

/-- The two ways in which a handling answers an errand. -/
inductive Ends (arithmetic : Arithmetic) (world : World) (errand : Errand) : Handling → Prop where
  | refused (text : String) : Ends arithmetic world errand (.refusal text)
  | moved {after : Registry} {source target item : Key} (text : String)
      (h : errand.Moves arithmetic world after source target item) :
      Ends arithmetic world errand (.transfer after text)

variable {arithmetic : Arithmetic} {world : World}

theorem ends_ite {errand : Errand} {condition : Prop} [Decidable condition]
    {left right : Handling} (hleft : condition → errand.Ends arithmetic world left)
    (hright : ¬ condition → errand.Ends arithmetic world right) :
    errand.Ends arithmetic world (if condition then left else right) := by
  split
  next hcondition => exact hleft hcondition
  next hcondition => exact hright hcondition

/-- An unmet requirement ends an errand in a refusal. -/
theorem ends_unless {errand : Errand} {condition : Prop} [Decidable condition] {text : String}
    {handling : Handling} (h : ¬ condition → errand.Ends arithmetic world handling) :
    errand.Ends arithmetic world (if condition then .refusal text else handling) :=
  ends_ite (fun _ => .refused text) h

theorem exists_container_of_held {holder item : Key}
    (h : 0 < world.registry.held holder item) :
    ∃ container, world.registry.container? holder = some container := by
  rw [Registry.held] at h
  split at h
  · exact absurd h (by decide)
  next container hcontainer => exact ⟨container, hcontainer⟩

/-! ## Getting -/

theorem ends_ofTaking {operation : Operation} {here item : Key}
    (hhere : world.playerLocation? = some here) (hitem : operation.direct = some item)
    (henough : (get operation).count ≤ world.registry.held here item) :
    (get operation).Ends arithmetic world
      (Handling.ofTaking arithmetic world here item (get operation).count) := by
  unfold Handling.ofTaking
  dsimp only
  split
  · exact .refused _
  next pawn hpawn =>
    split
    · exact .refused _
    next after htransfer =>
      refine ends_unless fun hwithin => ?_
      have hpositive : 0 < (get operation).requested := by
        rw [requested]
        split <;> omega
      exact .moved _ ⟨hhere, rfl, hitem, hpositive, henough, htransfer,
        fun _ => ⟨pawn, hpawn, Bool.eq_false_iff.mpr hwithin⟩⟩

theorem ends_ofGet (arithmetic : Arithmetic) (world : World) (operation : Operation) :
    (get operation).Ends arithmetic world (Handling.ofGet arithmetic world operation) := by
  refine ends_unless fun _ => ?_
  dsimp only
  split
  next here item hhere hitem =>
    refine ends_ite (fun _ => ends_unless fun _ => .refused _) fun _ =>
      ends_unless fun henough => ?_
    rw [← count_get] at henough ⊢
    exact ends_ofTaking hhere hitem (UInt32.not_lt.mp henough)
  · exact .refused _

/-! ## Dropping and putting -/

theorem of_heldItem? {operation : Operation} {item : Key}
    (h : Handling.heldItem? world operation = some item) :
    operation.direct = some item ∧ 0 < world.registry.held world.player item := by
  obtain ⟨hdirect, hheld⟩ := Option.filter_eq_some_iff.mp h
  exact ⟨hdirect, of_decide_eq_true hheld⟩

theorem ends_ofDrop (arithmetic : Arithmetic) (world : World) (operation : Operation) :
    (drop operation).Ends arithmetic world (Handling.ofDrop world operation) := by
  refine ends_unless fun _ => ends_unless fun hpositive => ?_
  split
  · exact .refused _
  next item hitem =>
    obtain ⟨hdirect, -⟩ := of_heldItem? hitem
    dsimp only
    split
    · exact .refused _
    next henough =>
      split
      · exact .refused _
      next after hdropped =>
        obtain ⟨here, hhere, htransfer⟩ := Option.bind_eq_some_iff.mp hdropped
        exact .moved _ ⟨rfl, hhere, hdirect, Int.not_le.mp hpositive, UInt32.not_lt.mp henough,
          htransfer, fun hget => by cases hget⟩

theorem ends_ofPutting {operation : Operation} {item : Key}
    (hdirect : operation.direct = some item) (hpositive : 0 < operation.quantity)
    (hheld : 0 < world.registry.held world.player item)
    (henough : (put operation).count ≤ world.registry.held world.player item) :
    (put operation).Ends arithmetic world
      (Handling.ofPutting world operation item (put operation).count) := by
  unfold Handling.ofPutting
  dsimp only
  split
  · exact .refused _
  next target htarget =>
    refine ends_unless fun hopen => ?_
    obtain ⟨htarget, -⟩ := Option.filter_eq_some_iff.mp htarget
    obtain ⟨container, hsource⟩ := exists_container_of_held hheld
    have hother : ∃ other, world.registry.container? target = some other := by
      rw [Registry.container?]
      cases hget : world.registry.get? target with
      | none => simp [hget] at hopen
      | some entity =>
          simp only [hget, not_or, Bool.and_eq_false_iff, Bool.not_eq_false] at hopen
          exact Option.isSome_iff_exists.mp (by simpa using hopen.2.2)
    obtain ⟨other, hother⟩ := hother
    obtain ⟨after, hafter⟩ := Registry.exists_transfer? hsource hother henough
    rw [hafter]
    exact .moved _ ⟨rfl, htarget, hdirect, hpositive, henough, hafter, fun hget => by cases hget⟩

theorem ends_ofPut (arithmetic : Arithmetic) (world : World) (operation : Operation) :
    (put operation).Ends arithmetic world (Handling.ofPut world operation) := by
  refine ends_unless fun _ => ends_unless fun _ => ends_unless fun hpositive => ?_
  split
  · exact .refused _
  next item hitem =>
    obtain ⟨hdirect, hheld⟩ := of_heldItem? hitem
    dsimp only
    split
    · exact .refused _
    next henough =>
      exact ends_ofPutting hdirect (Int.not_le.mp hpositive) hheld (UInt32.not_lt.mp henough)

/-! ## What something is put into -/

/-- What is not refused outright has not met the condition for it. -/
theorem of_ite_refusal {condition : Prop} [Decidable condition] {refused text : String}
    {handling : Handling} {after : Registry}
    (h : (if condition then .refusal refused else handling) = .transfer after text) :
    ¬ condition ∧ handling = .transfer after text := by
  split at h
  next => cases h
  next hcondition => exact ⟨hcondition, h⟩

theorem exists_target_of_ofPutting {operation : Operation} {item : Key} {quantity : UInt32}
    {after : Registry} {text : String}
    (h : Handling.ofPutting world operation item quantity = .transfer after text) :
    ∃ target record, operation.indirect = some target ∧
      (Scope.ofActor world.registry world.player).contains target = true ∧
      world.registry.item? target = some record := by
  unfold Handling.ofPutting at h
  dsimp only at h
  split at h
  · cases h
  next target htarget =>
    obtain ⟨hindirect, hcontains⟩ := Option.filter_eq_some_iff.mp htarget
    obtain ⟨hopen, -⟩ := of_ite_refusal h
    cases hget : world.registry.get? target with
    | none => simp [hget] at hopen
    | some entity =>
        simp only [hget, not_or, Bool.and_eq_false_iff, Bool.not_eq_false] at hopen
        obtain ⟨record, hrecord⟩ := Option.isSome_iff_exists.mp
          (by simpa using hopen.2.1 : entity.kind.item?.isSome = true)
        refine ⟨target, record, hindirect, hcontains, ?_⟩
        rw [Registry.item?, hget, Option.bind_some, hrecord]

/-- What is put somewhere is put into a thing in the scope. -/
theorem exists_target_of_ofPut {operation : Operation} {after : Registry} {text : String}
    (h : Handling.ofPut world operation = .transfer after text) :
    ∃ target record, operation.indirect = some target ∧
      (Scope.ofActor world.registry world.player).contains target = true ∧
      world.registry.item? target = some record := by
  obtain ⟨-, hphrase⟩ := of_ite_refusal h
  obtain ⟨-, hcounted⟩ := of_ite_refusal hphrase
  obtain ⟨-, hheld⟩ := of_ite_refusal hcounted
  split at hheld
  · cases hheld
  next item hitem =>
    obtain ⟨-, hputting⟩ := of_ite_refusal hheld
    exact exists_target_of_ofPutting hputting

/-! ## All errands -/

/-- Every errand is refused or moves what it counts. -/
theorem ends_handling (arithmetic : Arithmetic) (world : World) (errand : Errand) :
    errand.Ends arithmetic world (errand.handling arithmetic world) := by
  cases errand with
  | get operation => exact ends_ofGet arithmetic world operation
  | drop operation => exact ends_ofDrop arithmetic world operation
  | put operation => exact ends_ofPut arithmetic world operation

theorem moves_of_transfer {errand : Errand} {after : Registry} {text : String}
    (h : errand.handling arithmetic world = .transfer after text) :
    ∃ source target item, errand.Moves arithmetic world after source target item := by
  have hends := ends_handling arithmetic world errand
  rw [h] at hends
  cases hends with
  | moved text hmoves => exact ⟨_, _, _, hmoves⟩

/-- An errand leaves the world as it is, or moves what it counts and changes nothing else. -/
theorem world_reply_cases (arithmetic : Arithmetic) (world : World) (errand : Errand) :
    (errand.reply arithmetic world).world = world ∨
      ∃ after source target item, errand.Moves arithmetic world after source target item ∧
        (errand.reply arithmetic world).world = { world with registry := after } := by
  have hends := ends_handling arithmetic world errand
  rw [reply_eq_carryOut]
  generalize errand.handling arithmetic world = handling at hends ⊢
  cases hends with
  | refused text => exact Or.inl rfl
  | moved text hmoves => exact Or.inr ⟨_, _, _, _, hmoves, rfl⟩

end Errand

end TextAdventure
