import TextAdventure.Stage.Start

/-!
# Running commands

What each behavior does with an operation.  A command with a handler of its own runs the
one that is registered under its name.
-/

namespace TextAdventure

/-- The handlers of custom commands by name. -/
abbrev Handlers : Type := List (String × (Operation → Activity Unit))

namespace Handlers

def find? (handlers : Handlers) (name : String) : Option (Operation → Activity Unit) :=
  (List.find? (fun handler => handler.1 = name) handlers).map Prod.snd

end Handlers

namespace Operation

def defaultSlot : String := "quicksave"

/-- The slot that an operation speaks of. -/
def slot (operation : Operation) : String :=
  let name := Text.trim operation.rest
  if name.isEmpty then defaultSlot else name

end Operation

namespace Activity

/-- Save the world under a name. -/
def saveTo (name : String) : Activity Unit :=
  ofStep fun stage =>
    let (result, store) := stage.store.save name stage.session.world
    (result, { stage with store := store })

/-- Go on from the world saved under a name. -/
def loadFrom (name : String) : Activity Unit :=
  ofStep fun stage =>
    match stage.store.load name with
    | .error fault => (.error fault, stage)
    | .ok world =>
        match stage.session.restore world with
        | .error fault => (.error fault, stage)
        | .ok session => (.ok (), { stage with session := session })

/-- Say why an activity failed instead of failing, or go on to what follows it. -/
def reporting {α : Type} (complaint : String) (activity : Activity α)
    (next : α → Activity Unit) : Activity Unit :=
  ofStep fun stage =>
    match activity.perform stage with
    | (.error fault, after) => (say (complaint ++ fault.message)).perform after
    | (.ok value, after) => (next value).perform after

def save (operation : Operation) : Activity Unit :=
  reporting "Could not save: " (saveTo operation.slot) fun _ =>
    say ("Saved as '" ++ operation.slot ++ "'.")

def load (operation : Operation) : Activity Unit :=
  reporting "Could not load: " (loadFrom operation.slot) fun _ => do
    editSession fun session => { session with skipsSweep := true }
    say ("Loaded '" ++ operation.slot ++ "'.")
    answer World.describeLocation

/-- Start over, without a sweep at the end of the turn. -/
def startOver : Activity Unit := do
  discard restart
  editSession fun session => { session with skipsSweep := true }
  answer World.describeLocation

def quit : Activity Unit := do
  editSession fun session => { session with isFinished := true }
  say "Goodbye."

/-- Hold a dialog and apply the effects of what is chosen. -/
def converse (dialog : Key) : Activity Unit :=
  applyAll [.initiateDialog dialog]

def talk (operation : Operation) : Activity Unit := do
  let session ← session
  match session.world.address operation with
  | .speech text => say text
  | .dialog dialog => converse dialog

def runCustom (handlers : Handlers) (name : String) (operation : Operation) : Activity Unit :=
  match handlers.find? name with
  | none => say "Nothing happens."
  | some handler => handler operation

def runBehavior (handlers : Handlers) (operation : Operation) : Behavior → Activity Unit
  | .look => answer World.describeLocation
  | .examine => answer (·.examine operation)
  | .move => answer (·.moveAlong operation)
  | .go => answer (·.go operation)
  | .get => answer (·.get Arithmetic.binary64 operation)
  | .drop => answer (·.drop operation)
  | .put => answer (·.put operation)
  | .inventory => answer World.takeStock
  | .talk => talk operation
  | .wait => say "Time passes."
  | .help => answer World.help
  | .save => save operation
  | .load => load operation
  | .restart => startOver
  | .quit => quit
  | .custom name => runCustom handlers name operation

/-- Run an operation by the behavior of its command. -/
def run (handlers : Handlers) (operation : Operation) : Activity Unit := do
  let session ← session
  match session.world.registry.command? operation.command with
  | none => say "Nothing happens."
  | some command => runBehavior handlers operation command.behavior

/-! ## Commands only read on -/

theorem forward_saveTo (name : String) : Forward (saveTo name) :=
  fun _ => Nat.le_refl _

theorem forward_loadFrom (name : String) : Forward (loadFrom name) := by
  intro stage
  simp only [perform, loadFrom, ofStep, ExceptT.mk, ExceptT.run, StateT.run]
  split
  · exact Nat.le_refl _
  · split <;> exact Nat.le_refl _

theorem forward_reporting {α : Type} (complaint : String) {activity : Activity α}
    {next : α → Activity Unit} (h : Forward activity) (hnext : ∀ value, Forward (next value)) :
    Forward (reporting complaint activity next) := by
  intro stage
  have hfirst := h stage
  simp only [reporting, ofStep, perform, ExceptT.mk, ExceptT.run, StateT.run] at hfirst ⊢
  split
  next fault after heq =>
    rw [heq] at hfirst
    exact hfirst
  next value after heq =>
    rw [heq] at hfirst
    exact Nat.le_trans (hnext value after) hfirst

theorem forward_save (operation : Operation) : Forward (save operation) :=
  forward_reporting _ (forward_saveTo _) fun _ => forward_say _

theorem forward_load (operation : Operation) : Forward (load operation) :=
  forward_reporting _ (forward_loadFrom _) fun _ =>
    forward_bind (forward_editSession _) fun _ =>
      forward_bind (forward_say _) fun _ => forward_answer _

theorem forward_startOver : Forward startOver :=
  forward_bind (fun stage => forward_bind forward_restart (fun _ => forward_pure ()) stage)
    fun _ => forward_bind (forward_editSession _) fun _ => forward_answer _

theorem forward_talk (operation : Operation) : Forward (talk operation) := by
  refine forward_bind forward_session fun session => ?_
  split
  · exact forward_say _
  · exact forward_applyAll _

theorem forward_runCustom {handlers : Handlers}
    (h : ∀ handler ∈ handlers, ∀ operation, Forward (handler.2 operation)) (name : String)
    (operation : Operation) : Forward (runCustom handlers name operation) := by
  unfold runCustom
  split
  · exact forward_say _
  next handler hfind =>
    simp only [Handlers.find?, Option.map_eq_some_iff] at hfind
    obtain ⟨entry, hentry, rfl⟩ := hfind
    exact h entry (List.mem_of_find?_eq_some hentry) operation

/-- With handlers that only read on, so does every command. -/
theorem forward_run {handlers : Handlers}
    (h : ∀ handler ∈ handlers, ∀ operation, Forward (handler.2 operation))
    (operation : Operation) : Forward (run handlers operation) := by
  refine forward_bind forward_session fun session => ?_
  split
  · exact forward_say _
  next command _ =>
    unfold runBehavior
    cases command.behavior with
    | talk => exact forward_talk operation
    | wait => exact forward_say _
    | save => exact forward_save operation
    | load => exact forward_load operation
    | restart => exact forward_startOver
    | quit => exact forward_bind (forward_editSession _) fun _ => forward_say _
    | custom name => exact forward_runCustom h name operation
    | _ => exact forward_answer _

end Activity

end TextAdventure
