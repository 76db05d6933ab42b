import TextAdventure.Stage

/-!
# Dialogs on a stage

A dialog shows its menu until an option is chosen or the input ends.  Holding a dialog
gives the effects of the chosen option, and either uses up input or chooses nothing.
-/

namespace TextAdventure

namespace Terminal

def choiceQuery : String := "Choose an option: "

def choiceHint (count : Nat) : String :=
  "Please choose a number between 1 and " ++ toString count ++ "."

theorem unread_readChoice_le {terminal after : Terminal} {count : Nat} {choice : Option Nat}
    (h : terminal.readChoice count = .ok (choice, after)) : after.unread ≤ terminal.unread := by
  rcases unread_readChoice h with hlt | ⟨_, heq, _⟩ <;> omega

/-- After a choice that does not end the dialog there is less to read. -/
theorem unread_again {terminal shown after again : Terminal} {menu hint : String}
    {query : Option String} {count : Nat} {choice : Option Nat}
    (hmenu : terminal.display menu query = .ok shown)
    (hread : shown.readChoice count = .ok (choice, after))
    (hclosed : ¬ after.isClosed = true) (hhint : after.display hint none = .ok again) :
    again.unread < terminal.unread := by
  have hmenu := unread_display hmenu
  have hhint := unread_display hhint
  rcases unread_readChoice hread with hlt | ⟨_, _, hend⟩
  · omega
  · exact absurd hend hclosed

/-- Show a menu and read a choice, again and again until there is one or the input ends. -/
def ask (menu : String) (count : Nat) (terminal : Terminal) :
    Except Fault (Option Nat) × Terminal :=
  match hmenu : terminal.display menu (some choiceQuery) with
  | .error fault => (.error fault, terminal)
  | .ok shown =>
      match hread : shown.readChoice count with
      | .error fault => (.error fault, shown)
      | .ok (choice, after) =>
          match choice.filter fun index => index < count with
          | some index => (.ok (some index), after)
          | none =>
              if hclosed : after.isClosed = true then (.ok none, after)
              else
                match hhint : after.display (choiceHint count) none with
                | .error fault => (.error fault, after)
                | .ok again =>
                    have : again.unread < terminal.unread :=
                      unread_again hmenu hread hclosed hhint
                    again.ask menu count
termination_by terminal.unread

/-- Asking uses up input unless nothing is chosen. -/
theorem unread_ask (menu : String) (count : Nat) (terminal : Terminal) :
    (terminal.ask menu count).2.unread ≤ terminal.unread ∧
      ∀ index, (terminal.ask menu count).1 = .ok (some index) →
        (terminal.ask menu count).2.unread < terminal.unread := by
  fun_induction ask menu count terminal with
  | case1 terminal fault hmenu => simp
  | case2 terminal shown hmenu fault hread => simp [unread_display hmenu]
  | case3 terminal shown hmenu choice after hread index hchoice =>
      have hmenu := unread_display hmenu
      rcases unread_readChoice hread with hlt | ⟨hnone, _, _⟩
      · dsimp only
        exact ⟨by omega, fun _ _ => by omega⟩
      · simp [hnone] at hchoice
  | case4 terminal shown hmenu choice after hread hchoice hclosed =>
      have hmenu := unread_display hmenu
      have hle := unread_readChoice_le hread
      exact ⟨by dsimp only; omega, fun _ h => by simp at h⟩
  | case5 terminal shown hmenu choice after hread hchoice hclosed fault hhint =>
      have hmenu := unread_display hmenu
      have hle := unread_readChoice_le hread
      exact ⟨by dsimp only; omega, fun _ h => by simp at h⟩
  | case6 terminal shown hmenu choice after hread hchoice hclosed again hhint hless ih =>
      exact ⟨by omega, fun index h => Nat.lt_trans (ih.2 index h) hless⟩

end Terminal

namespace Dialog

def optionLine (number : Nat) (option : DialogOption) : String :=
  "\n  " ++ toString number ++ ". " ++ option.text

/-- The opening and the options, numbered from one. -/
def menu (dialog : Dialog) : String :=
  dialog.opening ++
    String.join (dialog.options.zipIdx.map fun pair => optionLine (pair.2 + 1) pair.1)

end Dialog

namespace Session

/-- Choose an option of a dialog: give its reply, and use it up if it is for once. -/
def choose (session : Session) (dialog : Key) (index : Nat) (option : DialogOption) : Session :=
  let replied := if option.reply.isEmpty then session else session.say option.reply
  if option.once then
    { replied with
      world :=
        { replied.world with registry := replied.world.registry.dropOption dialog index } }
  else replied

end Session

namespace Stage

/-- Ask for one of a dialog's options, and give the effects of the one that is chosen. -/
def offerOptions (key : Key) (dialog : Dialog) (stage : Stage) :
    Except Fault (List Effect) × Stage :=
  match stage.terminal.ask dialog.menu dialog.options.length with
  | (.error fault, terminal) => (.error fault, { stage with terminal := terminal })
  | (.ok none, terminal) => (.ok [], { stage with terminal := terminal })
  | (.ok (some index), terminal) =>
      match dialog.options[index]? with
      | none => (.ok [], { stage with terminal := terminal })
      | some option =>
          (.ok option.effects,
            { stage with
              session := stage.session.choose key index option
              terminal := terminal })

/-- Hold a dialog.  One that is not registered is passed over. -/
def hold (key : Key) (stage : Stage) : Except Fault (List Effect) × Stage :=
  match stage.session.world.registry.dialog? key with
  | none => (.ok [], stage)
  | some dialog =>
      if dialog.options.isEmpty then
        (.ok [], { stage with session := stage.session.say "There is nothing more to say." })
      else
        match Activity.flush.perform stage with
        | (.error fault, after) => (.error fault, after)
        | (.ok (), after) => after.offerOptions key dialog

theorem unread_offerOptions (key : Key) (dialog : Dialog) (stage : Stage) :
    (stage.offerOptions key dialog).2.unread ≤ stage.unread ∧
      ∀ effects, (stage.offerOptions key dialog).1 = .ok effects →
        effects = [] ∨ (stage.offerOptions key dialog).2.unread < stage.unread := by
  obtain ⟨hle, hlt⟩ := Terminal.unread_ask dialog.menu dialog.options.length stage.terminal
  unfold offerOptions
  split
  next fault terminal h =>
    rw [h] at hle
    exact ⟨hle, fun _ h => by cases h⟩
  next terminal h =>
    rw [h] at hle
    exact ⟨hle, fun _ h => by cases h; exact Or.inl rfl⟩
  next index terminal h =>
    rw [h] at hle hlt
    split
    · exact ⟨hle, fun _ h => by cases h; exact Or.inl rfl⟩
    · exact ⟨hle, fun _ _ => Or.inr (hlt index rfl)⟩

/-- Holding a dialog uses up input unless it comes to no effects. -/
theorem unread_hold (key : Key) (stage : Stage) :
    (stage.hold key).2.unread ≤ stage.unread ∧
      ∀ effects, (stage.hold key).1 = .ok effects →
        effects = [] ∨ (stage.hold key).2.unread < stage.unread := by
  have hflush := Activity.forward_flush stage
  unfold hold
  split
  · exact ⟨Nat.le_refl _, fun _ h => by cases h; exact Or.inl rfl⟩
  next dialog _ =>
    split
    · exact ⟨Nat.le_refl _, fun _ h => by cases h; exact Or.inl rfl⟩
    · split
      next fault after h =>
        rw [h] at hflush
        exact ⟨hflush, fun _ h => by cases h⟩
      next after h =>
        rw [h] at hflush
        obtain ⟨hle, hlt⟩ := unread_offerOptions key dialog after
        refine ⟨Nat.le_trans hle hflush, fun effects heffects => ?_⟩
        rcases hlt effects heffects with hnil | hless
        · exact Or.inl hnil
        · exact Or.inr (Nat.lt_of_lt_of_le hless hflush)

/-! ## Effects -/

/-- After a dialog there is less to read, or there are fewer effects to apply. -/
theorem work_hold {key : Key} {stage after : Stage} {chosen : List Effect}
    (h : stage.hold key = (.ok chosen, after)) (rest : List Effect) :
    Prod.Lex (· < ·) (· < ·) (after.unread, (chosen ++ rest).length)
      (stage.unread, rest.length + 1) := by
  have hunread := unread_hold key stage
  rw [h] at hunread
  obtain ⟨hle, hlt⟩ := hunread
  rcases hlt chosen rfl with hnil | hless
  · subst hnil
    rcases Nat.lt_or_eq_of_le hle with hless | heq
    · exact Prod.Lex.left _ _ hless
    · have heq : after.unread = stage.unread := heq
      rw [heq]
      exact Prod.Lex.right _ (by simp)
  · exact Prod.Lex.left _ _ hless

/-- Apply effects in order.  The effects of a dialog's chosen option come before those
that follow the dialog. -/
def applyAll (effects : List Effect) (stage : Stage) : Except Fault Unit × Stage :=
  match effects with
  | [] => (.ok (), stage)
  | .initiateDialog dialog :: rest =>
      match hhold : stage.hold dialog with
      | (.error fault, after) => (.error fault, after)
      | (.ok chosen, after) =>
          have : Prod.Lex (· < ·) (· < ·) (after.unread, (chosen ++ rest).length)
              (stage.unread, rest.length + 1) := work_hold hhold rest
          after.applyAll (chosen ++ rest)
  | effect :: rest =>
      Stage.applyAll rest { stage with session := stage.session.apply effect }
termination_by (stage.unread, effects.length)
decreasing_by
  · assumption
  · exact Prod.Lex.right _ (by simp)

theorem unread_applyAll (effects : List Effect) (stage : Stage) :
    (stage.applyAll effects).2.unread ≤ stage.unread := by
  fun_induction applyAll effects stage with
  | case1 stage => exact Nat.le_refl _
  | case2 stage dialog rest fault after hhold =>
      have hunread := (unread_hold dialog stage).1
      rw [hhold] at hunread
      exact hunread
  | case3 stage dialog rest chosen after hhold _ ih =>
      have hunread := (unread_hold dialog stage).1
      rw [hhold] at hunread
      exact Nat.le_trans ih hunread
  | case4 stage effect rest _ ih => exact ih

end Stage

namespace Activity

/-- Apply effects in order, dialogs included. -/
def applyAll (effects : List Effect) : Activity Unit :=
  ofStep (Stage.applyAll effects)

theorem forward_applyAll (effects : List Effect) : Forward (applyAll effects) :=
  fun stage => Stage.unread_applyAll effects stage

end Activity

end TextAdventure
