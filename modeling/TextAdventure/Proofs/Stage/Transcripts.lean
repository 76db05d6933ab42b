import TextAdventure.Proofs.Stage.Compositions
import TextAdventure.Proofs.Stage.Logs
import TextAdventure.Proofs.Terminal.Supplies

/-!
# Transcripts

A script keeps all texts that are shown on it, so its transcript tells how often it was called to
show something.  What a session has said is due to be shown: no effect, dialog, sweep or restart
takes back a text that has been shown, or loses one that is due.
-/

namespace TextAdventure

namespace Script

theorem shown_nextLine (script : Script) : script.nextLine.2.shown = script.shown := by
  unfold nextLine
  split <;> rfl

/-- The next choice is taken from the lines or from the prepared choices. -/
theorem shown_nextChoice (script : Script) (count : Nat) :
    (script.nextChoice count).2.shown = script.shown := by
  unfold nextChoice
  split
  · exact script.shown_nextLine
  · rfl
  · rfl

end Script

namespace Terminal

def IsScripted : Terminal → Prop
  | scripted _ => True
  | stream _ => False

/-- The texts that have been shown on a script; a line stream keeps no record of the calls. -/
def shown : Terminal → List String
  | scripted script => script.shown
  | stream _ => []

/-- A terminal that keeps its transcript: a script itself, and for a line stream the script with
the same left to read. -/
def recorded : Terminal → Terminal
  | scripted script => scripted script
  | stream lines => scripted (Script.ofLines (stream lines).supply.lines)

variable {terminal after : Terminal}

theorem isScripted_recorded (terminal : Terminal) : terminal.recorded.IsScripted := by
  cases terminal <;> trivial

/-- A reliable terminal and the one that keeps its transcript are alike. -/
theorem IsReliable.alike_recorded (h : terminal.IsReliable) : terminal.Alike terminal.recorded := by
  cases terminal with
  | scripted script => exact ⟨h, h, rfl⟩
  | stream lines => exact ⟨h, ⟨rfl, rfl⟩, rfl⟩

/-- A display makes one entry in the transcript. -/
theorem IsScripted.transcript_display (h : terminal.IsScripted) {text : String}
    {query : Option String} (hdisplay : terminal.display text query = .ok after) :
    after.IsScripted ∧ after.shown = terminal.shown ++ [Script.withQuery text query] := by
  cases terminal with
  | scripted script =>
      simp only [display, Script.display] at hdisplay
      split at hdisplay
      · cases hdisplay
      next told htold =>
        split at htold
        · cases htold
        · cases htold
          cases hdisplay
          exact ⟨trivial, rfl⟩
  | stream lines => exact absurd h id

theorem IsScripted.shown_display (h : terminal.IsScripted) {text : String} {query : Option String}
    (hdisplay : terminal.display text query = .ok after) :
    after.IsScripted ∧ after.shown.length = terminal.shown.length + 1 := by
  obtain ⟨hafter, hshown⟩ := h.transcript_display hdisplay
  exact ⟨hafter, hshown ▸ List.length_append⟩

/-- Reading leaves the transcript as it is. -/
theorem IsScripted.transcript_readLine (h : terminal.IsScripted) {line : Option String}
    (hread : terminal.readLine = .ok (line, after)) :
    after.IsScripted ∧ after.shown = terminal.shown := by
  cases terminal with
  | scripted script =>
      simp only [readLine, Script.readLine] at hread
      split at hread
      · cases hread
      next heard rest hheard =>
        split at hheard
        · cases hheard
        next left _ =>
          cases hread
          have hnext := Except.ok.inj hheard
          have hshown := Script.shown_nextLine { script with readsLeft := left }
          rw [hnext] at hshown
          exact ⟨trivial, hshown⟩
  | stream lines => exact absurd h id

theorem IsScripted.transcript_readChoice (h : terminal.IsScripted) {count : Nat}
    {choice : Option Nat} (hread : terminal.readChoice count = .ok (choice, after)) :
    after.IsScripted ∧ after.shown = terminal.shown := by
  cases terminal with
  | scripted script =>
      simp only [readChoice, Script.readChoice] at hread
      split at hread
      · cases hread
      next heard rest hheard =>
        split at hheard
        · cases hheard
        next left _ =>
          cases hread
          have hnext := Except.ok.inj hheard
          have hshown := Script.shown_nextChoice { script with readsLeft := left } count
          rw [hnext] at hshown
          exact ⟨trivial, hshown⟩
  | stream lines => exact absurd h id

theorem IsScripted.shown_readChoice (h : terminal.IsScripted) {count : Nat} {choice : Option Nat}
    (hread : terminal.readChoice count = .ok (choice, after)) :
    after.IsScripted ∧ after.shown.length = terminal.shown.length := by
  obtain ⟨hafter, hshown⟩ := h.transcript_readChoice hread
  exact ⟨hafter, congrArg List.length hshown⟩

theorem IsScripted.transcript_clear (h : terminal.IsScripted) :
    terminal.clear.IsScripted ∧ terminal.clear.shown = terminal.shown := by
  cases terminal with
  | scripted script => exact ⟨trivial, rfl⟩
  | stream lines => exact absurd h id

theorem IsScripted.transcript_offer (h : terminal.IsScripted) (words : List String) :
    (terminal.offer words).IsScripted ∧ (terminal.offer words).shown = terminal.shown := by
  cases terminal with
  | scripted script => exact ⟨trivial, rfl⟩
  | stream lines => exact absurd h id

/-- A menu is shown at least once. -/
theorem IsScripted.shown_ask (h : terminal.IsScripted) {menu : String} {count : Nat}
    {choice : Option Nat} (hask : terminal.ask menu count = (.ok choice, after)) :
    after.IsScripted ∧ terminal.shown.length < after.shown.length := by
  fun_induction Terminal.ask menu count terminal with
  | case1 terminal fault hmenu => cases hask
  | case2 terminal shown hmenu fault hread => cases hask
  | case3 terminal shown hmenu answer last hread index hanswer =>
      cases hask
      obtain ⟨hscripted, hlength⟩ := h.shown_display hmenu
      obtain ⟨hafter, heq⟩ := hscripted.shown_readChoice hread
      exact ⟨hafter, by omega⟩
  | case4 terminal shown hmenu answer last hread hanswer hclosed =>
      cases hask
      obtain ⟨hscripted, hlength⟩ := h.shown_display hmenu
      obtain ⟨hafter, heq⟩ := hscripted.shown_readChoice hread
      exact ⟨hafter, by omega⟩
  | case5 terminal shown hmenu answer last hread hanswer hclosed fault hhint => cases hask
  | case6 terminal shown hmenu answer last hread hanswer hclosed again hhint hless ih =>
      obtain ⟨hscripted, hlength⟩ := h.shown_display hmenu
      obtain ⟨hlast, heq⟩ := hscripted.shown_readChoice hread
      obtain ⟨hagain, hhinted⟩ := hlast.shown_display hhint
      obtain ⟨hafter, hless⟩ := ih hagain hask
      exact ⟨hafter, by omega⟩

end Terminal

namespace Stage

/-- The stage with a terminal that keeps its transcript. -/
def recorded (stage : Stage) : Stage :=
  { stage with terminal := stage.terminal.recorded }

/-- How often something has been shown, or will have been once all that was said is shown. -/
def due (stage : Stage) : Nat :=
  stage.terminal.shown.length + if stage.session.hasOutput then 1 else 0

/-- Between two stages nothing that was shown is taken back, and nothing that is due is lost. -/
structure CarriesOver (before after : Stage) : Prop where
  scripted : after.terminal.IsScripted
  shown : before.terminal.shown.length ≤ after.terminal.shown.length
  due : before.due ≤ after.due

/-- Besides, something has been shown or has come to be due. -/
structure IsAnswered (before after : Stage) : Prop extends before.CarriesOver after where
  spoken : before.terminal.shown.length < after.due

variable {stage middle after : Stage}

theorem CarriesOver.refl (h : stage.terminal.IsScripted) : stage.CarriesOver stage :=
  ⟨h, Nat.le_refl _, Nat.le_refl _⟩

theorem CarriesOver.trans (h : stage.CarriesOver middle) (hnext : middle.CarriesOver after) :
    stage.CarriesOver after :=
  ⟨hnext.scripted, Nat.le_trans h.shown hnext.shown, Nat.le_trans h.due hnext.due⟩

theorem CarriesOver.isAnswered (h : stage.CarriesOver middle) (hnext : middle.IsAnswered after) :
    stage.IsAnswered after :=
  ⟨h.trans hnext.toCarriesOver, Nat.lt_of_le_of_lt h.shown hnext.spoken⟩

theorem IsAnswered.trans (h : stage.IsAnswered middle) (hnext : middle.CarriesOver after) :
    stage.IsAnswered after :=
  ⟨h.toCarriesOver.trans hnext, Nat.lt_of_lt_of_le h.spoken hnext.due⟩

/-- What is carried over to a stage is carried over to any end that is reached from there. -/
theorem CarriesOver.ends {α : Type} {outcome : Except Fault α × Stage}
    (h : stage.CarriesOver middle)
    (hnext : Activity.Ends outcome (fun _ => middle.CarriesOver) fun _ => True) :
    Activity.Ends outcome (fun _ => stage.CarriesOver) fun _ => True :=
  hnext.weaken (fun _ _ hafter => h.trans hafter) fun _ hfailed => hfailed

/-- More may be said, but nothing unsaid. -/
theorem carriesOver_of_said (h : stage.terminal.IsScripted)
    (hterminal : after.terminal = stage.terminal)
    (hsaid : stage.session.hasOutput = true → after.session.hasOutput = true) :
    stage.CarriesOver after := by
  rw [← hterminal] at h
  refine ⟨h, Nat.le_of_eq (by rw [hterminal]), ?_⟩
  unfold due
  rw [hterminal]
  cases hbefore : stage.session.hasOutput with
  | false => simp
  | true => simp [hsaid hbefore]

theorem carriesOver_of_quiet (h : stage.terminal.IsScripted) {edit : Session → Session}
    (hquiet : ∀ session, (edit session).output = session.output) :
    stage.CarriesOver { stage with session := edit stage.session } := by
  refine carriesOver_of_said h rfl fun hsaid => ?_
  rw [Session.hasOutput, hquiet]
  exact hsaid

theorem isAnswered_of_said (h : stage.terminal.IsScripted)
    (hterminal : after.terminal = stage.terminal) (hsaid : after.session.hasOutput = true) :
    stage.IsAnswered after := by
  refine ⟨carriesOver_of_said h hterminal fun _ => hsaid, ?_⟩
  simp [due, hterminal, hsaid]

end Stage

namespace Session

theorem hasOutput_say (session : Session) (text : String) :
    (session.say text).hasOutput = true := by
  simp [hasOutput, say]

theorem hasOutput_append {output : List String} (session : Session) (said : List String)
    (h : session.hasOutput = true) (hsaid : output = session.output ++ said) :
    (!output.isEmpty) = true := by
  subst hsaid
  have hsome : session.output ≠ [] := by simpa [hasOutput] using h
  simp [hsome]

theorem hasOutput_apply (session : Session) (effect : Effect) (h : session.hasOutput = true) :
    (session.apply effect).hasOutput = true := by
  cases effect with
  | say text => exact hasOutput_say session text
  | endGame text => exact hasOutput_say session text
  | _ => exact h

theorem hasOutput_choose (session : Session) (dialog : Key) (index : Nat) (option : DialogOption)
    (h : session.hasOutput = true) :
    (session.choose dialog index option).hasOutput = true := by
  unfold choose
  split
  · split
    · exact h
    · exact h
  · split
    · exact hasOutput_say session _
    · exact hasOutput_say session _

end Session

namespace Activity

open Stage

variable {α : Type} {stage : Stage}

/-- An activity that carries over, whenever it comes to its end on a script. -/
def Retentive (activity : Activity α) : Prop :=
  ∀ stage : Stage, stage.terminal.IsScripted →
    Ends (activity.perform stage) (fun _ => stage.CarriesOver) fun _ => True

theorem retentive_editSession {edit : Session → Session}
    (h : ∀ session, session.hasOutput = true → (edit session).hasOutput = true) :
    Retentive (editSession edit) :=
  fun stage hstage => carriesOver_of_said hstage rfl (h stage.session)

/-! ## Showing -/

/-- Showing what has been said pays all that is due. -/
theorem ends_flush_due (h : stage.terminal.IsScripted) :
    Ends (flush.perform stage)
      (fun _ after => stage.CarriesOver after ∧ stage.due ≤ after.terminal.shown.length)
      fun _ => True := by
  apply ends_session_bind
  split
  next hsaid =>
    apply ends_editSession_bind
    simp only [perform, display, ofStep, ExceptT.mk, ExceptT.run, StateT.run]
    split
    · trivial
    next told htold =>
      obtain ⟨hscripted, hlength⟩ := h.shown_display htold
      have hdue : stage.due = told.shown.length := by
        rw [due, if_pos hsaid]
        exact hlength.symm
      refine ⟨⟨hscripted, ?_, ?_⟩, Nat.le_of_eq hdue⟩
      · dsimp only
        omega
      · rw [hdue]
        exact Nat.le_add_right _ _
  next hsilent =>
    refine ⟨CarriesOver.refl h, ?_⟩
    rw [due, if_neg hsilent]
    exact Nat.le_refl _

theorem retentive_flush : Retentive flush :=
  fun _ h => (ends_flush_due h).weaken (fun _ _ hafter => hafter.1) fun _ hfailed => hfailed

end Activity

namespace Stage

open Activity

variable {stage : Stage}

/-! ## Dialogs and effects -/

theorem ends_offerOptions_due (h : stage.terminal.IsScripted) (key : Key) (dialog : Dialog) :
    Ends (stage.offerOptions key dialog) (fun _ => stage.IsAnswered) fun _ => True := by
  unfold offerOptions
  have hasked : ∀ {choice : Option Nat} {terminal : Terminal},
      stage.terminal.ask dialog.menu dialog.options.length = (.ok choice, terminal) →
        stage.IsAnswered { stage with terminal := terminal } := by
    intro choice terminal hask
    obtain ⟨hscripted, hless⟩ := h.shown_ask hask
    refine ⟨⟨hscripted, Nat.le_of_lt hless, ?_⟩, ?_⟩
    · exact Nat.add_le_add_right (Nat.le_of_lt hless) _
    · exact Nat.lt_of_lt_of_le hless (Nat.le_add_right _ _)
  split
  · trivial
  next terminal hask => exact hasked hask
  next index terminal hask =>
    split
    · exact hasked hask
    next option _ =>
      refine (hasked hask).trans (carriesOver_of_said (hasked hask).scripted rfl ?_)
      exact stage.session.hasOutput_choose key index option

/-- A registered dialog says something or shows its menu. -/
theorem ends_hold_of_some (h : stage.terminal.IsScripted) {key : Key} {dialog : Dialog}
    (hdialog : stage.session.world.registry.dialog? key = some dialog) :
    Ends (stage.hold key) (fun _ => stage.IsAnswered) fun _ => True := by
  rw [hold, hdialog]
  dsimp only
  split
  · exact isAnswered_of_said h rfl (stage.session.hasOutput_say _)
  · have hflush := retentive_flush stage h
    generalize flush.perform stage = outcome at hflush
    obtain ⟨result, shown⟩ := outcome
    cases result with
    | error fault => trivial
    | ok value =>
        have hcarries : stage.CarriesOver shown := hflush
        have hoffered := ends_offerOptions_due hcarries.scripted key dialog
        refine hoffered.weaken ?_ fun _ hfailed => hfailed
        intro _ after hafter
        exact hcarries.isAnswered hafter

theorem ends_hold_due (h : stage.terminal.IsScripted) (key : Key) :
    Ends (stage.hold key) (fun _ => stage.CarriesOver) fun _ => True := by
  cases hdialog : stage.session.world.registry.dialog? key with
  | none =>
      rw [hold, hdialog]
      exact CarriesOver.refl h
  | some dialog =>
      refine (ends_hold_of_some h hdialog).weaken ?_ fun _ hfailed => hfailed
      intro _ after hafter
      exact hafter.toCarriesOver

theorem ends_applyAll_due (h : stage.terminal.IsScripted) (effects : List Effect) :
    Ends (stage.applyAll effects) (fun _ => stage.CarriesOver) fun _ => True := by
  fun_induction applyAll effects stage with
  | case1 stage => exact CarriesOver.refl h
  | case2 stage dialog rest fault after hhold => trivial
  | case3 stage dialog rest chosen after hhold _ ih =>
      have hheld := ends_hold_due h dialog
      rw [hhold] at hheld
      have hcarries : stage.CarriesOver after := hheld
      exact hcarries.ends (ih hcarries.scripted)
  | case4 stage effect rest hplain ih =>
      have hcarries : stage.CarriesOver { stage with session := stage.session.apply effect } :=
        carriesOver_of_said h rfl (stage.session.hasOutput_apply effect)
      exact hcarries.ends (ih h)

end Stage

namespace Activity

open Stage

/-! ## Sweeps and starts -/

/-- To carry over on every script goes over from the parts of a start to all of it. -/
theorem spansStarts_carriesOver : SpansStarts fun activity stage =>
    stage.terminal.IsScripted →
      Ends (activity.perform stage) (fun _ => stage.CarriesOver) fun _ => True where
  pure _ _ h := CarriesOver.refl h
  throw _ _ _ := trivial
  bind hfirst hnext h :=
    (hfirst h).bind fun value middle hmiddle => hmiddle.ends (hnext value middle hmiddle.scripted)
  session_bind hnext h := ends_session_bind (hnext h)
  phase_bind _ hnext h := by
    refine ends_editSession_bind (CarriesOver.ends ?_ (hnext h))
    exact carriesOver_of_said h rfl fun hsaid => hsaid
  quiet_bind hquiet hnext h := by
    refine ends_editSession_bind (CarriesOver.ends ?_ (hnext h))
    exact carriesOver_of_quiet h hquiet
  endingIdle hactivity h := by
    apply ends_endingIdle
    refine (hactivity h).weaken (fun _ _ hafter => ?_) fun _ hfailed => hfailed
    exact hafter.trans (carriesOver_of_said hafter.scripted rfl fun hsaid => hsaid)
  applyAll effects _ h := ends_applyAll_due h effects
  drafted _ stage h :=
    carriesOver_of_said h rfl fun hsaid => stage.session.hasOutput_append _ hsaid rfl

theorem retentive_restart : Retentive restart :=
  spansStarts_carriesOver.restart

theorem retentive_finishTurn (operation : Operation) : Retentive (finishTurn operation) :=
  spansStarts_carriesOver.finishTurn operation

end Activity

end TextAdventure
