import TextAdventure.Proofs.Stage.Contracts
import TextAdventure.Stage.Turn

/-!
# Keeping a property in play

A property of stages outlives dialogs, the effects of a kind and sweeps when it outlives each
single step of these: an effect that is felt, an option that is used up, an event that is run.
The rest of a turn shows something and sets the phase, so what a command keeps a turn keeps too.
-/

namespace TextAdventure

namespace Stage

variable {P : Stage → Prop} {Mild : Effect → Prop} {stage : Stage}

/-- A property is kept by the effects of a kind: it has to do with nothing that is shown, it is
kept by each such effect and by using up an option, and a dialog that such an effect opens has
no options with other effects. -/
structure IsKeptBy (P : Stage → Prop) (Mild : Effect → Prop) : Prop where
  unseen : Activity.IgnoresShow P
  apply : ∀ {stage : Stage} {effect : Effect}, P stage → Mild effect →
    P { stage with session := stage.session.apply effect }
  choose : ∀ {stage : Stage} {key : Key} (index : Nat) (option : DialogOption), P stage →
    Mild (.initiateDialog key) → P { stage with session := stage.session.choose key index option }
  options : ∀ {stage : Stage} {key : Key} {dialog : Dialog}, P stage →
    Mild (.initiateDialog key) → stage.session.world.registry.dialog? key = some dialog →
    ∀ option ∈ dialog.options, ∀ effect ∈ option.effects, Mild effect

namespace IsKeptBy

open Activity (Ends)

theorem withTerminal (h : IsKeptBy P Mild) (hstage : P stage) (terminal : Terminal) :
    P { stage with terminal := terminal } :=
  h.unseen stage stage.session.output terminal hstage

theorem say (h : IsKeptBy P Mild) (hstage : P stage) (text : String) :
    P { stage with session := stage.session.say text } :=
  h.unseen stage _ stage.terminal hstage

/-- The effects of the option that is chosen are those of one of the options. -/
theorem ends_offerOptions (h : IsKeptBy P Mild) (hstage : P stage) {key : Key}
    (hopens : Mild (.initiateDialog key)) {dialog : Dialog}
    (hmild : ∀ option ∈ dialog.options, ∀ effect ∈ option.effects, Mild effect) :
    Ends (stage.offerOptions key dialog)
      (fun effects next => P next ∧ ∀ effect ∈ effects, Mild effect) P := by
  unfold offerOptions
  split
  next fault terminal _ => exact h.withTerminal hstage terminal
  next terminal _ => exact ⟨h.withTerminal hstage terminal, nofun⟩
  next index terminal _ =>
    split
    · exact ⟨h.withTerminal hstage terminal, nofun⟩
    next option hoption =>
      have hchosen := h.withTerminal (h.choose index option hstage hopens) terminal
      exact ⟨hchosen, hmild option (List.mem_of_getElem? hoption)⟩

theorem ends_hold (h : IsKeptBy P Mild) (hstage : P stage) {key : Key}
    (hopens : Mild (.initiateDialog key)) :
    Ends (stage.hold key) (fun effects next => P next ∧ ∀ effect ∈ effects, Mild effect) P := by
  unfold hold
  split
  · exact ⟨hstage, nofun⟩
  next dialog hdialog =>
    have hoptions := h.options hstage hopens hdialog
    split
    · exact ⟨h.say hstage _, nofun⟩
    · have hflush := Activity.keeps_flush h.unseen stage hstage
      generalize Activity.flush.perform stage = outcome at hflush
      obtain ⟨result, shown⟩ := outcome
      cases result with
      | error fault => exact hflush
      | ok value => exact h.ends_offerOptions hflush hopens hoptions

/-- Effects of the kind are applied, and so are those that their dialogs bring in. -/
theorem ends_applyAll (h : IsKeptBy P Mild) (effects : List Effect) (stage : Stage)
    (hstage : P stage) (heffects : ∀ effect ∈ effects, Mild effect) :
    Ends (stage.applyAll effects) (fun _ => P) P := by
  fun_induction Stage.applyAll effects stage with
  | case1 stage => exact hstage
  | case2 stage dialog rest fault after hhold =>
      have hend := h.ends_hold hstage (heffects _ List.mem_cons_self)
      rw [hhold] at hend
      exact hend
  | case3 stage dialog rest chosen after hhold _ ih =>
      obtain ⟨hfirst, hrest⟩ := List.forall_mem_cons.mp heffects
      have hend := h.ends_hold hstage hfirst
      rw [hhold] at hend
      obtain ⟨hafter, hchosen⟩ := hend
      exact ih hafter (List.forall_mem_append.mpr ⟨hchosen, hrest⟩)
  | case4 stage effect rest _ ih =>
      obtain ⟨hfirst, hrest⟩ := List.forall_mem_cons.mp heffects
      exact ih (h.apply hstage hfirst) hrest

end IsKeptBy

end Stage

namespace Activity

variable {P : Stage → Prop} {Mild : Effect → Prop}

/-- Talking keeps what the dialogs of those who are addressed keep. -/
theorem keeps_talk (h : Stage.IsKeptBy P Mild) {operation : Operation}
    (hdialogs : ∀ stage, P stage → ∀ dialog,
      stage.session.world.address operation = .dialog dialog → Mild (.initiateDialog dialog)) :
    Keeps P (talk operation) := by
  intro stage hstage
  apply ends_session_bind
  split
  · exact h.say hstage _
  next dialog haddress =>
    have hdialog := hdialogs stage hstage dialog haddress
    exact h.ends_applyAll [.initiateDialog dialog] stage hstage
      (List.forall_mem_singleton.mpr hdialog)

/-! ## Sweeps -/

variable {operation : Option Operation}

/-- An event that does not fire does nothing. -/
theorem ends_runEvent_of_fires {stage : Stage} (h : P stage) (report : Report) (key : Key)
    (hfires : ∀ event, stage.session.world.registry.event? key = some event →
      event.conditions.all (stage.session.world.meets operation) = true →
      Ends (stage.applyAll event.effects) (fun _ => P) P) :
    Ends ((runEvent operation report key).perform stage) (fun _ => P) P := by
  apply ends_session_bind
  split
  · exact h
  next event hevent =>
    split
    next hmeets =>
      have hfired : Ends ((applyAll event.effects).perform stage) (fun _ => P) P :=
        hfires event hevent hmeets
      exact hfired.bind fun _ _ hmiddle => hmiddle
    · exact h

theorem keeps_runEvents (h : ∀ report key, Keeps P (runEvent operation report key))
    (report : Report) (keys : List Key) : Keeps P (runEvents operation report keys) := by
  induction keys generalizing report with
  | nil => exact keeps_pure report
  | cons key rest ih => exact (h report key).bind ih

theorem keeps_sweepAll (h : ∀ report key, Keeps P (runEvent operation report key)) :
    Keeps P (sweepAll operation) := by
  intro stage hstage
  apply ends_session_bind
  exact keeps_runEvents h Report.empty _ stage hstage

/-- A sweep keeps what each event keeps, if the phase has no part in it. -/
theorem keeps_sweep_of_keeps_runEvent
    (h : ∀ report key, Keeps P (runEvent operation report key))
    (hphase : ∀ (stage : Stage) (phase : Phase), P stage →
      P { stage with session := { stage.session with phase := phase } }) :
    Keeps P (sweep operation) := by
  intro stage hstage
  apply ends_session_bind
  split
  · exact hstage
  · apply ends_editSession_bind
    apply ends_endingIdle
    exact (keeps_sweepAll h _ (hphase stage .conditionSweep hstage)).weaken
      (fun _ next hnext => hphase next .idle hnext) fun next hnext => hphase next .idle hnext

/-! ## Turns -/

/-- What holds after the command and is turned into a property by the end of the turn. -/
theorem ends_runTurn_of_ends_run {handlers : Handlers} {operation : Operation} {stage : Stage}
    {middle : Stage → Prop} (hP : IgnoresShow P)
    (hrun : Ends ((run handlers operation).perform
      { stage with session := { stage.session with phase := .commandRunning } })
      (fun _ ran => middle (idled ran)) fun ran => P (idled ran))
    (hfinish : ∀ ran, middle ran → Ends ((finishTurn operation).perform ran) (fun _ => P) P) :
    Ends ((runTurn handlers operation).perform stage) (fun _ => P) P := by
  apply ends_editSession_bind
  refine (ends_endingIdle hrun).bind fun _ ran hran => ?_
  refine (hfinish ran hran).bind fun _ finished hfinished => ?_
  exact (keeps_flush hP finished hfinished).bind fun _ _ hshown => hshown

/-- Only a line that runs a command does more than show something. -/
theorem ends_turn_of_ends_runTurn {handlers : Handlers} {line : String} {stage : Stage}
    (hP : IgnoresShow P) (h : P stage)
    (hruns : ∀ operation, stage.session.isFinished = false →
      stage.session.reading line = .parsed operation →
      Ends ((runTurn handlers operation).perform stage) (fun _ => P) P) :
    Ends ((turn handlers line).perform stage) (fun _ => P) P := by
  have hflush : ∀ {shown : Stage} (outcome : Outcome), P shown →
      Ends ((do flush; return outcome : Activity Outcome).perform shown) (fun _ => P) P := by
    intro shown outcome hshown
    exact (keeps_flush hP shown hshown).bind fun _ _ hnext => hnext
  apply ends_session_bind
  split
  · exact h
  next hunfinished =>
    split
    · exact hflush _ h
    · exact ends_editSession_bind (hflush _ (keeps_say hP _ stage h))
    next operation hreading => exact hruns operation (eq_false_of_ne_true hunfinished) hreading

end Activity

end TextAdventure
