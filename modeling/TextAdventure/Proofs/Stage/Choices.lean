import TextAdventure.Proofs.Rulebook.Runs
import TextAdventure.Proofs.Stage.Dialogs

/-!
# Choices that are made

Which options are chosen while effects are applied, and in an activity, is given by rules that
follow how effects and activities are composed.  Every sweep has its choices by these rules, and so
has every turn that puts no other world in place of the one in play, whatever the terminal does.
-/

namespace TextAdventure

namespace Stage

/-- The choices that are made while effects are applied, those of a dialog's effects included. -/
inductive Enacts : List Effect → Stage → List Choice → Except Fault Unit × Stage → Prop where
  | nil {stage : Stage} : Enacts [] stage [] (.ok (), stage)
  | plain {effect : Effect} {rest : List Effect} {stage : Stage} {choices : List Choice}
      {outcome : Except Fault Unit × Stage} (hplain : ∀ key, effect ≠ .initiateDialog key)
      (hrest : Enacts rest { stage with session := stage.session.apply effect } choices outcome) :
      Enacts (effect :: rest) stage choices outcome
  | failed {key : Key} {rest : List Effect} {stage after : Stage} {choice : Option Choice}
      {fault : Fault} (hconducts : Conducts key stage choice (.error fault, after)) :
      Enacts (.initiateDialog key :: rest) stage choice.toList (.error fault, after)
  | dialog {key : Key} {rest chosen : List Effect} {stage held : Stage} {choice : Option Choice}
      {later : List Choice} {outcome : Except Fault Unit × Stage}
      (hconducts : Conducts key stage choice (.ok chosen, held))
      (hlater : Enacts (chosen ++ rest) held later outcome) :
      Enacts (.initiateDialog key :: rest) stage (choice.toList ++ later) outcome

theorem exists_enacts (effects : List Effect) (stage : Stage) :
    ∃ choices, Enacts effects stage choices (stage.applyAll effects) := by
  fun_induction applyAll effects stage with
  | case1 stage => exact ⟨[], .nil⟩
  | case2 stage key rest fault after hhold =>
      obtain ⟨choice, hconducts⟩ := stage.exists_conducts key
      exact ⟨_, .failed (hhold ▸ hconducts)⟩
  | case3 stage key rest chosen held hhold _ ih =>
      obtain ⟨choice, hconducts⟩ := stage.exists_conducts key
      obtain ⟨later, hlater⟩ := ih
      exact ⟨_, .dialog (hhold ▸ hconducts) hlater⟩
  | case4 stage effect rest hplain ih =>
      obtain ⟨choices, hrest⟩ := ih
      exact ⟨choices, .plain hplain hrest⟩

end Stage

namespace Activity

/-- The activities in which nothing is chosen and no world is put in place of the one in play. -/
inductive IsChoiceless : {α : Type} → Activity α → Stage → Prop where
  | pure {α : Type} {stage : Stage} (value : α) : IsChoiceless (Pure.pure value : Activity α) stage
  | throw {α : Type} {stage : Stage} (fault : Fault) :
      IsChoiceless (throw fault : Activity α) stage
  | session {stage : Stage} : IsChoiceless session stage
  | editSession {stage : Stage} {edit : Session → Session}
      (hspares : stage.session.world.registry.SparesDialogs
        (edit stage.session).world.registry) :
      IsChoiceless (editSession edit) stage
  | editTerminal {stage : Stage} (edit : Terminal → Terminal) :
      IsChoiceless (editTerminal edit) stage
  | display {stage : Stage} (text : String) : IsChoiceless (display text) stage
  | readLine {stage : Stage} : IsChoiceless readLine stage
  | saveTo {stage : Stage} (name : String) : IsChoiceless (saveTo name) stage
  | loadFrom {stage : Stage} {name : String}
      (hrefused : ∀ world, ¬stage.store.Offers name world) : IsChoiceless (loadFrom name) stage

/-- The choices that are made in an activity, and what the activity comes to. -/
inductive Makes : {α : Type} → Activity α → Stage → List Choice → Except Fault α × Stage → Prop where
  | choiceless {α : Type} {activity : Activity α} {stage : Stage}
      (hchoiceless : IsChoiceless activity stage) :
      Makes activity stage [] (activity.perform stage)
  | applied {effects : List Effect} {stage : Stage} {choices : List Choice}
      {outcome : Except Fault Unit × Stage} (henacts : Stage.Enacts effects stage choices outcome) :
      Makes (applyAll effects) stage choices outcome
  | failed {α β : Type} {activity : Activity α} {next : α → Activity β} {stage after : Stage}
      {choices : List Choice} {fault : Fault}
      (hfirst : Makes activity stage choices (.error fault, after)) :
      Makes (activity >>= next) stage choices (.error fault, after)
  | bind {α β : Type} {activity : Activity α} {next : α → Activity β} {stage middle : Stage}
      {choices later : List Choice} {value : α} {outcome : Except Fault β × Stage}
      (hfirst : Makes activity stage choices (.ok value, middle))
      (hnext : Makes (next value) middle later outcome) :
      Makes (activity >>= next) stage (choices ++ later) outcome
  | idled {α : Type} {activity : Activity α} {stage : Stage} {choices : List Choice}
      {outcome : Except Fault α × Stage} (hactivity : Makes activity stage choices outcome) :
      Makes (endingIdle activity) stage choices (outcome.1, idled outcome.2)
  | complained {α : Type} {activity : Activity α} {next : α → Activity Unit} {stage after : Stage}
      {choices : List Choice} {fault : Fault} {complaint : String}
      (hfirst : Makes activity stage choices (.error fault, after)) :
      Makes (reporting complaint activity next) stage choices
        ((say (complaint ++ fault.message)).perform after)
  | reported {α : Type} {activity : Activity α} {next : α → Activity Unit} {stage middle : Stage}
      {choices later : List Choice} {value : α} {complaint : String}
      {outcome : Except Fault Unit × Stage}
      (hfirst : Makes activity stage choices (.ok value, middle))
      (hnext : Makes (next value) middle later outcome) :
      Makes (reporting complaint activity next) stage (choices ++ later) outcome

/-- An activity is regular on a stage if its choices are given by the rules. -/
def IsRegular {α : Type} (activity : Activity α) (stage : Stage) : Prop :=
  ∃ choices, Makes activity stage choices (activity.perform stage)

variable {α β : Type} {stage : Stage}

/-! ## Composed activities -/

theorem IsChoiceless.isRegular {activity : Activity α} (h : IsChoiceless activity stage) :
    IsRegular activity stage :=
  ⟨[], .choiceless h⟩

theorem isRegular_applyAll (effects : List Effect) (stage : Stage) :
    IsRegular (applyAll effects) stage := by
  obtain ⟨choices, henacts⟩ := Stage.exists_enacts effects stage
  exact ⟨choices, .applied henacts⟩

theorem IsRegular.bind {activity : Activity α} {next : α → Activity β}
    (h : IsRegular activity stage) (hnext : ∀ value middle, IsRegular (next value) middle) :
    IsRegular (activity >>= next) stage := by
  obtain ⟨choices, hfirst⟩ := h
  rw [IsRegular, perform_bind]
  generalize activity.perform stage = outcome at hfirst ⊢
  obtain ⟨result, middle⟩ := outcome
  cases result with
  | error fault => exact ⟨choices, .failed hfirst⟩
  | ok value =>
      obtain ⟨later, hlater⟩ := hnext value middle
      exact ⟨choices ++ later, .bind hfirst hlater⟩

theorem IsRegular.endingIdle {activity : Activity α} (h : IsRegular activity stage) :
    IsRegular (endingIdle activity) stage := by
  obtain ⟨choices, hactivity⟩ := h
  exact ⟨choices, .idled hactivity⟩

theorem IsRegular.reporting {activity : Activity α} {next : α → Activity Unit} {complaint : String}
    (h : IsRegular activity stage)
    (hnext : ∀ value middle, activity.perform stage = (.ok value, middle) →
      IsRegular (next value) middle) :
    IsRegular (reporting complaint activity next) stage := by
  obtain ⟨choices, hfirst⟩ := h
  rw [IsRegular, perform_reporting]
  generalize activity.perform stage = outcome at hfirst hnext ⊢
  obtain ⟨result, middle⟩ := outcome
  cases result with
  | error fault => exact ⟨choices, .complained hfirst⟩
  | ok value =>
      obtain ⟨later, hlater⟩ := hnext value middle rfl
      exact ⟨choices ++ later, .reported hfirst hlater⟩

theorem isRegular_session_bind {next : Session → Activity α}
    (h : IsRegular (next stage.session) stage) : IsRegular (session >>= next) stage := by
  obtain ⟨choices, hnext⟩ := h
  have hsession : Makes session stage [] (.ok stage.session, stage) := .choiceless .session
  exact ⟨choices, .bind hsession hnext⟩

theorem isRegular_editSession_bind {edit : Session → Session} {next : Unit → Activity α}
    (hspares : stage.session.world.registry.SparesDialogs (edit stage.session).world.registry)
    (h : IsRegular (next ()) { stage with session := edit stage.session }) :
    IsRegular (editSession edit >>= next) stage := by
  obtain ⟨choices, hnext⟩ := h
  have hedit : Makes (editSession edit) stage []
      (.ok (), { stage with session := edit stage.session }) := .choiceless (.editSession hspares)
  exact ⟨choices, .bind hedit hnext⟩

theorem isRegular_say (text : String) (stage : Stage) : IsRegular (say text) stage :=
  (IsChoiceless.editSession fun _ _ h => h).isRegular

theorem isRegular_answer {reply : World → Reply}
    (h : ∀ world : World, world.PassesTo (reply world).world) (stage : Stage) :
    IsRegular (answer reply) stage :=
  (IsChoiceless.editSession (h stage.session.world).registry.dialogs).isRegular

theorem isRegular_flush (stage : Stage) : IsRegular flush stage := by
  apply isRegular_session_bind
  split
  · exact isRegular_editSession_bind (fun _ _ h => h) (IsChoiceless.display _).isRegular
  · exact (IsChoiceless.pure ()).isRegular

theorem spansSweeps_isRegular : SpansSweeps IsRegular where
  pure value _ := (IsChoiceless.pure value).isRegular
  bind hfirst hnext := hfirst.bind hnext
  session_bind hnext := isRegular_session_bind hnext
  phase_bind _ hnext := isRegular_editSession_bind (fun _ _ h => h) hnext
  endingIdle hactivity := hactivity.endingIdle
  applyAll := isRegular_applyAll

/-! ## Commands and turns -/

theorem isRegular_save (operation : Operation) (stage : Stage) :
    IsRegular (save operation) stage :=
  (IsChoiceless.saveTo _).isRegular.reporting fun _ middle _ => isRegular_say _ middle

theorem isRegular_load {operation : Operation}
    (hrefused : ∀ world, ¬stage.store.Offers operation.slot world) :
    IsRegular (load operation) stage := by
  refine (IsChoiceless.loadFrom hrefused).isRegular.reporting fun value middle hload => ?_
  obtain ⟨fault, hfailed⟩ := exists_perform_loadFrom hrefused
  cases hfailed.symm.trans hload

theorem spansPlay_isRegular : SpansPlay IsRegular where
  toSpansSweeps := spansSweeps_isRegular
  say := isRegular_say
  answer := isRegular_answer
  quit _ := isRegular_editSession_bind (fun _ _ h => h) (isRegular_say _ _)

end Activity

/-- The handlers of a game whose choices are given by the rules. -/
def Handlers.AreRegular (handlers : Handlers) : Prop :=
  ∀ name handler, handlers.find? name = some handler →
    ∀ operation stage, Activity.IsRegular (handler operation) stage

theorem Handlers.areRegular_nil : Handlers.AreRegular [] := by
  intro name handler hhandler
  cases hhandler

namespace Activity

open Stage

variable {stage : Stage} {handlers : Handlers} {line : String} {operation : Operation}

theorem isRegular_runCustom (h : handlers.AreRegular) (name : String) (operation : Operation)
    (stage : Stage) : IsRegular (runCustom handlers name operation) stage := by
  unfold runCustom
  split
  · exact isRegular_say _ stage
  next handler hhandler => exact h name handler hhandler operation stage

theorem isRegular_runBehavior (h : handlers.AreRegular) {behavior : Behavior}
    (hruns : stage.Runs line behavior operation) (hstays : ¬stage.ReplacesWorld line) :
    IsRegular (runBehavior handlers operation behavior) stage.running := by
  cases behavior with
  | save => exact isRegular_save operation _
  | load =>
      exact isRegular_load fun world hoffers =>
        hstays (.inl ⟨operation, world, hruns, hoffers⟩)
  | restart => exact absurd (.inr ⟨operation, hruns⟩) hstays
  | custom name => exact isRegular_runCustom h name operation _
  | _ => exact spansPlay_isRegular.runBehavior handlers operation rfl _

theorem isRegular_run (h : handlers.AreRegular) (hunfinished : stage.session.isFinished = false)
    (hreading : stage.session.reading line = .parsed operation)
    (hstays : ¬stage.ReplacesWorld line) : IsRegular (run handlers operation) stage.running := by
  apply isRegular_session_bind
  split
  · exact isRegular_say _ _
  next command hcommand =>
    have hcommand : stage.session.world.registry.command? operation.command = some command :=
      hcommand
    exact isRegular_runBehavior h ⟨hunfinished, hreading, by rw [hcommand]; rfl⟩ hstays

theorem isRegular_finishTurn (operation : Operation) (stage : Stage) :
    IsRegular (finishTurn operation) stage := by
  apply isRegular_session_bind
  split
  · exact isRegular_editSession_bind (fun _ _ h => h) (IsChoiceless.pure none).isRegular
  · refine isRegular_editSession_bind (fun _ _ h => h) ?_
    exact (spansSweeps_isRegular.sweep _ _).bind fun _ _ => (IsChoiceless.pure _).isRegular

/-- A turn that puts no other world in place of the one in play has its choices by the rules. -/
theorem isRegular_turn (h : handlers.AreRegular) (hstays : ¬stage.ReplacesWorld line) :
    IsRegular (turn handlers line) stage := by
  have hshow : ∀ (outcome : Outcome) (stage : Stage),
      IsRegular (do flush; return outcome) stage := fun outcome stage =>
    (isRegular_flush stage).bind fun _ _ => (IsChoiceless.pure outcome).isRegular
  apply isRegular_session_bind
  split
  · exact (IsChoiceless.pure _).isRegular
  next hfinished =>
    split
    · exact hshow _ stage
    · exact (isRegular_say _ stage).bind fun _ => hshow _
    next operation hreading =>
      apply isRegular_editSession_bind fun _ _ h => h
      have hrun := isRegular_run h (eq_false_of_ne_true hfinished) hreading hstays
      refine hrun.endingIdle.bind fun _ ran => ?_
      exact (isRegular_finishTurn operation ran).bind fun _ => hshow _

end Activity

end TextAdventure
