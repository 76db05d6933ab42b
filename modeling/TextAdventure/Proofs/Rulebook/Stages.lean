import TextAdventure.Proofs.Rulebook.Worlds
import TextAdventure.Proofs.Stage.Compositions
import TextAdventure.Proofs.Terminal

/-!
# Orderly activities

An orderly activity keeps to the rulebook: it counts no turn, leaves the flag for the sweep,
the level and the store alone, and fails only when the terminal does.  Effects, dialogs and
sweeps are orderly, and so are all commands but those that save, load or start over.
-/

namespace TextAdventure

namespace Stage

/-- What becomes of a stage within a turn; nothing is said of what is shown, of the phase, nor
of whether the game goes on. -/
structure LeadsTo (before after : Stage) : Prop where
  world : before.session.world.LeadsTo after.session.world
  skipsSweep : after.session.skipsSweep = before.session.skipsSweep
  level : after.session.level = before.session.level
  store : after.store = before.store
  terminal : before.terminal.IsReliable → after.terminal.IsReliable

variable {stage middle : Stage}

theorem LeadsTo.refl (stage : Stage) : stage.LeadsTo stage :=
  ⟨.refl _, rfl, rfl, rfl, fun h => h⟩

theorem LeadsTo.trans {first second third : Stage} (h : first.LeadsTo second)
    (hnext : second.LeadsTo third) : first.LeadsTo third where
  world := h.world.trans hnext.world
  skipsSweep := hnext.skipsSweep.trans h.skipsSweep
  level := hnext.level.trans h.level
  store := hnext.store.trans h.store
  terminal := fun hreliable => hnext.terminal (h.terminal hreliable)

theorem leadsTo_say (stage : Stage) (text : String) :
    stage.LeadsTo { stage with session := stage.session.say text } :=
  ⟨.refl _, rfl, rfl, rfl, fun h => h⟩

theorem leadsTo_withPhase (stage : Stage) (phase : Phase) :
    stage.LeadsTo { stage with session := { stage.session with phase := phase } } :=
  ⟨.refl _, rfl, rfl, rfl, fun h => h⟩

theorem leadsTo_accept (stage : Stage) {reply : Reply}
    (h : stage.session.world.LeadsTo reply.world) :
    stage.LeadsTo { stage with session := stage.session.accept reply } :=
  ⟨h, rfl, rfl, rfl, fun h => h⟩

theorem leadsTo_apply (stage : Stage) (effect : Effect) :
    stage.LeadsTo { stage with session := stage.session.apply effect } := by
  have hworld := (World.PassesTo.changeWorld stage.session.world effect).leadsTo
  cases effect with
  | say text => exact leadsTo_say stage text
  | endGame text => exact ⟨.refl _, rfl, rfl, rfl, fun h => h⟩
  | _ => exact ⟨hworld, rfl, rfl, rfl, fun h => h⟩

theorem leadsTo_choose (stage : Stage) (dialog : Key) (index : Nat) (option : DialogOption) :
    stage.LeadsTo { stage with session := stage.session.choose dialog index option } := by
  unfold Session.choose
  dsimp only
  have hdropped := World.LeadsTo.withRegistry
    (.dropOption stage.session.world.registry dialog index)
  split
  · split
    · exact ⟨hdropped, rfl, rfl, rfl, fun h => h⟩
    · exact ⟨hdropped, rfl, rfl, rfl, fun h => h⟩
  · split
    · exact .refl stage
    · exact leadsTo_say stage _

theorem leadsTo_withTerminal (stage : Stage) {terminal : Terminal}
    (h : stage.terminal.IsReliable → terminal.IsReliable) :
    stage.LeadsTo { stage with terminal := terminal } :=
  ⟨.refl _, rfl, rfl, rfl, h⟩

/-! ## Outcomes -/

/-- An outcome that keeps to the rulebook, and is a fault only if the terminal is not
reliable. -/
def Follows {α : Type} (stage : Stage) (outcome : Except Fault α × Stage) : Prop :=
  Activity.Ends outcome (fun _ => stage.LeadsTo)
    fun next => stage.LeadsTo next ∧ ¬ stage.terminal.IsReliable

theorem LeadsTo.follows {α : Type} {outcome : Except Fault α × Stage} (h : stage.LeadsTo middle)
    (houtcome : middle.Follows outcome) : stage.Follows outcome :=
  Activity.Ends.weaken houtcome (fun _ _ hnext => h.trans hnext)
    fun _ hnext => ⟨h.trans hnext.1, fun hreliable => hnext.2 (h.terminal hreliable)⟩

end Stage

namespace Activity

open Stage

variable {α β : Type}

/-- An activity that keeps to the rulebook and fails only when the terminal does. -/
def Orderly (activity : Activity α) : Prop :=
  ∀ stage : Stage, stage.Follows (activity.perform stage)

variable {activity : Activity α}

theorem orderly_pure (value : α) : Orderly (pure value : Activity α) :=
  fun stage => LeadsTo.refl stage

theorem follows_bind {next : α → Activity β} {stage : Stage}
    (h : stage.Follows (activity.perform stage))
    (hnext : ∀ value (middle : Stage), middle.Follows ((next value).perform middle)) :
    stage.Follows ((activity >>= next).perform stage) := by
  rw [Stage.Follows, perform_bind]
  generalize activity.perform stage = outcome at h
  obtain ⟨result, middle⟩ := outcome
  cases result with
  | error fault => exact h
  | ok value => exact LeadsTo.follows h (hnext value middle)

theorem Orderly.bind {next : α → Activity β} (h : Orderly activity)
    (hnext : ∀ value, Orderly (next value)) : Orderly (activity >>= next) :=
  fun stage => follows_bind (h stage) hnext

theorem orderly_session : Orderly session :=
  fun stage => LeadsTo.refl stage

theorem orderly_editSession {edit : Session → Session}
    (h : ∀ stage : Stage, stage.LeadsTo { stage with session := edit stage.session }) :
    Orderly (editSession edit) :=
  h

theorem orderly_say (text : String) : Orderly (say text) :=
  orderly_editSession (leadsTo_say · text)

theorem orderly_answer {reply : World → Reply}
    (h : ∀ world : World, world.PassesTo (reply world).world) : Orderly (answer reply) :=
  orderly_editSession fun stage => leadsTo_accept stage (h stage.session.world).leadsTo

theorem orderly_display (text : String) : Orderly (display text) := by
  intro stage
  simp only [perform, display, ofStep, ExceptT.mk, ExceptT.run, StateT.run]
  split
  next fault hrefused => exact ⟨.refl stage, fun h => h.display_ne_error text none fault hrefused⟩
  next terminal hshown => exact leadsTo_withTerminal stage fun h => h.of_display hshown

theorem orderly_flush : Orderly flush := by
  refine orderly_session.bind fun session => ?_
  split
  · refine (orderly_editSession fun stage => ?_).bind fun _ => orderly_display _
    exact ⟨.refl _, rfl, rfl, rfl, fun h => h⟩
  · exact orderly_pure ()

theorem follows_endingIdle {stage : Stage} (h : stage.Follows (activity.perform stage)) :
    stage.Follows ((endingIdle activity).perform stage) := by
  apply ends_endingIdle
  have hidled : ∀ next : Stage, stage.LeadsTo next → stage.LeadsTo (idled next) :=
    fun next hnext => hnext.trans (leadsTo_withPhase next .idle)
  exact h.weaken (fun _ next hnext => hidled next hnext)
    fun next hnext => ⟨hidled next hnext.1, hnext.2⟩

end Activity

namespace Stage

/-! ## Effects and dialogs -/

theorem follows_offerOptions (key : Key) (dialog : Dialog) (stage : Stage) :
    stage.Follows (stage.offerOptions key dialog) := by
  have hreliable := fun h : stage.terminal.IsReliable => h.ask dialog.menu dialog.options.length
  unfold offerOptions
  generalize stage.terminal.ask dialog.menu dialog.options.length = answered at hreliable ⊢
  obtain ⟨result, terminal⟩ := answered
  have hterminal : stage.LeadsTo { stage with terminal := terminal } := by
    apply leadsTo_withTerminal
    intro h
    obtain ⟨choice, after, heq, hafter⟩ := hreliable h
    cases heq
    exact hafter
  match result with
  | .error fault =>
      refine ⟨hterminal, fun h => ?_⟩
      obtain ⟨choice, after, heq, _⟩ := hreliable h
      cases heq
  | .ok none => exact hterminal
  | .ok (some index) =>
      dsimp only
      split
      · exact hterminal
      next option _ => exact hterminal.trans (leadsTo_choose _ key index option)

theorem follows_hold (key : Key) (stage : Stage) : stage.Follows (stage.hold key) := by
  unfold hold
  split
  · exact LeadsTo.refl stage
  next dialog _ =>
    split
    · exact leadsTo_say stage _
    · have hflush := Activity.orderly_flush stage
      generalize Activity.flush.perform stage = outcome at hflush
      obtain ⟨result, shown⟩ := outcome
      cases result with
      | error fault => exact hflush
      | ok value => exact LeadsTo.follows hflush (follows_offerOptions key dialog shown)

theorem follows_applyAll (effects : List Effect) (stage : Stage) :
    stage.Follows (stage.applyAll effects) := by
  fun_induction applyAll effects stage with
  | case1 stage => exact LeadsTo.refl stage
  | case2 stage dialog rest fault after hhold =>
      have hend := follows_hold dialog stage
      rw [hhold] at hend
      exact hend
  | case3 stage dialog rest chosen after hhold _ ih =>
      have hend := follows_hold dialog stage
      rw [hhold] at hend
      exact LeadsTo.follows hend ih
  | case4 stage effect rest _ ih => exact (leadsTo_apply stage effect).follows ih

end Stage

namespace Activity

open Stage

/-! ## Sweeps -/

theorem spansSweeps_follows :
    SpansSweeps fun activity stage => stage.Follows (activity.perform stage) where
  pure _ stage := LeadsTo.refl stage
  bind hfirst hnext := follows_bind hfirst hnext
  session_bind hnext := ends_session_bind hnext
  phase_bind phase hnext :=
    ends_editSession_bind ((leadsTo_withPhase _ phase).follows hnext)
  endingIdle hactivity := follows_endingIdle hactivity
  applyAll := follows_applyAll

theorem orderly_sweep (operation : Option Operation) : Orderly (sweep operation) :=
  spansSweeps_follows.sweep operation

/-! ## Commands -/

theorem orderly_quit : Orderly quit := by
  refine (orderly_editSession fun stage => ?_).bind fun _ => orderly_say _
  exact ⟨.refl _, rfl, rfl, rfl, fun h => h⟩

/-- A property that goes over to commands: whatever is said has it, and so has every reply that
keeps to the rules. -/
structure SpansPlay (P : ∀ {α : Type}, Activity α → Stage → Prop) : Prop
    extends SpansSweeps P where
  say : ∀ text stage, P (say text) stage
  answer : ∀ {reply : World → Reply}, (∀ world : World, world.PassesTo (reply world).world) →
    ∀ stage, P (answer reply) stage
  quit : ∀ stage, P quit stage

end Activity

/-- The behaviors that neither save nor put another world in place of the one in play. -/
def Behavior.staysInPlay : Behavior → Bool
  | save | load | restart | custom _ => false
  | _ => true

namespace Activity

namespace SpansPlay

variable {P : ∀ {α : Type}, Activity α → Stage → Prop}

theorem talk (h : SpansPlay P) (operation : Operation) (stage : Stage) :
    P (talk operation) stage := by
  apply h.session_bind
  split
  · exact h.say _ stage
  · exact h.applyAll _ stage

theorem runBehavior (h : SpansPlay P) (handlers : Handlers) (operation : Operation)
    {behavior : Behavior} (hstays : behavior.staysInPlay = true) (stage : Stage) :
    P (runBehavior handlers operation behavior) stage := by
  unfold Activity.runBehavior
  cases behavior with
  | look => exact h.answer World.PassesTo.describeLocation stage
  | examine => exact h.answer (World.PassesTo.examine · operation) stage
  | move => exact h.answer (World.PassesTo.moveAlong · operation) stage
  | go => exact h.answer (World.PassesTo.go · operation) stage
  | get => exact h.answer (World.PassesTo.get Arithmetic.binary64 · operation) stage
  | drop => exact h.answer (World.PassesTo.drop · operation) stage
  | put => exact h.answer (World.PassesTo.put · operation) stage
  | inventory => exact h.answer World.PassesTo.takeStock stage
  | talk => exact h.talk operation stage
  | wait => exact h.say _ stage
  | help => exact h.answer World.PassesTo.refl stage
  | quit => exact h.quit stage
  | _ => cases hstays

end SpansPlay

theorem spansPlay_follows :
    SpansPlay fun activity stage => stage.Follows (activity.perform stage) where
  toSpansSweeps := spansSweeps_follows
  say text stage := orderly_say text stage
  answer hpasses stage := orderly_answer hpasses stage
  quit stage := orderly_quit stage

theorem orderly_runBehavior (handlers : Handlers) (operation : Operation) {behavior : Behavior}
    (h : behavior.staysInPlay = true) : Orderly (runBehavior handlers operation behavior) :=
  spansPlay_follows.runBehavior handlers operation h

end Activity

end TextAdventure
