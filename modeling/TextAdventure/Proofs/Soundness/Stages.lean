import TextAdventure.Proofs.Soundness.Replies
import TextAdventure.Proofs.Soundness.Stores
import TextAdventure.Proofs.Stage.Upkeep
import TextAdventure.Stage.Start

/-!
# Sound stages

On a steady stage the world is sound, and so is every world that can take its place: the one
that the level builds and those that the store holds.  A calm stage is steady and will not
skip a sweep; effects, dialogs and sweeps keep it calm.  Between two turns a stage is good:
calm and idle.
-/

namespace TextAdventure

structure Stage.IsSteady (stage : Stage) : Prop where
  world : stage.session.world.IsSound
  level : ∀ level ∈ stage.session.level, level.draft.2.world.IsSound
  store : stage.store.HoldsOnly World.IsSound

structure Stage.IsCalm (stage : Stage) : Prop extends stage.IsSteady where
  unskipped : stage.session.skipsSweep = false

structure Stage.IsGood (stage : Stage) : Prop extends stage.IsCalm where
  idle : stage.session.phase = .idle

namespace Activity

theorem ignoresShow_isCalm : IgnoresShow Stage.IsCalm :=
  fun _ _ _ h => ⟨⟨h.world, h.level, h.store⟩, h.unskipped⟩

theorem ignoresShow_isGood : IgnoresShow Stage.IsGood :=
  fun _ _ _ h => ⟨⟨⟨h.world, h.level, h.store⟩, h.unskipped⟩, h.idle⟩

end Activity

namespace Stage

variable {stage : Stage}

theorem IsCalm.withPhase (h : stage.IsCalm) (phase : Phase) :
    { stage with session := { stage.session with phase := phase } }.IsCalm :=
  ⟨⟨h.world, h.level, h.store⟩, h.unskipped⟩

theorem IsCalm.idled (h : stage.IsCalm) : (Activity.idled stage).IsGood :=
  ⟨h.withPhase .idle, rfl⟩

theorem IsCalm.say (h : stage.IsCalm) (text : String) :
    { stage with session := stage.session.say text }.IsCalm :=
  ⟨⟨h.world, h.level, h.store⟩, h.unskipped⟩

theorem IsSteady.accept (h : stage.IsSteady) {reply : Reply} (hreply : reply.world.IsSound) :
    { stage with session := stage.session.accept reply }.IsSteady :=
  ⟨hreply, h.level, h.store⟩

theorem IsCalm.accept (h : stage.IsCalm) {reply : Reply} (hreply : reply.world.IsSound) :
    { stage with session := stage.session.accept reply }.IsCalm :=
  ⟨h.toIsSteady.accept hreply, h.unskipped⟩

/-! ## Effects and dialogs -/

theorem IsCalm.apply (h : stage.IsCalm) {effect : Effect} (heffect : effect.IsNormal) :
    { stage with session := stage.session.apply effect }.IsCalm := by
  have hworld := h.world.changeWorld heffect
  cases effect with
  | say text => exact h.say text
  | endGame text => exact ⟨⟨h.world, h.level, h.store⟩, h.unskipped⟩
  | _ => exact ⟨⟨hworld, h.level, h.store⟩, h.unskipped⟩

theorem IsCalm.choose (h : stage.IsCalm) (dialog : Key) (index : Nat) (option : DialogOption) :
    { stage with session := stage.session.choose dialog index option }.IsCalm := by
  unfold Session.choose
  dsimp only
  split
  · have hdropped := h.world.dropOption dialog index
    split
    · exact ⟨⟨hdropped, h.level, h.store⟩, h.unskipped⟩
    · exact ⟨⟨hdropped, h.level, h.store⟩, h.unskipped⟩
  · split
    · exact ⟨⟨h.world, h.level, h.store⟩, h.unskipped⟩
    · exact ⟨⟨h.world, h.level, h.store⟩, h.unskipped⟩

/-- Effects that name normal keys are felt calmly, and so are those that dialogs bring in. -/
theorem isCalm_isKeptBy : IsKeptBy IsCalm Effect.IsNormal where
  unseen := Activity.ignoresShow_isCalm
  apply := fun h heffect => h.apply heffect
  choose := fun index option h _ => h.choose _ index option
  options := fun h _ hdialog _ hoption => h.world.dialog_effects hdialog hoption

end Stage

namespace Activity

open Stage

/-! ## Sweeps -/

theorem keeps_runEvent (operation : Option Operation) (report : Report) (key : Key) :
    Keeps IsCalm (runEvent operation report key) := by
  intro stage h
  refine ends_runEvent_of_fires h report key fun event hevent _ => ?_
  exact isCalm_isKeptBy.ends_applyAll event.effects stage h (h.world.event_effects hevent)

theorem keeps_sweep (operation : Option Operation) : Keeps IsGood (sweep operation) := by
  intro stage h
  apply ends_session_bind
  split
  · exact h
  · apply ends_editSession_bind
    apply ends_endingIdle
    have hsweep := keeps_sweepAll (keeps_runEvent operation) _
      (h.toIsCalm.withPhase .conditionSweep)
    exact hsweep.weaken (fun _ _ hnext => hnext.idled) fun _ hnext => hnext.idled

/-! ## Starting a level -/

/-- Half-built or whole, what the level has built takes the place of the world. -/
theorem ends_build {stage : Stage} (h : stage.IsSteady) {level : Level}
    (hlevel : level.draft.2.world.IsSound) :
    Ends ((build level).perform stage) (fun _ => IsGood) IsGood := by
  have hbuilt : { stage with session := stage.session.afterDraft level.draft.2 }.IsGood :=
    ⟨⟨⟨hlevel, h.level, h.store⟩, rfl⟩, rfl⟩
  apply ends_editSession_bind
  split
  · exact hbuilt
  · split
    · exact hbuilt
    · exact hbuilt

theorem ends_start {stage : Stage} (h : stage.IsSteady) {level : Level}
    (hlevel : level.draft.2.world.IsSound) :
    Ends ((start level).perform stage) (fun _ => IsGood) IsGood := by
  refine (ends_build h hlevel).bind ?_
  intro _ built hbuilt
  apply ends_editSession_bind
  have hlevels : ∀ other ∈ some level, other.draft.2.world.IsSound := by
    rintro other hother
    cases hother
    exact hlevel
  exact keeps_sweep none _ ⟨⟨⟨hbuilt.world, hlevels, hbuilt.store⟩, hbuilt.unskipped⟩, hbuilt.idle⟩

theorem ends_restart {stage : Stage} (h : stage.IsCalm) :
    Ends (restart.perform stage) (fun _ => IsGood) IsCalm := by
  apply ends_session_bind
  split
  · exact h
  next level hlevel =>
    exact (ends_start h.toIsSteady (h.level level hlevel)).weaken (fun _ _ hnext => hnext)
      fun _ hnext => hnext.toIsCalm

end Activity

end TextAdventure
