import TextAdventure.Proofs.Rulebook.Stages

/-!
# What a sweep does

A sweep reports which of the events it started with were still registered when their place
was reached, and which of those had all their conditions met in the world that the events
before them had left.  What it does to the stage is what the effects of the events that fired
do, one after another.
-/

namespace TextAdventure

/-- A condition is satisfied when it is registered, and its predicate holds unless the
condition is negated. -/
def World.Satisfies (world : World) (operation : Option Operation) (name : Key) : Prop :=
  ∃ condition, world.registry.condition? name = some condition ∧
    (condition.predicate.holds world operation ^^ condition.negated) = true

theorem World.meets_iff (world : World) (operation : Option Operation) (name : Key) :
    world.meets operation name = true ↔ world.Satisfies operation name := by
  unfold World.meets World.Satisfies
  cases world.registry.condition? name with
  | none => simp
  | some condition => simp

namespace Registry

variable {registry : Registry}

theorem keys_withRecord_sublist {α : Type} (registry : Registry) (record? : Kind → Option α) :
    ((registry.withRecord record?).map fun pair => pair.1.key).Sublist registry.keys := by
  rw [withRecord, keys, List.map_filterMap]
  induction registry.entities with
  | nil => exact List.Sublist.refl _
  | cons entity rest ih =>
      rw [List.filterMap_cons, List.map_cons]
      cases record? entity.kind with
      | none => exact ih.cons _
      | some record => exact ih.cons_cons _

theorem nodup_event_keys (registry : Registry) :
    (registry.events.map fun pair => pair.1.key).Nodup :=
  registry.distinct.sublist (registry.keys_withRecord_sublist Kind.event?)

theorem event?_of_mem {pair : Entity × Event} (h : pair ∈ registry.events) :
    registry.event? pair.1.key = some pair.2 := by
  obtain ⟨entity, hentity, hrecord⟩ := List.mem_filterMap.mp h
  obtain ⟨event, hkind, rfl⟩ := Option.map_eq_some_iff.mp hrecord
  rw [event?, get?_of_mem hentity, Option.bind_some, hkind]

theorem mem_keys_of_event? {key : Key} {event : Event} (h : registry.event? key = some event) :
    key ∈ registry.keys := by
  obtain ⟨entity, hget, _⟩ := Option.bind_eq_some_iff.mp h
  rw [← key_of_get? hget]
  exact List.mem_map_of_mem (mem_of_get? hget)

end Registry

namespace Stage

theorem applyAll_nil (stage : Stage) : stage.applyAll [] = (.ok (), stage) := by
  rw [applyAll]

/-- Effects applied in two portions. -/
theorem applyAll_append (first second : List Effect) (stage : Stage) :
    stage.applyAll (first ++ second) =
      match stage.applyAll first with
      | (.error fault, after) => (.error fault, after)
      | (.ok (), after) => after.applyAll second := by
  fun_induction Stage.applyAll first stage with
  | case1 stage => rfl
  | case2 stage dialog rest fault after hhold =>
      rw [List.cons_append, applyAll]
      split
      next _ _ hother =>
        cases hhold.symm.trans hother
        rfl
      next _ _ hother => cases hhold.symm.trans hother
  | case3 stage dialog rest chosen after hhold _ ih =>
      rw [List.cons_append, applyAll]
      split
      next _ _ hother => cases hhold.symm.trans hother
      next _ _ hother =>
        cases hhold.symm.trans hother
        rw [← ih, List.append_assoc]
  | case4 stage effect rest hother ih =>
      rw [List.cons_append, applyAll, ih]
      exact hother

end Stage

namespace Report

/-- The effects of those of the events that fired, in order. -/
def effectsOf (report : Report) (events : List (Entity × Event)) : List Effect :=
  (events.filter fun pair => pair.1.key ∈ report.fired).flatMap fun pair => pair.2.effects

/-- A report describes what became of some events, and of the stage they started on: `here` is
the stage at the moment when the place of an event is reached. -/
structure Describes (report : Report) (operation : Option Operation)
    (events : List (Entity × Event)) (start last : Stage) : Prop where
  evaluated : report.evaluated.Sublist (events.map fun pair => pair.1.key)
  fired : report.fired.Sublist report.evaluated
  judged : ∀ earlier pair later, events = earlier ++ pair :: later →
    ∃ here, start.applyAll (report.effectsOf earlier) = (.ok (), here) ∧
      (pair.1.key ∈ report.evaluated ↔ pair.1.key ∈ here.session.world.registry.keys) ∧
      (pair.1.key ∈ report.fired ↔ pair.1.key ∈ report.evaluated ∧
        ∀ name ∈ pair.2.conditions, here.session.world.Satisfies operation name)
  applied : start.applyAll (report.effectsOf events) = (.ok (), last)

/-- What is added to a report after it. -/
def append (first second : Report) : Report :=
  ⟨first.evaluated ++ second.evaluated, first.fired ++ second.fired⟩

/-- One more event in front of a report, if it was judged, and if it fired. -/
def withFirst (report : Report) (event : Key) (wasJudged hasFired : Bool) : Report :=
  ⟨(if wasJudged then [event] else []) ++ report.evaluated,
    (if hasFired then [event] else []) ++ report.fired⟩

/-- What becomes of one event: it is judged if it is registered, and fires if it is judged and
all its conditions are satisfied, which leads from one stage to another. -/
structure Judges (operation : Option Operation) (pair : Entity × Event) (start : Stage)
    (wasJudged hasFired : Bool) (middle : Stage) : Prop where
  judged : wasJudged = true ↔ pair.1.key ∈ start.session.world.registry.keys
  fired : hasFired = true ↔ wasJudged = true ∧
    ∀ name ∈ pair.2.conditions, start.session.world.Satisfies operation name
  applied : start.applyAll (if hasFired then pair.2.effects else []) = (.ok (), middle)

variable {report : Report} {operation : Option Operation} {start middle last : Stage}
  {pair : Entity × Event} {events : List (Entity × Event)} {wasJudged hasFired : Bool}

theorem applyAll_effectsOf_nil (report : Report) (stage : Stage) :
    stage.applyAll (report.effectsOf []) = (.ok (), stage) := by
  rw [effectsOf, List.filter_nil, List.flatMap_nil, Stage.applyAll_nil]

theorem Describes.nil (operation : Option Operation) (stage : Stage) :
    Report.empty.Describes operation [] stage stage where
  evaluated := List.Sublist.refl _
  fired := List.Sublist.refl _
  judged earlier pair later h := by cases earlier <;> cases h
  applied := applyAll_effectsOf_nil Report.empty stage

theorem self_mem_evaluated_withFirst (hunjudged : pair.1.key ∉ report.evaluated) :
    pair.1.key ∈ (report.withFirst pair.1.key wasJudged hasFired).evaluated ↔
      wasJudged = true := by
  cases wasJudged <;> simp [withFirst, hunjudged]

theorem self_mem_fired_withFirst (hunfired : pair.1.key ∉ report.fired) :
    pair.1.key ∈ (report.withFirst pair.1.key wasJudged hasFired).fired ↔ hasFired = true := by
  cases hasFired <;> simp [withFirst, hunfired]

theorem mem_evaluated_withFirst {key : Key} (hne : key ≠ pair.1.key) :
    key ∈ (report.withFirst pair.1.key wasJudged hasFired).evaluated ↔ key ∈ report.evaluated := by
  cases wasJudged <;> simp [withFirst, hne]

theorem mem_fired_withFirst {key : Key} (hne : key ≠ pair.1.key) :
    key ∈ (report.withFirst pair.1.key wasJudged hasFired).fired ↔ key ∈ report.fired := by
  cases hasFired <;> simp [withFirst, hne]

/-- What the first event does comes before what those after it do. -/
theorem effectsOf_withFirst (hfresh : pair.1.key ∉ report.fired)
    (hother : ∀ other ∈ events, other.1.key ≠ pair.1.key) :
    (report.withFirst pair.1.key wasJudged hasFired).effectsOf (pair :: events) =
      (if hasFired then pair.2.effects else []) ++ report.effectsOf events := by
  have hrest : (report.withFirst pair.1.key wasJudged hasFired).effectsOf events =
      report.effectsOf events := by
    rw [effectsOf, effectsOf]
    congr 1
    refine List.filter_congr fun other hmem => ?_
    exact decide_eq_decide.mpr (mem_fired_withFirst (hother other hmem))
  rw [← hrest, effectsOf, effectsOf, List.filter_cons]
  cases hasFired with
  | false => simp [withFirst, hfresh]
  | true => simp [withFirst]

/-- A report of the events after the first, from the stage that the first leaves, is
completed by what became of the first. -/
theorem Describes.cons (h : report.Describes operation events middle last)
    (hfresh : pair.1.key ∉ events.map fun pair => pair.1.key)
    (hfirst : Judges operation pair start wasJudged hasFired middle) :
    (report.withFirst pair.1.key wasJudged hasFired).Describes operation (pair :: events)
      start last := by
  have hother : ∀ other ∈ events, other.1.key ≠ pair.1.key :=
    fun other hmem heq => hfresh (heq ▸ List.mem_map_of_mem hmem)
  have hunjudged : pair.1.key ∉ report.evaluated := fun hmem => hfresh (h.evaluated.mem hmem)
  have hunfired : pair.1.key ∉ report.fired := fun hmem => hunjudged (h.fired.mem hmem)
  -- Up to an event after the first, the effects are those of the first and then the others.
  have happly : ∀ earlier : List (Entity × Event), (∀ other ∈ earlier, other ∈ events) →
      start.applyAll ((report.withFirst pair.1.key wasJudged hasFired).effectsOf
        (pair :: earlier)) = middle.applyAll (report.effectsOf earlier) := by
    intro earlier hearlier
    rw [effectsOf_withFirst hunfired fun other hmem => hother other (hearlier other hmem),
      Stage.applyAll_append, hfirst.applied]
  constructor
  · cases wasJudged with
    | false => exact h.evaluated.cons _
    | true => exact h.evaluated.cons_cons _
  · cases hasFired with
    | false => exact h.fired.trans (List.sublist_append_right _ _)
    | true =>
        obtain ⟨rfl, _⟩ := hfirst.fired.mp rfl
        exact h.fired.cons_cons _
  · intro earlier other later heq
    cases earlier with
    | nil =>
        obtain ⟨rfl, rfl⟩ := List.cons.inj heq
        refine ⟨start, applyAll_effectsOf_nil _ start, ?_⟩
        rw [self_mem_evaluated_withFirst hunjudged, self_mem_fired_withFirst hunfired]
        exact ⟨hfirst.judged, hfirst.fired⟩
    | cons first earlier =>
        obtain ⟨rfl, rfl⟩ := List.cons.inj heq
        obtain ⟨here, happlied, hmatters⟩ := h.judged earlier other later rfl
        have hne : other.1.key ≠ pair.1.key := hother other (by simp)
        refine ⟨here, ?_, ?_⟩
        · rw [happly earlier fun mem hmem => List.mem_append_left _ hmem, happlied]
        · rw [mem_evaluated_withFirst hne, mem_fired_withFirst hne]
          exact hmatters
  · rw [happly events fun _ hmem => hmem, h.applied]

end Report

namespace Activity

open Report

/-! ## Runs of events -/

variable {operation : Option Operation}

/-- The events of a registry keep their records for as long as they are registered. -/
def KnowsEvents (stage : Stage) (events : List (Entity × Event)) : Prop :=
  ∀ pair ∈ events, pair.1.key ∈ stage.session.world.registry.keys →
    stage.session.world.registry.event? pair.1.key = some pair.2

theorem KnowsEvents.leadsTo {stage next : Stage} {events : List (Entity × Event)}
    (h : KnowsEvents stage events) (hleads : stage.LeadsTo next) : KnowsEvents next events := by
  intro pair hpair hkey
  rw [hleads.world.registry.event? hkey]
  exact h pair hpair (hleads.world.registry.order.mem hkey)

/-- One event of a run: what becomes of it, and what the report says of it. -/
theorem ends_runEvent (report : Report) {pair : Entity × Event} {stage : Stage}
    (hknown : pair.1.key ∈ stage.session.world.registry.keys →
      stage.session.world.registry.event? pair.1.key = some pair.2) :
    Ends ((runEvent operation report pair.1.key).perform stage)
      (fun judged middle => ∃ wasJudged hasFired,
        Judges operation pair stage wasJudged hasFired middle ∧
          ∀ own : Report, judged.append own =
            report.append (own.withFirst pair.1.key wasJudged hasFired))
      fun _ => True := by
  have hstay := stage.applyAll_nil
  apply ends_session_bind
  split
  next hevent =>
    have hgone : pair.1.key ∉ stage.session.world.registry.keys := by
      intro hkey
      rw [hknown hkey] at hevent
      cases hevent
    refine ⟨false, false, ⟨?_, ?_, hstay⟩, fun own => rfl⟩
    · exact ⟨fun h => absurd h Bool.false_ne_true, fun hkey => absurd hkey hgone⟩
    · exact ⟨fun h => absurd h Bool.false_ne_true, fun h => h.1⟩
  next event hevent =>
    have hkey := Registry.mem_keys_of_event? hevent
    obtain rfl : pair.2 = event := Option.some.inj ((hknown hkey).symm.trans hevent)
    have hconditions : pair.2.conditions.all (stage.session.world.meets operation) = true ↔
        ∀ name ∈ pair.2.conditions, stage.session.world.Satisfies operation name := by
      simp only [List.all_eq_true, World.meets_iff]
    split
    next hmet =>
      have happly : (applyAll pair.2.effects).perform stage = stage.applyAll pair.2.effects := rfl
      rw [perform_bind, happly]
      cases houtcome : stage.applyAll pair.2.effects with
      | mk result middle =>
          cases result with
          | error fault => trivial
          | ok value =>
              refine ⟨true, true, ⟨?_, ?_, houtcome⟩, fun own => ?_⟩
              · exact ⟨fun _ => hkey, fun _ => rfl⟩
              · exact ⟨fun _ => ⟨rfl, hconditions.mp hmet⟩, fun _ => rfl⟩
              · simp [append, withFirst, addEvaluated, addFired]
    next hunmet =>
      refine ⟨true, false, ⟨?_, ?_, hstay⟩, fun own => ?_⟩
      · exact ⟨fun _ => hkey, fun _ => rfl⟩
      · exact ⟨fun h => absurd h Bool.false_ne_true, fun h => absurd (hconditions.mpr h.2) hunmet⟩
      · simp [append, withFirst, addEvaluated]

theorem ends_runEvents (report : Report) {events : List (Entity × Event)} {stage : Stage}
    (hdistinct : (events.map fun pair => pair.1.key).Nodup) (hknown : KnowsEvents stage events) :
    Ends ((runEvents operation report (events.map fun pair => pair.1.key)).perform stage)
      (fun final last => ∃ own : Report, final = report.append own ∧
        own.Describes operation events stage last)
      fun _ => True := by
  induction events generalizing report stage with
  | nil => exact ⟨Report.empty, by simp [append, empty], .nil operation stage⟩
  | cons pair events ih =>
      obtain ⟨hfresh, hrest⟩ := List.nodup_cons.mp hdistinct
      obtain ⟨hpair, hothers⟩ := List.forall_mem_cons.mp hknown
      refine (ends_runEvent report hpair).bind ?_
      rintro judged middle ⟨wasJudged, hasFired, hfirst, happend⟩
      -- The events that are left keep their records whatever the first one has done.
      have hleads : stage.LeadsTo middle := by
        have hfollows := Stage.follows_applyAll (if hasFired then pair.2.effects else []) stage
        rw [hfirst.applied] at hfollows
        exact hfollows
      refine (ih judged hrest (KnowsEvents.leadsTo hothers hleads)).weaken ?_ fun _ h => h
      rintro final last ⟨own, rfl, hown⟩
      exact ⟨_, happend own, hown.cons hfresh hfirst⟩

/-- The events that a sweep starts with. -/
theorem ends_sweepAll (operation : Option Operation) (stage : Stage) :
    Ends ((sweepAll operation).perform stage)
      (fun report last => report.Describes operation stage.session.world.registry.events stage last)
      fun _ => True := by
  apply ends_session_bind
  have hdistinct := stage.session.world.registry.nodup_event_keys
  have hknown : KnowsEvents stage stage.session.world.registry.events :=
    fun pair hpair _ => Registry.event?_of_mem hpair
  refine (ends_runEvents Report.empty hdistinct hknown).weaken ?_ fun _ h => h
  rintro final last ⟨own, rfl, hown⟩
  exact hown

end Activity

/-! ## A belfry at dusk -/

/-- When it gets dark in the belfry the bats are gone before they come, and the bell, which
needs light, is not rung. -/
def World.belfry : World where
  registry := Registry.ofList [
    Entity.location "Belfry",
    Entity.pawn "Ringer" "Belfry" ⟨0x4024000000000000⟩,
    Entity.command "Wait" "z" .wait,
    Entity.command "Save" "sv" .save,
    Entity.command "Load" "ld" .load,
    Entity.command "Restart" "rs" .restart,
    (Entity.condition "Light" (.statusSet ⟨"belfry"⟩ "dark")).negate,
    ((Entity.event "Dusk").andThen (.setStatus ⟨"belfry"⟩ "dark" 1)).andThen
      (.removeEntity ⟨"bats"⟩),
    (Entity.event "Bats").andThen (.say "Bats fly out."),
    ((Entity.event "Bell").onlyWhen "Light").andThen (.say "The bell rings.")]
  active := [⟨"wait"⟩, ⟨"save"⟩, ⟨"load"⟩, ⟨"restart"⟩]
  player := ⟨"ringer"⟩
  turns := 0

def Level.belfry : Level where
  name := "The Belfry"
  build := Layout.editWorld fun _ => World.belfry

/-- The belfry with empty slots and a terminal that refuses no call. -/
def Stage.belfry : Stage where
  session := { Session.fresh with world := World.belfry, level := some Level.belfry }
  terminal := .scripted (Script.ofLines [])
  store := .slots Slots.empty

namespace Activity

/-! ## Whole sweeps -/

/-- A sweep ends in the idle phase, after the effects of the events that fired and nothing else;
no event is judged or fires twice.  It can only fail when the terminal does. -/
theorem sweep_describes (operation : Option Operation) {stage : Stage}
    (h : stage.session.phase ≠ .conditionSweep) :
    Ends ((sweep operation).perform stage)
      (fun report after => report.evaluated.Nodup ∧ report.fired.Nodup ∧
        ∃ last, after = idled last ∧
          report.Describes operation stage.session.world.registry.events
            { stage with session := { stage.session with phase := .conditionSweep } } last)
      fun _ => ¬ stage.terminal.IsReliable := by
  have hsweep : Ends ((sweep operation).perform stage)
      (fun report after => ∃ last, after = idled last ∧
        report.Describes operation stage.session.world.registry.events
          { stage with session := { stage.session with phase := .conditionSweep } } last)
      fun _ => True := by
    apply ends_session_bind
    rw [if_neg h]
    apply ends_editSession_bind
    apply ends_endingIdle
    exact (ends_sweepAll operation _).weaken (fun report last hlast => ⟨last, rfl, hlast⟩)
      fun _ hnext => hnext
  have hdistinct := stage.session.world.registry.nodup_event_keys
  refine (hsweep.and (orderly_sweep operation stage)).weaken ?_ fun _ hnext => hnext.2.2
  rintro report after ⟨⟨last, hafter, hlast⟩, _⟩
  have hevaluated := hdistinct.sublist hlast.evaluated
  exact ⟨hevaluated, hevaluated.sublist hlast.fired, last, hafter, hlast⟩

theorem sweep_describes_belfry :
    Stage.belfry.session.phase ≠ .conditionSweep ∧
      Ends ((sweep none).perform Stage.belfry)
        (fun report after => report.evaluated.Nodup ∧ report.fired.Nodup ∧
          ∃ last, after = idled last ∧
            report.Describes none Stage.belfry.session.world.registry.events
              { Stage.belfry with
                session := { Stage.belfry.session with phase := .conditionSweep } } last)
        fun _ => ¬ Stage.belfry.terminal.IsReliable := by
  have hphase : Stage.belfry.session.phase ≠ .conditionSweep := by decide
  exact ⟨hphase, sweep_describes none hphase⟩

end Activity

end TextAdventure
