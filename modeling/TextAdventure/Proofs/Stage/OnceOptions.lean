import TextAdventure.Proofs.Stage.Choices

/-!
# Options for once

However dialogs lead into one another, an option for once is used up before its effects are
applied.  So of a dialog that was registered at the start such an option is chosen at most once, all
other options stay, and those that are left stand in their order.
-/

namespace TextAdventure

/-! ## Using up options -/

/-- What choices use up of a dialog's options, each with its place in the beginning: the ones that
are chosen in turn, and the ones that are left. -/
inductive UsesUp (key : Key) :
    List (DialogOption × Nat) → List Choice → List (DialogOption × Nat) →
      List (DialogOption × Nat) → Prop where
  | nil {left : List (DialogOption × Nat)} : UsesUp key left [] [] left
  | elsewhere {left chosen last : List (DialogOption × Nat)} {choice : Choice}
      {later : List Choice} (hother : choice.dialog ≠ key)
      (hlater : UsesUp key left later chosen last) :
      UsesUp key left (choice :: later) chosen last
  | kept {front rest chosen last : List (DialogOption × Nat)} {option : DialogOption}
      {place : Nat} {later : List Choice} (honce : option.once = false)
      (hlater : UsesUp key (front ++ (option, place) :: rest) later chosen last) :
      UsesUp key (front ++ (option, place) :: rest) (⟨key, front.length, option⟩ :: later)
        ((option, place) :: chosen) last
  | used {front rest chosen last : List (DialogOption × Nat)} {option : DialogOption}
      {place : Nat} {later : List Choice} (honce : option.once = true)
      (hlater : UsesUp key (front ++ rest) later chosen last) :
      UsesUp key (front ++ (option, place) :: rest) (⟨key, front.length, option⟩ :: later)
        ((option, place) :: chosen) last

namespace UsesUp

variable {key : Key} {left middle chosen later last : List (DialogOption × Nat)}
  {choices others : List Choice} {pair : DialogOption × Nat}

theorem append (h : UsesUp key left choices chosen middle)
    (hnext : UsesUp key middle others later last) :
    UsesUp key left (choices ++ others) (chosen ++ later) last := by
  induction h with
  | nil => exact hnext
  | elsewhere hother hlater ih => exact .elsewhere hother (ih hnext)
  | kept honce hlater ih => exact .kept honce (ih hnext)
  | used honce hlater ih => exact .used honce (ih hnext)

theorem of_elsewhere (h : ∀ choice ∈ choices, choice.dialog ≠ key) :
    UsesUp key left choices [] left := by
  induction choices with
  | nil => exact .nil
  | cons choice rest ih =>
      obtain ⟨hother, hrest⟩ := List.forall_mem_cons.mp h
      exact .elsewhere hother (ih hrest)

/-- The options that are left stand in their order. -/
theorem sublist (h : UsesUp key left choices chosen last) : last.Sublist left := by
  induction h with
  | nil => exact List.Sublist.refl _
  | elsewhere hother hlater ih => exact ih
  | kept honce hlater ih => exact ih
  | used honce hlater ih =>
      exact ih.trans ((List.Sublist.refl _).append (List.sublist_cons_self _ _))

/-- An option for once is chosen or left, but never both. -/
theorem count_add_count (h : UsesUp key left choices chosen last) (honce : pair.1.once = true) :
    chosen.count pair + last.count pair = left.count pair := by
  induction h with
  | nil => exact Nat.zero_add _
  | elsewhere hother hlater ih => exact ih
  | @kept _ _ _ _ option place _ hkept hlater ih =>
      have hne : (option, place) ≠ pair := by
        rintro rfl
        exact absurd (hkept.symm.trans honce) Bool.false_ne_true
      rw [List.count_cons_of_ne hne]
      exact ih
  | used hused hlater ih =>
      rw [List.count_append] at ih
      rw [List.count_append, List.count_cons, List.count_cons]
      omega

/-- An option that is not for once stays. -/
theorem mem_last (h : UsesUp key left choices chosen last) (hpair : pair ∈ left)
    (honce : pair.1.once = false) : pair ∈ last := by
  induction h with
  | nil => exact hpair
  | elsewhere hother hlater ih => exact ih hpair
  | kept hkept hlater ih => exact ih hpair
  | used hused hlater ih =>
      apply ih
      rcases List.mem_append.mp hpair with hfront | hrest
      · exact List.mem_append_left _ hfront
      · rcases List.mem_cons.mp hrest with rfl | hrest
        · exact absurd (honce.symm.trans hused) Bool.false_ne_true
        · exact List.mem_append_right _ hrest

end UsesUp

/-! ## Dialogs of a registry -/

namespace Registry

theorem dialog?_dropOption {registry : Registry} {key : Key} {dialog : Dialog}
    (h : registry.dialog? key = some dialog) (index : Nat) :
    (registry.dropOption key index).dialog? key =
      some { dialog with options := dialog.options.eraseIdx index } := by
  obtain ⟨entity, hget, hdialog⟩ := Option.bind_eq_some_iff.mp h
  have hedited : (registry.dropOption key index).get? key =
      some (entity.mapKind (Kind.mapDialog fun dialog =>
        { dialog with options := dialog.options.eraseIdx index })) := by
    refine (get?_modify registry key key (Entity.key_mapKind _)).trans ?_
    rw [hget, Option.map_some, editEntry, if_pos (key_of_get? hget)]
  rw [dialog?, hedited, Option.bind_some, Entity.mapKind, Kind.eq_dialog_of_dialog? hdialog]
  rfl

theorem dialog?_dropOption_of_ne (registry : Registry) {key other : Key} (h : other ≠ key)
    (index : Nat) : (registry.dropOption key index).dialog? other = registry.dialog? other := by
  have hsame : (registry.dropOption key index).get? other = registry.get? other := by
    refine (get?_modify registry key other (Entity.key_mapKind _)).trans ?_
    cases hget : registry.get? other with
    | none => rfl
    | some entity =>
        have hother : entity.key ≠ key := fun heq => h ((key_of_get? hget).symm.trans heq)
        rw [Option.map_some, editEntry, if_neg hother]
  rw [dialog?, hsame, dialog?]

/-- What choices make of the dialogs of a registry: a dialog that is not registered is not chosen
from, and of one that is, the options that are not used up are left. -/
structure SpendsOptions (before : Registry) (choices : List Choice) (after : Registry) : Prop where
  missing : ∀ key, before.dialog? key = none →
    after.dialog? key = none ∧ ∀ choice ∈ choices, choice.dialog ≠ key
  spent : ∀ key dialog left, before.dialog? key = some dialog → dialog.options = left.map Prod.fst →
    ∃ chosen last, UsesUp key left choices chosen last ∧
      ∀ later, after.dialog? key = some later →
        later = { dialog with options := last.map Prod.fst }

variable {before middle after : Registry} {choices others : List Choice}

theorem SparesDialogs.spendsOptions (h : before.SparesDialogs after) :
    before.SpendsOptions [] after where
  missing key hnone := by
    refine ⟨Option.eq_none_iff_forall_ne_some.mpr fun dialog hdialog => ?_, by simp⟩
    cases hnone.symm.trans (h key dialog hdialog)
  spent key dialog left hdialog hleft := by
    refine ⟨[], left, .nil, fun later hlater => ?_⟩
    cases hdialog.symm.trans (h key later hlater)
    rw [← hleft]

theorem SpendsOptions.trans (h : before.SpendsOptions choices middle)
    (hnext : middle.SpendsOptions others after) :
    before.SpendsOptions (choices ++ others) after where
  missing key hnone := by
    obtain ⟨hmiddle, hchoices⟩ := h.missing key hnone
    obtain ⟨hafter, hothers⟩ := hnext.missing key hmiddle
    exact ⟨hafter, List.forall_mem_append.mpr ⟨hchoices, hothers⟩⟩
  spent key dialog left hdialog hleft := by
    obtain ⟨chosen, between, husesUp, hbetween⟩ := h.spent key dialog left hdialog hleft
    cases hmiddle : middle.dialog? key with
    | none =>
        obtain ⟨hafter, hothers⟩ := hnext.missing key hmiddle
        refine ⟨chosen ++ [], between, husesUp.append (.of_elsewhere hothers), ?_⟩
        intro later hlater
        cases hafter.symm.trans hlater
    | some now =>
        obtain rfl := hbetween now hmiddle
        obtain ⟨later, last, husesUpLater, hlast⟩ := hnext.spent key _ between hmiddle rfl
        exact ⟨chosen ++ later, last, husesUp.append husesUpLater, hlast⟩

end Registry

namespace Session

theorem dialog?_choose_of_ne (session : Session) {key other : Key} (h : other ≠ key) (index : Nat)
    (option : DialogOption) :
    (session.choose key index option).world.registry.dialog? other =
      session.world.registry.dialog? other := by
  rw [registry_choose]
  split
  · exact session.world.registry.dialog?_dropOption_of_ne h index
  · rfl

/-- The option that is chosen is used up if it is for once, and no other option is. -/
theorem spendsOptions_choose {session : Session} {key : Key} {dialog : Dialog}
    (hdialog : session.world.registry.dialog? key = some dialog) {index : Nat}
    {option : DialogOption} (hoption : dialog.options[index]? = some option) :
    session.world.registry.SpendsOptions [⟨key, index, option⟩]
      (session.choose key index option).world.registry where
  missing other hnone := by
    have hother : other ≠ key := by
      rintro rfl
      cases hnone.symm.trans hdialog
    rw [session.dialog?_choose_of_ne hother]
    exact ⟨hnone, List.forall_mem_singleton.mpr (Ne.symm hother)⟩
  spent other now left hnow hleft := by
    by_cases hother : other = key
    · subst hother
      cases hdialog.symm.trans hnow
      rw [hleft, List.getElem?_map] at hoption
      obtain ⟨⟨_, place⟩, hpair, rfl⟩ := Option.map_eq_some_iff.mp hoption
      obtain ⟨front, rest, rfl, rfl⟩ := exists_split_of_getElem? hpair
      rw [registry_choose]
      split
      next honce =>
        refine ⟨_, front ++ rest, .used honce .nil, fun later hlater => ?_⟩
        cases (Registry.dialog?_dropOption hdialog _).symm.trans hlater
        simp [hleft, List.eraseIdx_append_of_length_le]
      next honce =>
        refine ⟨_, _, .kept (eq_false_of_ne_true honce) .nil, fun later hlater => ?_⟩
        cases hdialog.symm.trans hlater
        rw [← hleft]
    · have helsewhere : ∀ choice ∈ [Choice.mk key index option], choice.dialog ≠ other :=
        List.forall_mem_singleton.mpr (Ne.symm hother)
      refine ⟨[], left, .of_elsewhere helsewhere, fun later hlater => ?_⟩
      rw [session.dialog?_choose_of_ne hother] at hlater
      cases hnow.symm.trans hlater
      rw [← hleft]

theorem sparesDialogs_apply (session : Session) (effect : Effect) :
    session.world.registry.SparesDialogs (session.apply effect).world.registry := by
  have hchanged := (World.PassesTo.changeWorld session.world effect).registry.dialogs
  cases effect with
  | say text => exact fun _ _ h => h
  | endGame text => exact fun _ _ h => h
  | _ => exact hchanged

end Session

/-! ## Effects, activities and whole runs -/

namespace Stage

variable {stage : Stage} {choices : List Choice}

theorem Presents.sparesDialogs {result : Except Fault Unit} {shown : Stage}
    (h : stage.Presents (result, shown)) :
    stage.session.world.registry.SparesDialogs shown.session.world.registry := by
  rw [h.world_eq]
  exact fun _ _ hdialog => hdialog

theorem Conducts.spendsOptions {key : Key} {choice : Option Choice}
    {outcome : Except Fault (List Effect) × Stage} (h : Conducts key stage choice outcome) :
    stage.session.world.registry.SpendsOptions choice.toList
      outcome.2.session.world.registry := by
  have hsame : ∀ registry : Registry, registry.SpendsOptions [] registry :=
    fun registry => Registry.SparesDialogs.spendsOptions fun _ _ hdialog => hdialog
  cases h with
  | missing hdialog => exact hsame _
  | silent hdialog hoptions => exact hsame _
  | unshown hdialog hoptions hshown => exact hshown.sparesDialogs.spendsOptions
  | failed hdialog hoptions hshown hpolls => exact hshown.sparesDialogs.spendsOptions
  | closed hdialog hoptions hshown hpolls => exact hshown.sparesDialogs.spendsOptions
  | chosen hdialog hshown hpolls hoption =>
      rw [← hshown.world_eq] at hdialog ⊢
      exact Session.spendsOptions_choose hdialog hoption

/-- Dialogs within the effects of an option that has been chosen are held after it is used up. -/
theorem Enacts.spendsOptions {effects : List Effect} {outcome : Except Fault Unit × Stage}
    (h : Enacts effects stage choices outcome) :
    stage.session.world.registry.SpendsOptions choices outcome.2.session.world.registry := by
  induction h with
  | nil => exact Registry.SparesDialogs.spendsOptions fun _ _ hdialog => hdialog
  | plain hplain hrest ih =>
      exact (Session.sparesDialogs_apply _ _).spendsOptions.trans ih
  | failed hconducts => exact hconducts.spendsOptions
  | dialog hconducts hlater ih => exact hconducts.spendsOptions.trans ih

end Stage

namespace Activity

variable {α : Type} {stage : Stage} {choices : List Choice}

theorem IsChoiceless.sparesDialogs {activity : Activity α} (h : IsChoiceless activity stage) :
    stage.session.world.registry.SparesDialogs
      (activity.perform stage).2.session.world.registry := by
  have hsame : ∀ registry : Registry, registry.SparesDialogs registry := fun _ _ _ h => h
  cases h with
  | editSession hspares => exact hspares
  | display text =>
      simp only [perform, Activity.display, ofStep, ExceptT.mk, ExceptT.run, StateT.run]
      split <;> exact hsame _
  | readLine =>
      simp only [perform, Activity.readLine, ofStep, ExceptT.mk, ExceptT.run, StateT.run]
      split <;> exact hsame _
  | loadFrom hrefused =>
      obtain ⟨fault, hfailed⟩ := exists_perform_loadFrom hrefused
      rw [hfailed]
      exact hsame _
  | _ => exact hsame _

theorem Makes.spendsOptions {activity : Activity α} {outcome : Except Fault α × Stage}
    (h : Makes activity stage choices outcome) :
    stage.session.world.registry.SpendsOptions choices outcome.2.session.world.registry := by
  induction h with
  | choiceless hchoiceless => exact hchoiceless.sparesDialogs.spendsOptions
  | applied henacts => exact henacts.spendsOptions
  | failed hfirst ih => exact ih
  | bind hfirst hnext ihFirst ihNext => exact ihFirst.trans ihNext
  | idled hactivity ih => exact ih
  | complained hfirst ih => exact ih
  | reported hfirst hnext ihFirst ihNext => exact ihFirst.trans ihNext

end Activity

/-! ## Runs -/

/-- What is done on a stage: a line is played, or the events are swept. -/
inductive Act where
  | turn (line : String)
  | sweep (operation : Option Operation)

namespace Stage

open Activity

variable {handlers : Handlers} {stage : Stage} {acts : List Act} {choices : List Choice}

/-- The stage after an act, whether it ended well or failed. -/
def afterAct (handlers : Handlers) (stage : Stage) : Act → Stage
  | .turn line => ((turn handlers line).perform stage).2
  | .sweep operation => ((sweep operation).perform stage).2

def afterActs (handlers : Handlers) (stage : Stage) (acts : List Act) : Stage :=
  acts.foldl (afterAct handlers) stage

/-- No line that is played puts another world in place of the one in play. -/
def StaysInPlay (handlers : Handlers) : Stage → List Act → Prop
  | _, [] => True
  | stage, act :: rest =>
      (∀ line, act = .turn line → ¬stage.ReplacesWorld line) ∧
        StaysInPlay handlers (stage.afterAct handlers act) rest

/-- The choices that are made in acts one after another. -/
inductive Chooses (handlers : Handlers) : Stage → List Act → List Choice → Prop where
  | nil {stage : Stage} : Chooses handlers stage [] []
  | turn {stage : Stage} {line : String} {rest : List Act} {choices later : List Choice}
      (hturn : Makes (turn handlers line) stage choices ((turn handlers line).perform stage))
      (hrest : Chooses handlers (stage.afterAct handlers (.turn line)) rest later) :
      Chooses handlers stage (.turn line :: rest) (choices ++ later)
  | sweep {stage : Stage} {operation : Option Operation} {rest : List Act}
      {choices later : List Choice}
      (hsweep : Makes (sweep operation) stage choices ((sweep operation).perform stage))
      (hrest : Chooses handlers (stage.afterAct handlers (.sweep operation)) rest later) :
      Chooses handlers stage (.sweep operation :: rest) (choices ++ later)

theorem exists_chooses (hregular : handlers.AreRegular) (hstays : stage.StaysInPlay handlers acts) :
    ∃ choices, Chooses handlers stage acts choices := by
  induction acts generalizing stage with
  | nil => exact ⟨[], .nil⟩
  | cons act rest ih =>
      obtain ⟨hact, hrest⟩ := hstays
      obtain ⟨later, hlater⟩ := ih hrest
      cases act with
      | turn line =>
          obtain ⟨choices, hturn⟩ := isRegular_turn hregular (hact line rfl)
          exact ⟨choices ++ later, .turn hturn hlater⟩
      | sweep operation =>
          obtain ⟨choices, hsweep⟩ := spansSweeps_isRegular.sweep operation stage
          exact ⟨choices ++ later, .sweep hsweep hlater⟩

theorem Chooses.spendsOptions (h : Chooses handlers stage acts choices) :
    stage.session.world.registry.SpendsOptions choices
      (stage.afterActs handlers acts).session.world.registry := by
  induction h with
  | nil => exact Registry.SparesDialogs.spendsOptions fun _ _ hdialog => hdialog
  | turn hturn hrest ih => exact hturn.spendsOptions.trans ih
  | sweep hsweep hrest ih => exact hsweep.spendsOptions.trans ih

end Stage

/-! ## What is left of a dialog -/

/-- What choices leave of a dialog, whose options are known by their places at the start. -/
structure Dialog.Outlasts (dialog : Dialog) (key : Key) (choices : List Choice)
    (chosen left : List (DialogOption × Nat)) (now : Option Dialog) : Prop where
  usesUp : UsesUp key dialog.options.zipIdx choices chosen left
  /-- An option for once is left, or it has been chosen once and is gone. -/
  once : ∀ pair ∈ dialog.options.zipIdx, pair.1.once = true →
    chosen.count pair + left.count pair = 1
  stays : ∀ pair ∈ dialog.options.zipIdx, pair.1.once = false → pair ∈ left
  order : left.Sublist dialog.options.zipIdx
  registered : ∀ later, now = some later → later = { dialog with options := left.map Prod.fst }

theorem nodup_zipIdx {α : Type} (elements : List α) : elements.zipIdx.Nodup := by
  have hplaces : (elements.zipIdx.map Prod.snd).Nodup := by
    rw [List.zipIdx_map_snd]
    exact List.nodup_range'
  exact List.Pairwise.of_map Prod.snd (fun _ _ hne heq => hne (congrArg Prod.snd heq)) hplaces

theorem Registry.SpendsOptions.exists_outlasts {before after : Registry} {choices : List Choice}
    (h : before.SpendsOptions choices after) {key : Key} {dialog : Dialog}
    (hdialog : before.dialog? key = some dialog) :
    ∃ chosen left, dialog.Outlasts key choices chosen left (after.dialog? key) := by
  have hplaces : dialog.options = dialog.options.zipIdx.map Prod.fst :=
    (List.zipIdx_map_fst 0 dialog.options).symm
  obtain ⟨chosen, left, husesUp, hnow⟩ := h.spent key dialog _ hdialog hplaces
  refine ⟨chosen, left, husesUp, fun pair hpair honce => ?_, fun pair hpair honce => ?_,
    husesUp.sublist, hnow⟩
  · rw [husesUp.count_add_count honce, (nodup_zipIdx _).count, if_pos hpair]
  · exact husesUp.mem_last hpair honce

namespace Stage

/-- In any turns and sweeps that stay in the world in play, choices are made only of dialogs that
were registered at the start; of each of these an option for once is chosen at most once, the others
stay, and what is left keeps its order for as long as the dialog is registered. -/
theorem once_options_are_used_once {handlers : Handlers} (hregular : handlers.AreRegular)
    {stage : Stage} {acts : List Act} (hstays : stage.StaysInPlay handlers acts) :
    (∃ choices, Chooses handlers stage acts choices) ∧
      ∀ choices, Chooses handlers stage acts choices → ∀ key,
        (stage.session.world.registry.dialog? key = none →
          ∀ choice ∈ choices, choice.dialog ≠ key) ∧
        ∀ dialog, stage.session.world.registry.dialog? key = some dialog →
          ∃ chosen left, dialog.Outlasts key choices chosen left
            ((stage.afterActs handlers acts).session.world.registry.dialog? key) := by
  refine ⟨exists_chooses hregular hstays, fun choices hchooses key => ⟨fun hnone => ?_, ?_⟩⟩
  · exact (hchooses.spendsOptions.missing key hnone).2
  · intro dialog hdialog
    exact hchooses.spendsOptions.exists_outlasts hdialog

end Stage

/-! ## A well -/

/-- Whatever is called into the well comes back out of it, and the well is heard again. -/
def World.well : World where
  registry := Registry.ofList [
    Entity.location "Well",
    Entity.pawn "Child" "Well" ⟨0x4024000000000000⟩,
    Entity.command "Wait" "z" .wait,
    ((Entity.dialog "Echo" "The well answers.").withOption
      { text := "Call."
        reply := "Call."
        effects := [.initiateDialog ⟨"echo"⟩, .initiateDialog ⟨"echo"⟩]
        once := true }).withOption
      { text := "Listen."
        reply := ""
        effects := [.initiateDialog ⟨"echo"⟩]
        once := false },
    (Entity.event "Drip").andThen (.initiateDialog ⟨"echo"⟩)]
  active := [⟨"wait"⟩]
  player := ⟨"child"⟩
  turns := 0

/-- The well, with what is typed to it. -/
def Stage.well : Stage where
  session := { Session.fresh with world := World.well }
  terminal := .scripted (Script.ofLines ["2", "1", "1", "2", "1"])
  store := .slots Slots.empty

theorem Stage.once_options_are_used_once_well :
    Handlers.AreRegular [] ∧ Stage.well.StaysInPlay [] [.turn "wait", .sweep none] ∧
      (∃ choices, Stage.Chooses [] Stage.well [.turn "wait", .sweep none] choices) ∧
      ∀ choices, Stage.Chooses [] Stage.well [.turn "wait", .sweep none] choices → ∀ key,
        (Stage.well.session.world.registry.dialog? key = none →
          ∀ choice ∈ choices, choice.dialog ≠ key) ∧
        ∀ dialog, Stage.well.session.world.registry.dialog? key = some dialog →
          ∃ chosen left, dialog.Outlasts key choices chosen left
            ((Stage.well.afterActs [] [.turn "wait", .sweep none]).session.world.registry.dialog?
              key) := by
  have hregular : Handlers.AreRegular [] := Handlers.areRegular_nil
  have hwaits : (Stage.well.session.reading "wait").operation?.bind (fun operation =>
      (Stage.well.session.world.registry.command? operation.command).map Command.behavior) =
        some .wait := by decide +kernel
  have hstays : Stage.well.StaysInPlay [] [.turn "wait", .sweep none] := by
    constructor
    · rintro line hline
      cases hline
      exact Stage.not_replacesWorld_of_behavior hwaits nofun nofun
    · exact ⟨nofun, trivial⟩
  exact ⟨hregular, hstays, Stage.once_options_are_used_once hregular hstays⟩

end TextAdventure
