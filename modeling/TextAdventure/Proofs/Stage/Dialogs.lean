import TextAdventure.Proofs.Registry
import TextAdventure.Proofs.Stage.Logs
import TextAdventure.Proofs.Stage.Narrations
import TextAdventure.Proofs.Stage.Sweeps
import TextAdventure.Proofs.Terminal.Answers
import TextAdventure.Proofs.Text.Numerals

/-!
# Held dialogs

What comes of a dialog on any terminal: nothing is chosen in it if the terminal fails or the input
ends, and then the world is as it was.  Otherwise the option whose index is given is replied to, is
used up if it is for once, and only then brings about its effects, one after another.
-/

namespace TextAdventure

open Terminal

/-! ## Numbers of options -/

/-- The numbers in a menu are the ones that choose the options. -/
structure Dialog.IsNumbered (dialog : Dialog) : Prop where
  /-- Each option stands after the earlier ones, behind its place counted from one. -/
  printed : ∀ front option rest, dialog.options = front ++ option :: rest →
    ∃ later, dialog.menu =
      { dialog with options := front }.menu ++
        ("\n  " ++ toString (front.length + 1) ++ ". " ++ option.text) ++ later
  /-- The number chooses the option.  No list in memory is too long for its numbers. -/
  chooses : ∀ index < dialog.options.length, index + 1 < UInt64.size →
    parseChoice (toString (index + 1)) dialog.options.length = some index
  /-- A line that chooses an option denotes its number and no other. -/
  denotes : ∀ line index, parseChoice line dialog.options.length = some index →
    index < dialog.options.length ∧ ∀ n, Text.Denotes line n ↔ n = index + 1
  /-- Where lines are read, they are what chooses. -/
  typed : ∀ terminal : Terminal, terminal.ReadsLines →
    terminal.readChoice dialog.options.length =
      match terminal.readLine with
      | .error fault => .error fault
      | .ok (line, after) =>
          .ok (line.bind fun line => parseChoice line dialog.options.length, after)

theorem Dialog.exists_menu_eq (dialog : Dialog) {front rest : List DialogOption}
    {option : DialogOption} (h : dialog.options = front ++ option :: rest) :
    ∃ later, dialog.menu =
      { dialog with options := front }.menu ++ Dialog.optionLine (front.length + 1) option ++
        later := by
  refine ⟨String.join ((rest.zipIdx (front.length + 1)).map fun pair =>
    Dialog.optionLine (pair.2 + 1) pair.1), ?_⟩
  simp [Dialog.menu, h, List.zipIdx_append, String.append_assoc]

theorem Dialog.isNumbered (dialog : Dialog) : dialog.IsNumbered where
  printed _ _ _ h := dialog.exists_menu_eq h
  chooses _ hindex hsize := parseChoice_toString hindex hsize
  denotes line index h := by
    obtain ⟨hlt, -, hdenotes⟩ := parseChoice_eq_some_iff.mp h
    refine ⟨hlt, fun n => ⟨fun hn => hn.unique hdenotes, ?_⟩⟩
    rintro rfl
    exact hdenotes
  typed _ h := h.readChoice_eq _

/-! ## The option that is chosen -/

/-- The choice of an option, by its index among those that are left of a dialog. -/
structure Choice where
  dialog : Key
  index : Nat
  option : DialogOption

/-- What choosing an option of a dialog makes of a session. -/
structure Session.Chooses (key : Key) (dialog : Dialog) (front : List DialogOption)
    (option : DialogOption) (rest : List DialogOption) (before after : Session) : Prop where
  /-- The reply is said unless it is empty, and outside the registry nothing else is changed. -/
  replied : after =
    { before with
      output := before.output ++ if option.reply = "" then [] else [option.reply]
      world := { before.world with registry := after.world.registry } }
  kept : option.once = false → after.world.registry = before.world.registry
  /-- An option for once is gone from its dialog; the other options and entities stay in place. -/
  dropped : option.once = true →
    ∃ earlier entity later,
      before.world.registry.entities = earlier ++ entity :: later ∧
      entity.key = key ∧ entity.kind = .dialog dialog ∧
      after.world.registry.entities =
        earlier ++ { entity with kind := .dialog { dialog with options := front ++ rest } } :: later

namespace Registry

theorem exists_of_dialog? {registry : Registry} {key : Key} {dialog : Dialog}
    (h : registry.dialog? key = some dialog) :
    ∃ earlier entity later, registry.entities = earlier ++ entity :: later ∧ entity.key = key ∧
      entity.kind = .dialog dialog := by
  obtain ⟨entity, hget, hdialog⟩ := Option.bind_eq_some_iff.mp h
  obtain ⟨earlier, later, hsplit⟩ := List.append_of_mem (mem_of_get? hget)
  exact ⟨earlier, entity, later, hsplit, key_of_get? hget, Kind.eq_dialog_of_dialog? hdialog⟩

/-- Editing an entity leaves those before and after it alone. -/
theorem entities_modify {registry : Registry} {key : Key} {edit : Entity → Entity}
    (hedit : ∀ entity, (edit entity).key = entity.key) {earlier later : List Entity}
    {entity : Entity} (hsplit : registry.entities = earlier ++ entity :: later)
    (hkey : entity.key = key) :
    (registry.modify key edit hedit).entities = earlier ++ edit entity :: later := by
  have hdistinct := (List.perm_middle.map Entity.key).nodup_iff.mp (hsplit ▸ registry.distinct)
  obtain ⟨hother, -⟩ := List.nodup_cons.mp hdistinct
  have hsame : ∀ other ∈ earlier ++ later, editEntry key edit other = other := by
    refine fun other hmem => if_neg fun heq => hother ?_
    rw [hkey, ← heq]
    exact List.mem_map_of_mem hmem
  have hfront : earlier.map (editEntry key edit) = earlier.map id :=
    List.map_congr_left fun other hmem => hsame other (List.mem_append_left later hmem)
  have hback : later.map (editEntry key edit) = later.map id :=
    List.map_congr_left fun other hmem => hsame other (List.mem_append_right earlier hmem)
  have hself : editEntry key edit entity = edit entity := if_pos hkey
  have hentities : (registry.modify key edit hedit).entities =
      registry.entities.map (editEntry key edit) := rfl
  rw [hentities, hsplit, List.map_append, List.map_cons, hfront, hback, hself, List.map_id,
    List.map_id]

end Registry

theorem DialogOption.spoken_eq (option : DialogOption) :
    option.spoken = if option.reply = "" then [] else [option.reply] := by
  simp [DialogOption.spoken]

theorem Session.registry_choose (session : Session) (key : Key) (index : Nat)
    (option : DialogOption) :
    (session.choose key index option).world.registry =
      if option.once = true then session.world.registry.dropOption key index
      else session.world.registry := by
  unfold choose
  dsimp only
  split <;> split <;> rfl

theorem Session.chooses_choose {session : Session} {key : Key} {dialog : Dialog}
    (hdialog : session.world.registry.dialog? key = some dialog)
    {front rest : List DialogOption} {option : DialogOption}
    (hoptions : dialog.options = front ++ option :: rest) :
    session.Chooses key dialog front option rest (session.choose key front.length option) where
  replied := by
    rw [← option.spoken_eq, ← output_choose session key front.length option]
    unfold choose
    dsimp only
    split <;> split <;> rfl
  kept honce := by rw [registry_choose, honce, if_neg Bool.false_ne_true]
  dropped honce := by
    obtain ⟨earlier, entity, later, hsplit, hkey, hkind⟩ := Registry.exists_of_dialog? hdialog
    refine ⟨earlier, entity, later, hsplit, hkey, hkind, ?_⟩
    have hleft : dialog.options.eraseIdx front.length = front ++ rest := by
      rw [hoptions, List.eraseIdx_append_of_length_le (Nat.le_refl _), Nat.sub_self]
      rfl
    rw [registry_choose, if_pos honce]
    refine (Registry.entities_modify (Entity.key_mapKind _) hsplit hkey).trans ?_
    rw [Entity.mapKind, hkind, Kind.mapDialog, hleft]

/-! ## Showing what was said -/

namespace Stage

variable {stage shown : Stage}

/-- What comes of showing all that was said, on any terminal. -/
inductive Presents (stage : Stage) : Except Fault Unit × Stage → Prop where
  | nothing (hsilent : stage.session.output = []) : Presents stage (.ok (), stage)
  | shown {terminal : Terminal} (hsaid : stage.session.output ≠ [])
      (hshown : stage.terminal.display (Text.unlines stage.session.output) none = .ok terminal) :
      Presents stage (.ok (), stage.shownOn terminal)
  | refused {fault : Fault} (hsaid : stage.session.output ≠ [])
      (hshown : stage.terminal.display (Text.unlines stage.session.output) none = .error fault) :
      Presents stage (.error fault, stage.shownOn stage.terminal)

theorem presents_flush (stage : Stage) : stage.Presents (Activity.flush.perform stage) := by
  rw [Activity.flush, Activity.perform_bind, Activity.perform_session]
  dsimp only
  split
  next hsaid =>
    have hsaid : stage.session.output ≠ [] := by simpa [Session.hasOutput] using hsaid
    rw [Activity.perform_bind, Activity.perform_editSession]
    simp only [Activity.perform, Activity.display, Activity.ofStep, ExceptT.mk, ExceptT.run,
      StateT.run]
    split
    next fault hshown => exact .refused hsaid hshown
    next terminal hshown => exact .shown hsaid hshown
  next hsilent =>
    exact .nothing (by simpa [Session.hasOutput] using hsilent)

theorem Presents.world_eq {result : Except Fault Unit} (h : stage.Presents (result, shown)) :
    shown.session.world = stage.session.world := by
  cases h with
  | nothing hsilent => rfl
  | shown hsaid hshown => rfl
  | refused hsaid hshown => rfl

theorem Presents.terminal_of_error {fault : Fault} (h : stage.Presents (.error fault, shown)) :
    shown.terminal = stage.terminal := by
  cases h with
  | refused hsaid hshown => rfl

theorem Presents.answers_eq {result : Except Fault Unit} (h : stage.Presents (result, shown))
    (count : Nat) : shown.terminal.answers count = stage.terminal.answers count := by
  cases h with
  | nothing hsilent => rfl
  | shown hsaid hshown => exact answers_display hshown count
  | refused hsaid hshown => rfl

theorem Presents.spends {result : Except Fault Unit} (h : stage.Presents (result, shown))
    {count : Nat} {choice : Option Nat} {after : Terminal}
    (hspends : Spends count shown.terminal choice after) :
    Spends count stage.terminal choice after := by
  obtain ⟨passed, hanswers, hinvalid⟩ := hspends
  exact ⟨passed, (h.answers_eq count).symm.trans hanswers, hinvalid⟩

/-! ## Holding a dialog -/

/-- What comes of holding a dialog, with the choice that is made in it. -/
inductive Conducts (key : Key) (stage : Stage) :
    Option Choice → Except Fault (List Effect) × Stage → Prop where
  | missing (hdialog : stage.session.world.registry.dialog? key = none) :
      Conducts key stage none (.ok [], stage)
  | silent {dialog : Dialog} (hdialog : stage.session.world.registry.dialog? key = some dialog)
      (hoptions : dialog.options = []) :
      Conducts key stage none
        (.ok [], { stage with session := stage.session.say "There is nothing more to say." })
  | unshown {dialog : Dialog} {shown : Stage} {fault : Fault}
      (hdialog : stage.session.world.registry.dialog? key = some dialog)
      (hoptions : dialog.options ≠ []) (hshown : stage.Presents (.error fault, shown)) :
      Conducts key stage none (.error fault, shown)
  | failed {dialog : Dialog} {shown : Stage} {fault : Fault} {terminal : Terminal}
      (hdialog : stage.session.world.registry.dialog? key = some dialog)
      (hoptions : dialog.options ≠ []) (hshown : stage.Presents (.ok (), shown))
      (hpolls : Polls dialog.menu dialog.options.length shown.terminal (.error fault, terminal)) :
      Conducts key stage none (.error fault, shown.onTerminal terminal)
  | closed {dialog : Dialog} {shown : Stage} {terminal : Terminal}
      (hdialog : stage.session.world.registry.dialog? key = some dialog)
      (hoptions : dialog.options ≠ []) (hshown : stage.Presents (.ok (), shown))
      (hpolls : Polls dialog.menu dialog.options.length shown.terminal (.ok none, terminal)) :
      Conducts key stage none (.ok [], shown.onTerminal terminal)
  | chosen {dialog : Dialog} {shown : Stage} {terminal : Terminal} {index : Nat}
      {option : DialogOption}
      (hdialog : stage.session.world.registry.dialog? key = some dialog)
      (hshown : stage.Presents (.ok (), shown))
      (hpolls : Polls dialog.menu dialog.options.length shown.terminal (.ok (some index), terminal))
      (hoption : dialog.options[index]? = some option) :
      Conducts key stage (some ⟨key, index, option⟩)
        (.ok option.effects,
          { shown with session := shown.session.choose key index option, terminal := terminal })

/-- Holding a dialog comes to what the rules say. -/
theorem exists_conducts (key : Key) (stage : Stage) :
    ∃ choice, Conducts key stage choice (stage.hold key) := by
  unfold hold
  split
  next hdialog => exact ⟨none, .missing hdialog⟩
  next dialog hdialog =>
    have hpresents := presents_flush stage
    split
    next hempty => exact ⟨none, .silent hdialog (List.isEmpty_iff.mp hempty)⟩
    next hfull =>
      have hoptions : dialog.options ≠ [] := by simpa using hfull
      split
      next fault shown hflush =>
        rw [hflush] at hpresents
        exact ⟨none, .unshown hdialog hoptions hpresents⟩
      next shown hflush =>
        rw [hflush] at hpresents
        have hpolls := polls_ask dialog.menu dialog.options.length shown.terminal
        unfold offerOptions
        split
        next fault terminal hask => exact ⟨none, .failed hdialog hoptions hpresents (hask ▸ hpolls)⟩
        next terminal hask => exact ⟨none, .closed hdialog hoptions hpresents (hask ▸ hpolls)⟩
        next index terminal hask =>
          rw [hask] at hpolls
          have hoption := List.getElem?_eq_getElem hpolls.index_lt
          rw [hoption]
          exact ⟨some ⟨key, index, _⟩, .chosen hdialog hpresents hpolls hoption⟩

end Stage

/-- An element of a list stands between those before and those after it. -/
theorem exists_split_of_getElem? {α : Type} {elements : List α} {index : Nat} {element : α}
    (h : elements[index]? = some element) :
    ∃ front rest, elements = front ++ element :: rest ∧ front.length = index := by
  obtain ⟨hlt, rfl⟩ := List.getElem?_eq_some_iff.mp h
  refine ⟨elements.take index, elements.drop (index + 1), ?_, ?_⟩
  · rw [List.getElem_cons_drop, List.take_append_drop]
  · exact List.length_take_of_le (Nat.le_of_lt hlt)

namespace Activity

/-- Apply one effect.  A dialog is held with all that comes of it. -/
def undergo : Effect → Activity Unit
  | .initiateDialog dialog => converse dialog
  | effect => editSession fun session => session.apply effect

theorem perform_undergo (effect : Effect) (stage : Stage) :
    (undergo effect).perform stage = stage.applyAll [effect] := by
  cases effect with
  | initiateDialog dialog => rfl
  | _ =>
      refine Eq.symm ((Stage.applyAll_plain (fun _ h => by cases h) [] stage).trans ?_)
      exact Stage.applyAll_nil _

/-- Effects are applied one after another, each with all that comes of it. -/
theorem perform_applyAll (effects : List Effect) (stage : Stage) :
    stage.applyAll effects = (effects.forM undergo).perform stage := by
  induction effects generalizing stage with
  | nil => exact stage.applyAll_nil
  | cons effect rest ih =>
      rw [← List.singleton_append, Stage.applyAll_append, List.forM_eq_forM, List.singleton_append,
        List.forM_cons, perform_bind, perform_undergo]
      split
      next fault after h => rw [h]
      next after h =>
        rw [h]
        exact ih after

/-- What comes of a registered dialog in which there is something to choose.  Of the answers that are
left when it starts, those up to the first that names an option are used up. -/
inductive Obeys (key : Key) (dialog : Dialog) (stage : Stage) :
    Except Fault Unit × Stage → Prop where
  /-- The terminal fails to show what was said before. -/
  | unshown {shown : Stage} {fault : Fault} (hshown : stage.Presents (.error fault, shown))
      (hterminal : shown.terminal = stage.terminal)
      (hkept : shown.session.world = stage.session.world) :
      Obeys key dialog stage (.error fault, shown)
  /-- The terminal fails before anything is chosen. -/
  | failed {shown : Stage} {fault : Fault} {terminal : Terminal}
      (hshown : stage.Presents (.ok (), shown))
      (hpolls : Polls dialog.menu dialog.options.length shown.terminal (.error fault, terminal))
      (hspends : Spends dialog.options.length stage.terminal none terminal)
      (hkept : shown.session.world = stage.session.world) :
      Obeys key dialog stage (.error fault, shown.onTerminal terminal)
  /-- The input ends before anything is chosen. -/
  | closed {shown : Stage} {terminal : Terminal} (hshown : stage.Presents (.ok (), shown))
      (hpolls : Polls dialog.menu dialog.options.length shown.terminal (.ok none, terminal))
      (hspends : Spends dialog.options.length stage.terminal none terminal)
      (hended : terminal.isClosed = true ∧ terminal.answers dialog.options.length = [])
      (hkept : shown.session.world = stage.session.world) :
      Obeys key dialog stage (.ok (), shown.onTerminal terminal)
  /-- An option is chosen, and its effects are applied after all else that comes of the choice. -/
  | chosen {shown : Stage} {terminal : Terminal} {front rest : List DialogOption}
      {option : DialogOption} {session : Session} (hshown : stage.Presents (.ok (), shown))
      (hpolls : Polls dialog.menu dialog.options.length shown.terminal
        (.ok (some front.length), terminal))
      (hspends : Spends dialog.options.length stage.terminal (some front.length) terminal)
      (hkept : shown.session.world = stage.session.world)
      (hoptions : dialog.options = front ++ option :: rest)
      (hchooses : shown.session.Chooses key dialog front option rest session) :
      Obeys key dialog stage
        ((option.effects.forM undergo).perform ⟨session, terminal, shown.store⟩)

theorem obeys_converse {key : Key} {dialog : Dialog} {stage : Stage}
    (hdialog : stage.session.world.registry.dialog? key = some dialog)
    (hoptions : dialog.options ≠ []) :
    Obeys key dialog stage ((converse key).perform stage) := by
  have hconverse : (converse key).perform stage = stage.applyAll [.initiateDialog key] := rfl
  have hfault : ∀ {fault after}, stage.hold key = (.error fault, after) →
      stage.applyAll [.initiateDialog key] = (.error fault, after) := by
    intro fault after hhold
    rw [Stage.applyAll]
    split
    next hother =>
      cases hhold.symm.trans hother
      rfl
    next hother => cases hhold.symm.trans hother
  obtain ⟨choice, hconducts⟩ := stage.exists_conducts key
  rw [hconverse]
  generalize houtcome : stage.hold key = outcome at hconducts
  cases hconducts with
  | missing hother => cases hdialog.symm.trans hother
  | silent hother hempty =>
      cases hdialog.symm.trans hother
      exact absurd hempty hoptions
  | unshown hother hfull hshown =>
      rw [hfault houtcome]
      exact .unshown hshown hshown.terminal_of_error hshown.world_eq
  | failed hother hfull hshown hpolls =>
      cases hdialog.symm.trans hother
      rw [hfault houtcome]
      exact .failed hshown hpolls (hshown.spends hpolls.spends) hshown.world_eq
  | closed hother hfull hshown hpolls =>
      cases hdialog.symm.trans hother
      rw [Stage.applyAll_dialog houtcome, List.append_nil, Stage.applyAll_nil]
      exact .closed hshown hpolls (hshown.spends hpolls.spends) hpolls.closed_of_none
        hshown.world_eq
  | chosen hother hshown hpolls hoption =>
      cases hdialog.symm.trans hother
      obtain ⟨front, rest, hsplit, rfl⟩ := exists_split_of_getElem? hoption
      rw [Stage.applyAll_dialog houtcome, List.append_nil, perform_applyAll]
      exact .chosen hshown hpolls (hshown.spends hpolls.spends) hshown.world_eq hsplit
        (Session.chooses_choose (hshown.world_eq ▸ hdialog) hsplit)

/-- A registered dialog in which there is something to choose obeys the number that is given to its
menu, on every terminal and whatever answers there are. -/
theorem converse_obeys_number {key : Key} {dialog : Dialog} {stage : Stage}
    (hdialog : stage.session.world.registry.dialog? key = some dialog)
    (hoptions : dialog.options ≠ []) :
    dialog.IsNumbered ∧ Obeys key dialog stage ((converse key).perform stage) :=
  ⟨dialog.isNumbered, obeys_converse hdialog hoptions⟩

end Activity

/-! ## A crossing -/

/-- A ferryman who names his fare once. -/
def Dialog.ferryman : Dialog where
  opening := "The ferryman waits."
  options := [
    { text := "Cross.", reply := "", effects := [.endGame "You are across."], once := false },
    { text := "Ask.", reply := "Two pence.", effects := [.say "He yawns."], once := true }]

/-- The crossing, with indices to choose by that are out of range at first. -/
def Stage.crossing : Stage where
  session :=
    { Session.fresh with
      world :=
        { registry := Registry.ofList [
            { Entity.dialog "Ferryman" "" with kind := .dialog Dialog.ferryman }]
          active := []
          player := ⟨"traveller"⟩
          turns := 0 } }
  terminal := .scripted { Script.ofLines [] with choices := some [7, 2, 1, 0] }
  store := .slots Slots.empty

theorem Activity.converse_obeys_number_crossing :
    Stage.crossing.session.world.registry.dialog? ⟨"ferryman"⟩ = some Dialog.ferryman ∧
      Dialog.ferryman.options ≠ [] ∧
      Dialog.ferryman.IsNumbered ∧
      Activity.Obeys ⟨"ferryman"⟩ Dialog.ferryman Stage.crossing
        ((Activity.converse ⟨"ferryman"⟩).perform Stage.crossing) := by
  have hdialog : Stage.crossing.session.world.registry.dialog? ⟨"ferryman"⟩ =
      some Dialog.ferryman := by decide +kernel
  have hoptions : Dialog.ferryman.options ≠ [] := by decide
  exact ⟨hdialog, hoptions, Activity.converse_obeys_number hdialog hoptions⟩

end TextAdventure
