import TextAdventure.Proofs.Stage.Tales

/-!
# Narrations

Which tale is told of a flush, a menu, a dialog, effects and an activity is given by rules, one for
each thing that they can come to.  The rules for what is said name the paragraphs that are said
there.  Every tale that is told by the rules connects the stages before and after it.
-/

namespace TextAdventure

/-- What an effect says. -/
def Effect.spoken : Effect → List String
  | say text => [text]
  | endGame text => [text]
  | _ => []

/-- What is replied to an option that is chosen. -/
def DialogOption.spoken (option : DialogOption) : List String :=
  if option.reply.isEmpty then [] else [option.reply]

namespace Session

theorem output_apply (session : Session) (effect : Effect) :
    (session.apply effect).output = session.output ++ effect.spoken := by
  cases effect with
  | say text => rfl
  | endGame text => rfl
  | _ => exact (List.append_nil _).symm

theorem output_choose (session : Session) (dialog : Key) (index : Nat) (option : DialogOption) :
    (session.choose dialog index option).output = session.output ++ option.spoken := by
  have honce : (session.choose dialog index option).output =
      (if option.reply.isEmpty then session else session.say option.reply).output := by
    unfold choose
    dsimp only
    split <;> rfl
  rw [honce, DialogOption.spoken]
  split
  · exact (List.append_nil _).symm
  · rfl

/-- A loaded world brings no output and takes none away. -/
theorem output_restore {session after : Session} {world : World}
    (h : session.restore world = .ok after) : after.output = session.output := by
  unfold restore at h
  cases hcheck : world.check with
  | error fault =>
      rw [hcheck] at h
      cases h
  | ok value =>
      rw [hcheck] at h
      cases h
      rfl

end Session

namespace Stage

/-- The stage on which the terminal has become another. -/
def onTerminal (stage : Stage) (terminal : Terminal) : Stage :=
  { stage with terminal := terminal }

/-- The stage on which all that was said has been shown on a terminal. -/
def shownOn (stage : Stage) (terminal : Terminal) : Stage :=
  { stage with session := stage.session.takeOutput.2, terminal := terminal }

/-! ## Flushes and menus -/

/-- What a flush comes to: if there is something to show, it is shown in one display. -/
inductive Flushes (stage : Stage) : Tale → Stage → Prop where
  | nothing (hsilent : stage.session.output = []) : Flushes stage [] stage
  | shown {terminal : Terminal} (hsaid : stage.session.output ≠ [])
      (hshown : stage.terminal.display (Text.unlines stage.session.output) none = .ok terminal) :
      Flushes stage [⟨.flushed stage.session.output, stage.shownOn terminal⟩]
        (stage.shownOn terminal)

/-- What a menu comes to: it is shown and a choice is read, until it is the index of an option or
the input has ended. -/
inductive Consults (menu : String) (count : Nat) (stage : Stage) :
    Terminal → Tale → Option Nat → Terminal → Prop where
  | chosen {terminal shown after : Terminal} {choice : Option Nat} {index : Nat}
      (hmenu : terminal.display menu (some Terminal.choiceQuery) = .ok shown)
      (hread : shown.readChoice count = .ok (choice, after))
      (hchoice : choice.filter (fun index => index < count) = some index) :
      Consults menu count stage terminal
        [⟨.asked menu, stage.onTerminal shown⟩, ⟨.heard, stage.onTerminal after⟩] (some index) after
  | ended {terminal shown after : Terminal} {choice : Option Nat}
      (hmenu : terminal.display menu (some Terminal.choiceQuery) = .ok shown)
      (hread : shown.readChoice count = .ok (choice, after))
      (hchoice : choice.filter (fun index => index < count) = none)
      (hclosed : after.isClosed = true) :
      Consults menu count stage terminal
        [⟨.asked menu, stage.onTerminal shown⟩, ⟨.heard, stage.onTerminal after⟩] none after
  | again {terminal shown after hinted last : Terminal} {choice answer : Option Nat} {later : Tale}
      (hmenu : terminal.display menu (some Terminal.choiceQuery) = .ok shown)
      (hread : shown.readChoice count = .ok (choice, after))
      (hchoice : choice.filter (fun index => index < count) = none)
      (hopen : after.isClosed = false)
      (hhint : after.display (Terminal.choiceHint count) none = .ok hinted)
      (hagain : Consults menu count stage hinted later answer last) :
      Consults menu count stage terminal
        (⟨.asked menu, stage.onTerminal shown⟩ :: ⟨.heard, stage.onTerminal after⟩ ::
          ⟨.hinted (Terminal.choiceHint count), stage.onTerminal hinted⟩ :: later) answer last

/-! ## Dialogs and effects -/

/-- What a dialog comes to, with the effects that are chosen in it. -/
inductive Converses (key : Key) (stage : Stage) : Tale → List Effect → Stage → Prop where
  | missing (hdialog : stage.session.world.registry.dialog? key = none) :
      Converses key stage [] [] stage
  | silent {dialog : Dialog} (hdialog : stage.session.world.registry.dialog? key = some dialog)
      (hoptions : dialog.options = []) :
      Converses key stage
        [⟨.said ["There is nothing more to say."],
          { stage with session := stage.session.say "There is nothing more to say." }⟩] []
        { stage with session := stage.session.say "There is nothing more to say." }
  | ended {dialog : Dialog} {shown : Stage} {flushed asked : Tale} {after : Terminal}
      (hdialog : stage.session.world.registry.dialog? key = some dialog)
      (hoptions : dialog.options ≠ [])
      (hflush : Flushes stage flushed shown)
      (hasks : Consults dialog.menu dialog.options.length shown shown.terminal asked none after) :
      Converses key stage (flushed ++ asked) [] (shown.onTerminal after)
  | chosen {dialog : Dialog} {shown : Stage} {flushed asked : Tale} {after : Terminal}
      {index : Nat} {option : DialogOption}
      (hdialog : stage.session.world.registry.dialog? key = some dialog)
      (hflush : Flushes stage flushed shown)
      (hasks : Consults dialog.menu dialog.options.length shown shown.terminal asked (some index)
        after)
      (hoption : dialog.options[index]? = some option) :
      Converses key stage
        (flushed ++ asked ++
          [⟨.said option.spoken,
            { shown with session := shown.session.choose key index option, terminal := after }⟩])
        option.effects
        { shown with session := shown.session.choose key index option, terminal := after }

/-- What applying effects comes to: those that are chosen in a dialog are applied before those that
follow it. -/
inductive Undergoes : List Effect → Stage → Tale → Stage → Prop where
  | nil {stage : Stage} : Undergoes [] stage [] stage
  | plain {effect : Effect} {rest : List Effect} {stage after : Stage} {later : Tale}
      (hplain : ∀ key, effect ≠ .initiateDialog key)
      (hrest : Undergoes rest { stage with session := stage.session.apply effect } later after) :
      Undergoes (effect :: rest) stage
        (⟨.said effect.spoken, { stage with session := stage.session.apply effect }⟩ :: later) after
  | dialog {key : Key} {rest chosen : List Effect} {stage held after : Stage} {told later : Tale}
      (hconverses : Converses key stage told chosen held)
      (hlater : Undergoes (chosen ++ rest) held later after) :
      Undergoes (.initiateDialog key :: rest) stage (told ++ later) after

end Stage

namespace Activity

open Stage

/-- The tale of an activity, and what the activity comes to. -/
inductive Narrates : {α : Type} → Activity α → Stage → Tale → Except Fault α × Stage → Prop where
  | pure {α : Type} {stage : Stage} (value : α) :
      Narrates (Pure.pure value : Activity α) stage [] (.ok value, stage)
  | throw {α : Type} {stage : Stage} (fault : Fault) :
      Narrates (throw fault : Activity α) stage [] (.error fault, stage)
  | session {stage : Stage} : Narrates session stage [] (.ok stage.session, stage)
  /-- An edit of the session that says nothing. -/
  | edited {stage : Stage} {edit : Session → Session}
      (hquiet : ∀ session, (edit session).output = session.output) :
      Narrates (editSession edit) stage
        [⟨.said [], { stage with session := edit stage.session }⟩]
        (.ok (), { stage with session := edit stage.session })
  | said {stage : Stage} (text : String) :
      Narrates (say text) stage
        [⟨.said [text], { stage with session := stage.session.say text }⟩]
        (.ok (), { stage with session := stage.session.say text })
  | answered {stage : Stage} (reply : World → Reply) :
      Narrates (answer reply) stage
        [⟨.said (reply stage.session.world).said,
          { stage with session := stage.session.accept (reply stage.session.world) }⟩]
        (.ok (), { stage with session := stage.session.accept (reply stage.session.world) })
  /-- A level is built, which may say something. -/
  | drafted {stage : Stage} (draft : Draft) :
      Narrates (editSession fun session => session.afterDraft draft) stage
        [⟨.said draft.said, { stage with session := stage.session.afterDraft draft }⟩]
        (.ok (), { stage with session := stage.session.afterDraft draft })
  | cleared {stage : Stage} :
      Narrates (editTerminal Terminal.clear) stage
        [⟨.cleared, stage.onTerminal stage.terminal.clear⟩]
        (.ok (), stage.onTerminal stage.terminal.clear)
  | offered {stage : Stage} (words : List String) :
      Narrates (editTerminal (Terminal.offer words)) stage
        [⟨.offered words, stage.onTerminal (stage.terminal.offer words)⟩]
        (.ok (), stage.onTerminal (stage.terminal.offer words))
  | announced {stage : Stage} {text : String} {terminal : Terminal}
      (hshown : stage.terminal.display text none = .ok terminal) :
      Narrates (display text) stage [⟨.announced text, stage.onTerminal terminal⟩]
        (.ok (), stage.onTerminal terminal)
  | heard {stage : Stage} {line : Option String} {terminal : Terminal}
      (hread : stage.terminal.readLine = .ok (line, terminal)) :
      Narrates readLine stage [⟨.heard, stage.onTerminal terminal⟩]
        (.ok line, stage.onTerminal terminal)
  | flushed {stage after : Stage} {told : Tale} (hflush : Flushes stage told after) :
      Narrates flush stage told (.ok (), after)
  | applied {effects : List Effect} {stage after : Stage} {told : Tale}
      (hundergoes : Undergoes effects stage told after) :
      Narrates (applyAll effects) stage told (.ok (), after)
  | stored {stage : Stage} (name : String) :
      Narrates (saveTo name) stage [⟨.said [], ((saveTo name).perform stage).2⟩]
        ((saveTo name).perform stage)
  | fetched {stage : Stage} (name : String) :
      Narrates (loadFrom name) stage [⟨.said [], ((loadFrom name).perform stage).2⟩]
        ((loadFrom name).perform stage)
  | complained {α : Type} {activity : Activity α} {next : α → Activity Unit} {stage after : Stage}
      {told : Tale} {fault : Fault} {complaint : String}
      (hfirst : Narrates activity stage told (.error fault, after)) :
      Narrates (reporting complaint activity next) stage
        (told ++
          [⟨.said [complaint ++ fault.message],
            { after with session := after.session.say (complaint ++ fault.message) }⟩])
        (.ok (), { after with session := after.session.say (complaint ++ fault.message) })
  | reported {α : Type} {activity : Activity α} {next : α → Activity Unit} {stage middle : Stage}
      {told later : Tale} {value : α} {complaint : String} {outcome : Except Fault Unit × Stage}
      (hfirst : Narrates activity stage told (.ok value, middle))
      (hnext : Narrates (next value) middle later outcome) :
      Narrates (reporting complaint activity next) stage (told ++ later) outcome
  | failed {α β : Type} {activity : Activity α} {next : α → Activity β} {stage after : Stage}
      {told : Tale} {fault : Fault} (hfirst : Narrates activity stage told (.error fault, after)) :
      Narrates (activity >>= next) stage told (.error fault, after)
  | bind {α β : Type} {activity : Activity α} {next : α → Activity β} {stage middle : Stage}
      {told later : Tale} {value : α} {outcome : Except Fault β × Stage}
      (hfirst : Narrates activity stage told (.ok value, middle))
      (hnext : Narrates (next value) middle later outcome) :
      Narrates (activity >>= next) stage (told ++ later) outcome
  | idled {α : Type} {activity : Activity α} {stage : Stage} {told : Tale}
      {outcome : Except Fault α × Stage} (hactivity : Narrates activity stage told outcome) :
      Narrates (endingIdle activity) stage (told ++ [⟨.said [], idled outcome.2⟩])
        (outcome.1, idled outcome.2)

end Activity

namespace Stage

open Tale

variable {stage after : Stage} {told : Tale}

/-! ## Tales connect stages -/

theorem makes_nothing_said {after : Stage} (hterminal : after.terminal = stage.terminal)
    (houtput : after.session.output = stage.session.output) : (Deed.said []).Makes stage after :=
  ⟨hterminal, houtput.trans (List.append_nil _).symm⟩

theorem Flushes.connects (h : Flushes stage told after) : Connects stage told after := by
  cases h with
  | nothing hsilent => exact rfl
  | shown hsaid hshown => exact connects_single ⟨rfl, rfl, hshown⟩

theorem Flushes.output_eq_nil (h : Flushes stage told after) : after.session.output = [] := by
  cases h with
  | nothing hsilent => exact hsilent
  | shown hsaid hshown => rfl

theorem Consults.connects {menu : String} {count : Nat} {terminal last : Terminal}
    {choice : Option Nat} (hsilent : stage.session.output = [])
    (h : Consults menu count stage terminal told choice last) :
    Connects (stage.onTerminal terminal) told (stage.onTerminal last) := by
  induction h with
  | chosen hmenu hread hchoice =>
      exact ⟨⟨hsilent, rfl, hmenu⟩, ⟨rfl, .inr ⟨_, _, hread⟩⟩, rfl⟩
  | ended hmenu hread hchoice hclosed =>
      exact ⟨⟨hsilent, rfl, hmenu⟩, ⟨rfl, .inr ⟨_, _, hread⟩⟩, rfl⟩
  | again hmenu hread hchoice hopen hhint hagain ih =>
      exact ⟨⟨hsilent, rfl, hmenu⟩, ⟨rfl, .inr ⟨_, _, hread⟩⟩, ⟨hsilent, rfl, hhint⟩, ih⟩

theorem Converses.connects {key : Key} {effects : List Effect}
    (h : Converses key stage told effects after) : Connects stage told after := by
  cases h with
  | missing hdialog => exact rfl
  | silent hdialog hoptions => exact connects_single ⟨rfl, rfl⟩
  | ended hdialog hoptions hflush hasks =>
      exact hflush.connects.append (hasks.connects hflush.output_eq_nil)
  | chosen hdialog hflush hasks hoption =>
      refine (hflush.connects.append (hasks.connects hflush.output_eq_nil)).append ?_
      exact connects_single ⟨rfl, Session.output_choose _ key _ _⟩

theorem Undergoes.connects {effects : List Effect} (h : Undergoes effects stage told after) :
    Connects stage told after := by
  induction h with
  | nil => exact rfl
  | plain hplain hrest ih => exact ⟨⟨rfl, Session.output_apply _ _⟩, ih⟩
  | dialog hconverses hlater ih => exact hconverses.connects.append ih

end Stage

namespace Activity

open Stage Tale

variable {stage : Stage}

theorem makes_saveTo (name : String) :
    (Deed.said []).Makes stage ((saveTo name).perform stage).2 :=
  makes_nothing_said rfl rfl

theorem makes_loadFrom (name : String) :
    (Deed.said []).Makes stage ((loadFrom name).perform stage).2 := by
  simp only [perform, loadFrom, ofStep, ExceptT.mk, ExceptT.run, StateT.run]
  split
  · exact makes_nothing_said rfl rfl
  · split
    · exact makes_nothing_said rfl rfl
    next restored hrestore => exact makes_nothing_said rfl (Session.output_restore hrestore)

theorem Narrates.connects {α : Type} {activity : Activity α} {told : Tale}
    {outcome : Except Fault α × Stage} (h : Narrates activity stage told outcome) :
    Connects stage told outcome.2 := by
  induction h with
  | pure value => exact rfl
  | throw fault => exact rfl
  | session => exact rfl
  | edited hquiet => exact connects_single (makes_nothing_said rfl (hquiet _))
  | said text => exact connects_single ⟨rfl, rfl⟩
  | answered reply => exact connects_single ⟨rfl, rfl⟩
  | drafted draft => exact connects_single ⟨rfl, rfl⟩
  | cleared => exact connects_single ⟨rfl, rfl⟩
  | offered words => exact connects_single ⟨rfl, rfl⟩
  | announced hshown => exact connects_single ⟨rfl, hshown⟩
  | heard hread => exact connects_single ⟨rfl, .inl ⟨_, hread⟩⟩
  | flushed hflush => exact hflush.connects
  | applied hundergoes => exact hundergoes.connects
  | stored name => exact connects_single (makes_saveTo name)
  | fetched name => exact connects_single (makes_loadFrom name)
  | complained hfirst ih => exact ih.append (connects_single ⟨rfl, rfl⟩)
  | reported hfirst hnext ihFirst ihNext => exact ihFirst.append ihNext
  | failed hfirst ih => exact ih
  | bind hfirst hnext ihFirst ihNext => exact ihFirst.append ihNext
  | idled hactivity ih => exact ih.append (connects_single (makes_nothing_said rfl rfl))

end Activity

end TextAdventure
