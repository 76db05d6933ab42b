import TextAdventure.Game
import TextAdventure.Proofs.Stage.Contracts
import TextAdventure.Proofs.Stage.Transcripts

/-!
# Tales of what is said and shown

What an activity does to its stage is told as a tale: one deed after another, each with the stage
that it leaves.  There is a rule for each thing that is said, shown or read, and the tale of an
activity is put together from those of its parts.  In a tale nothing is lost: at each of its
moments what has been said is what has been shown and what is left to show, in the same order.
-/

namespace TextAdventure

/-- Something that is done on a stage with the paragraphs of the session or with its terminal.
Paragraphs are flushed in one display; whatever else the session changes, nothing is said by it. -/
inductive Deed where
  | said (paragraphs : List String)
  | flushed (paragraphs : List String)
  | asked (menu : String)
  | hinted (hint : String)
  | announced (banner : String)
  | heard
  | cleared
  | offered (words : List String)

structure Moment where
  deed : Deed
  stage : Stage

abbrev Tale : Type := List Moment

namespace Deed

/-! ## Deeds -/

/-- The paragraphs that a deed adds to what has been said. -/
def spoken : Deed → List String
  | said paragraphs => paragraphs
  | _ => []

/-- The paragraphs that a deed shows. -/
def delivered : Deed → List String
  | flushed paragraphs => paragraphs
  | _ => []

/-- The text that a deed displays, with the query that is to stand in front of the next read. -/
def display? : Deed → Option (String × Option String)
  | flushed paragraphs => some (Text.unlines paragraphs, none)
  | asked menu => some (menu, some Terminal.choiceQuery)
  | hinted hint => some (hint, none)
  | announced banner => some (banner, none)
  | _ => none

/-- Whether a deed leads from one stage to another.  A menu is shown, and a hint is given, only
when nothing that was said is left to show. -/
def Makes (before after : Stage) : Deed → Prop
  | said paragraphs =>
      after.terminal = before.terminal ∧
        after.session.output = before.session.output ++ paragraphs
  | flushed paragraphs =>
      before.session.output = paragraphs ∧ after.session.output = [] ∧
        before.terminal.display (Text.unlines paragraphs) none = .ok after.terminal
  | asked menu =>
      before.session.output = [] ∧ after.session = before.session ∧
        before.terminal.display menu (some Terminal.choiceQuery) = .ok after.terminal
  | hinted hint =>
      before.session.output = [] ∧ after.session = before.session ∧
        before.terminal.display hint none = .ok after.terminal
  | announced banner =>
      after.session = before.session ∧
        before.terminal.display banner none = .ok after.terminal
  | heard =>
      after.session = before.session ∧
        ((∃ line, before.terminal.readLine = .ok (line, after.terminal)) ∨
          ∃ count choice, before.terminal.readChoice count = .ok (choice, after.terminal))
  | cleared => after.session = before.session ∧ after.terminal = before.terminal.clear
  | offered words => after.session = before.session ∧ after.terminal = before.terminal.offer words

variable {before after : Stage}

/-- A deed shows what is left to show, or adds to it at its end. -/
theorem Makes.balance {deed : Deed} (h : deed.Makes before after) :
    before.session.output ++ deed.spoken = deed.delivered ++ after.session.output := by
  cases deed with
  | said paragraphs => exact h.2.symm
  | flushed paragraphs =>
      obtain ⟨hbefore, hafter, -⟩ := h
      rw [hbefore, hafter]
      rfl
  | asked menu =>
      rw [h.2.1]
      exact List.append_nil _
  | hinted hint =>
      rw [h.2.1]
      exact List.append_nil _
  | _ =>
      rw [h.1]
      exact List.append_nil _

/-- The entry that a display makes in the transcript of a script. -/
def entry (display : String × Option String) : String :=
  Script.withQuery display.1 display.2

theorem Makes.shown {deed : Deed} (h : deed.Makes before after)
    (hscripted : before.terminal.IsScripted) :
    after.terminal.IsScripted ∧
      after.terminal.shown = before.terminal.shown ++ (deed.display?.map entry).toList := by
  have hshows : ∀ {text : String} {query : Option String},
      before.terminal.display text query = .ok after.terminal →
        after.terminal.IsScripted ∧
          after.terminal.shown = before.terminal.shown ++ [entry (text, query)] :=
    fun hdisplay => hscripted.transcript_display hdisplay
  have hquiet : ∀ {terminal : Terminal}, terminal.IsScripted →
      terminal.shown = before.terminal.shown → after.terminal = terminal →
        after.terminal.IsScripted ∧ after.terminal.shown = before.terminal.shown ++ [] := by
    rintro terminal hterminal hshown rfl
    exact ⟨hterminal, hshown.trans (List.append_nil _).symm⟩
  cases deed with
  | said paragraphs => exact hquiet hscripted rfl h.1
  | flushed paragraphs => exact hshows h.2.2
  | asked menu => exact hshows h.2.2
  | hinted hint => exact hshows h.2.2
  | announced banner => exact hshows h.2
  | heard =>
      obtain ⟨-, ⟨line, hread⟩ | ⟨count, choice, hread⟩⟩ := h
      · obtain ⟨hafter, hshown⟩ := hscripted.transcript_readLine hread
        exact hquiet hafter hshown rfl
      · obtain ⟨hafter, hshown⟩ := hscripted.transcript_readChoice hread
        exact hquiet hafter hshown rfl
  | cleared =>
      obtain ⟨hterminal, hshown⟩ := hscripted.transcript_clear
      exact hquiet hterminal hshown h.2
  | offered words =>
      obtain ⟨hterminal, hshown⟩ := hscripted.transcript_offer words
      exact hquiet hterminal hshown h.2

end Deed

namespace Tale

/-! ## Tales -/

/-- All that is said in a tale, paragraph by paragraph. -/
def spoken (tale : Tale) : List String :=
  tale.flatMap fun moment => moment.deed.spoken

/-- All paragraphs that are shown in a tale. -/
def delivered (tale : Tale) : List String :=
  tale.flatMap fun moment => moment.deed.delivered

/-- The entries that a tale makes in the transcript of a script. -/
def entries (tale : Tale) : List String :=
  tale.filterMap fun moment => moment.deed.display?.map Deed.entry

/-- Whether the deeds of a tale lead from one stage to another through the stages that it names. -/
def Connects (opening : Stage) : Tale → Stage → Prop
  | [], last => last = opening
  | moment :: rest, last =>
      moment.deed.Makes opening moment.stage ∧ Connects moment.stage rest last

variable {opening last : Stage}

theorem connects_single {deed : Deed} {after : Stage} (h : deed.Makes opening after) :
    Connects opening [⟨deed, after⟩] after :=
  ⟨h, rfl⟩

theorem connects_append {told rest : Tale} :
    Connects opening (told ++ rest) last ↔
      ∃ middle, Connects opening told middle ∧ Connects middle rest last := by
  induction told generalizing opening with
  | nil => exact ⟨fun h => ⟨opening, rfl, h⟩, by rintro ⟨middle, rfl, h⟩; exact h⟩
  | cons moment told ih =>
      rw [List.cons_append, Connects, ih]
      constructor
      · rintro ⟨hfirst, middle, htold, hrest⟩
        exact ⟨middle, ⟨hfirst, htold⟩, hrest⟩
      · rintro ⟨middle, ⟨hfirst, htold⟩, hrest⟩
        exact ⟨hfirst, middle, htold, hrest⟩

theorem Connects.append {told rest : Tale} {middle : Stage} (h : Connects opening told middle)
    (hrest : Connects middle rest last) : Connects opening (told ++ rest) last :=
  connects_append.mpr ⟨middle, h, hrest⟩

/-- What was left to show and all that is said in a tale is what the tale shows and what it leaves
to show, in the same order. -/
theorem Connects.balance {tale : Tale} (h : Connects opening tale last) :
    opening.session.output ++ tale.spoken = tale.delivered ++ last.session.output := by
  induction tale generalizing opening with
  | nil =>
      cases h
      exact List.append_nil _
  | cons moment rest ih =>
      obtain ⟨hfirst, hrest⟩ := h
      have hlater := ih hrest
      calc opening.session.output ++ (moment.deed.spoken ++ spoken rest)
          = opening.session.output ++ moment.deed.spoken ++ spoken rest :=
            (List.append_assoc ..).symm
        _ = moment.deed.delivered ++ (moment.stage.session.output ++ spoken rest) := by
            rw [hfirst.balance, List.append_assoc]
        _ = moment.deed.delivered ++ (delivered rest ++ last.session.output) := by rw [hlater]
        _ = moment.deed.delivered ++ delivered rest ++ last.session.output :=
            (List.append_assoc ..).symm

/-- The transcript of a script grows by the entries of the tale. -/
theorem Connects.shown {tale : Tale} (h : Connects opening tale last)
    (hscripted : opening.terminal.IsScripted) :
    last.terminal.shown = opening.terminal.shown ++ tale.entries := by
  induction tale generalizing opening with
  | nil =>
      cases h
      exact (List.append_nil _).symm
  | cons moment rest ih =>
      obtain ⟨hfirst, hrest⟩ := h
      obtain ⟨hscripted, hshown⟩ := hfirst.shown hscripted
      rw [ih hrest hscripted, hshown, entries, entries, List.append_assoc, List.filterMap_cons]
      cases moment.deed.display? with
      | none => rfl
      | some display => rfl

end Tale

end TextAdventure
