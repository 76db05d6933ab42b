import TextAdventure.Proofs.Terminal

/-!
# Lines of a script

A scripted terminal gives its lines one after another, each once, and is closed when a line is
asked for and none is left.  A menu that is shown on it hears the lines up to the first one with
the number of an option, or all of them.
-/

namespace TextAdventure.Terminal

/-- A scripted terminal without limits that has just these lines left to read. -/
def ReadsFrom (terminal : Terminal) (lines : List String) : Prop :=
  ∃ script, terminal = .scripted script ∧ script.IsUnlimited ∧ script.choices = none ∧
    script.inputs = lines

namespace ReadsFrom

variable {terminal after : Terminal} {lines rest : List String} {line : String}

theorem unique {others : List String} (h : terminal.ReadsFrom lines)
    (hother : terminal.ReadsFrom others) : lines = others := by
  obtain ⟨script, rfl, -, -, rfl⟩ := h
  obtain ⟨other, heq, -, -, rfl⟩ := hother
  cases heq
  rfl

theorem isReliable (h : terminal.ReadsFrom lines) : terminal.IsReliable := by
  obtain ⟨script, rfl, hunlimited, -, -⟩ := h
  exact hunlimited

theorem clear (h : terminal.ReadsFrom lines) : terminal.clear.ReadsFrom lines := by
  obtain ⟨script, rfl, hunlimited, hchoices, hinputs⟩ := h
  exact ⟨_, rfl, ⟨hunlimited.displays, hunlimited.reads⟩, hchoices, hinputs⟩

theorem offer (h : terminal.ReadsFrom lines) (words : List String) :
    (terminal.offer words).ReadsFrom lines := by
  obtain ⟨script, rfl, hunlimited, hchoices, hinputs⟩ := h
  exact ⟨_, rfl, ⟨hunlimited.displays, hunlimited.reads⟩, hchoices, hinputs⟩

/-! ## Showing and reading -/

/-- Showing something reads nothing. -/
theorem display (h : terminal.ReadsFrom lines) (text : String) (query : Option String) :
    ∃ shown, terminal.display text query = .ok shown ∧ shown.ReadsFrom lines := by
  obtain ⟨script, rfl, hunlimited, hchoices, hinputs⟩ := h
  refine ⟨.scripted _, by rw [Terminal.display, hunlimited.display], ?_⟩
  exact ⟨_, rfl, ⟨hunlimited.displays, hunlimited.reads⟩, hchoices, hinputs⟩

theorem of_display (h : terminal.ReadsFrom lines) {text : String} {query : Option String}
    (hshown : terminal.display text query = .ok after) : after.ReadsFrom lines := by
  obtain ⟨shown, hok, hlines⟩ := h.display text query
  cases hshown.symm.trans hok
  exact hlines

/-- The first line is read and is gone; as a choice it is the number of an option or none. -/
theorem read_cons (h : terminal.ReadsFrom (line :: rest)) :
    ∃ after, terminal.readLine = .ok (some line, after) ∧
      (∀ count, terminal.readChoice count = .ok (parseChoice line count, after)) ∧
      after.isClosed = false ∧ after.ReadsFrom rest := by
  obtain ⟨script, rfl, hunlimited, hchoices, hinputs⟩ := h
  refine ⟨.scripted { script with inputs := rest, isAtEnd := false }, ?_, fun count => ?_, ?_, ?_⟩
  · simp only [Terminal.readLine, Script.readLine, hunlimited.reads, Script.spend,
      Script.nextLine, hinputs]
  · simp only [Terminal.readChoice, hunlimited.readChoice, Script.nextChoice, hchoices,
      Script.nextLine, hinputs, Option.bind_some]
  · simp only [Terminal.isClosed, Script.isClosed, hchoices]
  · exact ⟨_, rfl, ⟨hunlimited.displays, hunlimited.reads⟩, hchoices, rfl⟩

/-- Without lines nothing is read, and the terminal closes. -/
theorem read_nil (h : terminal.ReadsFrom []) :
    ∃ after, terminal.readLine = .ok (none, after) ∧
      (∀ count, terminal.readChoice count = .ok (none, after)) ∧
      after.isClosed = true ∧ after.ReadsFrom [] := by
  obtain ⟨script, rfl, hunlimited, hchoices, hinputs⟩ := h
  refine ⟨.scripted { script with isAtEnd := true }, ?_, fun count => ?_, ?_, ?_⟩
  · simp only [Terminal.readLine, Script.readLine, hunlimited.reads, Script.spend,
      Script.nextLine, hinputs]
  · simp only [Terminal.readChoice, hunlimited.readChoice, Script.nextChoice, hchoices,
      Script.nextLine, hinputs, Option.bind_none]
  · simp only [Terminal.isClosed, Script.isClosed, hchoices]
  · exact ⟨_, rfl, ⟨hunlimited.displays, hunlimited.reads⟩, hchoices, hinputs⟩

end ReadsFrom

theorem parseChoice_lt {line : String} {count index : Nat}
    (h : parseChoice line count = some index) : index < count := by
  unfold parseChoice at h
  split at h
  · cases h
  · split at h
    · cases h
      omega
    · cases h

/-! ## Asking -/

/-- A menu on a terminal that shows everything: it is shown, and a line is read.  The number of an
option is chosen; at the end of the input nothing is; after any other line a hint is shown, and
the menu is shown again. -/
inductive Asks (menu : String) (count : Nat) :
    Terminal → List String → Option Nat → Terminal → Prop where
  | chosen {terminal shown after : Terminal} {line : String} {index : Nat}
      (hmenu : terminal.display menu (some choiceQuery) = .ok shown)
      (hread : shown.readLine = .ok (some line, after))
      (hchoice : parseChoice line count = some index) :
      Asks menu count terminal [line] (some index) after
  | closed {terminal shown after : Terminal}
      (hmenu : terminal.display menu (some choiceQuery) = .ok shown)
      (hread : shown.readLine = .ok (none, after)) :
      Asks menu count terminal [] none after
  | again {terminal shown after hinted last : Terminal} {line : String} {heard : List String}
      {choice : Option Nat}
      (hmenu : terminal.display menu (some choiceQuery) = .ok shown)
      (hread : shown.readLine = .ok (some line, after))
      (hchoice : parseChoice line count = none)
      (hhint : after.display (choiceHint count) none = .ok hinted)
      (hasks : Asks menu count hinted heard choice last) :
      Asks menu count terminal (line :: heard) choice last

variable {terminal : Terminal} {lines : List String}

/-- A choice has been heard. -/
theorem Asks.heard_ne_nil {menu : String} {count index : Nat} {heard : List String}
    {after : Terminal} (h : Asks menu count terminal heard (some index) after) : heard ≠ [] := by
  cases h with
  | chosen hmenu hread hchoice => exact List.cons_ne_nil _ _
  | again hmenu hread hchoice hhint hasks => exact List.cons_ne_nil _ _

/-- A choice is the index of an option. -/
theorem Asks.index_lt {menu : String} {count index : Nat} {heard : List String} {after : Terminal}
    (h : Asks menu count terminal heard (some index) after) : index < count := by
  generalize hchoice : some index = choice at h
  induction h with
  | chosen hmenu hread hparse =>
      cases hchoice
      exact parseChoice_lt hparse
  | closed hmenu hread => cases hchoice
  | again hmenu hread hparse hhint hasks ih => exact ih hchoice

/-- What a menu can read: a line, as a choice or none, or nothing because the input has ended. -/
theorem ReadsFrom.of_readChoice {count : Nat} {choice : Option Nat} {after : Terminal}
    (h : terminal.ReadsFrom lines) (hread : terminal.readChoice count = .ok (choice, after)) :
    (∃ line rest, lines = line :: rest ∧ terminal.readLine = .ok (some line, after) ∧
        choice = parseChoice line count ∧ after.isClosed = false ∧ after.ReadsFrom rest) ∨
      lines = [] ∧ terminal.readLine = .ok (none, after) ∧ choice = none ∧
        after.isClosed = true ∧ after.ReadsFrom [] := by
  cases lines with
  | nil =>
      obtain ⟨_, hline, hchoice, hclosed, hafter⟩ := h.read_nil
      cases (hchoice count).symm.trans hread
      exact Or.inr ⟨rfl, hline, rfl, hclosed, hafter⟩
  | cons line rest =>
      obtain ⟨_, hline, hchoice, hclosed, hafter⟩ := h.read_cons
      cases (hchoice count).symm.trans hread
      exact Or.inl ⟨line, rest, rfl, hline, rfl, hclosed, hafter⟩

/-- Asking comes to an end on any lines, and what it heard is what is gone of them. -/
theorem exists_asks (h : terminal.ReadsFrom lines) (menu : String) (count : Nat) :
    ∃ heard rest choice after, terminal.ask menu count = (.ok choice, after) ∧
      Asks menu count terminal heard choice after ∧ lines = heard ++ rest ∧
      after.ReadsFrom rest := by
  fun_induction Terminal.ask menu count terminal generalizing lines with
  | case1 terminal fault hmenu => exact absurd hmenu (h.isReliable.display_ne_error menu _ fault)
  | case2 terminal shown hmenu fault hread =>
      have hshown := h.of_display hmenu
      exact absurd hread (hshown.isReliable.readChoice_ne_error count fault)
  | case3 terminal shown hmenu choice after hread index hfilter =>
      obtain ⟨hchoice, -⟩ := Option.filter_eq_some_iff.mp hfilter
      rcases (h.of_display hmenu).of_readChoice hread with
        ⟨line, rest, rfl, hline, hparse, -, hafter⟩ | ⟨-, -, hnone, -, -⟩
      · have hchosen := hparse.symm.trans hchoice
        exact ⟨[line], rest, some index, after, rfl, .chosen hmenu hline hchosen, rfl, hafter⟩
      · cases hnone.symm.trans hchoice
  | case4 terminal shown hmenu choice after hread hfilter hclosed =>
      rcases (h.of_display hmenu).of_readChoice hread with
        ⟨line, rest, rfl, hline, hparse, hopen, hafter⟩ | ⟨rfl, hline, hnone, -, hafter⟩
      · cases hopen.symm.trans hclosed
      · exact ⟨[], [], none, after, rfl, .closed hmenu hline, rfl, hafter⟩
  | case5 terminal shown hmenu choice after hread hfilter hclosed fault hhint =>
      rcases (h.of_display hmenu).of_readChoice hread with
        ⟨line, rest, rfl, hline, hparse, hopen, hafter⟩ | ⟨rfl, hline, hnone, hend, hafter⟩
      · exact absurd hhint (hafter.isReliable.display_ne_error _ none fault)
      · exact absurd hend hclosed
  | case6 terminal shown hmenu choice after hread hfilter hclosed again hhint hless ih =>
      rcases (h.of_display hmenu).of_readChoice hread with
        ⟨line, rest, rfl, hline, hparse, hopen, hafter⟩ | ⟨rfl, hline, hnone, hend, hafter⟩
      · have hhinted := hafter.of_display hhint
        obtain ⟨heard, left, later, last, hask, hasks, hlines, hlast⟩ := ih hhinted
        have hrefused : parseChoice line count = none := by
          cases hchoice : parseChoice line count with
          | none => rfl
          | some index =>
              have hle : count ≤ index := by simpa [hparse, hchoice] using hfilter
              exact absurd (parseChoice_lt hchoice) (Nat.not_lt.mpr hle)
        exact ⟨line :: heard, left, later, last, hask, .again hmenu hline hrefused hhint hasks,
          by rw [hlines, List.cons_append], hlast⟩
      · exact absurd hend hclosed

end TextAdventure.Terminal
