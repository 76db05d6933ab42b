import TextAdventure.Proofs.Terminal.Supplies

/-!
# Answers to a menu

A menu is shown and an answer is read, until the answer is the index of an option, the input has
ended or the terminal fails; after any other answer a hint is shown, and the menu is shown again.
So what is used up of the answers that are left on a terminal are those up to the first one that is
the index of an option, and without such an answer all of them are when the input ends.
-/

namespace TextAdventure

/-- An answer that names one of so many options by its index. -/
def IsValidAnswer (count : Nat) (answer : Option Nat) : Prop :=
  ∃ index < count, answer = some index

theorem isValidAnswer_iff {count : Nat} {answer : Option Nat} :
    IsValidAnswer count answer ↔ answer.filter (fun index => index < count) ≠ none := by
  cases answer with
  | none => simp [IsValidAnswer]
  | some index => simp [IsValidAnswer, Option.filter]

namespace Supply

/-- What the calls for a choice give as long as there is something to read. -/
def answers (supply : Supply) (count : Nat) : List (Option Nat) :=
  match supply.choices with
  | none => supply.lines.map fun line => parseChoice line count
  | some choices => choices.map some

/-- A call gives the first answer that is left, or nothing if none is. -/
theorem answers_cases (supply : Supply) (count : Nat) :
    supply.answers count = supply.next count :: supply.later.answers count ∨
      supply.answers count = [] ∧ supply.next count = none ∧ supply.later.answers count = [] := by
  obtain ⟨lines, choices⟩ := supply
  cases choices with
  | none =>
      cases lines with
      | nil => exact .inr ⟨rfl, rfl, rfl⟩
      | cons line rest => exact .inl rfl
  | some choices =>
      cases choices with
      | nil => exact .inr ⟨rfl, rfl, rfl⟩
      | cons choice rest => exact .inl rfl

theorem answers_later_of_isLast {supply : Supply} (h : supply.isLast = true) (count : Nat) :
    supply.later.answers count = [] := by
  obtain ⟨lines, choices⟩ := supply
  cases choices with
  | none =>
      obtain rfl : lines = [] := List.isEmpty_iff.mp h
      rfl
  | some choices =>
      have htail : choices.tail = [] := List.isEmpty_iff.mp h
      simp [answers, later, htail]

end Supply

namespace Terminal

variable {menu : String} {count : Nat} {terminal shown after last : Terminal}

/-- The answers that are left on a terminal, for a menu with so many options. -/
def answers (terminal : Terminal) (count : Nat) : List (Option Nat) :=
  terminal.supply.answers count

/-- Whether a choice on a terminal is a line in which a number is typed. -/
def ReadsLines : Terminal → Prop
  | scripted script => script.choices = none
  | stream _ => True

/-- Where lines are read, the line that is read is the choice. -/
theorem ReadsLines.readChoice_eq (h : terminal.ReadsLines) (count : Nat) :
    terminal.readChoice count =
      match terminal.readLine with
      | .error fault => .error fault
      | .ok (line, after) => .ok (line.bind fun line => parseChoice line count, after) := by
  cases terminal with
  | scripted script =>
      have hchoices : script.choices = none := h
      simp only [readChoice, readLine, Script.readChoice, Script.readLine, Script.nextChoice]
      cases Script.spend Script.inputRefused script.readsLeft with
      | error fault => rfl
      | ok left => simp only [hchoices]
  | stream lines => rfl

/-- What comes of a menu on any terminal. -/
inductive Polls (menu : String) (count : Nat) :
    Terminal → Except Fault (Option Nat) × Terminal → Prop where
  | unshown {terminal : Terminal} {fault : Fault}
      (hmenu : terminal.display menu (some choiceQuery) = .error fault) :
      Polls menu count terminal (.error fault, terminal)
  | unread {terminal shown : Terminal} {fault : Fault}
      (hmenu : terminal.display menu (some choiceQuery) = .ok shown)
      (hread : shown.readChoice count = .error fault) :
      Polls menu count terminal (.error fault, shown)
  | chosen {terminal shown after : Terminal} {index : Nat}
      (hmenu : terminal.display menu (some choiceQuery) = .ok shown)
      (hread : shown.readChoice count = .ok (some index, after))
      (hlt : index < count) :
      Polls menu count terminal (.ok (some index), after)
  | closed {terminal shown after : Terminal} {answer : Option Nat}
      (hmenu : terminal.display menu (some choiceQuery) = .ok shown)
      (hread : shown.readChoice count = .ok (answer, after))
      (hinvalid : ¬IsValidAnswer count answer)
      (hclosed : after.isClosed = true) :
      Polls menu count terminal (.ok none, after)
  | unhinted {terminal shown after : Terminal} {answer : Option Nat} {fault : Fault}
      (hmenu : terminal.display menu (some choiceQuery) = .ok shown)
      (hread : shown.readChoice count = .ok (answer, after))
      (hinvalid : ¬IsValidAnswer count answer)
      (hopen : after.isClosed = false)
      (hhint : after.display (choiceHint count) none = .error fault) :
      Polls menu count terminal (.error fault, after)
  | again {terminal shown after hinted : Terminal} {answer : Option Nat}
      {outcome : Except Fault (Option Nat) × Terminal}
      (hmenu : terminal.display menu (some choiceQuery) = .ok shown)
      (hread : shown.readChoice count = .ok (answer, after))
      (hinvalid : ¬IsValidAnswer count answer)
      (hopen : after.isClosed = false)
      (hhint : after.display (choiceHint count) none = .ok hinted)
      (hagain : Polls menu count hinted outcome) :
      Polls menu count terminal outcome

/-- Whatever the terminal does, asking comes to an end by these rules. -/
theorem polls_ask (menu : String) (count : Nat) (terminal : Terminal) :
    Polls menu count terminal (terminal.ask menu count) := by
  have hinvalid : ∀ {answer : Option Nat},
      answer.filter (fun index => index < count) = none → ¬IsValidAnswer count answer :=
    fun hnone hvalid => isValidAnswer_iff.mp hvalid hnone
  fun_induction ask menu count terminal with
  | case1 terminal fault hmenu => exact .unshown hmenu
  | case2 terminal shown hmenu fault hread => exact .unread hmenu hread
  | case3 terminal shown hmenu answer after hread index hfilter =>
      obtain ⟨rfl, hlt⟩ := Option.filter_eq_some_iff.mp hfilter
      exact .chosen hmenu hread (of_decide_eq_true hlt)
  | case4 terminal shown hmenu answer after hread hfilter hclosed =>
      exact .closed hmenu hread (hinvalid hfilter) hclosed
  | case5 terminal shown hmenu answer after hread hfilter hopen fault hhint =>
      exact .unhinted hmenu hread (hinvalid hfilter) (Bool.eq_false_iff.mpr hopen) hhint
  | case6 terminal shown hmenu answer after hread hfilter hopen hinted hhint hless ih =>
      exact .again hmenu hread (hinvalid hfilter) (Bool.eq_false_iff.mpr hopen) hhint ih

/-! ## What is used up -/

theorem answers_display {text : String} {query : Option String}
    (h : terminal.display text query = .ok after) (count : Nat) :
    after.answers count = terminal.answers count := by
  rw [answers, supply_display h, answers]

/-- A call for a choice takes the first answer that is left. -/
theorem answers_readChoice {answer : Option Nat}
    (h : terminal.readChoice count = .ok (answer, after)) :
    terminal.answers count = answer :: after.answers count ∨
      terminal.answers count = [] ∧ answer = none ∧ after.answers count = [] := by
  obtain ⟨rfl, hlater, -⟩ := supply_readChoice h
  rw [answers, answers, hlater]
  exact terminal.supply.answers_cases count

theorem answers_of_isClosed {answer : Option Nat}
    (h : terminal.readChoice count = .ok (answer, after)) (hclosed : after.isClosed = true) :
    after.answers count = [] := by
  obtain ⟨-, hlater, hlast⟩ := supply_readChoice h
  rw [answers, hlater]
  exact Supply.answers_later_of_isLast (hlast.symm.trans hclosed) count

/-- What is used up between two moments: answers that name no option, and after them the one that
is chosen, if any is. -/
def Spends (count : Nat) (before : Terminal) (choice : Option Nat) (after : Terminal) : Prop :=
  ∃ passed, before.answers count = passed ++ (choice.map some).toList ++ after.answers count ∧
    ∀ answer ∈ passed, ¬IsValidAnswer count answer

theorem Spends.of_display {text : String} {query : Option String} {choice : Option Nat}
    (hshown : terminal.display text query = .ok shown) (h : Spends count shown choice last) :
    Spends count terminal choice last := by
  obtain ⟨passed, hanswers, hinvalid⟩ := h
  exact ⟨passed, (answers_display hshown count).symm.trans hanswers, hinvalid⟩

theorem Spends.refl (count : Nat) (terminal : Terminal) : Spends count terminal none terminal :=
  ⟨[], rfl, List.forall_mem_nil _⟩

/-- A choice that is taken is the first answer that is left. -/
theorem Spends.of_readChoice {index : Nat}
    (hread : terminal.readChoice count = .ok (some index, after)) :
    Spends count terminal (some index) after := by
  rcases answers_readChoice hread with hfirst | ⟨-, hnone, -⟩
  · exact ⟨[], hfirst, List.forall_mem_nil _⟩
  · cases hnone

/-- An answer that names no option is passed over. -/
theorem Spends.pass {answer choice : Option Nat}
    (hread : terminal.readChoice count = .ok (answer, after))
    (hanswer : ¬IsValidAnswer count answer) (h : Spends count after choice last) :
    Spends count terminal choice last := by
  obtain ⟨passed, hanswers, hinvalid⟩ := h
  rcases answers_readChoice hread with hfirst | ⟨hnil, -, hafter⟩
  · refine ⟨answer :: passed, ?_, List.forall_mem_cons.mpr ⟨hanswer, hinvalid⟩⟩
    rw [hfirst, hanswers]
    rfl
  · exact ⟨passed, by rw [hnil, ← hanswers, hafter], hinvalid⟩

/-- A menu uses up the answers up to the first that names an option, and on a failure the ones
that it has heard. -/
theorem Polls.spends {outcome : Except Fault (Option Nat) × Terminal}
    (h : Polls menu count terminal outcome) :
    Spends count terminal outcome.1.toOption.join outcome.2 := by
  induction h with
  | unshown hmenu => exact .refl count _
  | unread hmenu hread => exact .of_display hmenu (.refl count _)
  | chosen hmenu hread hlt => exact .of_display hmenu (.of_readChoice hread)
  | closed hmenu hread hinvalid hclosed =>
      exact .of_display hmenu (.pass hread hinvalid (.refl count _))
  | unhinted hmenu hread hinvalid hopen hhint =>
      exact .of_display hmenu (.pass hread hinvalid (.refl count _))
  | again hmenu hread hinvalid hopen hhint hagain ih =>
      exact .of_display hmenu (.pass hread hinvalid (.of_display hhint ih))

theorem Polls.index_lt {index : Nat} (h : Polls menu count terminal (.ok (some index), last)) :
    index < count := by
  generalize houtcome : (Except.ok (some index), last) = outcome at h
  induction h with
  | chosen hmenu hread hlt =>
      cases houtcome
      exact hlt
  | again hmenu hread hinvalid hopen hhint hagain ih => exact ih houtcome
  | _ => cases houtcome

/-- Without a choice and without a failure, the input has ended. -/
theorem Polls.closed_of_none (h : Polls menu count terminal (.ok none, last)) :
    last.isClosed = true ∧ last.answers count = [] := by
  generalize houtcome : ((.ok none, last) : Except Fault (Option Nat) × Terminal) = outcome at h
  induction h with
  | closed hmenu hread hinvalid hclosed =>
      cases houtcome
      exact ⟨hclosed, answers_of_isClosed hread hclosed⟩
  | again hmenu hread hinvalid hopen hhint hagain ih => exact ih houtcome
  | _ => cases houtcome

end Terminal

end TextAdventure
