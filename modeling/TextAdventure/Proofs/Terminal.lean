import TextAdventure.Stage.Dialog

/-!
# Reliable terminals

A terminal without limits refuses no call, and stays without them.  On such a terminal a
menu always comes to an end, with a choice or without.
-/

namespace TextAdventure

namespace Script

/-- A script in which neither displays nor reads are limited. -/
structure IsUnlimited (script : Script) : Prop where
  displays : script.displaysLeft = none
  reads : script.readsLeft = none

variable {script : Script}

theorem IsUnlimited.display (h : script.IsUnlimited) (text : String) (query : Option String) :
    script.display text query =
      .ok { script with shown := script.shown ++ [withQuery text query] } := by
  obtain ⟨inputs, choices, displaysLeft, readsLeft, shown, clears, isAtEnd, completions⟩ := script
  cases h.displays
  rfl

theorem IsUnlimited.readChoice (h : script.IsUnlimited) (count : Nat) :
    script.readChoice count = .ok (script.nextChoice count) := by
  obtain ⟨inputs, choices, displaysLeft, readsLeft, shown, clears, isAtEnd, completions⟩ := script
  cases h.reads
  rfl

theorem IsUnlimited.nextLine (h : script.IsUnlimited) : script.nextLine.2.IsUnlimited := by
  unfold Script.nextLine
  split
  · exact ⟨h.displays, h.reads⟩
  · exact ⟨h.displays, h.reads⟩

theorem IsUnlimited.nextChoice (h : script.IsUnlimited) (count : Nat) :
    (script.nextChoice count).2.IsUnlimited := by
  unfold Script.nextChoice
  split
  · exact h.nextLine
  · exact h
  · exact ⟨h.displays, h.reads⟩

end Script

namespace Terminal

/-- A terminal that refuses no call. -/
def IsReliable : Terminal → Prop
  | scripted script => script.IsUnlimited
  | stream _ => True

namespace IsReliable

variable {terminal after : Terminal}

theorem display (h : terminal.IsReliable) (text : String) (query : Option String) :
    ∃ after, terminal.display text query = .ok after ∧ after.IsReliable := by
  cases terminal with
  | scripted script =>
      have hshown := Script.IsUnlimited.display h text query
      refine ⟨.scripted _, by rw [Terminal.display, hshown], ?_⟩
      exact ⟨h.displays, h.reads⟩
  | stream lines => exact ⟨_, rfl, trivial⟩

theorem readChoice (h : terminal.IsReliable) (count : Nat) :
    ∃ choice after, terminal.readChoice count = .ok (choice, after) ∧ after.IsReliable := by
  cases terminal with
  | scripted script =>
      have hread := Script.IsUnlimited.readChoice h count
      refine ⟨_, .scripted _, by rw [Terminal.readChoice, hread], ?_⟩
      exact Script.IsUnlimited.nextChoice h count
  | stream lines => exact ⟨_, _, rfl, trivial⟩

theorem of_display (h : terminal.IsReliable) {text : String} {query : Option String}
    (hshown : terminal.display text query = .ok after) : after.IsReliable := by
  obtain ⟨_, hok, hafter⟩ := h.display text query
  cases hshown.symm.trans hok
  exact hafter

theorem of_readChoice (h : terminal.IsReliable) {count : Nat} {choice : Option Nat}
    (hread : terminal.readChoice count = .ok (choice, after)) : after.IsReliable := by
  obtain ⟨_, _, hok, hafter⟩ := h.readChoice count
  cases hread.symm.trans hok
  exact hafter

theorem display_ne_error (h : terminal.IsReliable) (text : String) (query : Option String)
    (fault : Fault) : terminal.display text query ≠ .error fault := by
  obtain ⟨_, hok, _⟩ := h.display text query
  rw [hok]
  exact nofun

theorem readChoice_ne_error (h : terminal.IsReliable) (count : Nat) (fault : Fault) :
    terminal.readChoice count ≠ .error fault := by
  obtain ⟨_, _, hok, _⟩ := h.readChoice count
  rw [hok]
  exact nofun

theorem ask (h : terminal.IsReliable) (menu : String) (count : Nat) :
    ∃ choice after, terminal.ask menu count = (.ok choice, after) ∧ after.IsReliable := by
  fun_induction Terminal.ask menu count terminal with
  | case1 terminal fault hmenu => exact absurd hmenu (h.display_ne_error menu _ fault)
  | case2 terminal shown hmenu fault hread =>
      exact absurd hread ((h.of_display hmenu).readChoice_ne_error count fault)
  | case3 terminal shown hmenu choice after hread index hchoice =>
      exact ⟨_, _, rfl, (h.of_display hmenu).of_readChoice hread⟩
  | case4 terminal shown hmenu choice after hread hchoice hclosed =>
      exact ⟨_, _, rfl, (h.of_display hmenu).of_readChoice hread⟩
  | case5 terminal shown hmenu choice after hread hchoice hclosed fault hhint =>
      have hafter := (h.of_display hmenu).of_readChoice hread
      exact absurd hhint (hafter.display_ne_error _ none fault)
  | case6 terminal shown hmenu choice after hread hchoice hclosed again hhint hless ih =>
      exact ih (((h.of_display hmenu).of_readChoice hread).of_display hhint)

end IsReliable

end Terminal

end TextAdventure
