import TextAdventure.Proofs.Terminal

/-!
# What is left to read

A menu gets the first line with the number of an option, or the first prepared choice that is the
index of one; without any, everything is used up.  So the answer of a reliable terminal depends on
nothing but what is left to read on it: not on what has been shown, nor on the kind of terminal.
-/

namespace TextAdventure

/-- The lines that are left to read, and the prepared choices of a script that has them instead. -/
structure Supply where
  lines : List String
  choices : Option (List Nat)
  deriving DecidableEq

namespace Supply

/-- The first element that is of use, and all that follows it. -/
def firstUse {α : Type} (use : α → Option Nat) : List α → Option Nat × List α
  | [] => (none, [])
  | first :: rest =>
      match use first with
      | some index => (some index, rest)
      | none => firstUse use rest

/-- A prepared choice is of use if there is an option of that index. -/
def usable (count choice : Nat) : Option Nat :=
  if choice < count then some choice else none

/-- What a menu with so many options gets, and what is left after it. -/
def answer (supply : Supply) (count : Nat) : Option Nat × Supply :=
  match supply.choices with
  | none =>
      let answered := firstUse (fun line => parseChoice line count) supply.lines
      (answered.1, { supply with lines := answered.2 })
  | some choices =>
      let answered := firstUse (usable count) choices
      (answered.1, { supply with choices := some answered.2 })

/-- What the next call for a choice gives, before it is known whether it is of use. -/
def next (supply : Supply) (count : Nat) : Option Nat :=
  match supply.choices with
  | none => supply.lines.head?.bind fun line => parseChoice line count
  | some choices => choices.head?

def later (supply : Supply) : Supply :=
  match supply.choices with
  | none => { supply with lines := supply.lines.tail }
  | some choices => { supply with choices := some choices.tail }

/-- Whether the input has ended after the next call for a choice. -/
def isLast (supply : Supply) : Bool :=
  match supply.choices with
  | none => supply.lines.isEmpty
  | some choices => choices.tail.isEmpty

theorem parseChoice_filter (line : String) (count : Nat) :
    (parseChoice line count).filter (fun index => index < count) = parseChoice line count := by
  unfold parseChoice
  split
  · rfl
  · split
    next hrange =>
      have hlt : ‹Nat› - 1 < count := by omega
      simp [Option.filter, hlt]
    · rfl

/-- A call that gives the index of an option answers the menu. -/
theorem answer_of_next {supply : Supply} {count index : Nat}
    (h : (supply.next count).filter (fun index => index < count) = some index) :
    supply.answer count = (some index, supply.later) := by
  obtain ⟨lines, choices⟩ := supply
  cases choices with
  | none =>
      cases lines with
      | nil => simp [next] at h
      | cons line rest =>
          have hline : parseChoice line count = some index := by
            simpa [next, parseChoice_filter] using h
          simp [answer, firstUse, later, hline]
  | some choices =>
      cases choices with
      | nil => simp [next] at h
      | cons choice rest =>
          obtain ⟨hchoice, hlt⟩ := Option.filter_eq_some_iff.mp h
          obtain rfl : choice = index := by simpa [next] using hchoice
          have huse : usable count choice = some choice := if_pos (of_decide_eq_true hlt)
          simp [answer, firstUse, later, huse]

/-- A call that gives nothing of use is passed over. -/
theorem answer_of_useless {supply : Supply} {count : Nat}
    (h : (supply.next count).filter (fun index => index < count) = none) :
    supply.answer count = supply.later.answer count := by
  obtain ⟨lines, choices⟩ := supply
  cases choices with
  | none =>
      cases lines with
      | nil => rfl
      | cons line rest =>
          have hline : parseChoice line count = none := by
            simpa [next, parseChoice_filter] using h
          simp [answer, firstUse, later, hline]
  | some choices =>
      cases choices with
      | nil => rfl
      | cons choice rest =>
          have huse : usable count choice = none := by
            refine if_neg fun hlt => ?_
            simp [next, Option.filter, hlt] at h
          simp [answer, firstUse, later, huse]

/-- When the input has ended and the last call gave nothing of use, nothing is left. -/
theorem answer_later_of_isLast {supply : Supply} (h : supply.isLast = true) (count : Nat) :
    supply.later.answer count = (none, supply.later) := by
  obtain ⟨lines, choices⟩ := supply
  cases choices with
  | none =>
      obtain rfl : lines = [] := List.isEmpty_iff.mp h
      rfl
  | some choices =>
      have htail : choices.tail = [] := List.isEmpty_iff.mp h
      simp [answer, later, htail, firstUse]

end Supply

namespace Terminal

/-- What is left to read on a terminal.  Carriage returns at the end of a line never reach the
game, and a stream that has ended gives nothing more. -/
def supply : Terminal → Supply
  | scripted script => ⟨script.inputs, script.choices⟩
  | stream lines =>
      ⟨if lines.isClosed then [] else lines.source.pending.map LineStream.withoutReturns, none⟩

variable {terminal after : Terminal}

theorem supply_display {text : String} {query : Option String}
    (h : terminal.display text query = .ok after) : after.supply = terminal.supply := by
  cases terminal with
  | scripted script =>
      simp only [display, Script.display] at h
      split at h
      · cases h
      next shown hshown =>
        split at hshown
        · cases hshown
        · cases hshown
          cases h
          rfl
  | stream lines =>
      cases h
      simp only [supply, LineStream.isClosed, LineStream.display]
      split <;> rfl

/-- A call for a choice that is not refused gives what comes next. -/
theorem supply_readChoice {count : Nat} {choice : Option Nat}
    (hread : terminal.readChoice count = .ok (choice, after)) :
    choice = terminal.supply.next count ∧ after.supply = terminal.supply.later ∧
      after.isClosed = terminal.supply.isLast := by
  cases terminal with
  | scripted script =>
      obtain ⟨inputs, choices, displaysLeft, readsLeft, shown, clears, isAtEnd, completions⟩ := script
      simp only [readChoice, Script.readChoice] at hread
      split at hread
      · cases hread
      next heard rest hok =>
        split at hok
        · cases hok
        next left hspend =>
          cases choices with
          | none =>
              cases inputs with
              | nil =>
                  cases hok
                  cases hread
                  exact ⟨rfl, rfl, rfl⟩
              | cons line lines =>
                  cases hok
                  cases hread
                  exact ⟨rfl, rfl, rfl⟩
          | some choices =>
              cases choices with
              | nil =>
                  cases hok
                  cases hread
                  exact ⟨rfl, rfl, rfl⟩
              | cons choice choices =>
                  cases hok
                  cases hread
                  exact ⟨rfl, rfl, rfl⟩
  | stream lines =>
      cases hread
      obtain ⟨⟨unread, slot⟩, written, query, endedAt⟩ := lines
      cases endedAt with
      | some place => exact ⟨rfl, rfl, rfl⟩
      | none =>
          cases slot with
          | some line => exact ⟨rfl, rfl, rfl⟩
          | none =>
              cases unread with
              | nil => exact ⟨rfl, rfl, rfl⟩
              | cons line rest => exact ⟨rfl, rfl, rfl⟩

/-- A menu on a reliable terminal gets its answer from what is left to read. -/
theorem IsReliable.exists_ask (h : terminal.IsReliable) (menu : String) (count : Nat) :
    ∃ after, terminal.ask menu count = (.ok (terminal.supply.answer count).1, after) ∧
      after.IsReliable ∧ after.supply = (terminal.supply.answer count).2 := by
  fun_induction Terminal.ask menu count terminal with
  | case1 terminal fault hmenu => exact absurd hmenu (h.display_ne_error menu _ fault)
  | case2 terminal shown hmenu fault hread =>
      exact absurd hread ((h.of_display hmenu).readChoice_ne_error count fault)
  | case3 terminal shown hmenu choice after hread index hchoice =>
      have hshown := h.of_display hmenu
      obtain ⟨rfl, hlater, -⟩ := supply_readChoice hread
      rw [supply_display hmenu] at hchoice hlater
      rw [Supply.answer_of_next hchoice]
      exact ⟨after, rfl, hshown.of_readChoice hread, hlater⟩
  | case4 terminal shown hmenu choice after hread hchoice hclosed =>
      have hshown := h.of_display hmenu
      obtain ⟨rfl, hlater, hlast⟩ := supply_readChoice hread
      rw [supply_display hmenu] at hchoice hlater hlast
      rw [Supply.answer_of_useless hchoice,
        Supply.answer_later_of_isLast (hlast.symm.trans hclosed)]
      exact ⟨after, rfl, hshown.of_readChoice hread, hlater⟩
  | case5 terminal shown hmenu choice after hread hchoice hclosed fault hhint =>
      have hafter := (h.of_display hmenu).of_readChoice hread
      exact absurd hhint (hafter.display_ne_error _ none fault)
  | case6 terminal shown hmenu choice after hread hchoice hclosed again hhint hless ih =>
      have hshown := h.of_display hmenu
      obtain ⟨rfl, hlater, -⟩ := supply_readChoice hread
      rw [supply_display hmenu] at hchoice hlater
      rw [Supply.answer_of_useless hchoice, ← hlater, ← supply_display hhint]
      exact ih ((hshown.of_readChoice hread).of_display hhint)

/-- Two terminals that refuse no call and have the same left to read. -/
structure Alike (left right : Terminal) : Prop where
  reliable : left.IsReliable
  alsoReliable : right.IsReliable
  supply : left.supply = right.supply

end Terminal

end TextAdventure
