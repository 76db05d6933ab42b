import TextAdventure.Proofs.Input.CommandWords

/-!
# The order of activation

Among the phrases that start a line as long as any, the one activated first is found.  In a
screened vocabulary all of them are the same words, and so belong to one command.  What a line
is read as then depends on which registered keys are active, but neither on their order nor on
how often they are listed.
-/

namespace TextAdventure

/-! ## Lists that activate the same keys -/

/-- Whether two lists hold the same registered keys.  They may hold them in different orders,
repeatedly, and between keys of nothing. -/
def Registry.ActivatesAlike (registry : Registry) (left right : List Key) : Prop :=
  ∀ key ∈ registry.keys, key ∈ left ↔ key ∈ right

namespace Registry.ActivatesAlike

variable {registry : Registry} {left right : List Key}

theorem symm (h : registry.ActivatesAlike left right) : registry.ActivatesAlike right left :=
  fun key hkey => (h key hkey).symm

theorem trans {other : List Key} (h : registry.ActivatesAlike left right)
    (hlater : registry.ActivatesAlike right other) : registry.ActivatesAlike left other :=
  fun key hkey => (h key hkey).trans (hlater key hkey)

theorem of_perm (registry : Registry) (h : left.Perm right) : registry.ActivatesAlike left right :=
  fun _ _ => h.mem_iff

/-- A key that is already active, or is the key of nothing, can be listed once more. -/
theorem cons {key : Key} (h : key ∈ left ∨ key ∉ registry.keys) :
    registry.ActivatesAlike (key :: left) left := by
  intro other hother
  rw [List.mem_cons, or_iff_right_iff_imp]
  rintro rfl
  exact h.resolve_right (not_not_intro hother)

end Registry.ActivatesAlike

/-! ## The phrases of a table -/

namespace VerbTable

open Registry (ActivatesAlike)

theorem mem_keys_of_mem_entriesFor {registry : Registry} {key : Key} {entry : VerbEntry}
    (h : entry ∈ entriesFor registry key) : key ∈ registry.keys := by
  refine Decidable.byContradiction fun hmissing => ?_
  rw [entriesFor, Registry.get?_eq_none_iff.mpr hmissing] at h
  cases h

theorem mem_ofActive_of_activatesAlike {registry : Registry} {left right : List Key}
    (h : registry.ActivatesAlike left right) {entry : VerbEntry}
    (hentry : entry ∈ (ofActive registry left).entries) :
    entry ∈ (ofActive registry right).entries := by
  obtain ⟨key, hkey, hof⟩ := List.mem_flatMap.mp hentry
  have hregistered := mem_keys_of_mem_entriesFor hof
  exact List.mem_flatMap.mpr ⟨key, (h key hregistered).mp hkey, hof⟩

theorem mem_ofActive_congr {registry : Registry} {left right : List Key}
    (h : registry.ActivatesAlike left right) (entry : VerbEntry) :
    entry ∈ (ofActive registry left).entries ↔ entry ∈ (ofActive registry right).entries :=
  ⟨mem_ofActive_of_activatesAlike h, mem_ofActive_of_activatesAlike h.symm⟩

/-- In a screened vocabulary two entries with the same words belong to the same command. -/
theorem command_eq_of_words {registry : Registry} (h : registry.IsScreened) {active : List Key}
    {left right : VerbEntry} (hleft : left ∈ (ofActive registry active).entries)
    (hright : right ∈ (ofActive registry active).entries) (hwords : left.words = right.words) :
    left.command = right.command := by
  obtain ⟨key, -, hkey⟩ := List.mem_flatMap.mp hright
  obtain ⟨owner, howner, record, hrecord, hof⟩ := exists_of_mem_entriesFor hkey
  obtain ⟨hcommand, phrase, hphrase, hphraseWords⟩ := mem_entriesOf hof
  rw [hcommand]
  exact h.command_of_words howner hrecord hphrase hleft (hwords.trans hphraseWords)

/-! ## The longest phrase -/

theorem exists_isBest (table : VerbTable) (tokens : List Token) :
    ∃ best, IsBest tokens table.entries best ∧
      table.lookup tokens = best.map fun entry =>
        ⟨entry.command, entry.words.length, entry.form⟩ :=
  ⟨_, (table.finds_entries tokens).isBest, rfl⟩

/-- The best entries of two lists with the same members have the same words: both start the
line, and each is as long as the other. -/
theorem IsBest.words_eq {tokens : List Token} {left right : List VerbEntry}
    {best other : VerbEntry} (hbest : IsBest tokens left (some best))
    (hother : IsBest tokens right (some other))
    (hsame : ∀ entry, entry ∈ left ↔ entry ∈ right) : best.words = other.words := by
  obtain ⟨hbestMem, hbestStarts, hbestLongest⟩ := hbest
  obtain ⟨hotherMem, hotherStarts, hotherLongest⟩ := hother
  have hlonger := hbestLongest other ((hsame other).mpr hotherMem) hotherStarts
  have hshorter := hotherLongest best ((hsame best).mp hbestMem) hbestStarts
  have hlength : (best.words.map Token.word).length = (other.words.map Token.word).length := by
    rw [List.length_map, List.length_map]
    exact Nat.le_antisymm hshorter hlonger
  have hstarts := List.prefix_of_prefix_length_le
    (VerbEntry.matchesStart_iff_isPrefix.mp hbestStarts)
    (VerbEntry.matchesStart_iff_isPrefix.mp hotherStarts) (Nat.le_of_eq hlength)
  exact (List.map_inj_right fun _ _ => Token.word.inj).mp (hstarts.eq_of_length hlength)

/-- Whether two lookups find nothing, or the same command in as many tokens.  Whether that is
its name, its hotkey or an alias is left aside. -/
def FindsAlike (left right : Option VerbMatch) : Prop :=
  left.map (fun verb => (verb.command, verb.consumed)) =
    right.map fun verb => (verb.command, verb.consumed)

theorem findsAlike_lookup {registry : Registry} (h : registry.IsScreened) {left right : List Key}
    (hactive : registry.ActivatesAlike left right) (tokens : List Token) :
    FindsAlike ((ofActive registry left).lookup tokens)
      ((ofActive registry right).lookup tokens) := by
  have hsame := mem_ofActive_congr hactive
  obtain ⟨best, hbest, hleft⟩ := exists_isBest (ofActive registry left) tokens
  obtain ⟨other, hother, hright⟩ := exists_isBest (ofActive registry right) tokens
  rw [hleft, hright]
  cases best with
  | none =>
      cases other with
      | none => rfl
      | some other =>
          have hmissed := hbest other ((hsame other).mpr hother.1)
          rw [hother.2.1] at hmissed
          cases hmissed
  | some best =>
      cases other with
      | none =>
          have hmissed := hother best ((hsame best).mp hbest.1)
          rw [hbest.2.1] at hmissed
          cases hmissed
      | some other =>
          have hwords := hbest.words_eq hother hsame
          have hcommand := command_eq_of_words h ((hsame best).mp hbest.1) hother.1 hwords
          simp only [FindsAlike, Option.map_some, hcommand, hwords]

end VerbTable

/-! ## Readings -/

namespace Reading

open Registry (Request)

theorem operationOf_congr {left right : VerbMatch} (hcommand : left.command = right.command)
    (hconsumed : left.consumed = right.consumed) (registry : Registry) (actor : Key)
    (line : String) (tokens : List Token) :
    operationOf registry actor line tokens left = operationOf registry actor line tokens right := by
  simp only [operationOf, hcommand, hconsumed]

/-- The reading of a line looks at the command that is found and at how many tokens it takes. -/
theorem withVerbs_congr {left right : VerbTable} {line : String}
    (h : VerbTable.FindsAlike (left.lookup (Token.ofLine line)) (right.lookup (Token.ofLine line)))
    (registry : Registry) (actor : Key) :
    withVerbs left registry actor line = withVerbs right registry actor line := by
  unfold withVerbs
  cases htokens : Token.ofLine line with
  | nil => rfl
  | cons first rest =>
      rw [htokens] at h
      dsimp only
      cases hleft : left.lookup (first :: rest) with
      | none =>
          rw [hleft] at h
          rw [Option.map_eq_none_iff.mp h.symm]
      | some verb =>
          rw [hleft] at h
          obtain ⟨twin, hright, htwin⟩ := Option.map_eq_some_iff.mp h.symm
          obtain ⟨hcommand, hconsumed⟩ := Prod.mk.inj htwin
          rw [hright]
          exact congrArg parsed (operationOf_congr hcommand.symm hconsumed.symm ..)

/-- Whatever has been created and removed before: a line is read alike, by every actor, with any
two lists that activate the same registered keys. -/
theorem ofLine_activation_order (requests : List Request) {left right : List Key}
    (h : (Request.run requests).ActivatesAlike left right) (actor : Key) (line : String) :
    ofLine (Request.run requests) left actor line =
      ofLine (Request.run requests) right actor line :=
  withVerbs_congr
    (VerbTable.findsAlike_lookup (Registry.isScreened_run requests) h (Token.ofLine line))
    (Request.run requests) actor

/-- Two commands change places, one of them is listed twice, and a removed one is listed too. -/
theorem ofLine_activation_order_pick_up :
    (Request.run pickRequests).ActivatesAlike [⟨"pick"⟩, ⟨"get"⟩]
        [⟨"wait"⟩, ⟨"pick"⟩, ⟨"get"⟩, ⟨"pick"⟩] ∧
      ofLine (Request.run pickRequests) [⟨"pick"⟩, ⟨"get"⟩] ⟨"player"⟩ "PICK uP" =
        ofLine (Request.run pickRequests) [⟨"wait"⟩, ⟨"pick"⟩, ⟨"get"⟩, ⟨"pick"⟩] ⟨"player"⟩
          "PICK uP" := by
  have hunregistered : (Request.run pickRequests).ActivatesAlike
      [⟨"wait"⟩, ⟨"pick"⟩, ⟨"get"⟩, ⟨"pick"⟩] [⟨"pick"⟩, ⟨"get"⟩, ⟨"pick"⟩] :=
    .cons (Or.inr (by decide +kernel))
  have hrepeated : (Request.run pickRequests).ActivatesAlike
      [⟨"pick"⟩, ⟨"get"⟩, ⟨"pick"⟩] [⟨"get"⟩, ⟨"pick"⟩] :=
    .cons (Or.inl (by decide +kernel))
  have hswapped : (Request.run pickRequests).ActivatesAlike
      [⟨"get"⟩, ⟨"pick"⟩] [⟨"pick"⟩, ⟨"get"⟩] :=
    .of_perm _ (List.Perm.swap ..)
  have halike := ((hunregistered.trans hrepeated).trans hswapped).symm
  exact ⟨halike, ofLine_activation_order pickRequests halike ⟨"player"⟩ "PICK uP"⟩

end Reading

end TextAdventure
