import TextAdventure.Proofs.Input.Names

/-!
# What phrases denote

A phrase denotes the first thing it names among those the actor carries, or else the first one that
shows where the actor is: a thing that lies there, another pawn, a way out.  When it names nothing
of the kind it denotes whatever is registered by that name, and only then the bearer of the name
without its article.  A hidden thing is never denoted as one that shows.
-/

namespace TextAdventure

/-- Whether a phrase names a key, as a whole or without an article that further words follow. -/
inductive NounPhrase.Names (phrase : NounPhrase) (key : Key) : Prop where
  | whole (hwords : phrase.words ≠ []) (hkey : key = Key.ofName (Text.unwords phrase.words))
  | bare {article : String} {rest : List String} (harticle : article ∈ articles)
      (hrest : rest ≠ []) (hwords : phrase.words = article :: rest)
      (hkey : key = Key.ofName (Text.unwords rest))

namespace NounPhrase

variable {phrase : NounPhrase} {key : Key}

theorem bare_of_article {article : String} {rest : List String} (harticle : article ∈ articles)
    (hrest : rest ≠ []) (hwords : phrase.words = article :: rest) :
    phrase.bare = Text.unwords rest := by
  obtain ⟨second, later, rfl⟩ := List.exists_cons_of_ne_nil hrest
  simp only [NounPhrase.bare, hwords, if_pos harticle]

/-- A phrase is not shortened unless it starts with an article that further words follow. -/
theorem bare_cases (phrase : NounPhrase) :
    phrase.bare = phrase.text ∨ ∃ article ∈ articles, ∃ rest, rest ≠ [] ∧
      phrase.words = article :: rest ∧ phrase.bare = Text.unwords rest := by
  unfold NounPhrase.bare
  split
  next first second rest hwords =>
    split
    next harticle =>
      exact Or.inr ⟨first, harticle, second :: rest, List.cons_ne_nil _ _, hwords, rfl⟩
    next => exact Or.inl rfl
  next => exact Or.inl rfl

theorem names_iff_names : phrase.names key = true ↔ phrase.Names key := by
  rw [names_iff]
  constructor
  · rintro ⟨hwords, rfl | rfl⟩
    · exact .whole hwords rfl
    · rcases phrase.bare_cases with htext | ⟨article, harticle, rest, hrest, hphrase, hbare⟩
      · exact .whole hwords (congrArg Key.ofName htext)
      · exact .bare harticle hrest hphrase (congrArg Key.ofName hbare)
  · intro h
    cases h with
    | whole hwords hkey => exact ⟨hwords, Or.inl hkey⟩
    | bare harticle hrest hwords hkey =>
        refine ⟨hwords ▸ List.cons_ne_nil _ _, Or.inr ?_⟩
        rw [bare_of_article harticle hrest hwords, hkey]

theorem Names.words_ne_nil (h : phrase.Names key) : phrase.words ≠ [] := by
  cases h with
  | whole hwords _ => exact hwords
  | bare _ _ hwords _ => exact hwords ▸ List.cons_ne_nil _ _

end NounPhrase

/-! ## The first of a list -/

/-- Whether an entry is the first one of a list with a property. -/
def IsFirst {α : Type} (P : α → Prop) (entries : List α) (entry : α) : Prop :=
  P entry ∧ ∃ before after, entries = before ++ entry :: after ∧ ∀ earlier ∈ before, ¬ P earlier

theorem IsFirst.mem {α : Type} {P : α → Prop} {entries : List α} {entry : α}
    (h : IsFirst P entries entry) : entry ∈ entries := by
  obtain ⟨-, before, after, rfl, -⟩ := h
  exact List.mem_append_right _ List.mem_cons_self

theorem IsFirst.unique {α : Type} {P : α → Prop} {entries : List α} {first other : α}
    (h : IsFirst P entries first) (hother : IsFirst P entries other) : first = other := by
  obtain ⟨hfirst, before, after, rfl, hbefore⟩ := h
  obtain ⟨hsecond, earlier, later, heq, hearlier⟩ := hother
  rcases List.append_eq_append_iff.mp heq with ⟨between, rfl, hrest⟩ | ⟨between, rfl, hrest⟩
  · cases between with
    | nil => exact (List.cons.inj hrest).1
    | cons entry rest =>
        obtain ⟨rfl, -⟩ := List.cons.inj hrest
        exact absurd hfirst (hearlier _ (List.mem_append_right _ List.mem_cons_self))
  · cases between with
    | nil => exact (List.cons.inj hrest).1.symm
    | cons entry rest =>
        obtain ⟨rfl, -⟩ := List.cons.inj hrest
        exact absurd hsecond (hbefore _ (List.mem_append_right _ List.mem_cons_self))

section Keys

variable {α : Type} {P : α → Prop} {shows : α → Bool} {toKey : α → Key} {phrase : NounPhrase}

/-- A search among the keys of what shows finds that of the first entry with what it asks for. -/
theorem find?_keys_eq_some_iff (hshows : ∀ entry, shows entry = true ↔ P entry) {entries : List α}
    {key : Key} :
    ((entries.filter shows).map toKey).find? phrase.names = some key ↔
      ∃ entry, IsFirst (fun entry => P entry ∧ phrase.Names (toKey entry)) entries entry ∧
        toKey entry = key := by
  rw [List.find?_map, List.find?_filter, Option.map_eq_some_iff]
  refine exists_congr fun entry => and_congr_left fun _ => ?_
  rw [List.find?_eq_some_iff_append]
  simp only [IsFirst, Function.comp_apply, hshows, NounPhrase.names_iff_names,
    decide_eq_true_eq, Bool.not_eq_true', decide_eq_false_iff_not]

theorem find?_keys_eq_none_iff (hshows : ∀ entry, shows entry = true ↔ P entry)
    {entries : List α} :
    ((entries.filter shows).map toKey).find? phrase.names = none ↔
      ∀ entry ∈ entries, ¬ (P entry ∧ phrase.Names (toKey entry)) := by
  rw [List.find?_map, List.find?_filter, Option.map_eq_none_iff, List.find?_eq_none]
  simp only [Function.comp_apply, hshows, NounPhrase.names_iff_names, decide_eq_true_eq]

end Keys

/-! ## What shows -/

namespace Registry

variable {registry : Registry} {key : Key}

/-- Whether nothing hidden is registered under a key. -/
def Shows (registry : Registry) (key : Key) : Prop :=
  ∀ entity ∈ registry.entities, entity.key = key → entity.isHidden = false

theorem isHidden_eq_false_iff : registry.isHidden key = false ↔ registry.Shows key := by
  constructor
  · rintro h entity hentity rfl
    rwa [isHidden, get?_of_mem hentity] at h
  · intro h
    unfold isHidden
    split
    next => rfl
    next entity hget => exact h entity (mem_of_get? hget) (key_of_get? hget)

theorem shows_of_mem {entity : Entity} (h : entity ∈ registry.entities)
    (hshows : entity.isHidden = false) : registry.Shows entity.key := by
  rwa [← isHidden_eq_false_iff, isHidden, get?_of_mem h]

section Keyed

variable (hkeyed : ∀ entity ∈ registry.entities, entity.IsKeyed)

include hkeyed

theorem named?_eq_some_iff {name : String} {entity : Entity} :
    registry.named? name = some entity ↔
      entity ∈ registry.entities ∧ Key.ofName entity.name = Key.ofName name := by
  constructor
  · intro h
    have hentity := mem_of_get? h
    exact ⟨hentity, (hkeyed entity hentity).symm.trans (key_of_get? h)⟩
  · rintro ⟨hentity, hname⟩
    rw [named?, ← hname, ← hkeyed entity hentity]
    exact get?_of_mem hentity

theorem named?_eq_none_iff {name : String} :
    registry.named? name = none ↔
      ∀ entity ∈ registry.entities, Key.ofName entity.name ≠ Key.ofName name := by
  rw [Option.eq_none_iff_forall_ne_some]
  simp only [ne_eq, named?_eq_some_iff hkeyed, not_and]

end Keyed

end Registry

namespace Entity

/-- Whether an entity is a pawn at a place that the actor sees beside itself. -/
structure IsCompanion (actor here : Key) (entity : Entity) : Prop where
  shows : entity.isHidden = false
  other : entity.key ≠ actor
  stands : ∃ pawn, entity.kind = .pawn pawn ∧ pawn.location = here

/-- Whether an entity is an exit that is seen to lead away from a place. -/
structure IsWayOut (here : Key) (entity : Entity) : Prop where
  shows : entity.isHidden = false
  leads : ∃ exit, entity.kind = .exit exit ∧ exit.origin = here

end Entity

theorem Kind.pawn?_eq_some_iff {kind : Kind} {pawn : Pawn} :
    kind.pawn? = some pawn ↔ kind = .pawn pawn :=
  ⟨Kind.eq_pawn_of_pawn?, fun h => h ▸ rfl⟩

theorem Kind.exit?_eq_some_iff {kind : Kind} {exit : Exit} :
    kind.exit? = some exit ↔ kind = .exit exit :=
  ⟨Kind.eq_exit_of_exit?, fun h => h ▸ rfl⟩

namespace Scope

variable {registry : Registry} {actor here : Key}

/-- A thing that is visible where the actor is. -/
inductive IsVisible (registry : Registry) (actor : Key) : Key → Prop where
  | lying {pawn : Pawn} {stack : Stack} (hstands : registry.pawn? actor = some pawn)
      (hstack : stack ∈ stacksOf registry pawn.location) (hshows : registry.Shows stack.item) :
      IsVisible registry actor stack.item
  | company {pawn : Pawn} {entity : Entity} (hstands : registry.pawn? actor = some pawn)
      (hentity : entity ∈ registry.entities) (h : entity.IsCompanion actor pawn.location) :
      IsVisible registry actor entity.key
  | wayOut {pawn : Pawn} {entity : Entity} (hstands : registry.pawn? actor = some pawn)
      (hentity : entity ∈ registry.entities) (h : entity.IsWayOut pawn.location) :
      IsVisible registry actor entity.key

theorem IsVisible.shows {key : Key} (h : IsVisible registry actor key) : registry.Shows key := by
  cases h with
  | lying _ _ hshows => exact hshows
  | company _ hentity hcompany => exact Registry.shows_of_mem hentity hcompany.shows
  | wayOut _ hentity hwayOut => exact Registry.shows_of_mem hentity hwayOut.shows

/-! ## The lists of what is nearby -/

theorem companions_eq (registry : Registry) (actor here : Key) :
    companions registry actor here =
      registry.entities.filter fun entity =>
        entity.kind.pawn?.any (fun pawn => pawn.location = here) &&
          (entity.key ≠ actor && !entity.isHidden) := by
  rw [companions, Registry.pawnsAt, List.filter_filter]
  refine List.filter_congr fun entity _ => ?_
  rw [Bool.and_comm]
  cases entity.kind <;> rfl

theorem visibleExits_eq (registry : Registry) (here : Key) :
    visibleExits registry here =
      registry.entities.filterMap fun entity =>
        (entity.kind.exit?.filter fun exit => exit.origin = here && !entity.isHidden).map
          fun exit => (entity, exit) := by
  rw [visibleExits, Registry.exitsFrom, Registry.withRecord, List.filter_filter,
    List.filter_filterMap]
  congr 1
  funext entity
  cases entity.kind.exit? with
  | none => rfl
  | some exit => by_cases horigin : exit.origin = here <;> simp [horigin, Option.filter]

theorem map_fst_visibleExits (registry : Registry) (here : Key) :
    (visibleExits registry here).map Prod.fst =
      registry.entities.filter fun entity =>
        entity.kind.exit?.any (fun exit => exit.origin = here) && !entity.isHidden := by
  rw [visibleExits_eq, List.map_filterMap, ← List.filterMap_eq_filter]
  congr 1
  funext entity
  rw [Option.guard]
  cases entity.kind.exit? with
  | none => rfl
  | some exit =>
      by_cases horigin : exit.origin = here <;> simp [horigin, Option.filter]

theorem map_key_visibleExits (registry : Registry) (here : Key) :
    (visibleExits registry here).map (fun pair => pair.1.key) =
      (registry.entities.filter fun entity =>
        entity.kind.exit?.any (fun exit => exit.origin = here) && !entity.isHidden).map
          Entity.key := by
  rw [← map_fst_visibleExits, List.map_map]
  rfl

theorem isCompanion_iff {entity : Entity} :
    (entity.kind.pawn?.any (fun pawn => pawn.location = here) &&
      (entity.key ≠ actor && !entity.isHidden)) = true ↔ entity.IsCompanion actor here := by
  simp only [Bool.and_eq_true, Bool.not_eq_true', decide_eq_true_eq, Option.any_eq_true,
    Kind.pawn?_eq_some_iff]
  exact ⟨fun ⟨hstands, hother, hshows⟩ => ⟨hshows, hother, hstands⟩,
    fun ⟨hshows, hother, hstands⟩ => ⟨hstands, hother, hshows⟩⟩

theorem isWayOut_iff {entity : Entity} :
    (entity.kind.exit?.any (fun exit => exit.origin = here) && !entity.isHidden) = true ↔
      entity.IsWayOut here := by
  simp only [Bool.and_eq_true, Bool.not_eq_true', decide_eq_true_eq, Option.any_eq_true,
    Kind.exit?_eq_some_iff]
  exact ⟨fun ⟨hleads, hshows⟩ => ⟨hshows, hleads⟩, fun ⟨hshows, hleads⟩ => ⟨hleads, hshows⟩⟩

variable {phrase : NounPhrase} {key : Key}

/-- Whether a phrase names a stack that shows. -/
def NamesLying (registry : Registry) (phrase : NounPhrase) (stack : Stack) : Prop :=
  registry.Shows stack.item ∧ phrase.Names stack.item

def NamesCompanion (actor here : Key) (phrase : NounPhrase) (entity : Entity) : Prop :=
  entity.IsCompanion actor here ∧ phrase.Names entity.key

def NamesWayOut (here : Key) (phrase : NounPhrase) (entity : Entity) : Prop :=
  entity.IsWayOut here ∧ phrase.Names entity.key

def NamesNothingCarried (registry : Registry) (actor : Key) (phrase : NounPhrase) : Prop :=
  ∀ stack ∈ stacksOf registry actor, ¬ phrase.Names stack.item

def NamesNothingVisible (registry : Registry) (actor : Key) (phrase : NounPhrase) : Prop :=
  ∀ key, IsVisible registry actor key → ¬ phrase.Names key

def NamesNothingRegistered (registry : Registry) (phrase : NounPhrase) : Prop :=
  ∀ entity ∈ registry.entities, ¬ phrase.Names (Key.ofName entity.name)

/-- What a phrase denotes, and how near it is. -/
inductive Denotes (registry : Registry) (actor : Key) (phrase : NounPhrase) :
    Key → Tier → Prop where
  | carried {stack : Stack}
      (hfirst : IsFirst (fun stack => phrase.Names stack.item) (stacksOf registry actor) stack) :
      Denotes registry actor phrase stack.item .inventory
  | lying {pawn : Pawn} {stack : Stack} (hcarried : NamesNothingCarried registry actor phrase)
      (hstands : registry.pawn? actor = some pawn)
      (hfirst : IsFirst (NamesLying registry phrase) (stacksOf registry pawn.location) stack) :
      Denotes registry actor phrase stack.item .location
  | company {pawn : Pawn} {entity : Entity} (hcarried : NamesNothingCarried registry actor phrase)
      (hstands : registry.pawn? actor = some pawn)
      (hlying : ∀ stack ∈ stacksOf registry pawn.location, ¬ NamesLying registry phrase stack)
      (hfirst : IsFirst (NamesCompanion actor pawn.location phrase) registry.entities entity) :
      Denotes registry actor phrase entity.key .location
  | wayOut {pawn : Pawn} {entity : Entity} (hcarried : NamesNothingCarried registry actor phrase)
      (hstands : registry.pawn? actor = some pawn)
      (hlying : ∀ stack ∈ stacksOf registry pawn.location, ¬ NamesLying registry phrase stack)
      (hcompany : ∀ entity ∈ registry.entities,
        ¬ NamesCompanion actor pawn.location phrase entity)
      (hfirst : IsFirst (NamesWayOut pawn.location phrase) registry.entities entity) :
      Denotes registry actor phrase entity.key .location
  | whole {entity : Entity} (hcarried : NamesNothingCarried registry actor phrase)
      (hvisible : NamesNothingVisible registry actor phrase) (hwords : phrase.words ≠ [])
      (hentity : entity ∈ registry.entities)
      (hname : Key.ofName entity.name = Key.ofName (Text.unwords phrase.words)) :
      Denotes registry actor phrase entity.key .everywhere
  | bare {article : String} {rest : List String} {entity : Entity}
      (hcarried : NamesNothingCarried registry actor phrase)
      (hvisible : NamesNothingVisible registry actor phrase)
      (hwhole : ∀ entity ∈ registry.entities,
        Key.ofName entity.name ≠ Key.ofName (Text.unwords phrase.words))
      (harticle : article ∈ NounPhrase.articles) (hrest : rest ≠ [])
      (hwords : phrase.words = article :: rest) (hentity : entity ∈ registry.entities)
      (hname : Key.ofName entity.name = Key.ofName (Text.unwords rest)) :
      Denotes registry actor phrase entity.key .everywhere

/-! ## Searching tier by tier -/

theorem find?_carried_eq_none_iff :
    (ofActor registry actor).inventory.find? phrase.names = none ↔
      NamesNothingCarried registry actor phrase := by
  simp only [ofActor, List.find?_map, Option.map_eq_none_iff, List.find?_eq_none,
    NamesNothingCarried, Function.comp_apply, NounPhrase.names_iff_names]

theorem find?_carried_eq_some_iff :
    (ofActor registry actor).inventory.find? phrase.names = some key ↔
      Denotes registry actor phrase key .inventory := by
  simp only [ofActor, List.find?_map, Option.map_eq_some_iff, List.find?_eq_some_iff_append,
    Function.comp_apply, NounPhrase.names_iff_names, Bool.not_eq_true', Bool.eq_false_iff, ne_eq]
  constructor
  · rintro ⟨stack, hfirst, rfl⟩
    exact .carried hfirst
  · intro h
    cases h with
    | carried hfirst => exact ⟨_, hfirst, rfl⟩

theorem mem_nearby_iff {pawn : Pawn} (hstands : registry.pawn? actor = some pawn) :
    key ∈ nearby registry actor pawn.location ↔ IsVisible registry actor key := by
  rw [nearby, itemsIn, companions_eq, map_key_visibleExits]
  simp only [List.mem_append, List.mem_map, List.mem_filter, isCompanion_iff, isWayOut_iff,
    Bool.not_eq_true', Registry.isHidden_eq_false_iff]
  constructor
  · rintro ((⟨stack, ⟨hstack, hshows⟩, rfl⟩ | ⟨entity, ⟨hentity, h⟩, rfl⟩) |
      ⟨entity, ⟨hentity, h⟩, rfl⟩)
    · exact .lying hstands hstack hshows
    · exact .company hstands hentity h
    · exact .wayOut hstands hentity h
  · intro h
    cases h with
    | lying hother hstack hshows =>
        obtain rfl := Option.some.inj (hstands.symm.trans hother)
        exact Or.inl (Or.inl ⟨_, ⟨hstack, hshows⟩, rfl⟩)
    | company hother hentity h =>
        obtain rfl := Option.some.inj (hstands.symm.trans hother)
        exact Or.inl (Or.inr ⟨_, ⟨hentity, h⟩, rfl⟩)
    | wayOut hother hentity h =>
        obtain rfl := Option.some.inj (hstands.symm.trans hother)
        exact Or.inr ⟨_, ⟨hentity, h⟩, rfl⟩

theorem mem_location_iff :
    key ∈ (ofActor registry actor).location ↔ IsVisible registry actor key := by
  cases hstands : registry.pawn? actor with
  | none =>
      simp only [ofActor, hstands, List.not_mem_nil, false_iff]
      intro h
      cases h with
      | lying hother _ _ | company hother _ _ | wayOut hother _ _ =>
          cases hstands.symm.trans hother
  | some pawn =>
      simp only [ofActor, hstands]
      exact mem_nearby_iff hstands

theorem find?_visible_eq_none_iff :
    (ofActor registry actor).location.find? phrase.names = none ↔
      NamesNothingVisible registry actor phrase := by
  simp only [List.find?_eq_none, mem_location_iff, NounPhrase.names_iff_names, NamesNothingVisible]

/-- A search of what is nearby goes through the things that lie there, the other pawns and the
exits. -/
theorem find?_nearby_eq_some_iff :
    (nearby registry actor here).find? phrase.names = some key ↔
      (∃ stack, IsFirst (NamesLying registry phrase) (stacksOf registry here) stack ∧
        stack.item = key) ∨
      (∀ stack ∈ stacksOf registry here, ¬ NamesLying registry phrase stack) ∧
        ((∃ entity, IsFirst (NamesCompanion actor here phrase) registry.entities entity ∧
          entity.key = key) ∨
        (∀ entity ∈ registry.entities, ¬ NamesCompanion actor here phrase entity) ∧
          ∃ entity, IsFirst (NamesWayOut here phrase) registry.entities entity ∧
            entity.key = key) := by
  have hlies : ∀ stack : Stack, (!registry.isHidden stack.item) = true ↔
      registry.Shows stack.item := fun stack => by
    rw [Bool.not_eq_true', Registry.isHidden_eq_false_iff]
  rw [nearby, itemsIn, companions_eq, map_key_visibleExits, List.append_assoc, List.find?_append,
    List.find?_append, Option.or_eq_some_iff, Option.or_eq_some_iff,
    find?_keys_eq_some_iff hlies, find?_keys_eq_none_iff hlies,
    find?_keys_eq_some_iff fun _ => isCompanion_iff,
    find?_keys_eq_none_iff fun _ => isCompanion_iff, find?_keys_eq_some_iff fun _ => isWayOut_iff]
  rfl

theorem find?_visible_eq_some_iff :
    (ofActor registry actor).inventory.find? phrase.names = none ∧
        (ofActor registry actor).location.find? phrase.names = some key ↔
      Denotes registry actor phrase key .location := by
  rw [find?_carried_eq_none_iff]
  cases hstands : registry.pawn? actor with
  | none =>
      simp only [ofActor, hstands, List.find?_nil, reduceCtorEq, and_false, false_iff]
      intro h
      cases h with
      | lying _ hother _ | company _ hother _ _ | wayOut _ hother _ _ _ =>
          cases hstands.symm.trans hother
  | some pawn =>
      simp only [ofActor, hstands, find?_nearby_eq_some_iff]
      constructor
      · rintro ⟨hcarried, ⟨stack, hfirst, rfl⟩ | ⟨hlying, ⟨entity, hfirst, rfl⟩ |
          ⟨hcompany, entity, hfirst, rfl⟩⟩⟩
        · exact .lying hcarried hstands hfirst
        · exact .company hcarried hstands hlying hfirst
        · exact .wayOut hcarried hstands hlying hcompany hfirst
      · intro h
        cases h with
        | lying hcarried hother hfirst =>
            obtain rfl := Option.some.inj (hstands.symm.trans hother)
            exact ⟨hcarried, Or.inl ⟨_, hfirst, rfl⟩⟩
        | company hcarried hother hlying hfirst =>
            obtain rfl := Option.some.inj (hstands.symm.trans hother)
            exact ⟨hcarried, Or.inr ⟨hlying, Or.inl ⟨_, hfirst, rfl⟩⟩⟩
        | wayOut hcarried hother hlying hcompany hfirst =>
            obtain rfl := Option.some.inj (hstands.symm.trans hother)
            exact ⟨hcarried, Or.inr ⟨hlying, Or.inr ⟨hcompany, _, hfirst, rfl⟩⟩⟩

theorem Denotes.words_ne_nil {tier : Tier} (h : Denotes registry actor phrase key tier) :
    phrase.words ≠ [] := by
  cases h with
  | carried hfirst => exact hfirst.1.words_ne_nil
  | lying _ _ hfirst => exact hfirst.1.2.words_ne_nil
  | company _ _ _ hfirst => exact hfirst.1.2.words_ne_nil
  | wayOut _ _ _ _ hfirst => exact hfirst.1.2.words_ne_nil
  | whole _ _ hwords _ _ => exact hwords
  | bare _ _ _ _ _ hwords _ _ => exact hwords ▸ List.cons_ne_nil _ _

theorem Denotes.isVisible (h : Denotes registry actor phrase key .location) :
    IsVisible registry actor key := by
  cases h with
  | lying _ hstands hfirst => exact .lying hstands hfirst.mem hfirst.1.1
  | company _ hstands _ hfirst => exact .company hstands hfirst.mem hfirst.1.1
  | wayOut _ hstands _ _ hfirst => exact .wayOut hstands hfirst.mem hfirst.1.1

/-- The tiers are searched one after the other. -/
theorem resolve_eq_or (scope : Scope) (registry : Registry) (hwords : phrase.words ≠ []) :
    scope.resolve registry phrase =
      ((scope.inventory.find? phrase.names).map fun key => (key, Tier.inventory)).or
        (((scope.location.find? phrase.names).map fun key => (key, Tier.location)).or
          ((resolveAnywhere registry phrase).map fun key => (key, Tier.everywhere))) := by
  have hempty : ¬ phrase.isEmpty = true := fun hnil => hwords (List.isEmpty_iff.mp hnil)
  rw [resolve, if_neg hempty]
  cases scope.inventory.find? phrase.names with
  | some key => rfl
  | none =>
      cases scope.location.find? phrase.names with
      | some key => rfl
      | none => rfl

theorem resolve_of_words_eq_nil (scope : Scope) (registry : Registry) (hwords : phrase.words = []) :
    scope.resolve registry phrase = none :=
  if_pos (List.isEmpty_iff.mpr hwords)

section Keyed

variable (hkeyed : ∀ entity ∈ registry.entities, entity.IsKeyed)

include hkeyed

theorem find?_everywhere_eq_some_iff (hwords : phrase.words ≠ []) :
    (ofActor registry actor).inventory.find? phrase.names = none ∧
        (ofActor registry actor).location.find? phrase.names = none ∧
        resolveAnywhere registry phrase = some key ↔
      Denotes registry actor phrase key .everywhere := by
  rw [find?_carried_eq_none_iff, find?_visible_eq_none_iff]
  constructor
  · rintro ⟨hcarried, hvisible, hanywhere⟩
    unfold resolveAnywhere at hanywhere
    split at hanywhere
    next entity hnamed =>
      obtain rfl := Option.some.inj hanywhere
      obtain ⟨hentity, hname⟩ := (Registry.named?_eq_some_iff hkeyed).mp hnamed
      exact .whole hcarried hvisible hwords hentity hname
    next hunnamed =>
      obtain ⟨entity, hnamed, rfl⟩ := Option.map_eq_some_iff.mp hanywhere
      obtain ⟨hentity, hname⟩ := (Registry.named?_eq_some_iff hkeyed).mp hnamed
      rcases phrase.bare_cases with htext | ⟨article, harticle, rest, hrest, hphrase, hbare⟩
      · rw [htext, hunnamed] at hnamed
        cases hnamed
      · exact .bare hcarried hvisible ((Registry.named?_eq_none_iff hkeyed).mp hunnamed) harticle hrest
          hphrase hentity (hname.trans (congrArg Key.ofName hbare))
  · intro h
    cases h with
    | whole hcarried hvisible _ hentity hname =>
        refine ⟨hcarried, hvisible, ?_⟩
        have hnamed := (Registry.named?_eq_some_iff hkeyed).mpr ⟨hentity, hname⟩
        rw [resolveAnywhere, NounPhrase.text, hnamed]
    | bare hcarried hvisible hwhole harticle hrest hphrase hentity hname =>
        refine ⟨hcarried, hvisible, ?_⟩
        have hnamed := (Registry.named?_eq_some_iff hkeyed).mpr ⟨hentity, hname⟩
        rw [resolveAnywhere, NounPhrase.text, (Registry.named?_eq_none_iff hkeyed).mpr hwhole,
          NounPhrase.bare_of_article harticle hrest hphrase, hnamed]
        rfl

theorem resolve_eq_some_iff {tier : Tier} :
    (ofActor registry actor).resolve registry phrase = some (key, tier) ↔
      Denotes registry actor phrase key tier := by
  by_cases hwords : phrase.words = []
  · rw [resolve_of_words_eq_nil _ _ hwords]
    exact iff_of_false nofun fun h => h.words_ne_nil hwords
  simp only [resolve_eq_or _ _ hwords, Option.or_eq_some_iff, Option.map_eq_some_iff,
    Option.map_eq_none_iff, Prod.mk.injEq]
  cases tier with
  | inventory =>
      rw [← find?_carried_eq_some_iff]
      simp
  | location =>
      rw [← find?_visible_eq_some_iff]
      simp
  | everywhere =>
      rw [← find?_everywhere_eq_some_iff hkeyed hwords]
      simp

theorem resolveAnywhere_eq_none_iff (hwords : phrase.words ≠ []) :
    resolveAnywhere registry phrase = none ↔ NamesNothingRegistered registry phrase := by
  have hnames : ∀ entity : Entity, ¬ phrase.Names (Key.ofName entity.name) ↔
      Key.ofName entity.name ≠ Key.ofName phrase.text ∧
        Key.ofName entity.name ≠ Key.ofName phrase.bare := fun entity => by
    rw [← NounPhrase.names_iff_names, NounPhrase.names_iff, and_iff_right hwords, not_or]
  simp only [NamesNothingRegistered, hnames, forall_and]
  rw [← Registry.named?_eq_none_iff hkeyed, ← Registry.named?_eq_none_iff hkeyed, resolveAnywhere]
  cases registry.named? phrase.text with
  | none => simp
  | some entity => simp

theorem resolve_eq_none_iff :
    (ofActor registry actor).resolve registry phrase = none ↔
      phrase.words = [] ∨
        NamesNothingCarried registry actor phrase ∧ NamesNothingVisible registry actor phrase ∧
          NamesNothingRegistered registry phrase := by
  by_cases hwords : phrase.words = []
  · exact iff_of_true (resolve_of_words_eq_nil _ _ hwords) (Or.inl hwords)
  rw [resolve_eq_or _ _ hwords, or_iff_right hwords, Option.or_eq_none_iff, Option.or_eq_none_iff,
    Option.map_eq_none_iff, Option.map_eq_none_iff, Option.map_eq_none_iff,
    find?_carried_eq_none_iff, find?_visible_eq_none_iff,
    resolveAnywhere_eq_none_iff hkeyed hwords]

end Keyed

/-- When things are known by the keys of their names, a phrase is resolved to what it denotes and
to nothing else; it is resolved to nothing only when it is empty, or when it names nothing that is
carried, visible or registered; and a hidden thing is never taken for one that shows. -/
theorem resolve_denotes (hkeyed : ∀ entity ∈ registry.entities, entity.IsKeyed) (actor : Key)
    (phrase : NounPhrase) :
    (∀ key tier, (ofActor registry actor).resolve registry phrase = some (key, tier) ↔
      Denotes registry actor phrase key tier) ∧
    ((ofActor registry actor).resolve registry phrase = none ↔
      phrase.words = [] ∨
        NamesNothingCarried registry actor phrase ∧ NamesNothingVisible registry actor phrase ∧
          NamesNothingRegistered registry phrase) ∧
    ∀ entity ∈ registry.entities, entity.isHidden = true →
      (ofActor registry actor).resolve registry phrase ≠ some (entity.key, .location) := by
  refine ⟨fun key tier => resolve_eq_some_iff hkeyed, resolve_eq_none_iff hkeyed, ?_⟩
  intro entity hentity hhidden hresolve
  have hshows := ((resolve_eq_some_iff hkeyed).mp hresolve).isVisible.shows entity hentity rfl
  rw [hhidden] at hshows
  cases hshows

open Registry (Request)

/-- The hall, haunted by a thing that does not show. -/
def hauntedRequests : List Request :=
  Reading.hallRequests ++ [.create (Entity.item "Ghost" ⟨0⟩).hide rfl, .place "Ghost" "Hall" 1]

theorem resolve_denotes_haunted :
    (∀ entity ∈ (Request.run hauntedRequests).entities, entity.IsKeyed) ∧
      Denotes (Request.run hauntedRequests) ⟨"guest"⟩ ⟨["the", "lamp"]⟩ ⟨"lamp"⟩ .location ∧
      Denotes (Request.run hauntedRequests) ⟨"guest"⟩ ⟨["ghost"]⟩ ⟨"ghost"⟩ .everywhere := by
  have hkeyed := (Registry.isScreened_run hauntedRequests).keyed
  refine ⟨hkeyed, ?_, ?_⟩
  · exact ((resolve_denotes hkeyed ⟨"guest"⟩ ⟨["the", "lamp"]⟩).1 _ _).mp (by decide +kernel)
  · exact ((resolve_denotes hkeyed ⟨"guest"⟩ ⟨["ghost"]⟩).1 _ _).mp (by decide +kernel)

end Scope

end TextAdventure
