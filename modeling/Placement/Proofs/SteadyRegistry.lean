import Mathlib.Data.List.Nodup
import Placement.Loader.Registry
import Placement.Proofs.SteadyImports

/-!
Registries whose modules always import alike. Each loader stands under the name of its module, one for a
name, and a loader that is asked for or changes leaves the others as they are.
-/

namespace Placement

namespace Registry

/-- Each name has one loader, which imports the module of that name. -/
structure Steady (imports : String → ImportOutcome) (registry : Registry) : Prop where
  names_nodup : (registry.entries.map Prod.fst).Nodup
  sessions : ∀ name session, (name, session) ∈ registry.entries →
    session.Steady name (imports name)

/-- What no event takes back: the loaders keep their places, and with them what their callers got. -/
def Extends (before after : Registry) : Prop :=
  ∀ (slot : Nat) name session, before.entries[slot]? = some (name, session) →
    ∃ later, after.entries[slot]? = some (name, later) ∧ session.Extends later

variable {imports : String → ImportOutcome} {registry after : Registry} {moduleName name : String}
  {slot : Nat} {session changed : Session}

theorem session?_eq_some_iff :
    registry.session? slot = some session ↔ ∃ name, registry.entries[slot]? = some (name, session) := by
  rw [session?, Option.map_eq_some_iff]
  constructor
  · rintro ⟨entry, found, rfl⟩
    exact ⟨entry.1, found⟩
  · rintro ⟨name, found⟩
    exact ⟨_, found, rfl⟩

theorem obtain?_cases (obtained : registry.obtain? moduleName = .ok (after, slot)) :
    (after = registry ∧ ∃ session, registry.entries[slot]? = some (moduleName, session)) ∨
      ∃ loader, Loader.build? moduleName = .ok loader ∧
        moduleName ∉ registry.entries.map Prod.fst ∧ slot = registry.entries.length ∧
        after = ⟨registry.entries ++ [(moduleName, .start loader)]⟩ := by
  rw [obtain?] at obtained
  split at obtained
  next found known =>
      cases obtained
      obtain ⟨inside, same, _⟩ := List.findIdx?_eq_some_iff_getElem.1 known
      refine Or.inl ⟨rfl, registry.entries[slot].2, ?_⟩
      rw [List.getElem?_eq_getElem inside, ← beq_iff_eq.1 same]
  next unknown =>
      split at obtained
      next => cases obtained
      next loader built =>
          cases obtained
          refine Or.inr ⟨loader, built, ?_, rfl, rfl⟩
          rw [slot?, List.findIdx?_eq_none_iff] at unknown
          intro member
          obtain ⟨entry, present, same⟩ := List.mem_map.1 member
          simpa [same] using unknown entry present

theorem exists_session_of_obtain? (obtained : registry.obtain? moduleName = .ok (after, slot)) :
    ∃ session, after.entries[slot]? = some (moduleName, session) := by
  rcases obtain?_cases obtained with ⟨rfl, known⟩ | ⟨loader, _, _, rfl, rfl⟩
  · exact known
  · exact ⟨.start loader, List.getElem?_concat_length⟩

theorem exists_obtained (registry : Registry) (named : moduleName ≠ "") :
    ∃ after slot, registry.obtain? moduleName = .ok (after, slot) := by
  rw [obtain?]
  cases registry.slot? moduleName with
  | some slot => exact ⟨registry, slot, rfl⟩
  | none =>
      rw [Loader.build?, dif_neg named]
      exact ⟨_, _, rfl⟩

theorem getElem?_modify (registry : Registry) (slot other : Nat) (change : Session → Session) :
    (registry.modify slot change).entries[other]? =
      (registry.entries[other]?).map fun entry =>
        if slot = other then (entry.1, change entry.2) else entry := by
  rw [modify, List.getElem?_modify]
  rfl

theorem modify_cases {place : Nat} {own : String} {later : Session}
    (found : registry.entries[slot]? = some (own, session))
    (present : (registry.modify slot fun _ => changed).entries[place]? = some (name, later)) :
    (place = slot ∧ name = own ∧ later = changed) ∨
      registry.entries[place]? = some (name, later) := by
  rw [getElem?_modify, Option.map_eq_some_iff] at present
  obtain ⟨entry, entryEq, same⟩ := present
  split at same
  next here =>
      subst here
      cases entryEq.symm.trans found
      cases same
      exact Or.inl ⟨rfl, rfl, rfl⟩
  next =>
      subst same
      exact Or.inr entryEq

theorem entry_of_caller {place caller : Nat} {state : CallerState}
    (obtained : registry.obtain? moduleName = .ok (after, slot))
    (present : after.entries[place]? = some (name, session))
    (called : session.callers[caller]? = some state) :
    registry.entries[place]? = some (name, session) := by
  rcases obtain?_cases obtained with ⟨rfl, _⟩ | ⟨loader, _, _, _, rfl⟩
  · exact present
  · by_cases inside : place < registry.entries.length
    · exact (List.getElem?_append_left inside).symm.trans present
    · rw [List.getElem?_append_right (Nat.le_of_not_lt inside)] at present
      cases List.mem_singleton.1 (List.mem_of_getElem? present)
      simp [Session.start] at called

theorem map_modify {Value : Type} (view : String × Session → Value)
    (found : registry.entries[slot]? = some (name, session))
    (same : view (name, changed) = view (name, session)) :
    (registry.modify slot fun _ => changed).entries.map view = registry.entries.map view := by
  refine List.ext_getElem? fun place => ?_
  rw [List.getElem?_map, getElem?_modify, List.getElem?_map, Option.map_map]
  by_cases here : slot = place
  · subst here
    rw [found, Option.map_some, Option.map_some, Function.comp_apply, if_pos rfl, same]
  · simp only [here, ↓reduceIte, Function.comp_def]

def startedImports (registry : Registry) : Nat :=
  (registry.entries.map fun entry => entry.2.loader.imports.size).foldr (· + ·) 0

theorem startedImports_obtain (obtained : registry.obtain? moduleName = .ok (after, slot)) :
    after.startedImports = registry.startedImports := by
  rcases obtain?_cases obtained with ⟨rfl, _⟩ | ⟨loader, built, _, _, rfl⟩
  · rfl
  · rw [Loader.build?] at built
    split at built
    · cases built
    · cases built
      simp [startedImports, Session.start]

theorem startedImports_modify (found : registry.entries[slot]? = some (name, session))
    (same : changed.loader.imports.size = session.loader.imports.size) :
    (registry.modify slot fun _ => changed).startedImports = registry.startedImports := by
  rw [startedImports, map_modify (fun entry => entry.2.loader.imports.size) found same,
    startedImports]

theorem Steady.empty (imports : String → ImportOutcome) : Registry.empty.Steady imports :=
  ⟨List.nodup_nil, fun _ _ member => by cases member⟩

theorem Steady.obtain (steady : registry.Steady imports)
    (obtained : registry.obtain? moduleName = .ok (after, slot)) : after.Steady imports := by
  rcases obtain?_cases obtained with ⟨rfl, _⟩ | ⟨loader, built, unknown, _, rfl⟩
  · exact steady
  · refine ⟨?_, ?_⟩
    · rw [List.map_append, List.map_singleton, List.nodup_append]
      refine ⟨steady.names_nodup, by simp, ?_⟩
      rintro known member _ last rfl
      cases List.mem_singleton.1 last
      exact unknown member
    · intro name session member
      rcases List.mem_append.1 member with known | last
      · exact steady.sessions name session known
      · cases List.mem_singleton.1 last
        exact .start built

theorem Steady.at (steady : registry.Steady imports)
    (found : registry.entries[slot]? = some (name, session)) : session.Steady name (imports name) :=
  steady.sessions name session (List.mem_of_getElem? found)

theorem Steady.unique (steady : registry.Steady imports) {first second : Session}
    (member : (name, first) ∈ registry.entries) (other : (name, second) ∈ registry.entries) :
    first = second :=
  congrArg Prod.snd (List.inj_on_of_nodup_map steady.names_nodup member other rfl)

theorem Steady.modify (steady : registry.Steady imports)
    (found : registry.entries[slot]? = some (name, session))
    (steadyChanged : changed.Steady name (imports name)) :
    (registry.modify slot fun _ => changed).Steady imports := by
  have names : (registry.modify slot fun _ => changed).entries.map Prod.fst =
      registry.entries.map Prod.fst := map_modify Prod.fst found rfl
  refine ⟨by rw [names]; exact steady.names_nodup, ?_⟩
  intro other later member
  obtain ⟨place, present⟩ := List.mem_iff_getElem?.1 member
  rcases modify_cases found present with ⟨_, rfl, rfl⟩ | unchanged
  · exact steadyChanged
  · exact steady.at unchanged

theorem Extends.trans {first second third : Registry} (earlier : first.Extends second)
    (later : second.Extends third) : first.Extends third := by
  intro slot name session found
  obtain ⟨_, foundBetween, between⟩ := earlier slot name session found
  obtain ⟨last, foundLast, extended⟩ := later slot name _ foundBetween
  exact ⟨last, foundLast, between.trans extended⟩

theorem extends_obtain (obtained : registry.obtain? moduleName = .ok (after, slot)) :
    registry.Extends after := by
  rcases obtain?_cases obtained with ⟨rfl, _⟩ | ⟨loader, _, _, _, rfl⟩
  · exact fun _ _ session found => ⟨session, found, .refl session⟩
  · intro place name session found
    obtain ⟨inside, _⟩ := List.getElem?_eq_some_iff.1 found
    exact ⟨session, (List.getElem?_append_left inside).trans found, .refl session⟩

theorem extends_modify (found : registry.entries[slot]? = some (name, session))
    (extended : session.Extends changed) :
    registry.Extends (registry.modify slot fun _ => changed) := by
  intro place other earlier present
  rw [getElem?_modify, present, Option.map_some]
  split
  next here =>
      subst here
      cases present.symm.trans found
      exact ⟨changed, rfl, extended⟩
  next => exact ⟨earlier, rfl, .refl earlier⟩

end Registry

end Placement
