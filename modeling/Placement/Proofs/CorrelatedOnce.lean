import Mathlib
import Placement.Proofs.LocatedFailure
import Placement.Proofs.StoppingTurn

/-!
Correlation as a matching of public and raw nodes. A pair that is recorded ends every earlier pair of either
of its nodes. No two public nodes have the same raw node, so a walk that meets each public node once gives
each raw node to the checks once.
-/

namespace Placement

namespace Correlation

/-- A pair of a list neither node of which is paired again behind it. -/
def StandsIn (pairs : List (PublicId × RawId)) (shown : PublicId) (raw : RawId) : Prop :=
  ∃ before after, pairs = before ++ (shown, raw) :: after ∧
    ∀ later ∈ after, later.1 ≠ shown ∧ later.2 ≠ raw

variable (pairs : List (PublicId × RawId)) (last : PublicId × RawId)

theorem rawFor_ofPairs_concat (shown : PublicId) :
    (ofPairs (pairs ++ [last])).rawFor shown =
      if shown = last.1 then some last.2 else (ofPairs pairs).rawFor shown := by
  simp only [rawFor, ofPairs, ofMaps, List.reverse_concat]
  by_cases same : shown = last.1
  · rw [if_pos same, same, List.lookup_cons_self]
  · rw [if_neg same, List.lookup_cons, beq_false_of_ne same]

theorem publicFor_ofPairs_concat (raw : RawId) :
    (ofPairs (pairs ++ [last])).publicFor raw =
      if raw = last.2 then some last.1 else (ofPairs pairs).publicFor raw := by
  simp only [publicFor, ofPairs, ofMaps, List.map_append, List.map_cons, List.map_nil,
    List.reverse_concat, Prod.swap]
  by_cases same : raw = last.2
  · rw [if_pos same, same, List.lookup_cons_self]
  · rw [if_neg same, List.lookup_cons, beq_false_of_ne same]

theorem correlate_ofPairs_concat (shown : PublicId) (raw : RawId) :
    (ofPairs (pairs ++ [last])).correlate shown = some raw ↔
      (shown, raw) = last ∨
        shown ≠ last.1 ∧ raw ≠ last.2 ∧ (ofPairs pairs).correlate shown = some raw := by
  obtain ⟨lastShown, lastRaw⟩ := last
  rw [correlate_eq_some_iff, correlate_eq_some_iff, rawFor_ofPairs_concat,
    publicFor_ofPairs_concat, Prod.mk.injEq]
  by_cases sameShown : shown = lastShown
  · subst sameShown
    by_cases sameRaw : raw = lastRaw
    · simp [sameRaw]
    · simp [sameRaw, Ne.symm sameRaw]
  · by_cases sameRaw : raw = lastRaw
    · simp [sameShown, sameRaw, Ne.symm sameShown]
    · simp [sameShown, sameRaw]

theorem standsIn_concat (shown : PublicId) (raw : RawId) :
    StandsIn (pairs ++ [last]) shown raw ↔
      (shown, raw) = last ∨ shown ≠ last.1 ∧ raw ≠ last.2 ∧ StandsIn pairs shown raw := by
  constructor
  · rintro ⟨before, after, split, unpaired⟩
    rcases List.eq_nil_or_concat after with rfl | ⟨between, final, rfl⟩
    · obtain ⟨_, sameLast⟩ := List.append_inj' split rfl
      exact Or.inl (List.singleton_inj.1 sameLast).symm
    · rw [List.concat_eq_append, ← List.cons_append, ← List.append_assoc] at split
      obtain ⟨rfl, sameLast⟩ := List.append_inj' split rfl
      obtain rfl := List.singleton_inj.1 sameLast
      obtain ⟨otherShown, otherRaw⟩ := unpaired last (by simp)
      refine Or.inr ⟨Ne.symm otherShown, Ne.symm otherRaw, before, between, rfl, ?_⟩
      exact fun later member => unpaired later (by simp [member])
  · rintro (rfl | ⟨otherShown, otherRaw, before, after, rfl, unpaired⟩)
    · exact ⟨pairs, [], rfl, by simp⟩
    · refine ⟨before, after ++ [last], by simp, ?_⟩
      intro later member
      rcases List.mem_append.1 member with earlier | isLast
      · exact unpaired later earlier
      · rw [List.mem_singleton.1 isLast]
        exact ⟨Ne.symm otherShown, Ne.symm otherRaw⟩

theorem correlate_ofPairs_eq_some_iff (shown : PublicId) (raw : RawId) :
    (ofPairs pairs).correlate shown = some raw ↔ StandsIn pairs shown raw := by
  induction pairs using List.reverseRecOn with
  | nil => simp [StandsIn, ofPairs, ofMaps, correlate, rawFor]
  | append_singleton pairs last ih => rw [correlate_ofPairs_concat, standsIn_concat, ih]

theorem correlate_injective (correlation : Correlation) {first second : PublicId} {raw : RawId}
    (ofFirst : correlation.correlate first = some raw)
    (ofSecond : correlation.correlate second = some raw) : first = second := by
  have recorded := ((correlate_eq_some_iff _ _ _).1 ofFirst).2
  rw [((correlate_eq_some_iff _ _ _).1 ofSecond).2] at recorded
  exact (Option.some.inj recorded).symm

end Correlation

def CheckRun.on (run : CheckRun) : Nat × RawId :=
  (run.place, run.raw)

namespace Validator

theorem map_on_tasksFrom (checks : List Check) (raw : RawId) (shown : PublicId) :
    (tasksFrom 0 checks raw shown).map (fun task => task.run.on) =
      (List.range checks.length).map fun place => (place, raw) := by
  rw [tasksFrom, List.map_map, List.range_eq_range', ← List.zipIdx_map_snd, List.map_map]
  rfl

theorem on_tasksAt_nodup (checks : List Check) (result : ParseResult) (shown : PublicId) :
    ((tasksAt checks result shown).map fun task => task.run.on).Nodup := by
  simp only [tasksAt]
  cases result.correlation.correlate shown with
  | none => exact List.nodup_nil
  | some raw =>
      dsimp only
      rw [map_on_tasksFrom]
      exact List.nodup_range.map fun first second same => congrArg Prod.fst same

theorem on_tasksBelow_nodup (checks : List Check) (result : ParseResult) {root : PublicId}
    (once : (result.publics.walk root).Nodup) :
    ((tasksBelow checks result root).map fun task => task.run.on).Nodup := by
  rw [PublicForest.walk_eq_preorder] at once
  rw [tasksBelow, List.map_flatMap, List.nodup_flatMap]
  refine ⟨fun shown _ => on_tasksAt_nodup checks result shown, once.imp ?_⟩
  intro first second different on ofFirst ofSecond
  obtain ⟨task, due, rfl⟩ := List.mem_map.1 ofFirst
  obtain ⟨other, otherDue, same⟩ := List.mem_map.1 ofSecond
  have sameRaw : other.run.raw = task.run.raw := congrArg Prod.snd same
  have correlated := (of_mem_tasksAt otherDue).2.1
  rw [sameRaw] at correlated
  exact different (result.correlation.correlate_injective (of_mem_tasksAt due).2.1 correlated)

end Validator

/-- Pairs recorded one after another correlate a public node with a raw node exactly if that pair is among
them and no later pair has either node. Whatever two maps are kept, no raw node belongs to two public nodes.
So a walk that meets each public node once comes to each raw node once, and no check gets it twice. -/
theorem correlation_is_partial_bijection :
    (∀ (pairs : List (PublicId × RawId)) (shown : PublicId) (raw : RawId),
      (Correlation.ofPairs pairs).correlate shown = some raw ↔
        Correlation.StandsIn pairs shown raw) ∧
    (∀ (correlation : Correlation) (first second : PublicId) (raw : RawId),
      correlation.correlate first = some raw → correlation.correlate second = some raw →
        first = second) ∧
    (∀ (validator : Validator) (surface : Surface) (result : ParseResult),
      (result.publics.walk result.ast).Nodup →
        let trace := (validator.inspect surface result).trace
        (trace.asked.toList.filterMap result.correlation.correlate).Nodup ∧
        (trace.runs.toList.map CheckRun.on).Nodup ∧
        ∀ run ∈ trace.runs, result.correlation.correlate run.shown = some run.raw) := by
  refine ⟨Correlation.correlate_ofPairs_eq_some_iff, ?_, ?_⟩
  · intro correlation first second raw
    exact correlation.correlate_injective
  · intro validator surface result once trace
    obtain ⟨performed, performs, runs⟩ := validator.walk_worksThrough surface result
    rw [Trace.empty, List.nil_append, ← Inspection.passOn_trace, ← Validator.inspect] at runs
    refine ⟨?_, ?_, ?_⟩
    · have asks := validator.walk_asks surface result
      refine (once.sublist asks.prefix_tasks.sublist).filterMap fun first second raw ofFirst ofSecond => ?_
      exact result.correlation.correlate_injective ofFirst ofSecond
    · rw [runs, List.map_map]
      have allOnce := Validator.on_tasksBelow_nodup validator.checks result once
      exact allOnce.sublist (performs.prefix_tasks.sublist.map _)
    · intro run isRun
      have listed := Array.mem_toList_iff.2 isRun
      rw [runs] at listed
      obtain ⟨task, done, rfl⟩ := List.mem_map.1 listed
      exact (Validator.of_mem_tasksBelow (performs.prefix_tasks.subset done)).2.1

def twiceShownReadonly : ParseResult :=
  { misplacedReadonly with
    publics := .ofDrafts [
      ⟨"FunctionExpression", 17, 22, [], none⟩,
      ⟨"MethodDefinition", 7, 22, [0], some 0⟩]
    ast := 1
    correlation := .ofPairs [(1, 1), (0, 1)] }

theorem twiceShownReadonly_checked_once :
    Correlation.StandsIn [(1, 1), (0, 1)] 0 1 ∧
      ¬Correlation.StandsIn [(1, 1), (0, 1)] 1 1 ∧
      (∃ raw, twiceShownReadonly.correlation.correlate 0 = some raw ∧
        ∀ other, twiceShownReadonly.correlation.correlate other = some raw → other = 0) ∧
      (twiceShownReadonly.publics.walk twiceShownReadonly.ast).Nodup ∧
      let trace := (Validator.defaults.inspect .typeScript twiceShownReadonly).trace
      trace.asked = #[1, 0] ∧
        (trace.asked.toList.filterMap twiceShownReadonly.correlation.correlate).Nodup ∧
        (trace.runs.toList.map CheckRun.on).Nodup := by
  have once : (twiceShownReadonly.publics.walk twiceShownReadonly.ast).Nodup := by
    have walkEq : twiceShownReadonly.publics.walk twiceShownReadonly.ast = [1, 0] := by cbv
    rw [walkEq]
    decide
  have asked : (Validator.defaults.inspect .typeScript twiceShownReadonly).trace.asked = #[1, 0] := by
    cbv
  have inner : twiceShownReadonly.correlation.correlate 0 = some 1 := by decide
  have outer : (Correlation.ofPairs [(1, 1), (0, 1)]).correlate 1 ≠ some 1 := by decide
  obtain ⟨stands, injective, checkedOnce⟩ := correlation_is_partial_bijection
  obtain ⟨rawOnce, runOnce, _⟩ := checkedOnce .defaults .typeScript twiceShownReadonly once
  exact ⟨(stands _ 0 1).1 inner, mt (stands _ 1 1).2 outer,
    ⟨1, inner, fun other correlated => injective _ other 0 1 correlated inner⟩, once, asked, rawOnce,
    runOnce⟩

end Placement
