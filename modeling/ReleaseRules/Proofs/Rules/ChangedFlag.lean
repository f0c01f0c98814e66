import ReleaseRules.Proofs.Document.Sameness
import ReleaseRules.Proofs.Rules.AuditTrail
import ReleaseRules.Proofs.Rules.Objects

/-!
Contract: when a run counts as one that has changed its text.

Owns:
- the flag of a run by its records and its texts;
- records of places apart, and that the changes behind them do not undo each other.

Does not own: what is shown of the runs.

The flag compares texts and the records are kept change by change, so the two disagree about a run
whose changes lead back to the text at its start. In an object this takes two records of which one
is about a place at, above or below the place of the other.
-/

namespace ReleaseRules

/-- Whether two records are about places apart: the key of neither leads to the place of the other
or on the way to it. -/
def Change.Apart (first second : Change) : Prop :=
  ∀ left ∈ first.key, ∀ right ∈ second.key,
    ¬ KeyPath.segments left <+: KeyPath.segments right ∧
      ¬ KeyPath.segments right <+: KeyPath.segments left

instance (first second : Change) : Decidable (first.Apart second) := by
  unfold Change.Apart
  infer_instance

namespace Step

variable {context : Context} {text final : List Char} {entries : List (String × Tree)}

/-- Steps that edit objects only, with values that can be read again. -/
def AreExact (steps : List (Step context)) : Prop :=
  ∀ step ∈ steps, step.attempt.action.isRaw = false ∧ step.attempt.action.isExact = true ∧
    step.attempt.isReadable context = true

/-- Exact steps from an object lead to an object, and a value at a place apart from all that they
write is the same in both. -/
theorem Lead.keeps_value_apart {steps : List (Step context)} (leads : Lead text steps final)
    (holds : HoldsObject text entries) (exact : AreExact steps) {key : String}
    (nonempty : KeyPath.segments key ≠ [])
    (apart : ∀ step ∈ steps, ∀ written ∈ step.change.key,
      ¬ KeyPath.segments written <+: KeyPath.segments key ∧
        ¬ KeyPath.segments key <+: KeyPath.segments written) :
    ∃ last, HoldsObject final last ∧
      KeyPath.get (.map last) key = KeyPath.get (.map entries) key := by
  induction steps generalizing text entries with
  | nil =>
      obtain rfl : text = final := leads
      exact ⟨entries, holds, rfl⟩
  | cons step rest inductionHypothesis =>
      obtain ⟨rfl, onward⟩ := leads
      obtain ⟨structured, carriesExact, readable⟩ := exact step List.mem_cons_self
      obtain ⟨written, new, changed, isKey, done, -, holdsNext⟩ :=
        holds.after_attempt structured carriesExact readable step.made
      have named : written ∈ step.change.key := by
        rw [Attempt.key_of_outcome step.made, isKey]
        rfl
      obtain ⟨notAbove, notBelow⟩ := apart step List.mem_cons_self written named
      obtain ⟨last, holdsLast, same⟩ := inductionHypothesis onward holdsNext
        (fun other member => exact other (List.mem_cons_of_mem step member))
        (fun other member => apart other (List.mem_cons_of_mem step member))
      refine ⟨last, holdsLast, ?_⟩
      rw [same, KeyPath.get_of_set_of_apart done nonempty notAbove notBelow]

/-- Exact steps from an object do not lead back to it if the first one writes apart from the
others: what it writes is new, and is still there in the end. -/
theorem Lead.ne_of_apart {step : Step context} {rest : List (Step context)}
    (leads : Lead text (step :: rest) final) (holds : HoldsObject text entries)
    (exact : AreExact (step :: rest))
    (apart : ∀ other ∈ rest, step.change.Apart other.change) : final ≠ text := by
  obtain ⟨rfl, onward⟩ := leads
  obtain ⟨structured, carriesExact, readable⟩ := exact step List.mem_cons_self
  obtain ⟨key, new, changed, isKey, -, differs, done, -, holdsNext⟩ :=
    holds.difference_of_attempt structured carriesExact readable step.made
  have named : key ∈ step.change.key := by
    rw [Attempt.key_of_outcome step.made, isKey]
    rfl
  have nonempty : KeyPath.segments key ≠ [] := (KeyPath.set_eq_ok_iff.mp done).1
  obtain ⟨last, holdsLast, same⟩ := onward.keeps_value_apart holdsNext
    (fun other member => exact other (List.mem_cons_of_mem step member)) nonempty
    (fun other member written isWritten => (apart other member key named written isWritten).symm)
  have there : KeyPath.get (.map last) key = some new := same.trans (KeyPath.get_of_set done)
  rintro rfl
  -- Otherwise the new value would have been there from the start.
  obtain rfl : entries = last := holds.unique holdsLast
  have keyed : new.isKeyed = true := KeyPath.every_get holds.keyed there
  have unchanged : Edit.isUnchanged (KeyPath.get (.map entries) key) new = true := by
    rw [there]
    exact Tree.same_refl keyed
  rw [unchanged] at differs
  cases differs

end Step

namespace Engine

variable (world : World) (context : Context) (rules : List Rule) (path text : List Char)

/-- A run is a list of steps, one for each record. -/
theorem exists_steps_of_process :
    ∃ steps : List (Step context),
      steps.map Step.change = (process world rules path text context).changes ∧
      steps.map Step.attempt = (attempts world context (matchingRules rules path) text).filter
        (Attempt.succeeds context) ∧
      Step.Lead text steps (process world rules path text context).text := by
  obtain ⟨trail, isTrail⟩ := exists_trail world context (matchingRules rules path) text
  refine ⟨trail.flatMap Stretch.steps, ?_, isTrail.attempted, isTrail.leads⟩
  rw [List.map_flatMap]
  exact isTrail.recorded.symm

/-- A run counts as one that has changed its text exactly if it has records and the text that it
leaves differs from the one at its start. -/
theorem process_changed_iff :
    (process world rules path text context).changed = true ↔
      (process world rules path text context).changes ≠ [] ∧
        (process world rules path text context).text ≠ text := by
  have flag : (process world rules path text context).changed = true ↔
      (process world rules path text context).text ≠ text := bne_iff_ne
  rw [flag]
  constructor
  · intro differs
    refine ⟨?_, differs⟩
    intro unchanged
    obtain ⟨steps, recorded, -, leads⟩ := exists_steps_of_process world context rules path text
    rw [unchanged, List.map_eq_nil_iff] at recorded
    rw [recorded] at leads
    exact differs leads.symm
  · exact And.right

/-- A run of exact actions over an object counts as one that has changed it if it has records and
they are about places apart. -/
theorem process_changed_of_apart {entries : List (String × Tree)}
    (holds : HoldsObject text entries)
    (exact : ∀ rule ∈ rules, ∀ action ∈ rule.actions,
      action.isRaw = false ∧ action.isExact = true)
    (readable : staysReadable world context (matchingRules rules path) text = true)
    (recorded : (process world rules path text context).changes ≠ [])
    (apart : (process world rules path text context).changes.Pairwise Change.Apart) :
    (process world rules path text context).changed = true := by
  obtain ⟨steps, changes, attempted, leads⟩ :=
    exists_steps_of_process world context rules path text
  have exactSteps : Step.AreExact steps := by
    intro step member
    have known : step.attempt ∈ attempts world context (matchingRules rules path) text :=
      Step.mem_of_attempted attempted member
    obtain ⟨rule, inMatching, -, inActions⟩ := source_of_mem_attempts world context known
    obtain ⟨structured, carriesExact⟩ :=
      exact rule (List.mem_filter.mp inMatching).1 step.attempt.action inActions
    exact ⟨structured, carriesExact, List.all_eq_true.mp readable step.attempt known⟩
  cases steps with
  | nil => exact absurd changes.symm recorded
  | cons step rest =>
      rw [← changes, List.map_cons, List.pairwise_cons] at apart
      refine (process_changed_iff world context rules path text).mpr ⟨recorded, ?_⟩
      refine leads.ne_of_apart holds exactSteps ?_
      intro other member
      exact apart.1 other.change (List.mem_map_of_mem member)

end Engine

end ReleaseRules
