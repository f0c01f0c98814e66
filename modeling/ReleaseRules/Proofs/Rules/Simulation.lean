import ReleaseRules.Proofs.Document.LayoutStability
import ReleaseRules.Proofs.Rules.Objects
import ReleaseRules.Proofs.Rules.Repetition

/-!
Contract: runs over texts as runs of writes to the objects that they hold.

Owns:
- the writes that actions and rules make;
- the simulation of an attempt, of a rule and of a run.

Does not own: what follows for two runs in a row.

A run over texts compares values up to the order of keys. Writes to a tree may compare otherwise,
and still simulate the run as long as every attempt finds both comparisons to agree.
-/

namespace ReleaseRules

namespace Action

/-- Whether an action replaces a value, fills one in or appends one. -/
def isStructural : Action → Bool
  | .replaceValue _ _ => true
  | .setIfAbsent _ _ => true
  | .appendItem _ _ => true
  | _ => false

/-- What a structural action has for its key. -/
def content? (context : Context) : Action → Option Content
  | .replaceValue _ value => some (.replace (value.expandTemplates context.bindings))
  | .setIfAbsent _ value => some (.fill (value.expandTemplates context.bindings))
  | .appendItem _ value => some (.append (value.expandTemplates context.bindings))
  | _ => none

/-- The writes of an action: a single one, or none if its key has no segments. -/
def writes (context : Context) (action : Action) : List Write :=
  match action.key?, action.content? context with
  | some key, some content =>
      if KeyPath.segments key = [] then [] else [⟨KeyPath.segments key, content⟩]
  | _, _ => []

/-- A structural action computes what its content computes. -/
theorem content_of_isStructural {action : Action} (context : Context)
    (structural : action.isStructural = true) :
    ∃ key content, action.key? = some key ∧ action.content? context = some content ∧
      action.isRaw = false ∧ action.compute context = content.compute := by
  cases action with
  | replaceValue key value => exact ⟨key, _, rfl, rfl, rfl, rfl⟩
  | setIfAbsent key value => exact ⟨key, _, rfl, rfl, rfl, rfl⟩
  | appendItem key value => exact ⟨key, _, rfl, rfl, rfl, rfl⟩
  | _ => cases structural

/-- A write carries the expanded value of its action. -/
theorem value_of_mem_writes {action : Action} {context : Context} {write : Write}
    (member : write ∈ action.writes context) :
    ∃ value ∈ action.value?, write.content.value = value.expandTemplates context.bindings := by
  unfold writes at member
  split at member
  · rename_i key content keyed given
    split at member
    · cases member
    · rw [List.mem_singleton.mp member]
      cases action with
      | replaceValue key value => exact ⟨value, rfl, by rw [← Option.some.inj given]; rfl⟩
      | setIfAbsent key value => exact ⟨value, rfl, by rw [← Option.some.inj given]; rfl⟩
      | appendItem key value => exact ⟨value, rfl, by rw [← Option.some.inj given]; rfl⟩
      | _ => cases given
  · cases member

theorem isKeyed_of_mem_writes {action : Action} {context : Context} {write : Write}
    (carriesExact : action.isExact = true) (member : write ∈ action.writes context) :
    write.content.value.isKeyed = true := by
  obtain ⟨value, carried, same⟩ := value_of_mem_writes member
  have keyed : value.isKeyed = true := by
    rw [isExact, Option.mem_def.mp carried] at carriesExact
    exact (Bool.and_eq_true_iff.mp carriesExact).2
  rw [same]
  exact Tree.every_expandTemplates Tree.isKeyedNode_survives _ keyed

end Action

/-- The writes of rules, in order. -/
def Engine.writes (context : Context) (rules : List Rule) : List Write :=
  rules.flatMap fun rule => rule.actions.flatMap fun action => action.writes context

/-- Whether a test agrees with the comparison of values on what an attempt meets, as far as that
repeats no key. -/
def Attempt.Agrees (unchanged : Tree → Tree → Bool) (context : Context) (attempt : Attempt) :
    Prop :=
  ∀ document key old new, Document.parse attempt.text = .ok document →
    attempt.action.key? = some key → document.get key = some old → old.isKeyed = true →
    attempt.action.compute context (some old) = some new → unchanged old new = old.same new

/-- The layout of a rendered object that is not empty is the one that it is rendered in. -/
theorem HoldsObject.detect_jsonText {next : List Char} {changed : List (String × Tree)}
    (holds : HoldsObject next changed) (text : List Char) (nonempty : changed ≠ []) :
    Layout.detect (Document.jsonText (Layout.detect text .json) (.map changed)) .json =
      Layout.detect text .json := by
  obtain ⟨entry, rest, rfl⟩ := List.exists_cons_of_ne_nil nonempty
  exact Document.detect_jsonText text rfl (Tree.fits_of_isWhole holds.whole)

/-- One text with an object leads to another one as writes lead from one object to the other.
The other text is the same one, or it is rendered in the layout of the first. -/
structure Leads (unchanged : Tree → Tree → Bool) (text : List Char)
    (entries : List (String × Tree)) (writes : List Write) (next : List Char)
    (changed : List (String × Tree)) : Prop where
  holds : HoldsObject next changed
  run : runWrites unchanged writes (some (.map entries)) = some (.map changed)
  shown : next = text ∧ changed = entries ∨
    next = Document.jsonText (Layout.detect text .json) (.map changed) ∧ changed ≠ []

namespace Leads

variable {unchanged : Tree → Tree → Bool} {text next final : List Char}
variable {entries changed last : List (String × Tree)} {writes more : List Write}

theorem refl (holds : HoldsObject text entries) : Leads unchanged text entries [] text entries :=
  ⟨holds, rfl, Or.inl ⟨rfl, rfl⟩⟩

theorem trans (first : Leads unchanged text entries writes next changed)
    (second : Leads unchanged next changed more final last) :
    Leads unchanged text entries (writes ++ more) final last := by
  refine ⟨second.holds, ?_, ?_⟩
  · rw [runWrites_append, first.run, second.run]
  · rcases second.shown with ⟨rfl, rfl⟩ | ⟨rendered, nonempty⟩
    · exact first.shown
    · rcases first.shown with ⟨rfl, rfl⟩ | ⟨renderedFirst, nonemptyFirst⟩
      · exact Or.inr ⟨rendered, nonempty⟩
      · -- A rendered text has the layout of the text before it.
        have sameLayout : Layout.detect next .json = Layout.detect text .json := by
          rw [renderedFirst]
          exact first.holds.detect_jsonText text nonemptyFirst
        exact Or.inr ⟨by rw [rendered, sameLayout], nonempty⟩

end Leads

section Simulation

variable {unchanged : Tree → Tree → Bool} {context : Context} {text : List Char}
variable {entries : List (String × Tree)}

/-- A write below a tree leaves a map that is not empty. -/
theorem KeyPath.entries_ne_nil_of_write {tree new : Tree} {path : List String}
    {changed : List (String × Tree)} (nonempty : path ≠ [])
    (written : .map changed = KeyPath.write new tree path) : changed ≠ [] := by
  obtain ⟨segment, rest, rfl⟩ := List.exists_cons_of_ne_nil nonempty
  rintro rfl
  have member : segment ∈ Tree.keys ([] : List (String × Tree)) := by
    rw [Tree.map.inj written, Tree.keys_insert]
    split <;> simp_all
  cases member

/-- The test that decides whether a value is written agrees with the comparison of a document. -/
private theorem any_unchanged_eq {content : Content} {old : Option Tree} {new : Tree}
    (agrees : ∀ tree, old = some tree → ∀ new, content.compute (some tree) = some new →
      unchanged tree new = tree.same new)
    (computed : content.compute old = some new) :
    (old.any fun tree => unchanged tree new) = Edit.isUnchanged old new := by
  cases old with
  | none => rfl
  | some tree => exact agrees tree rfl new computed

/-- Where an action revises nothing, its write does nothing. -/
theorem Content.put_of_revise_eq_none {action : Action} {key : String} {content : Content}
    (keyed : action.key? = some key) (computes : action.compute context = content.compute)
    (nonempty : KeyPath.segments key ≠ [])
    (agrees : ∀ tree, KeyPath.get (.map entries) key = some tree → ∀ new,
      content.compute (some tree) = some new → unchanged tree new = tree.same new)
    (stays : action.revise context (HoldsObject.document text entries) = none) :
    content.put unchanged (KeyPath.segments key) (some (.map entries)) = some (.map entries) := by
  have found : KeyPath.get (.map entries) key =
      KeyPath.follow (.map entries) (KeyPath.segments key) := KeyPath.get_eq_follow nonempty
  have revised : Edit.reviseAt (HoldsObject.document text entries) key content.compute = none := by
    simpa [Action.revise, keyed, computes] using stays
  rw [put_some, ← found]
  cases computed : content.compute (KeyPath.get (.map entries) key) with
  | none => rfl
  | some new =>
      have decided := any_unchanged_eq agrees computed
      have getHere : (HoldsObject.document text entries).get key =
          KeyPath.get (.map entries) key := rfl
      simp only [decided]
      by_cases quiet : Edit.isUnchanged (KeyPath.get (.map entries) key) new = true
      · rw [quiet, Bool.true_or, if_pos rfl]
      · -- The value differs, so the write must have been refused.
        have refused : ((HoldsObject.document text entries).set key new).toOption = none := by
          simpa [Edit.reviseAt, getHere, computed, quiet] using revised
        have blocked : (KeyPath.blockedSegment (.map entries) (KeyPath.segments key)).isSome =
            true := by
          rw [Option.isSome_iff_ne_none]
          intro free
          have done : KeyPath.set (.map entries) key new =
              .ok (KeyPath.write new (.map entries) (KeyPath.segments key)) :=
            KeyPath.set_eq_ok_iff.mpr ⟨nonempty, free, rfl⟩
          simp [HoldsObject.document, Document.set, done, bind, Except.bind, pure, Except.pure,
            Except.toOption] at refused
        rw [blocked, Bool.or_true, if_pos rfl]

/-- Where an action revises the document, its write leads to the revised object. -/
theorem Content.put_of_set {key : String} {content : Content} {new : Tree}
    {changed : List (String × Tree)}
    (agrees : ∀ tree, KeyPath.get (.map entries) key = some tree → ∀ new,
      content.compute (some tree) = some new → unchanged tree new = tree.same new)
    (computed : content.compute (KeyPath.get (.map entries) key) = some new)
    (differs : Edit.isUnchanged (KeyPath.get (.map entries) key) new = false)
    (done : KeyPath.set (.map entries) key new = .ok (.map changed)) :
    content.put unchanged (KeyPath.segments key) (some (.map entries)) =
      some (.map changed) := by
  obtain ⟨nonempty, free, written⟩ := KeyPath.set_eq_ok_iff.mp done
  have found : KeyPath.get (.map entries) key =
      KeyPath.follow (.map entries) (KeyPath.segments key) := KeyPath.get_eq_follow nonempty
  have decided := any_unchanged_eq agrees computed
  rw [put_some, ← found, computed]
  simp only [decided, differs, free, written, Option.isSome_none, Bool.or_self, Bool.false_eq_true,
    if_false]

/-- An attempt of a structural action leads from one object to another by the writes of the
action. -/
theorem Attempt.leads {attempt : Attempt} (holds : HoldsObject attempt.text entries)
    (structural : attempt.action.isStructural = true)
    (carriesExact : attempt.action.isExact = true)
    (readable : attempt.isReadable context = true)
    (agrees : attempt.Agrees unchanged context) :
    ∃ changed, Leads unchanged attempt.text entries (attempt.action.writes context)
      (attempt.action.textAfter attempt.rule context attempt.text) changed := by
  obtain ⟨key, content, keyed, given, structured, computes⟩ :=
    Action.content_of_isStructural context structural
  have agreesHere : ∀ tree, KeyPath.get (.map entries) key = some tree → ∀ new,
      content.compute (some tree) = some new → unchanged tree new = tree.same new :=
    fun tree found new computed =>
      agrees _ key tree new holds.parse keyed found (KeyPath.every_get holds.keyed found)
        (by rw [computes, computed])
  have textAfter := Action.textAfter_eq attempt.action attempt.rule context attempt.text structured
  cases revised : attempt.action.revise context
      (HoldsObject.document attempt.text entries) with
  | none =>
      have unwritten : attempt.action.rewrite context attempt.text = none := by
        simp [Action.rewrite, holds.parse, Except.toOption, revised]
      rw [unwritten, Option.getD_none] at textAfter
      rw [textAfter]
      refine ⟨entries, holds, ?_, Or.inl ⟨rfl, rfl⟩⟩
      by_cases nonempty : KeyPath.segments key = []
      · simp [Action.writes, keyed, given, nonempty, runWrites]
      · have put := Content.put_of_revise_eq_none keyed computes nonempty agreesHere revised
        simpa [Action.writes, keyed, given, nonempty, runWrites] using put
  | some written =>
      obtain ⟨other, new, changed, alsoKeyed, computed, differs, done, rfl, whole, distinct⟩ :=
        holds.revise carriesExact revised
      obtain rfl : key = other := Option.some.inj (keyed.symm.trans alsoKeyed)
      rw [computes] at computed
      have deep : (Tree.map changed).depth ≤ Json.nestingLimit := by
        simpa [isReadable, holds.parse, Except.toOption, revised] using readable
      have rendered := Document.render_json (.map changed) (Layout.detect attempt.text .json) rfl
      have rewritten : attempt.action.rewrite context attempt.text =
          some (Document.jsonText (Layout.detect attempt.text .json) (.map changed)) := by
        simp [Action.rewrite, holds.parse, revised, rendered, Except.toOption]
      rw [rewritten, Option.getD_some] at textAfter
      rw [textAfter]
      obtain ⟨nonempty, -, shape⟩ := KeyPath.set_eq_ok_iff.mp done
      have put := Content.put_of_set agreesHere computed differs done
      refine ⟨changed, HoldsObject.of_jsonText (Layout.indentOf_blank attempt.text) whole distinct
        deep, ?_, Or.inr ⟨rfl, ?_⟩⟩
      · simpa [Action.writes, keyed, given, nonempty, runWrites] using put
      · exact KeyPath.entries_ne_nil_of_write nonempty shape

/-- The actions of a rule lead from one object to another by their writes. -/
theorem Rule.leads {name : String} {actions : List Action} (holds : HoldsObject text entries)
    (structural : ∀ action ∈ actions, action.isStructural = true)
    (carriesExact : ∀ action ∈ actions, action.isExact = true)
    (readable : ∀ attempt ∈ Rule.attempts name context actions text,
      attempt.isReadable context = true)
    (agrees : ∀ attempt ∈ Rule.attempts name context actions text,
      attempt.Agrees unchanged context) :
    ∃ changed, Leads unchanged text entries (actions.flatMap fun action => action.writes context)
      (Rule.applyActions name context actions text).1 changed := by
  induction actions generalizing text entries with
  | nil => exact ⟨entries, Leads.refl holds⟩
  | cons action rest inductionHypothesis =>
      let firstAttempt : Attempt := ⟨name, action, text⟩
      obtain ⟨next, first⟩ := firstAttempt.leads holds
        (structural action List.mem_cons_self) (carriesExact action List.mem_cons_self)
        (readable _ List.mem_cons_self) (agrees _ List.mem_cons_self)
      obtain ⟨changed, later⟩ := inductionHypothesis first.holds
        (fun other member => structural other (List.mem_cons_of_mem _ member))
        (fun other member => carriesExact other (List.mem_cons_of_mem _ member))
        (fun attempt member => readable attempt (List.mem_cons_of_mem _ member))
        (fun attempt member => agrees attempt (List.mem_cons_of_mem _ member))
      rw [Rule.applyActions_cons, List.flatMap_cons]
      exact ⟨changed, first.trans later⟩

/-- Whether rules apply whatever the text is, and never keep later ones from a file. -/
def Rule.isPlain (rule : Rule) : Bool := rule.conditions.isEmpty && !rule.stops

/-- A run of plain rules leads from one object to another by their writes. -/
theorem Engine.leads (world : World) {rules : List Rule} (holds : HoldsObject text entries)
    (plain : ∀ rule ∈ rules, rule.isPlain = true)
    (structural : ∀ rule ∈ rules, ∀ action ∈ rule.actions, action.isStructural = true)
    (carriesExact : ∀ rule ∈ rules, ∀ action ∈ rule.actions, action.isExact = true)
    (readable : staysReadable world context rules text = true)
    (agrees : ∀ attempt ∈ attempts world context rules text, attempt.Agrees unchanged context) :
    ∃ changed, Leads unchanged text entries (writes context rules)
      (applyRules world context rules text).1 changed := by
  induction rules generalizing text entries with
  | nil => exact ⟨entries, Leads.refl holds⟩
  | cons rule rest inductionHypothesis =>
      obtain ⟨unconditional, running⟩ := Bool.and_eq_true_iff.mp (plain rule List.mem_cons_self)
      have met : rule.isMet world context text = true := by
        simp [Rule.isMet, List.isEmpty_iff.mp unconditional]
      have running : rule.stops = false := by simpa using running
      rw [staysReadable, attempts, if_pos met] at readable
      rw [attempts, if_pos met] at agrees
      simp only [running, Bool.and_false, Bool.false_eq_true, if_false] at readable agrees
      have readable := List.all_eq_true.mp readable
      obtain ⟨next, first⟩ := Rule.leads holds (structural rule List.mem_cons_self)
        (carriesExact rule List.mem_cons_self)
        (fun attempt member => readable attempt (List.mem_append_left _ member))
        (fun attempt member => agrees attempt (List.mem_append_left _ member))
      obtain ⟨changed, later⟩ := inductionHypothesis first.holds
        (fun other member => plain other (List.mem_cons_of_mem _ member))
        (fun other member => structural other (List.mem_cons_of_mem _ member))
        (fun other member => carriesExact other (List.mem_cons_of_mem _ member))
        (List.all_eq_true.mpr fun attempt member =>
          readable attempt (List.mem_append_right _ member))
        (fun attempt member => agrees attempt (List.mem_append_right _ member))
      rw [applyRules_cons_of_met world context met, running]
      simp only [Bool.and_false, Bool.false_eq_true, if_false]
      exact ⟨changed, first.trans later⟩

end Simulation

end ReleaseRules
