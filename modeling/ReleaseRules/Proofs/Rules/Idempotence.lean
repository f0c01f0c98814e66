import ReleaseRules.Proofs.Rules.Simulation

/-!
Contract: the second of two runs of the same rules.

Owns:
- what a second run does to the object that the first one leaves;
- when it leaves the text as it is.

Does not own: rules with conditions and rules that stop a run.

A value that differs from the one to be written in the order of its keys only counts as written
already. So an order of keys that one run leaves alone may give way in the next one, when another
action has changed the value behind them. Nothing but the order of keys can change.
-/

namespace ReleaseRules

/-- Whether an attempt takes the value that it meets for its own, although the order of their
keys differs. -/
def Attempt.meetsReordered (context : Context) (attempt : Attempt) : Bool :=
  (Document.parse attempt.text).toOption.any fun document =>
    attempt.action.key?.any fun key =>
      (attempt.action.compute context (document.get key)).any fun new =>
        (document.get key).any fun old => old.same new && decide (old ≠ new)

/-- Apart from such values, the comparison of values is equality. -/
theorem Attempt.agrees_exact {context : Context} {attempt : Attempt}
    (ordered : attempt.meetsReordered context = false) :
    attempt.Agrees (fun left right => decide (left = right)) context := by
  intro document key old new parsed keyed found distinct computed
  by_cases equal : old = new
  · subst equal
    have same : old.same old = true := Tree.same_refl distinct
    simp [same]
  · have different : old.same new = false := by
      simpa [meetsReordered, parsed, Except.toOption, keyed, found, computed, equal] using ordered
    simp [equal, different]

namespace Engine

variable (world : World) (context : Context)

/-- Whether a run meets a value that differs in the order of its keys only from the one to be
written. -/
def meetsReordered (rules : List Rule) (text : List Char) : Bool :=
  (attempts world context rules text).any fun attempt => attempt.meetsReordered context

/-- The writes of rules repeat no key. -/
theorem isKeyed_of_mem_writes {rules : List Rule} {write : Write}
    (carriesExact : ∀ rule ∈ rules, ∀ action ∈ rule.actions, action.isExact = true)
    (member : write ∈ writes context rules) : write.content.value.isKeyed = true := by
  obtain ⟨rule, inRules, inRule⟩ := List.mem_flatMap.mp member
  obtain ⟨action, inActions, inAction⟩ := List.mem_flatMap.mp inRule
  exact Action.isKeyed_of_mem_writes (carriesExact rule inRules action inActions) inAction

end Engine

namespace Leads

variable {unchanged other : Tree → Tree → Bool} {text next final : List Char}
variable {entries changed last : List (String × Tree)} {writes more : List Write}

/-- Two texts that the same writes lead to in a row hold objects that are alike. -/
theorem alike_of_twice (likeness : Likeness unchanged) (valid : likeness.Valid writes)
    (present : likeness.alike (.map entries) (.map entries))
    (first : Leads unchanged text entries writes next changed)
    (second : Leads unchanged next changed writes final last) :
    likeness.alike (.map last) (.map changed) := by
  have twice := runWrites_twice valid (Likeness.alike_some_iff.mpr present)
  rw [first.run, second.run] at twice
  exact Likeness.alike_some_iff.mp twice

/-- A text that has been rendered once is rendered the same way for the same object. -/
theorem text_eq (first : Leads unchanged text entries writes next changed)
    (second : Leads other next changed more final changed) : next = text ∨ final = next := by
  rcases first.shown with ⟨same, -⟩ | ⟨rendered, nonempty⟩
  · exact Or.inl same
  · rcases second.shown with ⟨same, -⟩ | ⟨renderedAgain, -⟩
    · exact Or.inr same
    · have sameLayout : Layout.detect next .json = Layout.detect text .json := by
        rw [rendered]
        exact first.holds.detect_jsonText text nonempty
      rw [sameLayout, ← rendered] at renderedAgain
      exact Or.inr renderedAgain

end Leads

namespace Engine

section Twice

variable {world : World} {context : Context} {rules : List Rule} {path text : List Char}
variable {entries : List (String × Tree)}

/-- A run over a file leads from one object to another by the writes of the rules that are about
the file. -/
theorem process_leads (unchanged : Tree → Tree → Bool) (holds : HoldsObject text entries)
    (plain : ∀ rule ∈ rules, rule.isPlain = true)
    (structural : ∀ rule ∈ rules, ∀ action ∈ rule.actions, action.isStructural = true)
    (carriesExact : ∀ rule ∈ rules, ∀ action ∈ rule.actions, action.isExact = true)
    (readable : staysReadable world context (matchingRules rules path) text = true)
    (agrees : ∀ attempt ∈ attempts world context (matchingRules rules path) text,
      attempt.Agrees unchanged context) :
    ∃ changed, Leads unchanged text entries (writes context (matchingRules rules path))
      (process world rules path text context).text changed := by
  have inRules : ∀ rule ∈ matchingRules rules path, rule ∈ rules := fun rule member =>
    (List.mem_filter.mp member).1
  exact Engine.leads world holds (fun rule member => plain rule (inRules rule member))
    (fun rule member => structural rule (inRules rule member))
    (fun rule member => carriesExact rule (inRules rule member)) readable agrees

/-- The objects that two runs in a row leave are alike, by any likeness whose test agrees with
the comparison of values in both runs. -/
theorem process_twice_alike {unchanged : Tree → Tree → Bool} (likeness : Likeness unchanged)
    (reflexive : ∀ tree : Tree, tree.isKeyed = true → likeness.alike tree tree)
    (holds : HoldsObject text entries)
    (plain : ∀ rule ∈ rules, rule.isPlain = true)
    (structural : ∀ rule ∈ rules, ∀ action ∈ rule.actions, action.isStructural = true)
    (carriesExact : ∀ rule ∈ rules, ∀ action ∈ rule.actions, action.isExact = true)
    (readable : staysReadable world context (matchingRules rules path) text = true)
    (readableAgain : staysReadable world context (matchingRules rules path)
      (process world rules path text context).text = true)
    (agrees : ∀ attempt ∈ attempts world context (matchingRules rules path) text,
      attempt.Agrees unchanged context)
    (agreesAgain : ∀ attempt ∈ attempts world context (matchingRules rules path)
      (process world rules path text context).text, attempt.Agrees unchanged context) :
    let once := process world rules path text context
    let twice := process world rules path once.text context
    ∃ changed last, HoldsObject once.text changed ∧ HoldsObject twice.text last ∧
      likeness.alike (.map last) (.map changed) ∧
      (last = changed → once.text = text ∨ twice.text = once.text) := by
  obtain ⟨changed, first⟩ :=
    process_leads unchanged holds plain structural carriesExact readable agrees
  obtain ⟨last, second⟩ :=
    process_leads unchanged first.holds plain structural carriesExact readableAgain agreesAgain
  have valid : likeness.Valid (writes context (matchingRules rules path)) := by
    intro write member
    refine reflexive _ (isKeyed_of_mem_writes context (fun rule inMatching => ?_) member)
    exact carriesExact rule (List.mem_filter.mp inMatching).1
  refine ⟨changed, last, first.holds, second.holds,
    Leads.alike_of_twice likeness valid (reflexive _ holds.keyed) first second, ?_⟩
  rintro rfl
  exact first.text_eq second

end Twice

/-- A second run of rules that replace, fill in and append values changes nothing but the order
of keys. So it leaves the text as it is exactly if it leaves the order of keys, and it does so
if no value that either run meets differs in the order of its keys only from the one to be
written. -/
theorem process_twice (world : World) (context : Context) (rules : List Rule)
    (path text : List Char) (entries : List (String × Tree))
    (read : Json.readTree text = .ok (.map entries))
    (whole : (Tree.map entries).isWhole = true)
    (plain : ∀ rule ∈ rules, rule.isPlain = true)
    (structural : ∀ rule ∈ rules, ∀ action ∈ rule.actions, action.isStructural = true)
    (carriesExact : ∀ rule ∈ rules, ∀ action ∈ rule.actions, action.isExact = true)
    (readable : staysReadable world context (matchingRules rules path) text = true)
    (readableAgain : staysReadable world context (matchingRules rules path)
      (process world rules path text context).text = true) :
    let once := process world rules path text context
    let twice := process world rules path once.text context
    ∃ first second, Document.parse once.text = .ok first ∧
      Document.parse twice.text = .ok second ∧ second.root.same first.root = true ∧
      (twice.changed = false ∧ twice.text = once.text ↔ second.root = first.root) ∧
      (meetsReordered world context (matchingRules rules path) text = false →
        meetsReordered world context (matchingRules rules path) once.text = false →
        twice.changed = false ∧ twice.text = once.text) := by
  intro once twice
  have start : HoldsObject text entries := ⟨read, whole⟩
  obtain ⟨changed, last, holdsOnce, holdsTwice, ⟨same, -⟩, settled⟩ :=
    process_twice_alike Likeness.upToOrder
      (fun tree keyed => ⟨Tree.same_refl keyed, keyed, keyed⟩) start plain structural carriesExact
      readable readableAgain (fun _ _ _ _ _ _ _ _ _ _ _ => rfl) (fun _ _ _ _ _ _ _ _ _ _ _ => rfl)
  have unmoved : last = changed → twice.changed = false ∧ twice.text = once.text := by
    intro sameObject
    have equal : twice.text = once.text := by
      rcases settled sameObject with unchangedText | sameText
      · -- The first run has done nothing, and the second is the same run.
        exact congrArg (fun current => (process world rules path current context).text)
          unchangedText
      · exact sameText
    exact ⟨bne_eq_false_iff_eq.mpr equal, equal⟩
  refine ⟨_, _, holdsOnce.parse, holdsTwice.parse, same, ?_, ?_⟩
  · constructor
    · rintro ⟨-, equal⟩
      have alsoHolds : HoldsObject once.text last := equal ▸ holdsTwice
      exact congrArg Tree.map (alsoHolds.unique holdsOnce)
    · exact fun sameRoot => unmoved (Tree.map.inj sameRoot)
  · intro ordered orderedAgain
    have agrees : ∀ {current : List Char},
        meetsReordered world context (matchingRules rules path) current = false →
        ∀ attempt ∈ attempts world context (matchingRules rules path) current,
          attempt.Agrees (fun left right => decide (left = right)) context :=
      fun steady attempt member =>
        Attempt.agrees_exact (by simpa using List.any_eq_false.mp steady attempt member)
    obtain ⟨others, final, alsoOnce, alsoTwice, ⟨equal, -⟩, -⟩ :=
      process_twice_alike Likeness.exact (fun _ keyed => ⟨rfl, keyed⟩) start plain structural
        carriesExact readable readableAgain (agrees ordered) (agrees orderedAgain)
    rw [alsoOnce.unique holdsOnce, alsoTwice.unique holdsTwice] at equal
    exact unmoved (Tree.map.inj equal)

private def emptyRoot : World := ⟨[], [], [], []⟩

private def secondTag : Context := ⟨"v2", "2026-01-15", [], false, none⟩

/-- A rule that writes a map and then one of its values. -/
private def pointRule : Rule :=
  Rule.new "order" ["*"]
    [.replaceValue "a" (.map [("x", .number (.integer 1)), ("y", .number (.integer 2))]),
      .replaceValue "a.x" (.number (.integer 5))]

/-- A run that adds the map leaves nothing to the second one. -/
theorem process_twice_on_empty_object :
    let once := process emptyRoot [pointRule] ['f'] ['\x7b', '\x7d'] secondTag
    let twice := process emptyRoot [pointRule] ['f'] once.text secondTag
    twice.changed = false ∧ twice.text = once.text := by
  intro once twice
  obtain ⟨_, _, -, -, -, -, steady⟩ := process_twice emptyRoot secondTag [pointRule] ['f']
    ['\x7b', '\x7d'] [] (ok_of_toOption (by decide +kernel)) (by decide +kernel)
    (by decide +kernel) (by decide +kernel) (by decide +kernel) (by decide +kernel)
    (by decide +kernel)
  exact steady (by decide +kernel) (by decide +kernel)

/-- The map is there with its keys in another order: the first run keeps this order and changes
a value, and the second one writes the map again. -/
theorem second_run_restores_order :
    ¬ ∀ (rules : List Rule) (path text : List Char) (entries : List (String × Tree)),
      Json.readTree text = .ok (.map entries) → (Tree.map entries).isWhole = true →
      (∀ rule ∈ rules, rule.isPlain = true) →
      (∀ rule ∈ rules, ∀ action ∈ rule.actions, action.isStructural = true) →
      (∀ rule ∈ rules, ∀ action ∈ rule.actions, action.isExact = true) →
      let once := process emptyRoot rules path text secondTag
      staysReadable emptyRoot secondTag (matchingRules rules path) text = true →
      staysReadable emptyRoot secondTag (matchingRules rules path) once.text = true →
      (process emptyRoot rules path once.text secondTag).changed = false := by
  intro idempotent
  have quiet := idempotent [pointRule] ['f'] "\x7b\"a\":\x7b\"y\":2,\"x\":1\x7d\x7d".toList
    [("a", .map [("y", .number (.integer 2)), ("x", .number (.integer 1))])]
    (ok_of_toOption (by decide +kernel)) (by decide +kernel) (by decide +kernel)
    (by decide +kernel) (by decide +kernel) (by decide +kernel) (by decide +kernel)
  revert quiet
  decide +kernel

end Engine

end ReleaseRules
