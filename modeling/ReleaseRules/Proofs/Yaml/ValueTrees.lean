import ReleaseRules.Proofs.Document.Entries
import ReleaseRules.Proofs.Document.Reading

/-!
Contract: the trees of values, and the values that have none.

Owns:
- valid values: integers have 64 bits, and no mapping has two equal keys; what is read is valid;
- the parts of a value in document order, and why no tree holds a part;
- a value has a tree exactly if trees hold all its parts, and the tree denotes the value.

Does not own: the texts that values are read from.

The entries of a mapping are inserted one by one, where an equal key would take the place of the
entry before it. Nothing is lost because keys that are texts are equal only if the texts are.
-/

namespace ReleaseRules.Yaml.Value

open Number (Floating)

/-! ## Valid values -/

mutual

/-- Whether a value is one that documents have: its integers have 64 bits, and no two keys of a
mapping are equal. -/
def isValid : Value → Bool
  | .integer value => exactInteger value
  | .sequence items => areValidItems items
  | .mapping entries => areValidEntries [] entries
  | .tagged _ value => isValid value
  | _ => true

/-- Whether all items are valid. -/
def areValidItems : List Value → Bool
  | [] => true
  | item :: rest => isValid item && areValidItems rest

/-- Whether all entries are valid, and their keys differ from each other and from those before. -/
def areValidEntries (seen : List Value) : List (Value × Value) → Bool
  | [] => true
  | (key, value) :: rest =>
      isValid key && !seen.any (same key) && isValid value && areValidEntries (key :: seen) rest

end

theorem isValid_of_ofScalar {scalar : Scalar} {value : Value} (read : ofScalar scalar = .ok value) :
    value.isValid = true := by
  cases scalar with
  | integer number =>
      rw [ofScalar] at read
      split at read
      · rename_i exact
        cases read
        rwa [isValid]
      · cases read
  | _ =>
      cases read
      rfl

theorem isValid_underLocalTag (tag : Option String) (value : Value) :
    (underLocalTag tag value).isValid = value.isValid := by
  rw [underLocalTag]
  split
  · rw [isValid]
  · rfl

mutual

/-- What is read is valid: large integers and repeated keys are refused. -/
theorem isValid_of_ofContent (content : Content) {value : Value}
    (read : ofContent content = .ok value) : value.isValid = true := by
  match content with
  | .absent =>
      cases read
      rfl
  | .unreachable reason => cases read
  | .scalar none style characters => exact isValid_of_ofScalar read
  | .scalar (some tag) style characters =>
      rw [ofContent] at read
      split at read
      · obtain ⟨scalar, readScalar, done⟩ := ok_of_bind read
        cases done
        rw [isValid]
        exact isValid_of_ofScalar readScalar
      · obtain ⟨scalar, -, readScalar⟩ := ok_of_bind read
        exact isValid_of_ofScalar readScalar
  | .sequence tag items =>
      obtain ⟨values, readItems, done⟩ := ok_of_bind read
      cases done
      rw [isValid_underLocalTag, isValid]
      exact areValidItems_of_ofItems items readItems
  | .mapping tag entries =>
      obtain ⟨values, readEntries, done⟩ := ok_of_bind read
      cases done
      rw [isValid_underLocalTag, isValid]
      exact areValidEntries_of_ofEntries entries readEntries

theorem areValidItems_of_ofItems (items : List Content) {values : List Value}
    (read : ofItems items = .ok values) : areValidItems values = true := by
  match items with
  | [] =>
      cases read
      rfl
  | item :: rest =>
      obtain ⟨first, readFirst, read⟩ := ok_of_bind read
      obtain ⟨others, readOthers, done⟩ := ok_of_bind read
      cases done
      rw [areValidItems, isValid_of_ofContent item readFirst,
        areValidItems_of_ofItems rest readOthers]
      rfl

theorem areValidEntries_of_ofEntries (entries : List (Content × Content)) {seen : List Value}
    {values : List (Value × Value)} (read : ofEntries seen entries = .ok values) :
    areValidEntries seen values = true := by
  match entries with
  | [] =>
      cases read
      rfl
  | (key, value) :: rest =>
      obtain ⟨keyValue, readKey, read⟩ := ok_of_bind read
      split at read
      · cases read
      · rename_i fresh
        obtain ⟨itsValue, readValue, read⟩ := ok_of_bind read
        obtain ⟨others, readOthers, done⟩ := ok_of_bind read
        cases done
        rw [areValidEntries, isValid_of_ofContent key readKey, Bool.eq_false_iff.mpr fresh,
          isValid_of_ofContent value readValue, areValidEntries_of_ofEntries rest readOthers]
        rfl

end

/-! ## Entries and integers -/

/-- A tree has the keys of its mapping, in the same order. -/
theorem keys_of_entryTrees {entries : List (Value × Value)} {trees : List (String × Tree)}
    (held : entryTrees entries = .ok trees) :
    entries.map Prod.fst = (Tree.keys trees).map Value.text := by
  induction entries generalizing trees with
  | nil =>
      cases held
      rfl
  | cons entry rest inductionHypothesis =>
      obtain ⟨key, value⟩ := entry
      cases key with
      | text name =>
          obtain ⟨tree, -, held⟩ := ok_of_bind held
          obtain ⟨others, heldOthers, done⟩ := ok_of_bind held
          cases done
          exact congrArg (Value.text name :: ·) (inductionHypothesis heldOthers)
      | _ => cases held

/-- Keys that are texts are different texts, and none of them has come before. -/
theorem nodup_of_areValidEntries {seen : List Value} {entries : List (Value × Value)}
    {names : List String} (valid : areValidEntries seen entries = true)
    (named : entries.map Prod.fst = names.map Value.text) :
    names.Nodup ∧ ∀ name ∈ names, Value.text name ∉ seen := by
  induction entries generalizing seen names with
  | nil =>
      obtain rfl : names = [] := by simpa using named.symm
      exact ⟨List.nodup_nil, by simp⟩
  | cons entry rest inductionHypothesis =>
      obtain ⟨key, value⟩ := entry
      cases names with
      | nil => cases named
      | cons name others =>
          obtain ⟨rfl, namedRest⟩ := List.cons.inj named
          simp only [areValidEntries, Bool.and_eq_true, Bool.not_eq_true',
            List.any_eq_false] at valid
          obtain ⟨⟨⟨-, fresh⟩, -⟩, validRest⟩ := valid
          obtain ⟨distinct, apart⟩ := inductionHypothesis validRest namedRest
          have new : name ∉ others := fun again => apart name again List.mem_cons_self
          refine ⟨List.nodup_cons.mpr ⟨new, distinct⟩, ?_⟩
          intro other member
          rcases List.mem_cons.mp member with rfl | later
          · intro known
            exact fresh _ known (by simp [same])
          · exact fun known => apart other later (List.mem_cons_of_mem _ known)

/-- No entry of a valid mapping takes the place of another one. -/
theorem collect_of_entryTrees {seen : List Value} {entries : List (Value × Value)}
    {trees : List (String × Tree)} (valid : areValidEntries seen entries = true)
    (held : entryTrees entries = .ok trees) : Tree.collect trees = trees :=
  Tree.collect_of_nodup (nodup_of_areValidEntries valid (keys_of_entryTrees held)).1

/-- An integer of 64 bits, signed or unsigned, is kept as it is. -/
theorem ofInteger_of_exactInteger {value : Int} (exact : exactInteger value = true) :
    ofInteger value = .ok (.number (.integer value)) := by
  simp only [exactInteger, Bool.and_eq_true, decide_eq_true_eq] at exact
  by_cases small : value ≤ 9223372036854775807
  · have isSigned : signed? value = some value := if_pos ⟨exact.1, small⟩
    rw [ofInteger, isSigned]
  · have notSigned : signed? value = none := if_neg fun within => small within.2
    have isUnsigned : unsigned? value = some value := if_pos ⟨by omega, exact.2⟩
    rw [ofInteger, notSigned]
    dsimp only
    rw [isUnsigned]

/-! ## Parts -/

/-- A part of a value: a key of a mapping, or any other value. -/
inductive Part where
  | key (value : Value)
  | value (value : Value)

/-- Why no tree holds a part: keys have to be texts, and all other values are neither tagged nor
numbers that are not finite. -/
def Part.refusal? : Part → Option TreeError
  | .key (.text _) => none
  | .key foreign => some (.foreignKey foreign)
  | .value (.tagged name _) => some (.tagged name)
  | .value (.floating (.finite _)) => none
  | .value (.floating number) => some (.unsupportedNumber number)
  | .value _ => none

mutual

/-- The parts inside of a value in document order. -/
def inside : Value → List Part
  | .sequence items => itemParts items
  | .mapping entries => entryParts entries
  | .tagged _ value => .value value :: inside value
  | _ => []

/-- The parts of items, each in front of what is inside of it. -/
def itemParts : List Value → List Part
  | [] => []
  | item :: rest => .value item :: (inside item ++ itemParts rest)

/-- The parts of entries, a key with what is inside of it in front of its value. -/
def entryParts : List (Value × Value) → List Part
  | [] => []
  | (key, value) :: rest =>
      .key key :: (inside key ++ .value value :: (inside value ++ entryParts rest))

end

/-- All parts of a value in document order, itself first. -/
def parts (value : Value) : List Part := .value value :: inside value

mutual

/-- The value that a tree denotes. -/
def ofTree : Tree → Value
  | .null => .null
  | .bool value => .bool value
  | .number (.integer value) => .integer value
  | .number (.floating value) => .floating (.finite value)
  | .text value => .text value
  | .list items => .sequence (ofItemTrees items)
  | .map entries => .mapping (ofEntryTrees entries)

/-- The values that items denote. -/
def ofItemTrees : List Tree → List Value
  | [] => []
  | item :: rest => ofTree item :: ofItemTrees rest

/-- The values that entries denote. -/
def ofEntryTrees : List (String × Tree) → List (Value × Value)
  | [] => []
  | (key, value) :: rest => (.text key, ofTree value) :: ofEntryTrees rest

end

/-- Parts are held by something that denotes what they are the parts of, or the first one that is
not held is reported. -/
def IsFaithful {α β : Type} (parts : List Part) (denotes : α → β) (original : β) :
    Except TreeError α → Prop
  | .ok held => (∀ part ∈ parts, part.refusal? = none) ∧ denotes held = original
  | .error reason => ∃ before part after, parts = before ++ part :: after ∧
      (∀ earlier ∈ before, earlier.refusal? = none) ∧ part.refusal? = some reason

section Faithful

variable {α β γ δ : Type} {first rest : List Part} {denotes : α → β} {original : β}
  {result : Except TreeError α}

/-- A part that is refused in front of all others is the one to report. -/
theorem isFaithful_error {part : Part} {reason : TreeError} (refused : part.refusal? = some reason)
    (rest : List Part) (denotes : α → β) (original : β) :
    IsFaithful (part :: rest) denotes original (.error reason) :=
  ⟨[], part, rest, rfl, by simp, refused⟩

/-- Parts that are held in front of others make no difference. -/
theorem IsFaithful.append (held : ∀ part ∈ first, part.refusal? = none)
    (faithful : IsFaithful rest denotes original result) :
    IsFaithful (first ++ rest) denotes original result := by
  cases result with
  | ok value =>
      obtain ⟨heldRest, same⟩ := faithful
      refine ⟨?_, same⟩
      intro part member
      exact (List.mem_append.mp member).elim (held part) (heldRest part)
  | error reason =>
      obtain ⟨before, part, after, rfl, earlier, refused⟩ := faithful
      refine ⟨first ++ before, part, after, (List.append_assoc ..).symm, ?_, refused⟩
      intro other member
      exact (List.mem_append.mp member).elim (held other) (earlier other)

/-- Where the first parts are reported, the others are not reached. -/
theorem IsFaithful.error_append {reason : TreeError} (rest : List Part) (denotesAll : γ → δ)
    (all : δ) (faithful : IsFaithful first denotes original (.error reason)) :
    IsFaithful (first ++ rest) denotesAll all (.error reason) := by
  obtain ⟨before, part, after, rfl, earlier, refused⟩ := faithful
  exact ⟨before, part, after ++ rest, by simp, earlier, refused⟩

/-- One step after another: the parts of the first one come first. -/
theorem IsFaithful.bind {next : α → Except TreeError γ} {denotesAll : γ → δ} {all : δ}
    (faithful : IsFaithful first denotes original result)
    (later : ∀ held, result = .ok held → denotes held = original →
      IsFaithful rest denotesAll all (next held)) :
    IsFaithful (first ++ rest) denotesAll all (result >>= next) := by
  cases result with
  | error reason => exact faithful.error_append rest denotesAll all
  | ok held => exact .append faithful.1 (later held rfl faithful.2)

/-- What is made of something held has no parts of its own. -/
theorem IsFaithful.map {made : α → γ} {denotesAll : γ → δ} {all : δ}
    (faithful : IsFaithful first denotes original result)
    (same : ∀ held, result = .ok held → denotes held = original → denotesAll (made held) = all) :
    IsFaithful first denotesAll all (do return made (← result)) := by
  rw [← List.append_nil first]
  apply faithful.bind
  intro held isHeld denoted
  exact ⟨by simp, same held isHeld denoted⟩

end Faithful

mutual

theorem isFaithful_toTree (value : Value) (valid : value.isValid = true) :
    IsFaithful value.parts ofTree value value.toTree := by
  -- One case for each kind of value; items and entries are held one after the other.
  match value with
  | .null => exact ⟨by simp [parts, inside, Part.refusal?], rfl⟩
  | .bool _ => exact ⟨by simp [parts, inside, Part.refusal?], rfl⟩
  | .text _ => exact ⟨by simp [parts, inside, Part.refusal?], rfl⟩
  | .integer number =>
      rw [toTree, ofInteger_of_exactInteger valid]
      exact ⟨by simp [parts, inside, Part.refusal?], rfl⟩
  | .floating (.finite _) => exact ⟨by simp [parts, inside, Part.refusal?], rfl⟩
  | .floating (.infinity _) => exact isFaithful_error rfl _ _ _
  | .floating .notANumber => exact isFaithful_error rfl _ _ _
  | .tagged _ _ => exact isFaithful_error rfl _ _ _
  | .sequence items =>
      have here : ∀ part ∈ [Part.value (.sequence items)], part.refusal? = none := by
        simp [Part.refusal?]
      rw [toTree]
      apply IsFaithful.append here
      apply (isFaithful_itemTrees items valid).map
      intro trees _ denoted
      rw [ofTree, denoted]
  | .mapping entries =>
      have here : ∀ part ∈ [Part.value (.mapping entries)], part.refusal? = none := by
        simp [Part.refusal?]
      rw [toTree]
      apply IsFaithful.append here
      apply (isFaithful_entryTrees entries [] valid).map
      intro trees held denoted
      rw [ofTree, collect_of_entryTrees valid held, denoted]

theorem isFaithful_itemTrees (items : List Value) (valid : areValidItems items = true) :
    IsFaithful (itemParts items) ofItemTrees items (itemTrees items) := by
  match items with
  | [] => exact ⟨by simp [itemParts], rfl⟩
  | item :: rest =>
      obtain ⟨validItem, validRest⟩ := Bool.and_eq_true_iff.mp valid
      have split : itemParts (item :: rest) = item.parts ++ itemParts rest := rfl
      rw [itemTrees, split]
      apply (isFaithful_toTree item validItem).bind
      intro tree _ denotedItem
      apply (isFaithful_itemTrees rest validRest).map
      intro trees _ denotedRest
      rw [ofItemTrees, denotedItem, denotedRest]

theorem isFaithful_entryTrees (entries : List (Value × Value)) (seen : List Value)
    (valid : areValidEntries seen entries = true) :
    IsFaithful (entryParts entries) ofEntryTrees entries (entryTrees entries) := by
  match entries with
  | [] => exact ⟨by simp [entryParts], rfl⟩
  | (key, value) :: rest =>
      cases key with
      | text name =>
          simp only [areValidEntries, Bool.and_eq_true] at valid
          obtain ⟨⟨-, validValue⟩, validRest⟩ := valid
          have split : entryParts ((.text name, value) :: rest) =
              [.key (.text name)] ++ (value.parts ++ entryParts rest) := rfl
          have key : ∀ part ∈ [Part.key (.text name)], part.refusal? = none := by
            simp [Part.refusal?]
          rw [entryTrees, split]
          apply IsFaithful.append key
          apply (isFaithful_toTree value validValue).bind
          intro tree _ denotedValue
          apply (isFaithful_entryTrees rest (.text name :: seen) validRest).map
          intro trees _ denotedRest
          rw [ofEntryTrees, denotedValue, denotedRest]
      | _ => exact isFaithful_error rfl _ _ _

end

/-- **Faithful trees.** A value has a tree exactly if none of its parts is tagged, a number that is
not finite or a key that is no text. The tree denotes the value itself: every scalar with its kind
and its number, and every item and entry in its place. Of a value without a tree, the first part
that no tree holds is reported, in document order and a key before its value. -/
theorem toTree_is_faithful {value : Value} (valid : value.isValid = true) :
    ((∃ tree, value.toTree = .ok tree) ↔ ∀ part ∈ value.parts, part.refusal? = none) ∧
      (∀ tree, value.toTree = .ok tree → ofTree tree = value) ∧
      ∀ reason, value.toTree = .error reason →
        ∃ before part after, value.parts = before ++ part :: after ∧
          (∀ earlier ∈ before, earlier.refusal? = none) ∧ part.refusal? = some reason := by
  have faithful := isFaithful_toTree value valid
  cases held : value.toTree with
  | ok tree =>
      rw [held] at faithful
      obtain ⟨all, same⟩ := faithful
      refine ⟨iff_of_true ⟨tree, rfl⟩ all, ?_, ?_⟩
      · rintro other isTree
        cases isTree
        exact same
      · rintro reason failed
        cases failed
  | error reason =>
      rw [held] at faithful
      obtain ⟨before, part, after, shape, earlier, refused⟩ := faithful
      refine ⟨iff_of_false ?_ ?_, ?_, ?_⟩
      · rintro ⟨tree, isTree⟩
        cases isTree
      · intro all
        have none := all part (by simp [shape])
        cases refused.symm.trans none
      · rintro tree isTree
        cases isTree
      · rintro other failed
        cases failed
        exact ⟨before, part, after, shape, earlier, refused⟩

/-- The least and the greatest integer, and one key on two levels. -/
private def nestedValue : Value :=
  .mapping [
    (.text "a", .sequence [.integer (-9223372036854775808), .integer 18446744073709551615]),
    (.text "b", .mapping [(.text "a", .floating (.finite (.zero true)))])]

/-- A number as a key in front of a tagged value and of a number that is not finite. -/
private def numberedValue : Value :=
  .mapping [(.text "a", .sequence [.null]), (.integer 200, .tagged "x" .null),
    (.text "b", .floating .notANumber)]

/-- The bounds of integers are kept, and a key is reported in front of its tagged value. -/
theorem toTree_is_faithful_at_bounds_and_keys :
    (nestedValue.isValid = true ∧
      ∃ tree, nestedValue.toTree = .ok tree ∧ ofTree tree = nestedValue) ∧
    numberedValue.isValid = true ∧
      ∃ before part after, numberedValue.parts = before ++ part :: after ∧
        (∀ earlier ∈ before, earlier.refusal? = none) ∧
        part.refusal? = some (.foreignKey (.integer 200)) := by
  have validNested : nestedValue.isValid = true := rfl
  have validNumbered : numberedValue.isValid = true := rfl
  obtain ⟨succeeds, denotes, -⟩ := toTree_is_faithful validNested
  obtain ⟨-, -, reports⟩ := toTree_is_faithful validNumbered
  have held : ∀ part ∈ nestedValue.parts, part.refusal? = none := by
    simp [nestedValue, parts, inside, itemParts, entryParts, Part.refusal?]
  obtain ⟨tree, isTree⟩ := succeeds.mpr held
  have failed : numberedValue.toTree = .error (.foreignKey (.integer 200)) := rfl
  exact ⟨⟨validNested, tree, isTree, denotes tree isTree⟩, validNumbered, reports _ failed⟩

end ReleaseRules.Yaml.Value
