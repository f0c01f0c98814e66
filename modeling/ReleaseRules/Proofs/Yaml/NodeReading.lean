import ReleaseRules.Proofs.Yaml.WrittenNodes

/-!
Contract: bare nodes are read back from their tokens.

Owns:
- nodes, items and entries in front of other tokens;
- the document of a bare node.

Does not own: the text of the tokens.
-/

namespace ReleaseRules.Yaml

open Node (readBlockItems readIndentless readBlockEntries endsKey Handles Labels)

/-- A bare node starts with a token that ends no key; only a list without marks of its own starts
with an item. -/
theorem nodeTokens_cons {node : Node} (bare : isBare node = true) (indentless : Bool) :
    ∃ first others, nodeTokens indentless node = first :: others ∧
      (∀ rest, endsKey (first :: rest) = false) ∧
      (indentless = false → first ≠ .blockEntry ∧ first ≠ .blockEnd) := by
  match node with
  | .scalar label tag style text => exact ⟨_, _, rfl, fun _ => rfl, by simp⟩
  | .sequence label tag [] => exact ⟨_, _, rfl, fun _ => rfl, by simp⟩
  | .sequence label tag (item :: rest) =>
      cases indentless with
      | true => exact ⟨_, _, rfl, fun _ => rfl, by simp⟩
      | false => exact ⟨_, _, rfl, fun _ => rfl, by simp⟩
  | .mapping label tag [] => exact ⟨_, _, rfl, fun _ => rfl, by simp⟩
  | .mapping label tag (entry :: rest) => exact ⟨_, _, rfl, fun _ => rfl, by simp⟩

section Steps

variable {handles : Handles} {fuel : Nat} {labels : Labels} {rest : List Token}
  {place : Node.Place}

private theorem read_scalar (style : ScalarStyle) (text : List Char) :
    Node.read handles (fuel + 1) place labels (.scalar style text :: rest) =
      .ok (.scalar none none style text, labels, rest) := rfl

private theorem read_emptySequence :
    Node.read handles (fuel + 2) place labels (.flowSequenceStart :: .flowSequenceEnd :: rest) =
      .ok (.sequence none none [], labels, rest) := rfl

private theorem read_emptyMapping :
    Node.read handles (fuel + 2) place labels (.flowMappingStart :: .flowMappingEnd :: rest) =
      .ok (.mapping none none [], labels, rest) := rfl

private theorem read_indentless {items : List Node} {more after : List Token}
    (later :
      readIndentless handles fuel labels (.blockEntry :: more) = .ok (items, labels, after)) :
    Node.read handles (fuel + 1) ⟨true, true⟩ labels (.blockEntry :: more) =
      .ok (.sequence none none items, labels, after) := by
  rw [Node.read]
  · simp [Node.readProperties, Node.labelFor, later, bind, Except.bind, pure, Except.pure]
  · simp

private theorem read_blockSequence {items : List Node} {more after : List Token} {allowed : Bool}
    (later : readBlockItems handles fuel labels more = .ok (items, labels, after)) :
    Node.read handles (fuel + 1) ⟨true, allowed⟩ labels (.blockSequenceStart :: more) =
      .ok (.sequence none none items, labels, after) := by
  rw [Node.read]
  · simp [Node.readProperties, Node.labelFor, later, bind, Except.bind, pure, Except.pure]
  · simp

private theorem read_blockMapping {entries : List (Node × Node)} {more after : List Token}
    {allowed : Bool}
    (later : readBlockEntries handles fuel labels more = .ok (entries, labels, after)) :
    Node.read handles (fuel + 1) ⟨true, allowed⟩ labels (.blockMappingStart :: more) =
      .ok (.mapping none none entries, labels, after) := by
  rw [Node.read]
  · simp [Node.readProperties, Node.labelFor, later, bind, Except.bind, pure, Except.pure]
  · simp

private theorem readBlockItems_step {item : Node} {items : List Node} {first : Token}
    {others after : List Token} (starts : first ≠ .blockEntry ∧ first ≠ .blockEnd)
    (here : Node.read handles fuel ⟨true, false⟩ labels (first :: others) =
      .ok (item, labels, after))
    (later : readBlockItems handles fuel labels after = .ok (items, labels, rest)) :
    readBlockItems handles (fuel + 1) labels (.blockEntry :: first :: others) =
      .ok (item :: items, labels, rest) := by
  rw [readBlockItems]
  · simp [here, later, bind, Except.bind, pure, Except.pure]
  · intro tail same
    exact starts.1 (List.cons.inj same).1
  · intro tail same
    exact starts.2 (List.cons.inj same).1

private theorem readIndentless_step {item : Node} {items : List Node} {first : Token}
    {others after : List Token} (starts : first ≠ .blockEntry)
    (goesOn : endsKey (first :: others) = false)
    (here : Node.read handles fuel ⟨true, false⟩ labels (first :: others) =
      .ok (item, labels, after))
    (later : readIndentless handles fuel labels after = .ok (items, labels, rest)) :
    readIndentless handles (fuel + 1) labels (.blockEntry :: first :: others) =
      .ok (item :: items, labels, rest) := by
  rw [readIndentless]
  · simp [goesOn, here, later, bind, Except.bind, pure, Except.pure]
  · intro tail same
    exact starts (List.cons.inj same).1

private theorem readIndentless_end (ends : rest.head? ≠ some .blockEntry) :
    readIndentless handles (fuel + 1) labels rest = .ok ([], labels, rest) := by
  rw [readIndentless]
  intro tail same
  exact ends (by rw [same]; rfl)

private theorem readBlockEntries_step {key value : Node} {entries : List (Node × Node)}
    {tokens middle after : List Token} (keyed : endsKey tokens = false)
    (valued : endsKey middle = false)
    (readKey : Node.read handles fuel ⟨true, true⟩ labels tokens =
      .ok (key, labels, .value :: middle))
    (readValue : Node.read handles fuel ⟨true, true⟩ labels middle = .ok (value, labels, after))
    (later : readBlockEntries handles fuel labels after = .ok (entries, labels, rest)) :
    readBlockEntries handles (fuel + 1) labels (.key :: tokens) =
      .ok ((key, value) :: entries, labels, rest) := by
  rw [readBlockEntries]
  simp [keyed, valued, readKey, readValue, later, bind, Except.bind, pure, Except.pure]

end Steps

theorem nodeTokens_sequence (indentless : Bool) (label : Option Nat) (tag : Option String)
    (item : Node) (rest : List Node) :
    nodeTokens indentless (.sequence label tag (item :: rest)) =
      if indentless then itemTokens (item :: rest)
      else .blockSequenceStart :: (itemTokens (item :: rest) ++ [.blockEnd]) := rfl

theorem nodeTokens_mapping (indentless : Bool) (label : Option Nat) (tag : Option String)
    (entry : Node × Node) (rest : List (Node × Node)) :
    nodeTokens indentless (.mapping label tag (entry :: rest)) =
      .blockMappingStart :: (entryTokens (entry :: rest) ++ [.blockEnd]) := rfl

/-- Entries in front of the end of their mapping start no item. -/
theorem entryTokens_head (entries : List (Node × Node)) (rest : List Token) :
    (entryTokens entries ++ .blockEnd :: rest).head? ≠ some .blockEntry := by
  match entries with
  | [] => simp [entryTokens]
  | entry :: others => simp [entryTokens]

variable (handles : Handles)

mutual

/-- A bare node is read back in front of other tokens. -/
theorem read_nodeTokens (node : Node) (bare : isBare node = true) (indentless allowed : Bool)
    (labels : Labels) (rest : List Token) (budget : Nat)
    (enough : 3 * (nodeTokens indentless node).length ≤ budget)
    (place : indentless = true → allowed = true ∧ rest.head? ≠ some .blockEntry) :
    Node.read handles budget ⟨true, allowed⟩ labels (nodeTokens indentless node ++ rest) =
      .ok (node, labels, rest) := by
  match node with
  | .scalar label tag style text =>
      simp only [isBare, Bool.and_eq_true, Option.isNone_iff_eq_none] at bare
      obtain ⟨rfl, rfl⟩ := bare
      obtain ⟨fuel, rfl⟩ : ∃ fuel, budget = fuel + 1 := ⟨budget - 1, by
        simp only [nodeTokens, List.length_singleton] at enough; omega⟩
      exact read_scalar style text
  | .sequence label tag [] =>
      simp only [isBare, Bool.and_eq_true, Option.isNone_iff_eq_none] at bare
      obtain ⟨⟨rfl, rfl⟩, -⟩ := bare
      obtain ⟨fuel, rfl⟩ : ∃ fuel, budget = fuel + 2 := ⟨budget - 2, by
        simp [nodeTokens] at enough; omega⟩
      exact read_emptySequence
  | .mapping label tag [] =>
      simp only [isBare, Bool.and_eq_true, Option.isNone_iff_eq_none] at bare
      obtain ⟨⟨rfl, rfl⟩, -⟩ := bare
      obtain ⟨fuel, rfl⟩ : ∃ fuel, budget = fuel + 2 := ⟨budget - 2, by
        simp [nodeTokens] at enough; omega⟩
      exact read_emptyMapping
  | .sequence label tag (item :: others) =>
      simp only [isBare, Bool.and_eq_true, Option.isNone_iff_eq_none] at bare
      obtain ⟨⟨rfl, rfl⟩, bareItems⟩ := bare
      rw [nodeTokens_sequence] at enough ⊢
      cases indentless with
      | true =>
          obtain ⟨rfl, ends⟩ := place rfl
          rw [if_pos rfl] at enough ⊢
          have size : 0 < (itemTokens (item :: others)).length := by simp [itemTokens]
          obtain ⟨fuel, rfl⟩ : ∃ fuel, budget = fuel + 1 := ⟨budget - 1, by omega⟩
          have later := read_indentlessItems (item :: others) bareItems labels rest fuel
            (by omega) (by omega) ends
          exact read_indentless later
      | false =>
          rw [if_neg (by simp)] at enough ⊢
          rw [List.length_cons, List.length_append, List.length_singleton] at enough
          obtain ⟨fuel, rfl⟩ : ∃ fuel, budget = fuel + 1 := ⟨budget - 1, by omega⟩
          have later := read_itemTokens (item :: others) bareItems labels rest fuel (by omega)
          rw [List.cons_append, List.append_assoc, List.singleton_append]
          exact read_blockSequence later
  | .mapping label tag (entry :: others) =>
      simp only [isBare, Bool.and_eq_true, Option.isNone_iff_eq_none] at bare
      obtain ⟨⟨rfl, rfl⟩, bareEntries⟩ := bare
      rw [nodeTokens_mapping] at enough ⊢
      rw [List.length_cons, List.length_append, List.length_singleton] at enough
      obtain ⟨fuel, rfl⟩ : ∃ fuel, budget = fuel + 1 := ⟨budget - 1, by omega⟩
      have later := read_entryTokens (entry :: others) bareEntries labels rest fuel (by omega)
      rw [List.cons_append, List.append_assoc, List.singleton_append]
      exact read_blockMapping later
  | .alias _ => cases bare

/-- Bare items are read back in front of the end of their sequence. -/
theorem read_itemTokens (items : List Node) (bare : areBareItems items = true)
    (labels : Labels) (rest : List Token) (budget : Nat)
    (enough : 3 * (itemTokens items).length < budget) :
    readBlockItems handles budget labels (itemTokens items ++ .blockEnd :: rest) =
      .ok (items, labels, rest) := by
  obtain ⟨fuel, rfl⟩ : ∃ fuel, budget = fuel + 1 := ⟨budget - 1, by omega⟩
  match items with
  | [] => rfl
  | item :: others =>
      simp only [areBareItems, Bool.and_eq_true] at bare
      rw [itemTokens, List.length_cons, List.length_append] at enough
      have here := read_nodeTokens item bare.1 false false labels
        (itemTokens others ++ .blockEnd :: rest) fuel (by omega) (by simp)
      have later := read_itemTokens others bare.2 labels rest fuel (by omega)
      obtain ⟨first, more, same, -, starts⟩ := nodeTokens_cons bare.1 false
      rw [itemTokens, List.cons_append, List.append_assoc]
      rw [same, List.cons_append] at here ⊢
      exact readBlockItems_step (starts rfl) here later

/-- Bare items of a sequence without marks of its own are read back in front of a token that is
no item. -/
theorem read_indentlessItems (items : List Node) (bare : areBareItems items = true)
    (labels : Labels) (rest : List Token) (budget : Nat)
    (positive : 0 < budget) (enough : 3 * (itemTokens items).length ≤ budget + 1)
    (ends : rest.head? ≠ some .blockEntry) :
    readIndentless handles budget labels (itemTokens items ++ rest) =
      .ok (items, labels, rest) := by
  obtain ⟨fuel, rfl⟩ : ∃ fuel, budget = fuel + 1 := ⟨budget - 1, by omega⟩
  match items with
  | [] => exact readIndentless_end ends
  | item :: others =>
      simp only [areBareItems, Bool.and_eq_true] at bare
      rw [itemTokens, List.length_cons, List.length_append] at enough
      have here := read_nodeTokens item bare.1 false false labels (itemTokens others ++ rest) fuel
        (by omega) (by simp)
      have later := read_indentlessItems others bare.2 labels rest fuel (by omega) (by omega) ends
      obtain ⟨first, more, same, goesOn, starts⟩ := nodeTokens_cons bare.1 false
      rw [itemTokens, List.cons_append, List.append_assoc]
      rw [same, List.cons_append] at here ⊢
      exact readIndentless_step (starts rfl).1 (goesOn _) here later

/-- Bare keys and values are read back in front of the end of their mapping. -/
theorem read_entryTokens (entries : List (Node × Node)) (bare : areBareEntries entries = true)
    (labels : Labels) (rest : List Token) (budget : Nat)
    (enough : 3 * (entryTokens entries).length < budget) :
    readBlockEntries handles budget labels (entryTokens entries ++ .blockEnd :: rest) =
      .ok (entries, labels, rest) := by
  obtain ⟨fuel, rfl⟩ : ∃ fuel, budget = fuel + 1 := ⟨budget - 1, by omega⟩
  match entries with
  | [] => rfl
  | (key, value) :: others =>
      simp only [areBareEntries, Bool.and_eq_true] at bare
      obtain ⟨⟨bareKey, bareValue⟩, bareOthers⟩ := bare
      simp only [entryTokens, List.length_cons, List.length_append] at enough
      have readKey := read_nodeTokens key bareKey false true labels
        (.value :: (nodeTokens (isOnLine key) value ++
          (entryTokens others ++ .blockEnd :: rest))) fuel (by omega) (by simp)
      have readValue := read_nodeTokens value bareValue (isOnLine key) true labels
        (entryTokens others ++ .blockEnd :: rest) fuel (by omega)
        (fun _ => ⟨rfl, entryTokens_head others rest⟩)
      have later := read_entryTokens others bareOthers labels rest fuel (by omega)
      obtain ⟨firstOfKey, moreOfKey, sameKey, keyed, -⟩ := nodeTokens_cons bareKey false
      obtain ⟨firstOfValue, moreOfValue, sameValue, valued, -⟩ :=
        nodeTokens_cons bareValue (isOnLine key)
      rw [entryTokens, List.cons_append, List.append_assoc, List.cons_append, List.append_assoc]
      refine readBlockEntries_step ?_ ?_ readKey readValue later
      · rw [sameKey, List.cons_append]
        exact keyed _
      · rw [sameValue, List.cons_append]
        exact valued _

end

/-- A document starts with its mapping if no directive stands in front of it. -/
private theorem readDocument_mapping {first : Token} {others : List Token} {node : Node}
    (opens : first = .flowMappingStart ∨ first = .blockMappingStart)
    (root : Node.readRoot Node.defaultHandles (first :: others) = .ok (node, [])) :
    Node.readDocument (first :: others) = .ok (some node, []) := by
  obtain rfl | rfl := opens <;>
    simp [Node.readDocument, Node.readDirectives, root, bind, Except.bind, pure, Except.pure]

/-- A text with the tokens of a bare mapping has the mapping as its document. -/
theorem document_of_tokens {text : List Char} {label : Option Nat} {tag : Option String}
    {entries : List (Node × Node)} (bare : isBare (.mapping label tag entries) = true)
    (read : tokens text = .ok (nodeTokens false (.mapping label tag entries))) :
    Node.document text = .ok (some (.mapping label tag entries)) := by
  have root : Node.readRoot Node.defaultHandles (nodeTokens false (.mapping label tag entries)) =
      .ok (.mapping label tag entries, []) := by
    have here := read_nodeTokens Node.defaultHandles (.mapping label tag entries) bare false false
      [] [] (4 * (nodeTokens false (.mapping label tag entries)).length + 4) (by omega) (by simp)
    rw [List.append_nil] at here
    rw [Node.readRoot, here]
    rfl
  have whole : Node.readDocument (nodeTokens false (.mapping label tag entries)) =
      .ok (some (.mapping label tag entries), []) := by
    match entries with
    | [] => exact readDocument_mapping (.inl rfl) root
    | entry :: rest => exact readDocument_mapping (.inr rfl) root
  simp [Node.document, read, whole, Node.skipDocumentEnds, bind, Except.bind, pure, Except.pure]

end ReleaseRules.Yaml
