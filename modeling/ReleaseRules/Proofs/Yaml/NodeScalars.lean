import ReleaseRules.Proofs.Document.Reading

/-!
Contract: the scalars of a document that is read.

Owns:
- the scalars of a node, in document order;
- every one of them without a tag has a value, if the whole document has one.

Does not own: the values of scalars.
-/

namespace ReleaseRules.Yaml

namespace Node

mutual

/-- The scalars of a node, keys and values alike, in document order. -/
def scalars : Node → List (Option String × ScalarStyle × List Char)
  | .scalar _ tag style text => [(tag, style, text)]
  | .sequence _ _ items => itemScalars items
  | .mapping _ _ entries => entryScalars entries
  | .alias _ => []

/-- The scalars of items. -/
def itemScalars : List Node → List (Option String × ScalarStyle × List Char)
  | [] => []
  | item :: rest => scalars item ++ itemScalars rest

/-- The scalars of keys and values. -/
def entryScalars : List (Node × Node) → List (Option String × ScalarStyle × List Char)
  | [] => []
  | (key, value) :: rest => scalars key ++ scalars value ++ entryScalars rest

end

end Node

variable {anchors : List (Nat × Node)} {limit : Nat}

mutual

/-- Every scalar without a tag has a value where the content of its node has one. -/
theorem ofScalar_of_ofContent_expand : (node : Node) → ∀ (depth followed : Nat) (value : Value),
    Value.ofContent (Content.expand anchors limit depth followed node).1 = .ok value →
    ∀ (style : ScalarStyle) (text : List Char), (none, style, text) ∈ node.scalars →
      ∃ held, Value.ofScalar (.ofStyle style text) = .ok held
  | .scalar label tag style text => by
      intro depth followed value read otherStyle otherText member
      obtain ⟨rfl, rfl, rfl⟩ : none = tag ∧ otherStyle = style ∧ otherText = text := by
        simpa [Node.scalars] using member
      refine ⟨value, ?_⟩
      rw [Content.expand.eq_def] at read
      cases depth <;> simpa [Content.isAlias, Content.target, Value.ofContent] using read
  | .sequence label tag items => by
      intro depth followed value read style text member
      cases depth with
      | zero =>
          rw [Content.expand.eq_def] at read
          simp [Content.isAlias, Content.target, Value.ofContent] at read
      | succ depth =>
          rw [Content.expand.eq_def] at read
          simp only [Content.isAlias, Content.target, Value.ofContent, Bool.false_and,
            Bool.false_eq_true, if_false] at read
          obtain ⟨values, readItems, -⟩ := ok_of_bind read
          exact ofScalar_of_ofItems_expand items depth followed values readItems style text member
  | .mapping label tag entries => by
      intro depth followed value read style text member
      cases depth with
      | zero =>
          rw [Content.expand.eq_def] at read
          simp [Content.isAlias, Content.target, Value.ofContent] at read
      | succ depth =>
          rw [Content.expand.eq_def] at read
          simp only [Content.isAlias, Content.target, Value.ofContent, Bool.false_and,
            Bool.false_eq_true, if_false] at read
          obtain ⟨values, readEntries, -⟩ := ok_of_bind read
          exact ofScalar_of_ofEntries_expand entries depth followed [] values readEntries style text
            member
  | .alias label => fun _ _ _ _ _ _ member => nomatch member

theorem ofScalar_of_ofItems_expand : (items : List Node) → ∀ (depth followed : Nat)
    (values : List Value),
    Value.ofItems (Content.eachItem (Content.expand anchors limit depth) followed items).1 =
      .ok values →
    ∀ (style : ScalarStyle) (text : List Char), (none, style, text) ∈ Node.itemScalars items →
      ∃ held, Value.ofScalar (.ofStyle style text) = .ok held
  | [] => fun _ _ _ _ _ _ member => nomatch member
  | item :: rest => by
      intro depth followed values read style text member
      obtain ⟨first, readFirst, read⟩ := ok_of_bind read
      obtain ⟨others, readOthers, -⟩ := ok_of_bind read
      rcases List.mem_append.mp member with here | later
      · exact ofScalar_of_ofContent_expand item depth followed first readFirst style text here
      · exact ofScalar_of_ofItems_expand rest depth _ others readOthers style text later

theorem ofScalar_of_ofEntries_expand : (entries : List (Node × Node)) →
    ∀ (depth followed : Nat) (seen : List Value) (values : List (Value × Value)),
    Value.ofEntries seen
      (Content.eachEntry (Content.expand anchors limit depth) followed entries).1 = .ok values →
    ∀ (style : ScalarStyle) (text : List Char), (none, style, text) ∈ Node.entryScalars entries →
      ∃ held, Value.ofScalar (.ofStyle style text) = .ok held
  | [] => fun _ _ _ _ _ _ _ member => nomatch member
  | (key, value) :: rest => by
      intro depth followed seen values read style text member
      obtain ⟨first, readKey, read⟩ := ok_of_bind read
      dsimp only at read
      split at read
      · cases read
      · obtain ⟨held, readValue, read⟩ := ok_of_bind read
        obtain ⟨others, readOthers, -⟩ := ok_of_bind read
        rcases List.mem_append.mp member with front | later
        · rcases List.mem_append.mp front with inKey | inValue
          · exact ofScalar_of_ofContent_expand key depth followed first readKey style text inKey
          · exact ofScalar_of_ofContent_expand value depth _ held readValue style text inValue
        · exact ofScalar_of_ofEntries_expand rest depth _ _ others readOthers style text later

end

/-- Every scalar without a tag has a value in a content that is read. -/
theorem ofScalar_of_readTree {source : List Char} {root : Tree} {node : Node}
    (read : Document.readTree source .yaml = .ok root)
    (isDocument : Node.document source = .ok (some node)) {style : ScalarStyle} {text : List Char}
    (member : (none, style, text) ∈ node.scalars) :
    ∃ held, Value.ofScalar (.ofStyle style text) = .ok held := by
  rw [Document.readTree] at read
  split at read
  · cases read
  · rename_i value readValue
    obtain ⟨content, readContent, readValue⟩ := ok_of_bind readValue
    have isContent : content = Content.ofNode node := by
      rw [Content.read, isDocument] at readContent
      exact (Except.ok.inj readContent).symm
    rw [isContent] at readValue
    exact ofScalar_of_ofContent_expand node _ _ value readValue style text member

end ReleaseRules.Yaml
