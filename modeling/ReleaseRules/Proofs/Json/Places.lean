import ReleaseRules.Proofs.Document.Writing
import ReleaseRules.Proofs.Json.LiteralValues
import ReleaseRules.Proofs.Json.RoundTrip

/-!
Contract: where the values of a text stand.

Owns:
- the place of the value that segments lead to, the literal that stands there and its number;
- in a text that is read, the place of a path is read as the value of the path;
- in a written tree, the place of a path is the text of the value of the path.

Does not own: what literals denote, and which trees are written.
-/

namespace ReleaseRules

namespace Tree

/-! ## Entries in step -/

variable {α β : Type} {related : α → β → Prop}

/-- Entries with the same keys in the same order and related values. -/
def InStep (related : α → β → Prop) : List (String × α) → List (String × β) → Prop :=
  List.Forall₂ fun left right => left.1 = right.1 ∧ related left.2 right.2

theorem InStep.keys_eq {left : List (String × α)} {right : List (String × β)}
    (inStep : InStep related left right) : keys left = keys right := by
  induction inStep with
  | nil => rfl
  | cons first _ inductionHypothesis =>
      exact congrArg₂ List.cons first.1 inductionHypothesis

theorem InStep.insert {left : List (String × α)} {right : List (String × β)}
    (inStep : InStep related left right) (key : String) {value : α} {other : β}
    (isRelated : related value other) :
    InStep related (Tree.insert key value left) (Tree.insert key other right) := by
  induction inStep with
  | nil => exact .cons ⟨rfl, isRelated⟩ .nil
  | @cons one another _ _ first rest inductionHypothesis =>
      obtain ⟨name, old⟩ := one
      obtain ⟨otherName, otherOld⟩ := another
      obtain ⟨rfl, oldRelated⟩ := first
      by_cases same : name = key
      · simp only [Tree.insert, if_pos same]
        exact .cons ⟨rfl, isRelated⟩ rest
      · simp only [Tree.insert, if_neg same]
        exact .cons ⟨rfl, oldRelated⟩ inductionHypothesis

theorem InStep.collect {left : List (String × α)} {right : List (String × β)}
    (inStep : InStep related left right) : InStep related (collect left) (collect right) := by
  suffices every : ∀ {before : List (String × α)} {others : List (String × β)},
      InStep related before others →
      InStep related
        (left.foldl (fun collected entry => Tree.insert entry.1 entry.2 collected) before)
        (right.foldl (fun collected entry => Tree.insert entry.1 entry.2 collected) others) from
    every .nil
  induction inStep with
  | nil => exact fun start => start
  | @cons one another _ _ first _ inductionHypothesis =>
      intro before others start
      rw [List.foldl_cons, List.foldl_cons, ← first.1]
      exact inductionHypothesis (start.insert one.1 first.2)

theorem InStep.lookup {left : List (String × α)} {right : List (String × β)}
    (inStep : InStep related left right) (key : String) :
    (lookup key left = none ∧ lookup key right = none) ∨
      ∃ value other, lookup key left = some value ∧ lookup key right = some other ∧
        related value other := by
  induction inStep with
  | nil => exact .inl ⟨rfl, rfl⟩
  | @cons one another _ _ first _ inductionHypothesis =>
      obtain ⟨name, value⟩ := one
      obtain ⟨otherName, other⟩ := another
      obtain ⟨rfl, isRelated⟩ := first
      rw [lookup_cons, lookup_cons]
      by_cases same : name = key
      · rw [if_pos same, if_pos same]
        exact .inr ⟨value, other, rfl, rfl, isRelated⟩
      · rw [if_neg same, if_neg same]
        exact inductionHypothesis

end Tree

namespace Json

open ReleaseRules.Tree (InStep collect keys lookup)

/-! ## Places -/

/-- Read one value with the text that starts with it in the place of its data. -/
def readPlace (budget depth : Nat) (text : List Char) : Except ReadError (Datum × List Char) := do
  let (_, rest) ← readValue budget depth text
  return (.text (String.ofList (skipSpace text)), rest)

/-- The entries whose keys and values are texts. -/
def textEntries : List (Datum × Datum) → List (String × List Char)
  | [] => []
  | (.text key, .text value) :: rest => (key, value.toList) :: textEntries rest
  | _ :: rest => textEntries rest

/-- The text that starts with the value that segments lead to. As for the reader, the last entry
counts if a key is repeated. -/
def placeAt (budget : Nat) : Nat → List String → List Char → Option (List Char)
  | _, [], text => some (skipSpace text)
  | 0, _ :: _, _ => none
  | depth + 1, segment :: path, text =>
      match skipSpace text with
      | '\x7b' :: rest =>
          match readEntries (readPlace budget depth) budget rest with
          | .ok (entries, _) =>
              (lookup segment (collect (textEntries entries))).bind (placeAt budget depth path)
          | .error _ => none
      | _ => none

/-- The number literal that stands where segments lead, if one stands there. The values of a text
are not nested deeper than it has characters. -/
def literalAt? (text : List Char) (path : List String) : Option Literal :=
  (placeAt text.length (nestingLimit + text.length) path text).bind Literal.ofText?

/-- The rational number whose literal stands where segments lead. -/
def numberAt? (text : List Char) (path : List String) : Option ℚ :=
  (literalAt? text path).map Literal.value

/-- A reader of places is in step with the reader of values. -/
theorem readPlace_of_readValue {budget depth : Nat} {text rest : List Char} {datum : Datum}
    (read : readValue budget depth text = .ok (datum, rest)) :
    readPlace budget depth text = .ok (.text (String.ofList (skipSpace text)), rest) := by
  rw [readPlace, read]
  rfl

theorem readPlace_skips (budget depth : Nat) : SkipsSpace (readPlace budget depth) := by
  intro blank spaces text
  rw [readPlace, readPlace, readValue_skips budget depth blank spaces, skipSpace_of_blank spaces]

/-! ## Places in a text that is read -/

/-- A place is that of a tree if it is read as data that the tree is denoted by. -/
def IsPlaceOf (budget depth : Nat) (place : List Char) (tree : Tree) : Prop :=
  ∃ datum rest, readValue budget depth place = .ok (datum, rest) ∧ datum.toTree? = some tree

private theorem readEntries_skipSpace (read : List Char → Except ReadError (Datum × List Char))
    (budget : Nat) (text : List Char) :
    readEntries read budget (skipSpace text) = readEntries read budget text := by
  cases budget with
  | zero => rfl
  | succ less => rw [readEntries, readEntries, skipSpace_idempotent]

private theorem quote_of_readEntries {read : List Char → Except ReadError (Datum × List Char)}
    {budget : Nat} {text rest : List Char} {entries : List (Datum × Datum)}
    (found : readEntries read budget text = .ok (entries, rest)) :
    ∃ quoted, skipSpace text = '"' :: quoted := by
  cases budget with
  | zero => cases found
  | succ less =>
      rw [readEntries] at found
      split at found
      · rename_i quoted quote
        exact ⟨quoted, quote⟩
      · cases found
      · cases found

/-- The places of entries are those of their trees. -/
private theorem inStep_of_entries {budget depth : Nat} {entries places : List (Datum × Datum)}
    {trees : List (String × Tree)}
    (areRead : List.Forall₂ (fun entry place => entry.1 = place.1 ∧
      ∃ text rest, readValue budget depth text = .ok (entry.2, rest) ∧
        place.2 = .text (String.ofList (skipSpace text))) entries places)
    (areTrees : List.Forall₂ (fun entry tree => entry.1 = .text tree.1 ∧
      Datum.toTree? entry.2 = some tree.2) entries trees) :
    InStep (IsPlaceOf budget depth) (textEntries places) trees := by
  induction areRead generalizing trees with
  | nil =>
      cases areTrees
      exact .nil
  | @cons entry place _ _ isRead _ inductionHypothesis =>
      obtain ⟨key, value⟩ := entry
      obtain ⟨placeKey, placeValue⟩ := place
      cases areTrees with
      | @cons _ tree _ _ isTree areTrees =>
          obtain ⟨treeKey, treeValue⟩ := tree
          obtain ⟨rfl, denoted⟩ := isTree
          obtain ⟨rfl, text, rest, read, rfl⟩ := isRead
          refine .cons ⟨rfl, value, rest, ?_, denoted⟩ (inductionHypothesis areTrees)
          dsimp only
          rw [String.toList_ofList, readValue_congr budget depth (skipSpace_idempotent text), read]

/-- Where a record is read, the places of its entries are those of the entries of its tree. -/
private theorem inStep_of_record {budget inner : Nat} {text more rest behind : List Char}
    {datum : Datum} {tree : Tree} {places : List (Datum × Datum)}
    (brace : skipSpace text = '\x7b' :: more)
    (read : readValue budget (inner + 1) text = .ok (datum, rest))
    (denoted : datum.toTree? = some tree)
    (readPlaces : readEntries (readPlace budget inner) budget more = .ok (places, behind)) :
    ∃ trees, tree = .map (collect trees) ∧
      InStep (IsPlaceOf budget inner) (textEntries places) trees := by
  obtain ⟨quoted, quote⟩ := quote_of_readEntries readPlaces
  rcases readValue_cases read with ⟨_, _, _, _, bracket, _⟩ |
    ⟨_, entries, _, depth, sameBrace, rfl, ⟨closed, -⟩ | ⟨-, readEntries⟩⟩ | ⟨leaf, -⟩
  · exact absurd (List.cons.inj (brace.symm.trans bracket)).1 (by decide)
  · obtain ⟨-, rfl⟩ := List.cons.inj (brace.symm.trans sameBrace)
    exact absurd (List.cons.inj (closed.symm.trans quote)).1 (by decide)
  · obtain ⟨-, rfl⟩ := List.cons.inj (brace.symm.trans sameBrace)
    obtain rfl := Nat.succ.inj depth
    rw [readEntries_skipSpace] at readEntries
    have keepsStep : KeepsStep (readValue budget inner) (readPlace budget inner)
        fun datum place => ∃ text rest, readValue budget inner text = .ok (datum, rest) ∧
          place = .text (String.ofList (skipSpace text)) :=
      fun text datum rest read => ⟨_, readPlace_of_readValue read, text, rest, read, rfl⟩
    obtain ⟨others, readOthers, areRead⟩ := readEntries_of_keepsStep keepsStep readEntries
    obtain ⟨rfl, -⟩ := Prod.mk.inj (Except.ok.inj (readOthers.symm.trans readPlaces))
    obtain ⟨trees, isTrees, rfl⟩ := Option.map_eq_some_iff.mp denoted
    exact ⟨trees, rfl, inStep_of_entries areRead (Datum.forall_of_entryTrees? isTrees)⟩
  · have shallow := leaf 0
    unfold readValue at shallow
    simp only [brace] at shallow
    cases shallow

/-- In a text that is read, the place that segments lead to is read as the value that they lead to
in the tree. -/
theorem isPlaceOf_of_placeAt {budget depth : Nat} {text place rest : List Char}
    {path : List String} {datum : Datum} {tree : Tree}
    (read : readValue budget depth text = .ok (datum, rest)) (denoted : datum.toTree? = some tree)
    (found : placeAt budget depth path text = some place) :
    ∃ inner value, IsPlaceOf budget inner place value ∧ KeyPath.follow tree path = some value := by
  induction path generalizing depth text rest datum tree with
  | nil =>
      obtain rfl : skipSpace text = place := by cases depth <;> exact Option.some.inj found
      refine ⟨depth, tree, ⟨datum, rest, ?_, denoted⟩, by cases tree <;> rfl⟩
      rw [readValue_congr budget depth (skipSpace_idempotent text), read]
  | cons segment path inductionHypothesis =>
      cases depth with
      | zero => cases found
      | succ inner =>
          rw [placeAt] at found
          split at found
          · rename_i more brace
            split at found
            · rename_i places behind readPlaces
              obtain ⟨trees, rfl, inStep⟩ := inStep_of_record brace read denoted readPlaces
              obtain ⟨here, isHere, later⟩ := Option.bind_eq_some_iff.mp found
              rcases inStep.collect.lookup segment with ⟨missing, -⟩ |
                ⟨_, value, isPlace, isValue, datum, after, read, denotes⟩
              · cases missing.symm.trans isHere
              · obtain rfl := Option.some.inj (isPlace.symm.trans isHere)
                rw [KeyPath.follow_map, isValue]
                exact inductionHypothesis read denotes later
            · cases found
          · cases found

/-- Where a literal stands in a text that is read, the tree has a number. If the literal is an
integer of 64 bits, the number is written with the same value. -/
theorem follow_of_literalAt? {text : List Char} {tree : Tree} {path : List String}
    {literal : Literal} (read : readTree text = .ok tree)
    (stands : literalAt? text path = some literal) :
    ∃ number, KeyPath.follow tree path = some (.number number) ∧
      (literal.IsExactInteger → writtenValue number = some literal.value) := by
  obtain ⟨datum, rest, readRoot, denoted⟩ := readValue_of_readTree read
  obtain ⟨place, isPlace, isLiteral⟩ := Option.bind_eq_some_iff.mp stands
  obtain ⟨inner, value, ⟨placeDatum, after, readPlace, isValue⟩, follows⟩ :=
    isPlaceOf_of_placeAt (readValue_deeper (Nat.le_add_right _ _) readRoot) denoted isPlace
  obtain ⟨negative, unsigned, -, figure⟩ := readFigure_of_ofText? isLiteral readPlace
  obtain ⟨number, rfl, -⟩ := number_of_isFigure (isFigure_of_readFigure figure) isValue
  exact ⟨number, follows, writtenValue_of_exactInteger isLiteral readPlace isValue⟩

/-! ## Places in a written tree -/

/-- Whether no map on a path repeats a key. -/
def KeyedAlong : Tree → List String → Prop
  | .map entries, segment :: path =>
      (keys entries).Nodup ∧ ∀ next, lookup segment entries = some next → KeyedAlong next path
  | _, _ => True

theorem keyedAlong_of_isKeyed {tree : Tree} (keyed : tree.isKeyed = true) (path : List String) :
    KeyedAlong tree path := by
  induction path generalizing tree with
  | nil => cases tree <;> trivial
  | cons segment path inductionHypothesis =>
      cases tree with
      | map entries =>
          exact ⟨of_decide_eq_true ((Tree.every_map_iff entries).mp keyed).1, fun next found =>
            inductionHypothesis (Tree.every_of_lookup keyed found)⟩
      | _ => trivial

/-- A write repeats no key on a path that is apart from its own. -/
theorem keyedAlong_write (value : Tree) {tree : Tree} {written path : List String}
    (keyed : KeyedAlong tree path) (notAbove : ¬ written <+: path) (notBelow : ¬ path <+: written) :
    KeyedAlong (KeyPath.write value tree written) path := by
  induction written generalizing tree path with
  | nil => exact absurd List.nil_prefix notAbove
  | cons segment rest inductionHypothesis =>
      cases path with
      | nil => exact absurd List.nil_prefix notBelow
      | cons other others =>
          have keyedEntries : KeyedAlong (.map (KeyPath.entriesOf tree)) (other :: others) := by
            cases tree with
            | map entries => exact keyed
            | _ => exact ⟨List.nodup_nil, nofun⟩
          obtain ⟨distinct, keyedBelow⟩ := keyedEntries
          refine ⟨Tree.nodup_keys_insert _ _ distinct, fun next found => ?_⟩
          by_cases same : other = segment
          · subst same
            rw [Tree.lookup_insert_same] at found
            obtain rfl := Option.some.inj found
            refine inductionHypothesis ?_
              (fun above => notAbove (List.cons_prefix_cons.mpr ⟨rfl, above⟩))
              (fun below => notBelow (List.cons_prefix_cons.mpr ⟨rfl, below⟩))
            cases child : lookup other (KeyPath.entriesOf tree) with
            | some child' => exact keyedBelow _ child
            | none =>
                cases others with
                | nil => trivial
                | cons _ _ => exact ⟨List.nodup_nil, nofun⟩
          · rw [Tree.lookup_insert_of_ne same] at found
            exact keyedBelow next found

/-- A place is that of a tree if it starts with its text, in front of what is no part of a
number. -/
def IsTextOf (unit : Option (List Char)) (level : Nat) (place : List Char) (tree : Tree) : Prop :=
  ∃ rest, endsNumber rest = true ∧ place = write unit level tree ++ rest

/-- The texts of entries are in step with them. -/
private theorem inStep_of_texts {related : List Char → Tree → Prop}
    {entries : List (String × Tree)} {data : List (Datum × Datum)}
    (areTexts : List.Forall₂ (fun entry datum => datum.1 = .text entry.1 ∧
      ∃ place, datum.2 = .text (String.ofList place) ∧ related place entry.2) entries data) :
    InStep related (textEntries data) entries := by
  induction areTexts with
  | nil => exact .nil
  | @cons entry datum _ _ isText _ inductionHypothesis =>
      obtain ⟨key, value⟩ := entry
      obtain ⟨datumKey, datumValue⟩ := datum
      obtain ⟨rfl, place, rfl, isRelated⟩ := isText
      refine .cons ⟨rfl, ?_⟩ inductionHypothesis
      dsimp only
      rwa [String.toList_ofList]

/-- The places of the entries of a written map are their texts. -/
private theorem inStep_of_write {unit : Option (List Char)} (blank : isBlankUnit unit = true)
    {budget inner level : Nat} {entries : List (String × Tree)} (nonempty : entries ≠ [])
    (held : (Tree.map entries).fits = true) (deep : (Tree.map entries).depth ≤ inner + 1)
    (fits : (write unit level (.map entries)).length ≤ budget) (rest : List Char) :
    ∃ more places behind, skipSpace (write unit level (.map entries) ++ rest) = '\x7b' :: more ∧
      readEntries (readPlace budget inner) budget more = .ok (places, behind) ∧
      InStep (IsTextOf unit (level + 1)) (textEntries places) entries := by
  obtain ⟨⟨key, value⟩, others, rfl⟩ := List.exists_cons_of_ne_nil nonempty
  rw [Tree.depth] at deep
  have reads : ∀ entry ∈ (key, value) :: others,
      Reads (readPlace budget inner) (level + 1) unit (fun tree datum =>
        ∃ place, datum = .text (String.ofList place) ∧ IsTextOf unit (level + 1) place tree)
        entry.2 := by
    intro entry member rest ends
    have heldHere := ((Tree.every_map_iff _).mp held).2 entry member
    have lower := Tree.depth_le_entryDepth member
    obtain ⟨datum, found, -⟩ := exists_readValue_write blank budget entry.2 heldHere (level + 1)
      inner (by omega) ((length_write_lt_map unit level member).le.trans fits) ends
    obtain ⟨first, more, shown, visible, -⟩ := write_cons unit (level + 1) heldHere
    have same : skipSpace (write unit (level + 1) entry.2 ++ rest) =
        write unit (level + 1) entry.2 ++ rest := by
      rw [shown, List.cons_append, skipSpace_cons visible]
    exact ⟨_, readPlace_of_readValue found, _, rfl, rest, ends, same⟩
  obtain ⟨places, found, areTexts⟩ := readEntries_write (readPlace budget inner) (level + 1) level
    blank (readPlace_skips budget inner) budget (key, value) others
    ((length_le_map unit level _).trans fits) (reads _ List.mem_cons_self)
    (fun entry member => reads entry (List.mem_cons_of_mem _ member)) rest
  rw [write_map_cons, skipSpace_cons (by decide)]
  refine ⟨_, places, rest, rfl, ?_, inStep_of_texts areTexts⟩
  rw [← found, ← readEntries_skipSpace, skipSpace_lineStart blank, readEntries_skipSpace]

/-- In a written tree, the place that segments lead to is the text of the value that they lead
to. -/
theorem isTextOf_of_follow {unit : Option (List Char)} (blank : isBlankUnit unit = true)
    (budget : Nat) {path : List String} {tree value : Tree} (held : tree.fits = true)
    (keyed : KeyedAlong tree path) (follows : KeyPath.follow tree path = some value)
    (level depth : Nat) (deep : tree.depth ≤ depth)
    (fits : (write unit level tree).length ≤ budget) {rest : List Char}
    (ends : endsNumber rest = true) :
    ∃ place inner, placeAt budget depth path (write unit level tree ++ rest) = some place ∧
      IsTextOf unit inner place value := by
  induction path generalizing tree level depth rest with
  | nil =>
      rw [KeyPath.follow_nil] at follows
      obtain rfl := Option.some.inj follows
      obtain ⟨first, others, shown, visible, -⟩ := write_cons unit level held
      refine ⟨write unit level tree ++ rest, level, ?_, rest, ends, rfl⟩
      have same : skipSpace (write unit level tree ++ rest) = write unit level tree ++ rest := by
        rw [shown, List.cons_append, skipSpace_cons visible]
      cases depth <;> exact congrArg some same
  | cons segment path inductionHypothesis =>
      obtain ⟨entries, next, rfl, isNext, later⟩ := KeyPath.exists_of_follow_cons follows
      obtain ⟨distinct, keyedBelow⟩ := keyed
      have nonempty : entries ≠ [] := by
        rintro rfl
        cases isNext
      obtain ⟨inner, rfl⟩ : ∃ inner, depth = inner + 1 :=
        ⟨depth - 1, by rw [Tree.depth] at deep; omega⟩
      obtain ⟨more, places, behind, brace, readPlaces, inStep⟩ :=
        inStep_of_write blank nonempty held deep fits rest
      have collected : collect (textEntries places) = textEntries places :=
        Tree.collect_of_nodup (inStep.keys_eq ▸ distinct)
      rcases inStep.lookup segment with ⟨-, missing⟩ |
        ⟨place, _, isPlace, isNext', after, ends, rfl⟩
      · cases missing.symm.trans isNext
      · obtain rfl := Option.some.inj (isNext'.symm.trans isNext)
        have member := Tree.mem_of_lookup isNext
        have lower := Tree.depth_le_entryDepth member
        rw [Tree.depth] at deep
        rw [placeAt, brace]
        simp only [readPlaces, collected, isPlace, Option.bind_some]
        exact inductionHypothesis (((Tree.every_map_iff _).mp held).2 _ member)
          (keyedBelow _ isNext) later (level + 1) inner (by omega)
          ((length_write_lt_map unit level member).le.trans fits) ends

/-- Where segments lead to a text in a tree, they lead to it in what the written tree is read as,
also if numbers in it are read as others. -/
theorem follow_of_readTree_write {unit : Option (List Char)} (blank : isBlankUnit unit = true)
    {tree after : Tree} {path : List String} {value : String} (held : tree.fits = true)
    (keyed : KeyedAlong tree path) (follows : KeyPath.follow tree path = some (.text value))
    {behind : List Char} (ends : endsNumber behind = true)
    (read : readTree (write unit 0 tree ++ behind) = .ok after) :
    KeyPath.follow after path = some (.text value) := by
  have short : (write unit 0 tree).length ≤ (write unit 0 tree ++ behind).length := by simp
  obtain ⟨datum, rest, readRoot, denoted⟩ := readValue_of_readTree read
  obtain ⟨place, inner, found, others, -, rfl⟩ := isTextOf_of_follow blank
    (write unit 0 tree ++ behind).length held keyed follows 0
    (nestingLimit + (write unit 0 tree ++ behind).length)
    ((depth_le_length_write unit 0 tree).trans (short.trans (Nat.le_add_left _ _))) short ends
  obtain ⟨depth, _, ⟨placeDatum, _, readPlace, isValue⟩, followsAfter⟩ :=
    isPlaceOf_of_placeAt (readValue_deeper (Nat.le_add_right _ _) readRoot) denoted found
  rw [readValue_text] at readPlace
  obtain ⟨rfl, -⟩ := Prod.mk.inj (Except.ok.inj readPlace)
  obtain rfl := Option.some.inj isValue
  exact followsAfter

/-- Where segments lead to a number in a tree, its text stands in the written tree. -/
theorem numberAt?_write {unit : Option (List Char)} (blank : isBlankUnit unit = true) {tree : Tree}
    {path : List String} {number : TreeNumber} (held : tree.fits = true)
    (keyed : KeyedAlong tree path) (follows : KeyPath.follow tree path = some (.number number))
    {behind : List Char} (ends : endsNumber behind = true) :
    numberAt? (write unit 0 tree ++ behind) path = writtenValue number := by
  have short : (write unit 0 tree).length ≤ (write unit 0 tree ++ behind).length := by simp
  obtain ⟨place, inner, found, after, endsPlace, rfl⟩ := isTextOf_of_follow blank
    (write unit 0 tree ++ behind).length held keyed follows 0
    (nestingLimit + (write unit 0 tree ++ behind).length)
    ((depth_le_length_write unit 0 tree).trans (short.trans (Nat.le_add_left _ _))) short ends
  obtain ⟨literal, wellFormed, shown⟩ :=
    Literal.exists_literal (Tree.fits_of_number (KeyPath.every_follow held follows))
  have whole := Literal.ofText?_append wellFormed (rfl : endsNumber [] = true)
  rw [List.append_nil] at whole
  rw [numberAt?, literalAt?, found, Option.bind_some, write, writtenValue, shown,
    Literal.ofText?_append wellFormed endsPlace, whole]

end Json

end ReleaseRules
