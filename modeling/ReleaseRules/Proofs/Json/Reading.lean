import Mathlib.Data.List.DropRight
import Mathlib.Data.List.Forall2
import ReleaseRules.Proofs.Document.Shape
import ReleaseRules.Proofs.Json.Numerals

/-!
Contract: what is read from a text in JSON.

Owns:
- white space in front of a value, and the first character of a value;
- lists and records by their items and entries, everything else alike at every depth;
- readers of items in step, and that deeper nesting reads the same;
- trees whose floating-point numbers are held by 64 bits, as every tree is that is read.

Does not own: texts that are written.
-/

namespace ReleaseRules

namespace Tree

/-- Whether a node is no floating-point number but one that 64 bits hold. -/
def fitsNode : Tree → Bool
  | .number (.floating value) => value.fits
  | _ => true

/-- Whether 64 bits hold every floating-point number of a tree. -/
def fits (tree : Tree) : Bool := tree.every fitsNode

/-- The numbers of a tree that 64 bits hold are held by them. -/
theorem fits_of_number {number : TreeNumber} (held : (Tree.number number).fits = true) :
    ∀ value, number = .floating value → value.fits = true := by
  rintro value rfl
  exact held

theorem fits_of_isWhole {tree : Tree} (whole : tree.isWhole = true) : tree.fits = true := by
  refine every_mono (fun node passed => ?_) whole
  cases node with
  | number value =>
      cases value with
      | integer value => rfl
      | floating value => cases passed
  | _ => rfl

end Tree

namespace Json

/-! ## White space and first characters -/

theorem skipSpace_of_blank {blank : List Char} (spaces : blank.all isSpace = true)
    (text : List Char) : skipSpace (blank ++ text) = skipSpace text := by
  rw [List.all_eq_true] at spaces
  exact List.dropWhile_append_of_pos spaces

theorem skipSpace_cons {first : Char} (visible : isSpace first = false) (text : List Char) :
    skipSpace (first :: text) = first :: text := by
  simp [skipSpace, visible]

theorem isDigit_ne {first character : Char} (digit : isDigit first = true)
    (other : isDigit character = false) : first ≠ character := by
  rintro rfl
  exact absurd (digit.symm.trans other) (by decide)

theorem visible_of_isDigit {first : Char} (digit : isDigit first = true) :
    isSpace first = false := by
  have others : first ≠ ' ' ∧ first ≠ '\n' ∧ first ≠ '\t' ∧ first ≠ '\r' :=
    ⟨isDigit_ne digit (by decide), isDigit_ne digit (by decide), isDigit_ne digit (by decide),
      isDigit_ne digit (by decide)⟩
  simp [isSpace, others]

theorem skipSpace_idempotent (text : List Char) : skipSpace (skipSpace text) = skipSpace text :=
  List.dropWhile_idempotent isSpace text

theorem readValue_congr (budget depth : Nat) {left right : List Char}
    (same : skipSpace left = skipSpace right) :
    readValue budget depth left = readValue budget depth right := by
  cases depth with
  | zero => unfold readValue; rw [same]
  | succ inner => unfold readValue; rw [same]

theorem readValue_skips (budget depth : Nat) (blank : List Char)
    (spaces : blank.all isSpace = true) (text : List Char) :
    readValue budget depth (blank ++ text) = readValue budget depth text :=
  readValue_congr budget depth (skipSpace_of_blank spaces text)

theorem readValue_digit (budget depth : Nat) {first : Char} (digit : isDigit first = true)
    (rest : List Char) :
    readValue budget depth (first :: rest) = readFigure false (first :: rest) := by
  have visible := skipSpace_cons (visible_of_isDigit digit) rest
  unfold readValue
  rw [visible]
  split
  iterate 7
    · rename_i same
      exact absurd (List.cons.inj same).1 (isDigit_ne digit (by decide))
  · rename_i same
    cases same
  · rename_i same
    obtain ⟨rfl, rfl⟩ := List.cons.inj same
    rw [if_pos digit]

/-- A list is read from its bracket on. -/
theorem readValue_list {budget inner : Nat} {text more rest : List Char} {items : List Datum}
    (bracket : skipSpace text = '[' :: more)
    (read : skipSpace more = ']' :: rest ∧ items = [] ∨
      (∀ behind, skipSpace more ≠ ']' :: behind) ∧
        readItems (readValue budget inner) budget (skipSpace more) = .ok (items, rest)) :
    readValue budget (inner + 1) text = .ok (.list items, rest) := by
  unfold readValue
  simp only [bracket]
  rcases read with ⟨closed, rfl⟩ | ⟨opened, read⟩
  · simp only [closed]
  · split
    · rename_i behind closed
      exact absurd closed (opened behind)
    · rw [read]
      rfl

/-- A record is read from its brace on. -/
theorem readValue_record {budget inner : Nat} {text more rest : List Char}
    {entries : List (Datum × Datum)} (brace : skipSpace text = '\x7b' :: more)
    (read : skipSpace more = '\x7d' :: rest ∧ entries = [] ∨
      (∀ behind, skipSpace more ≠ '\x7d' :: behind) ∧
        readEntries (readValue budget inner) budget (skipSpace more) = .ok (entries, rest)) :
    readValue budget (inner + 1) text = .ok (.record entries, rest) := by
  unfold readValue
  simp only [brace]
  rcases read with ⟨closed, rfl⟩ | ⟨opened, read⟩
  · simp only [closed]
  · split
    · rename_i behind closed
      exact absurd closed (opened behind)
    · rw [read]
      rfl

/-! ## What is read -/

/-- A list is read from its bracket on. -/
def IsListAt (budget depth : Nat) (text rest : List Char) (datum : Datum) : Prop :=
  ∃ inner items more, depth = inner + 1 ∧ skipSpace text = '[' :: more ∧ datum = .list items ∧
    (skipSpace more = ']' :: rest ∧ items = [] ∨
      (∀ behind, skipSpace more ≠ ']' :: behind) ∧
        readItems (readValue budget inner) budget (skipSpace more) = .ok (items, rest))

/-- A record is read from its brace on. -/
def IsRecordAt (budget depth : Nat) (text rest : List Char) (datum : Datum) : Prop :=
  ∃ inner entries more, depth = inner + 1 ∧ skipSpace text = '\x7b' :: more ∧
    datum = .record entries ∧
    (skipSpace more = '\x7d' :: rest ∧ entries = [] ∨
      (∀ behind, skipSpace more ≠ '\x7d' :: behind) ∧
        readEntries (readValue budget inner) budget (skipSpace more) = .ok (entries, rest))

/-- Anything else is read alike at every depth; only numbers are more than null, a truth value or
a text. -/
def IsLeafAt (budget : Nat) (text rest : List Char) (datum : Datum) : Prop :=
  (∀ depth, readValue budget depth text = .ok (datum, rest)) ∧
    ((∃ negative figure, readFigure negative figure = .ok (datum, rest)) ∨
      datum = .unusable ∨ datum = .null ∨ (∃ value, datum = .bool value) ∨
        ∃ value, datum = .text value)

private theorem readText_cases {text rest : List Char} {datum : Datum}
    (read : readText text = .ok (datum, rest)) :
    datum = .unusable ∨ ∃ value, datum = .text value := by
  unfold readText at read
  split at read
  · obtain ⟨rfl, -⟩ := Prod.mk.inj (Except.ok.inj read)
    exact .inr ⟨_, rfl⟩
  · cases skipped : skipString text with
    | error reason =>
        rw [skipped] at read
        cases read
    | ok behind =>
        rw [skipped] at read
        obtain ⟨rfl, -⟩ := Prod.mk.inj (Except.ok.inj read)
        exact .inl rfl
  · cases read

private theorem isListAt_of_readValue {budget depth : Nat} {text more rest : List Char}
    {datum : Datum} (bracket : skipSpace text = '[' :: more)
    (read : readValue budget depth text = .ok (datum, rest)) :
    IsListAt budget depth text rest datum := by
  unfold readValue at read
  simp only [bracket] at read
  cases depth with
  | zero => cases read
  | succ inner =>
      dsimp only at read
      split at read
      · rename_i behind closed
        obtain ⟨rfl, rfl⟩ := Prod.mk.inj (Except.ok.inj read)
        exact ⟨inner, [], more, rfl, bracket, rfl, .inl ⟨closed, rfl⟩⟩
      · rename_i opened
        obtain ⟨⟨items, behind⟩, readItems, result⟩ := ok_of_bind read
        obtain ⟨rfl, rfl⟩ := Prod.mk.inj (Except.ok.inj result)
        exact ⟨inner, items, more, rfl, bracket, rfl, .inr ⟨opened, readItems⟩⟩

private theorem isRecordAt_of_readValue {budget depth : Nat} {text more rest : List Char}
    {datum : Datum} (brace : skipSpace text = '\x7b' :: more)
    (read : readValue budget depth text = .ok (datum, rest)) :
    IsRecordAt budget depth text rest datum := by
  unfold readValue at read
  simp only [brace] at read
  cases depth with
  | zero => cases read
  | succ inner =>
      dsimp only at read
      split at read
      · rename_i behind closed
        obtain ⟨rfl, rfl⟩ := Prod.mk.inj (Except.ok.inj read)
        exact ⟨inner, [], more, rfl, brace, rfl, .inl ⟨closed, rfl⟩⟩
      · rename_i opened
        obtain ⟨⟨entries, behind⟩, readEntries, result⟩ := ok_of_bind read
        obtain ⟨rfl, rfl⟩ := Prod.mk.inj (Except.ok.inj result)
        exact ⟨inner, entries, more, rfl, brace, rfl, .inr ⟨opened, readEntries⟩⟩

/-- What a value that is read is. -/
theorem readValue_cases {budget depth : Nat} {text rest : List Char} {datum : Datum}
    (read : readValue budget depth text = .ok (datum, rest)) :
    IsListAt budget depth text rest datum ∨ IsRecordAt budget depth text rest datum ∨
      IsLeafAt budget text rest datum := by
  have whole := read
  unfold readValue at read
  split at read
  · rename_i more bracket
    exact .inl (isListAt_of_readValue bracket whole)
  · rename_i more brace
    exact .inr (.inl (isRecordAt_of_readValue brace whole))
  · rename_i more shape
    refine .inr (.inr ⟨fun depth => by unfold readValue; simp only [shape]; exact read, ?_⟩)
    rcases readText_cases read with unusable | isText
    · exact .inr (.inl unusable)
    · exact .inr (.inr (.inr (.inr isText)))
  · rename_i more shape
    exact .inr (.inr ⟨fun depth => by unfold readValue; simp only [shape]; exact read,
      .inl ⟨true, more, read⟩⟩)
  · rename_i more shape
    obtain ⟨rfl, rfl⟩ := Prod.mk.inj (Except.ok.inj read)
    exact .inr (.inr ⟨fun depth => by unfold readValue; simp only [shape],
      .inr (.inr (.inl rfl))⟩)
  · rename_i more shape
    obtain ⟨rfl, rfl⟩ := Prod.mk.inj (Except.ok.inj read)
    exact .inr (.inr ⟨fun depth => by unfold readValue; simp only [shape],
      .inr (.inr (.inr (.inl ⟨true, rfl⟩)))⟩)
  · rename_i more shape
    obtain ⟨rfl, rfl⟩ := Prod.mk.inj (Except.ok.inj read)
    exact .inr (.inr ⟨fun depth => by unfold readValue; simp only [shape],
      .inr (.inr (.inr (.inl ⟨false, rfl⟩)))⟩)
  · cases read
  · rename_i first more noBracket noBrace noQuote noMinus noNull noTrue noFalse shape
    split at read
    · rename_i digit
      refine .inr (.inr ⟨fun depth => ?_, .inl ⟨false, _, read⟩⟩)
      have same : skipSpace text = skipSpace (first :: more) :=
        shape.trans (skipSpace_cons (visible_of_isDigit digit) more).symm
      rw [readValue_congr budget depth same, readValue_digit budget depth digit, read]
    · cases read

/-- Only a text that starts with a brace is read as a record. -/
theorem skipSpace_of_readValue_record {budget depth : Nat} {text rest : List Char}
    {entries : List (Datum × Datum)}
    (found : readValue budget depth text = .ok (.record entries, rest)) :
    ∃ more, skipSpace text = '\x7b' :: more := by
  rcases readValue_cases found with ⟨_, _, _, _, _, isList, _⟩ | ⟨_, _, more, _, brace, _⟩ |
    ⟨-, ⟨_, _, read⟩ | isOther | isOther | ⟨_, isOther⟩ | ⟨_, isOther⟩⟩
  · cases isList
  · exact ⟨more, brace⟩
  · rcases isFigure_of_readFigure read with isOther | ⟨_, isOther⟩ | ⟨_, _, isOther⟩ <;>
      cases isOther
  all_goals cases isOther

/-! ## Readers of items in step -/

/-- Two readers of items are in step: where the first gives data, the second gives related data and
leaves the same rest. -/
def KeepsStep (first second : List Char → Except ReadError (Datum × List Char))
    (related : Datum → Datum → Prop) : Prop :=
  ∀ text datum rest, first text = .ok (datum, rest) →
    ∃ other, second text = .ok (other, rest) ∧ related datum other

variable {first second : List Char → Except ReadError (Datum × List Char)}
  {related : Datum → Datum → Prop}

theorem readItems_of_keepsStep (keepsStep : KeepsStep first second related) {budget : Nat}
    {text rest : List Char} {items : List Datum}
    (read : readItems first budget text = .ok (items, rest)) :
    ∃ others, readItems second budget text = .ok (others, rest) ∧
      List.Forall₂ related items others := by
  induction budget generalizing text items with
  | zero => cases read
  | succ less inductionHypothesis =>
      rw [readItems] at read ⊢
      obtain ⟨⟨item, behind⟩, readItem, done⟩ := ok_of_bind read
      obtain ⟨other, readOther, isRelated⟩ := keepsStep _ _ _ readItem
      rw [readOther]
      dsimp only at done
      split at done
      · rename_i more comma
        obtain ⟨⟨later, last⟩, readLater, result⟩ := ok_of_bind done
        obtain ⟨rfl, rfl⟩ := Prod.mk.inj (Except.ok.inj result)
        obtain ⟨others, readOthers, areRelated⟩ := inductionHypothesis readLater
        refine ⟨other :: others, ?_, .cons isRelated areRelated⟩
        simp only [bind, Except.bind, comma, readOthers]
        rfl
      · rename_i more bracket
        obtain ⟨rfl, rfl⟩ := Prod.mk.inj (Except.ok.inj done)
        refine ⟨[other], ?_, .cons isRelated .nil⟩
        simp only [bind, Except.bind, bracket]
        rfl
      · cases done
      · cases done

theorem readEntries_of_keepsStep (keepsStep : KeepsStep first second related) {budget : Nat}
    {text rest : List Char} {entries : List (Datum × Datum)}
    (read : readEntries first budget text = .ok (entries, rest)) :
    ∃ others, readEntries second budget text = .ok (others, rest) ∧
      List.Forall₂ (fun entry other => entry.1 = other.1 ∧ related entry.2 other.2)
        entries others := by
  induction budget generalizing text entries with
  | zero => cases read
  | succ less inductionHypothesis =>
      rw [readEntries] at read ⊢
      split at read
      · rename_i quoted quote
        obtain ⟨⟨key, behindKey⟩, readKey, more⟩ := ok_of_bind read
        dsimp only at more
        split at more
        · rename_i value colon
          obtain ⟨⟨datum, behind⟩, readDatum, done⟩ := ok_of_bind more
          obtain ⟨other, readOther, isRelated⟩ := keepsStep _ _ _ readDatum
          dsimp only at done
          split at done
          · rename_i more comma
            obtain ⟨⟨later, last⟩, readLater, result⟩ := ok_of_bind done
            obtain ⟨rfl, rfl⟩ := Prod.mk.inj (Except.ok.inj result)
            obtain ⟨others, readOthers, areRelated⟩ := inductionHypothesis readLater
            refine ⟨(key, other) :: others, ?_, .cons ⟨rfl, isRelated⟩ areRelated⟩
            simp only [bind, Except.bind, readKey, colon, readOther, comma, readOthers]
            rfl
          · rename_i more brace
            obtain ⟨rfl, rfl⟩ := Prod.mk.inj (Except.ok.inj done)
            refine ⟨[(key, other)], ?_, .cons ⟨rfl, isRelated⟩ .nil⟩
            simp only [bind, Except.bind, readKey, colon, readOther, brace]
            rfl
          · cases done
          · cases done
        · cases more
        · cases more
      · cases read
      · cases read

private theorem eq_of_forall {α : Type} {left right : List α} (same : List.Forall₂ Eq left right) :
    left = right := List.forall₂_eq_eq_eq ▸ same

/-- A reader that allows deeper nesting reads the same. -/
theorem readValue_deeper {budget depth deeper : Nat} (le : depth ≤ deeper) {text rest : List Char}
    {datum : Datum} (read : readValue budget depth text = .ok (datum, rest)) :
    readValue budget deeper text = .ok (datum, rest) := by
  induction depth generalizing deeper text datum rest with
  | zero =>
      rcases readValue_cases read with ⟨_, _, _, depth, _⟩ | ⟨_, _, _, depth, _⟩ | ⟨leaf, -⟩
      · cases depth
      · cases depth
      · exact leaf deeper
  | succ inner inductionHypothesis =>
      obtain ⟨innermost, rfl⟩ : ∃ innermost, deeper = innermost + 1 := ⟨deeper - 1, by omega⟩
      have keepsStep : KeepsStep (readValue budget inner) (readValue budget innermost) Eq :=
        fun text datum rest read =>
          ⟨datum, inductionHypothesis (Nat.le_of_succ_le_succ le) read, rfl⟩
      rcases readValue_cases read with ⟨_, items, more, depth, bracket, rfl, list⟩ |
        ⟨_, entries, more, depth, brace, rfl, record⟩ | ⟨leaf, -⟩
      · obtain rfl := Nat.succ.inj depth
        refine readValue_list bracket (list.imp_right fun ⟨opened, read⟩ => ⟨opened, ?_⟩)
        obtain ⟨others, readOthers, same⟩ := readItems_of_keepsStep keepsStep read
        rw [readOthers, eq_of_forall same]
      · obtain rfl := Nat.succ.inj depth
        refine readValue_record brace (record.imp_right fun ⟨opened, read⟩ => ⟨opened, ?_⟩)
        obtain ⟨others, readOthers, same⟩ := readEntries_of_keepsStep keepsStep read
        simp only [← Prod.ext_iff] at same
        rw [readOthers, eq_of_forall same]
      · exact leaf _

theorem exists_left_of_mem {α β : Type} {related : α → β → Prop} {left : List α} {right : List β}
    (areRelated : List.Forall₂ related left right) {other : β} (member : other ∈ right) :
    ∃ one ∈ left, related one other := by
  induction areRelated with
  | nil => cases member
  | cons first _ inductionHypothesis =>
      rcases List.mem_cons.mp member with rfl | later
      · exact ⟨_, List.mem_cons_self, first⟩
      · obtain ⟨one, inRest, isRelated⟩ := inductionHypothesis later
        exact ⟨one, List.mem_cons_of_mem _ inRest, isRelated⟩

/-- Every item that is read has been read by the reader of items. -/
theorem exists_read_of_mem_items {budget : Nat} {text rest : List Char} {items : List Datum}
    (read : readItems first budget text = .ok (items, rest)) {item : Datum}
    (member : item ∈ items) : ∃ text rest, first text = .ok (item, rest) := by
  have keepsStep : KeepsStep first first fun one other =>
      one = other ∧ ∃ text rest, first text = .ok (other, rest) :=
    fun text datum rest read => ⟨datum, read, rfl, text, rest, read⟩
  obtain ⟨others, readOthers, areRead⟩ := readItems_of_keepsStep keepsStep read
  obtain ⟨rfl, -⟩ := Prod.mk.inj (Except.ok.inj (read.symm.trans readOthers))
  obtain ⟨-, -, -, isRead⟩ := exists_left_of_mem areRead member
  exact isRead

theorem exists_read_of_mem_entries {budget : Nat} {text rest : List Char}
    {entries : List (Datum × Datum)} (read : readEntries first budget text = .ok (entries, rest))
    {entry : Datum × Datum} (member : entry ∈ entries) :
    ∃ text rest, first text = .ok (entry.2, rest) := by
  have keepsStep : KeepsStep first first fun one other =>
      one = other ∧ ∃ text rest, first text = .ok (other, rest) :=
    fun text datum rest read => ⟨datum, read, rfl, text, rest, read⟩
  obtain ⟨others, readOthers, areRead⟩ := readEntries_of_keepsStep keepsStep read
  obtain ⟨rfl, -⟩ := Prod.mk.inj (Except.ok.inj (read.symm.trans readOthers))
  obtain ⟨-, -, -, -, isRead⟩ := exists_left_of_mem areRead member
  exact isRead

/-! ## Trees that are read -/

private theorem fits_of_list {items : List Datum} {tree : Tree}
    (held : ∀ item ∈ items, ∀ tree, item.toTree? = some tree → tree.fits = true)
    (denoted : (Datum.list items).toTree? = some tree) : tree.fits = true := by
  obtain ⟨trees, isTrees, rfl⟩ := Option.map_eq_some_iff.mp denoted
  refine (Tree.every_list_iff trees).mpr ⟨rfl, fun tree member => ?_⟩
  obtain ⟨item, inItems, isTree⟩ := exists_left_of_mem (Datum.forall_of_itemTrees? isTrees) member
  exact held item inItems tree isTree

private theorem fits_of_record {entries : List (Datum × Datum)} {tree : Tree}
    (held : ∀ entry ∈ entries, ∀ tree, entry.2.toTree? = some tree → tree.fits = true)
    (denoted : (Datum.record entries).toTree? = some tree) : tree.fits = true := by
  obtain ⟨trees, isTrees, rfl⟩ := Option.map_eq_some_iff.mp denoted
  refine (Tree.every_map_iff _).mpr ⟨rfl, fun tree member => ?_⟩
  obtain ⟨entry, inEntries, -, isTree⟩ :=
    exists_left_of_mem (Datum.forall_of_entryTrees? isTrees) (Tree.mem_collect member)
  exact held entry inEntries tree.2 isTree

/-- A figure with a tree is a number that 64 bits hold. -/
theorem number_of_isFigure {datum : Datum} {tree : Tree} (figure : IsFigure datum)
    (denoted : datum.toTree? = some tree) :
    ∃ number, tree = .number number ∧ tree.fits = true := by
  rcases figure with rfl | ⟨value, rfl⟩ | ⟨number, held, rfl⟩
  · cases denoted
  · rw [Datum.toTree?] at denoted
    split at denoted
    · obtain rfl := Option.some.inj denoted
      exact ⟨.integer value, rfl, rfl⟩
    · cases denoted
  · obtain rfl := Option.some.inj denoted
    exact ⟨.floating number, rfl, held⟩

private theorem fits_of_leaf {budget : Nat} {text rest : List Char} {datum : Datum} {tree : Tree}
    (leaf : IsLeafAt budget text rest datum) (denoted : datum.toTree? = some tree) :
    tree.fits = true := by
  rcases leaf.2 with ⟨negative, figure, read⟩ | rfl | rfl | ⟨value, rfl⟩ | ⟨value, rfl⟩
  · obtain ⟨-, -, held⟩ := number_of_isFigure (isFigure_of_readFigure read) denoted
    exact held
  · cases denoted
  · exact Option.some.inj denoted ▸ rfl
  · exact Option.some.inj denoted ▸ rfl
  · exact Option.some.inj denoted ▸ rfl

/-- 64 bits hold every floating-point number of a tree that is read. -/
theorem fits_of_readValue {budget depth : Nat} {text rest : List Char} {datum : Datum} {tree : Tree}
    (read : readValue budget depth text = .ok (datum, rest)) (denoted : datum.toTree? = some tree) :
    tree.fits = true := by
  induction depth generalizing text rest datum tree with
  | zero =>
      rcases readValue_cases read with ⟨_, _, _, depth, _⟩ | ⟨_, _, _, depth, _⟩ | leaf
      · cases depth
      · cases depth
      · exact fits_of_leaf leaf denoted
  | succ inner inductionHypothesis =>
      rcases readValue_cases read with ⟨_, items, more, depth, -, rfl, list⟩ |
        ⟨_, entries, more, depth, -, rfl, record⟩ | leaf
      · obtain rfl := Nat.succ.inj depth
        refine fits_of_list (fun item member tree isTree => ?_) denoted
        rcases list with ⟨-, rfl⟩ | ⟨-, readItems⟩
        · cases member
        · obtain ⟨text, rest, readItem⟩ := exists_read_of_mem_items readItems member
          exact inductionHypothesis readItem isTree
      · obtain rfl := Nat.succ.inj depth
        refine fits_of_record (fun entry member tree isTree => ?_) denoted
        rcases record with ⟨-, rfl⟩ | ⟨-, readEntries⟩
        · cases member
        · obtain ⟨text, rest, readEntry⟩ := exists_read_of_mem_entries readEntries member
          exact inductionHypothesis readEntry isTree
      · exact fits_of_leaf leaf denoted

/-- The tree of a text is that of the data of its value. -/
theorem readValue_of_readTree {text : List Char} {tree : Tree} (read : readTree text = .ok tree) :
    ∃ datum rest, readValue text.length nestingLimit text = .ok (datum, rest) ∧
      datum.toTree? = some tree := by
  obtain ⟨datum, isDatum, denoted⟩ := ok_of_bind read
  obtain ⟨⟨value, rest⟩, readRoot, done⟩ := ok_of_bind isDatum
  dsimp only at done
  split at done
  · obtain rfl := Except.ok.inj done
    split at denoted
    · rename_i root isRoot
      obtain rfl := Except.ok.inj denoted
      exact ⟨value, rest, readRoot, isRoot⟩
    · cases denoted
  · cases done

/-- 64 bits hold every floating-point number of a tree that is read. -/
theorem fits_of_readTree {text : List Char} {tree : Tree} (read : readTree text = .ok tree) :
    tree.fits = true := by
  obtain ⟨datum, rest, readRoot, denoted⟩ := readValue_of_readTree read
  exact fits_of_readValue readRoot denoted

end Json

end ReleaseRules
