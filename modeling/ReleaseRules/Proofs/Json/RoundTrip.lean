import ReleaseRules.Proofs.Json.Reading

/-!
Contract: written JSON is read back.

Owns:
- written trees are read, in the compact layout and in every indented one;
- written trees whose numbers are integers are read back;
- what the limits of the reader ask of a written tree.

Does not own: the layout of a document.
-/

namespace ReleaseRules

namespace Json

open ReleaseRules.Number (digitsOf integerText)
open ReleaseRules.Datum (ofTree ofItems ofEntries)

/-- Whether an indent unit consists of white space. -/
def isBlankUnit (unit : Option (List Char)) : Bool := unit.all fun indent => indent.all isSpace

/-! ## White space and first characters -/

variable {unit : Option (List Char)}

theorem lineStart_blank (blank : isBlankUnit unit = true) (level : Nat) :
    (lineStart unit level).all isSpace = true := by
  cases unit with
  | none => rfl
  | some indent =>
      have spaces : ∀ character ∈ indent, isSpace character = true := by
        simpa [isBlankUnit] using blank
      simp only [lineStart, List.all_cons, Bool.and_eq_true, List.all_eq_true, List.mem_flatten,
        List.mem_replicate]
      refine ⟨rfl, ?_⟩
      rintro character ⟨piece, ⟨-, rfl⟩, member⟩
      exact spaces character member

theorem skipSpace_lineStart (blank : isBlankUnit unit = true) (level : Nat) (text : List Char) :
    skipSpace (lineStart unit level ++ text) = skipSpace text :=
  skipSpace_of_blank (lineStart_blank blank level) text

/-- A line start in front of a closing bracket ends a number. -/
theorem endsNumber_lineStart (level : Nat) {first : Char} {text : List Char}
    (ends : endsNumber (first :: text) = true) :
    endsNumber (lineStart unit level ++ first :: text) = true := by
  cases unit with
  | none => exact ends
  | some indent => rfl

/-- A written tree starts with a visible character that closes nothing. -/
theorem write_cons (unit : Option (List Char)) (level : Nat) {tree : Tree}
    (held : tree.fits = true) :
    ∃ first others, write unit level tree = first :: others ∧ isSpace first = false ∧
      first ≠ ']' ∧ first ≠ '\x7d' := by
  cases tree with
  | null => exact ⟨'n', _, rfl, by decide⟩
  | bool value =>
      cases value with
      | true => exact ⟨'t', _, rfl, by decide⟩
      | false => exact ⟨'f', _, rfl, by decide⟩
  | number value =>
      obtain ⟨literal, wellFormed, shown⟩ := Literal.exists_literal (Tree.fits_of_number held)
      obtain ⟨first, others, digits⟩ := List.exists_cons_of_ne_nil wellFormed.whole.ne_nil
      have digit := wellFormed.whole.digits first (by rw [digits]; exact List.mem_cons_self)
      rw [write, shown, Literal.text, digits]
      cases literal.negative with
      | true => exact ⟨'-', _, rfl, by decide⟩
      | false =>
          exact ⟨first, _, rfl, visible_of_isDigit digit, isDigit_ne digit (by decide),
            isDigit_ne digit (by decide)⟩
  | text value => exact ⟨'"', _, rfl, by decide⟩
  | list items =>
      cases items with
      | nil => exact ⟨'[', _, rfl, by decide⟩
      | cons item rest => exact ⟨'[', _, rfl, by decide⟩
  | map entries =>
      cases entries with
      | nil => exact ⟨'\x7b', _, rfl, by decide⟩
      | cons entry rest => exact ⟨'\x7b', _, rfl, by decide⟩

/-! ## Items and entries -/

private theorem itemDone {α β : Type} (value : α) (done : α → Except ReadError β) :
    ((Except.ok value : Except ReadError α) >>= done) = done value := rfl

theorem writeItems_cons (unit : Option (List Char)) (level : Nat) (item : Tree)
    (rest : List Tree) :
    writeItems unit level (item :: rest) =
      ',' :: (lineStart unit level ++ write unit level item ++ writeItems unit level rest) := rfl

theorem writeEntries_cons (unit : Option (List Char)) (level : Nat) (entry : String × Tree)
    (rest : List (String × Tree)) :
    writeEntries unit level (entry :: rest) =
      ',' :: (lineStart unit level ++ writeString entry.1 ++ colon unit ++
        write unit level entry.2 ++ writeEntries unit level rest) := rfl

theorem write_nonempty_list (unit : Option (List Char)) (level : Nat) (item : Tree)
    (rest : List Tree) :
    write unit level (.list (item :: rest)) =
      '[' :: (lineStart unit (level + 1) ++ write unit (level + 1) item ++
        writeItems unit (level + 1) rest ++ lineStart unit level ++ [']']) := rfl

theorem write_nonempty_map (unit : Option (List Char)) (level : Nat) (entry : String × Tree)
    (rest : List (String × Tree)) :
    write unit level (.map (entry :: rest)) =
      '\x7b' :: (lineStart unit (level + 1) ++ writeString entry.1 ++ colon unit ++
        write unit (level + 1) entry.2 ++ writeEntries unit (level + 1) rest ++
        lineStart unit level ++ ['\x7d']) := rfl

theorem length_le_writeItems (unit : Option (List Char)) (level : Nat) (items : List Tree) :
    items.length ≤ (writeItems unit level items).length := by
  induction items with
  | nil => simp
  | cons item rest inductionHypothesis =>
      simp only [writeItems_cons, List.length_cons, List.length_append]
      omega

theorem length_write_le_writeItems (unit : Option (List Char)) (level : Nat)
    {items : List Tree} {item : Tree} (member : item ∈ items) :
    (write unit level item).length ≤ (writeItems unit level items).length := by
  induction items with
  | nil => simp at member
  | cons head rest inductionHypothesis =>
      simp only [writeItems_cons, List.length_cons, List.length_append]
      rcases List.mem_cons.mp member with rfl | later
      · omega
      · have bound := inductionHypothesis later
        omega

theorem length_le_writeEntries (unit : Option (List Char)) (level : Nat)
    (entries : List (String × Tree)) :
    entries.length ≤ (writeEntries unit level entries).length := by
  induction entries with
  | nil => simp
  | cons entry rest inductionHypothesis =>
      obtain ⟨key, value⟩ := entry
      simp only [writeEntries_cons, List.length_cons, List.length_append]
      omega

theorem length_write_le_writeEntries (unit : Option (List Char)) (level : Nat)
    {entries : List (String × Tree)} {entry : String × Tree} (member : entry ∈ entries) :
    (write unit level entry.2).length ≤ (writeEntries unit level entries).length := by
  induction entries with
  | nil => simp at member
  | cons head rest inductionHypothesis =>
      obtain ⟨key, value⟩ := head
      simp only [writeEntries_cons, List.length_cons, List.length_append]
      rcases List.mem_cons.mp member with rfl | later
      · simp only
        omega
      · have bound := inductionHypothesis later
        omega

/-- The values of a map are written inside of its text. -/
theorem length_write_lt_map (unit : Option (List Char)) (level : Nat)
    {entries : List (String × Tree)} {entry : String × Tree} (member : entry ∈ entries) :
    (write unit (level + 1) entry.2).length < (write unit level (.map entries)).length := by
  cases entries with
  | nil => cases member
  | cons head rest =>
      obtain ⟨key, value⟩ := head
      simp only [write_nonempty_map, List.length_cons, List.length_append]
      rcases List.mem_cons.mp member with rfl | later
      · simp only
        omega
      · have bound := length_write_le_writeEntries unit (level + 1) later
        omega

/-- The items of a list are written inside of its text. -/
theorem length_write_lt_list (unit : Option (List Char)) (level : Nat) {items : List Tree}
    {item : Tree} (member : item ∈ items) :
    (write unit (level + 1) item).length < (write unit level (.list items)).length := by
  cases items with
  | nil => cases member
  | cons head rest =>
      simp only [write_nonempty_list, List.length_cons, List.length_append]
      rcases List.mem_cons.mp member with rfl | later
      · omega
      · have bound := length_write_le_writeItems unit (level + 1) later
        omega

theorem length_le_list (unit : Option (List Char)) (level : Nat) (items : List Tree) :
    items.length ≤ (write unit level (.list items)).length := by
  cases items with
  | nil => exact Nat.zero_le _
  | cons head rest =>
      have bound := length_le_writeItems unit (level + 1) rest
      simp only [write_nonempty_list, List.length_cons, List.length_append]
      omega

/-- There are not more entries in a map than characters in its text. -/
theorem length_le_map (unit : Option (List Char)) (level : Nat)
    (entries : List (String × Tree)) :
    entries.length ≤ (write unit level (.map entries)).length := by
  cases entries with
  | nil => exact Nat.zero_le _
  | cons head rest =>
      obtain ⟨key, value⟩ := head
      have bound := length_le_writeEntries unit (level + 1) rest
      simp only [write_nonempty_map, List.length_cons, List.length_append]
      omega

/-- A tree is not nested deeper than its text has characters. -/
theorem depth_le_length_write (unit : Option (List Char)) (level : Nat) (tree : Tree) :
    tree.depth ≤ (write unit level tree).length := by
  induction tree generalizing level with
  | list items inductionHypothesis =>
      have some : 0 < (write unit level (.list items)).length := by
        cases items <;> exact Nat.succ_pos _
      rw [Tree.depth, Nat.succ_le_iff, Tree.itemDepth_lt_iff some]
      exact fun item member => (inductionHypothesis item member (level + 1)).trans_lt
        (length_write_lt_list unit level member)
  | map entries inductionHypothesis =>
      have some : 0 < (write unit level (.map entries)).length := by
        obtain _ | ⟨⟨key, value⟩, rest⟩ := entries <;> exact Nat.succ_pos _
      rw [Tree.depth, Nat.succ_le_iff, Tree.entryDepth_lt_iff some]
      exact fun entry member => (inductionHypothesis entry member (level + 1)).trans_lt
        (length_write_lt_map unit level member)
  | _ => exact Nat.zero_le _

section Parts

variable (read : List Char → Except ReadError (Datum × List Char)) (level outer : Nat)

/-- Whether a reader passes over white space in front of what it reads. -/
def SkipsSpace : Prop :=
  ∀ blank : List Char, blank.all isSpace = true → ∀ text, read (blank ++ text) = read text

/-- Whether a reader reads a written tree, whatever follows it, as data that is related to it. -/
def Reads (unit : Option (List Char)) (related : Tree → Datum → Prop) (tree : Tree) : Prop :=
  ∀ rest, endsNumber rest = true →
    ∃ datum, read (write unit level tree ++ rest) = .ok (datum, rest) ∧ related tree datum

variable {related : Tree → Datum → Prop}

private theorem readItems_write (blank : isBlankUnit unit = true) (skips : SkipsSpace read)
    (count : Nat) (first : Tree) (others : List Tree) (fits : others.length < count)
    (readsFirst : Reads read level unit related first)
    (readsOthers : ∀ item ∈ others, Reads read level unit related item) (rest : List Char) :
    ∃ data, readItems read count (write unit level first ++ (writeItems unit level others ++
        (lineStart unit outer ++ ']' :: rest))) = .ok (data, rest) ∧
      List.Forall₂ related (first :: others) data := by
  induction others generalizing first count with
  | nil =>
      obtain ⟨less, rfl⟩ : ∃ less, count = less + 1 := ⟨count - 1, by simp at fits; omega⟩
      obtain ⟨datum, found, isRelated⟩ := readsFirst (lineStart unit outer ++ ']' :: rest)
        (endsNumber_lineStart outer rfl)
      rw [readItems, writeItems, List.nil_append, found, itemDone]
      simp only [skipSpace_lineStart blank, skipSpace_cons (by decide : isSpace ']' = false)]
      exact ⟨_, rfl, .cons isRelated .nil⟩
  | cons second others inductionHypothesis =>
      obtain ⟨less, rfl⟩ : ∃ less, count = less + 1 := ⟨count - 1, by simp at fits; omega⟩
      obtain ⟨datum, found, isRelated⟩ := readsFirst (writeItems unit level (second :: others) ++
        (lineStart unit outer ++ ']' :: rest)) rfl
      obtain ⟨data, later, areRelated⟩ := inductionHypothesis less second (by simpa using fits)
        (readsOthers second (by simp)) fun item member =>
          readsOthers item (List.mem_cons_of_mem _ member)
      have moved : ∀ text, readItems read less (lineStart unit level ++ text) =
          readItems read less text := by
        intro text
        cases less with
        | zero => rfl
        | succ count => rw [readItems, readItems, skips _ (lineStart_blank blank level)]
      rw [readItems, found, itemDone]
      simp only [writeItems_cons, List.cons_append, List.append_assoc,
        skipSpace_cons (by decide : isSpace ',' = false), moved, later]
      exact ⟨_, rfl, .cons isRelated areRelated⟩

/-- A written key with its colon, in front of what is read as its value. -/
private theorem readEntry (skips : SkipsSpace read) (count : Nat) (entry : String × Tree)
    {datum : Datum} {rest : List Char}
    (reads : read (write unit level entry.2 ++ rest) = .ok (datum, rest)) :
    readEntries read (count + 1)
        (writeString entry.1 ++ (colon unit ++ (write unit level entry.2 ++ rest))) =
      match skipSpace rest with
      | ',' :: rest => do
          let (entries, rest) ← readEntries read count rest
          return ((.text entry.1, datum) :: entries, rest)
      | '\x7d' :: rest => return ([(.text entry.1, datum)], rest)
      | [] => throw .unexpectedEnd
      | character :: _ => throw (.unexpectedCharacter character) := by
  have key := readText_writeString entry.1 (colon unit ++ (write unit level entry.2 ++ rest))
  have quoted : writeString entry.1 ++ (colon unit ++ (write unit level entry.2 ++ rest)) =
      '"' :: (entry.1.toList.flatMap escape ++
        '"' :: (colon unit ++ (write unit level entry.2 ++ rest))) := by
    simp [writeString]
  rw [quoted, readEntries]
  simp only [skipSpace_cons (by decide : isSpace '"' = false), key, itemDone]
  cases unit with
  | none =>
      simp only [colon, List.cons_append, List.nil_append,
        skipSpace_cons (by decide : isSpace ':' = false)]
      rw [reads]
      rfl
  | some indent =>
      have spaced := skips [' '] rfl (write (some indent) level entry.2 ++ rest)
      simp only [List.cons_append, List.nil_append] at spaced
      simp only [colon, List.cons_append, List.nil_append,
        skipSpace_cons (by decide : isSpace ':' = false), spaced]
      rw [reads]
      rfl

/-- The entries of a written map are read one after the other. -/
theorem readEntries_write (blank : isBlankUnit unit = true) (skips : SkipsSpace read)
    (count : Nat) (first : String × Tree) (others : List (String × Tree))
    (fits : others.length < count) (readsFirst : Reads read level unit related first.2)
    (readsOthers : ∀ entry ∈ others, Reads read level unit related entry.2) (rest : List Char) :
    ∃ data, readEntries read count (writeString first.1 ++ (colon unit ++
        (write unit level first.2 ++ (writeEntries unit level others ++
          (lineStart unit outer ++ '\x7d' :: rest))))) = .ok (data, rest) ∧
      List.Forall₂ (fun entry datum => datum.1 = .text entry.1 ∧ related entry.2 datum.2)
        (first :: others) data := by
  induction others generalizing first count with
  | nil =>
      obtain ⟨less, rfl⟩ : ∃ less, count = less + 1 := ⟨count - 1, by simp at fits; omega⟩
      obtain ⟨datum, found, isRelated⟩ := readsFirst (lineStart unit outer ++ '\x7d' :: rest)
        (endsNumber_lineStart outer rfl)
      rw [writeEntries, List.nil_append, readEntry read level skips less first found]
      simp only [skipSpace_lineStart blank, skipSpace_cons (by decide : isSpace '\x7d' = false)]
      exact ⟨_, rfl, .cons ⟨rfl, isRelated⟩ .nil⟩
  | cons second others inductionHypothesis =>
      obtain ⟨less, rfl⟩ : ∃ less, count = less + 1 := ⟨count - 1, by simp at fits; omega⟩
      obtain ⟨datum, found, isRelated⟩ := readsFirst
        (writeEntries unit level (second :: others) ++ (lineStart unit outer ++ '\x7d' :: rest)) rfl
      obtain ⟨data, later, areRelated⟩ := inductionHypothesis less second (by simpa using fits)
        (readsOthers second (by simp)) fun entry member =>
          readsOthers entry (List.mem_cons_of_mem _ member)
      have moved : ∀ text, readEntries read less (lineStart unit level ++ text) =
          readEntries read less text := by
        intro text
        cases less with
        | zero => rfl
        | succ count => rw [readEntries, readEntries, skipSpace_lineStart blank]
      rw [readEntry read level skips less first found]
      simp only [writeEntries_cons, List.cons_append, List.append_assoc,
        skipSpace_cons (by decide : isSpace ',' = false), moved, later]
      exact ⟨_, rfl, .cons ⟨rfl, isRelated⟩ areRelated⟩

end Parts

/-- The text of a map with what stands behind it, from the first entry on. -/
theorem write_map_cons (level : Nat) (key : String) (value : Tree)
    (others : List (String × Tree)) (rest : List Char) :
    write unit level (.map ((key, value) :: others)) ++ rest =
      '\x7b' :: (lineStart unit (level + 1) ++ (writeString key ++ (colon unit ++
        (write unit (level + 1) value ++ (writeEntries unit (level + 1) others ++
          (lineStart unit level ++ '\x7d' :: rest)))))) := by
  simp [write_nonempty_map]

/-- A written number is read, in range or not. -/
theorem readValue_number (budget depth : Nat) {number : TreeNumber} {rest : List Char}
    (held : (Tree.number number).fits = true) (ends : endsNumber rest = true) :
    ∃ datum, readValue budget depth (writeNumber number ++ rest) = .ok (datum, rest) := by
  obtain ⟨literal, wellFormed, shown⟩ := Literal.exists_literal (Tree.fits_of_number held)
  obtain ⟨datum, found⟩ := Literal.readFigure_text wellFormed ends
  refine ⟨datum, ?_⟩
  rw [shown, Literal.text, List.append_assoc, List.append_assoc]
  cases negative : literal.negative with
  | true =>
      rw [negative] at found
      rw [← found]
      cases depth <;> rfl
  | false =>
      obtain ⟨first, others, digits⟩ := List.exists_cons_of_ne_nil wellFormed.whole.ne_nil
      have digit := wellFormed.whole.digits first (by rw [digits]; exact List.mem_cons_self)
      rw [negative, digits, List.cons_append] at found
      rw [if_neg (by decide), List.nil_append, digits, List.cons_append,
        readValue_digit budget depth digit, found]

theorem readValue_integer (budget depth : Nat) (value : Int) {rest : List Char}
    (exact : exactInteger value = true) (ends : endsNumber rest = true) :
    readValue budget depth (integerText value ++ rest) = .ok (.integer value, rest) := by
  have found := readFigure_integerText exact ends
  unfold integerText
  by_cases negative : value < 0
  · rw [if_pos negative] at found ⊢
    rw [← found]
    cases depth <;> rfl
  · rw [if_neg negative] at found ⊢
    obtain ⟨first, others, digits⟩ :=
      List.exists_cons_of_ne_nil (Literal.isDecimal_digitsOf value.natAbs).ne_nil
    have digit : isDigit first = true :=
      isDigit_of_mem_digitsOf (by rw [digits]; exact List.mem_cons_self)
    rw [digits, List.cons_append] at found ⊢
    rw [readValue_digit budget depth digit, found]

/-- A written text is read back, whatever follows it. -/
theorem readValue_text (budget depth level : Nat) (value : String) (rest : List Char) :
    readValue budget depth (write unit level (.text value) ++ rest) = .ok (.text value, rest) := by
  have found := readText_writeString value rest
  have shown : write unit level (.text value) ++ rest =
      '"' :: (value.toList.flatMap escape ++ '"' :: rest) := by
    simp [write, writeString]
  rw [shown, ← found]
  cases depth <;> rfl

/-- The data that a tree is read back as, if its numbers are integers. -/
private def IsDataOf (tree : Tree) (datum : Datum) : Prop :=
  tree.isWhole = true → datum = ofTree tree

private theorem ofItems_of_forall {items : List Tree} {data : List Datum}
    (related : List.Forall₂ IsDataOf items data) (whole : ∀ item ∈ items, item.isWhole = true) :
    data = ofItems items := by
  induction related with
  | nil => rfl
  | cons first _ inductionHypothesis =>
      rw [ofItems, first (whole _ List.mem_cons_self),
        inductionHypothesis fun item member => whole item (List.mem_cons_of_mem _ member)]

private theorem ofEntries_of_forall {entries : List (String × Tree)} {data : List (Datum × Datum)}
    (related : List.Forall₂ (fun entry datum => datum.1 = .text entry.1 ∧ IsDataOf entry.2 datum.2)
      entries data)
    (whole : ∀ entry ∈ entries, entry.2.isWhole = true) : data = ofEntries entries := by
  induction related with
  | nil => rfl
  | @cons entry datum _ _ first _ inductionHypothesis =>
      obtain ⟨key, value⟩ := entry
      obtain ⟨keyDatum, valueDatum⟩ := datum
      obtain ⟨rfl, valueRelated⟩ := first
      obtain rfl := valueRelated (whole _ List.mem_cons_self)
      rw [ofEntries,
        inductionHypothesis fun entry member => whole entry (List.mem_cons_of_mem _ member)]

/-- A written list is read if its items are. -/
private theorem exists_readValue_list (blank : isBlankUnit unit = true) {budget inner level : Nat}
    {items : List Tree} (held : (Tree.list items).fits = true) (fewer : items.length ≤ budget)
    (reads : ∀ item ∈ items, Reads (readValue budget inner) (level + 1) unit IsDataOf item)
    (rest : List Char) :
    ∃ datum, readValue budget (inner + 1) (write unit level (.list items) ++ rest) =
      .ok (datum, rest) ∧ IsDataOf (.list items) datum := by
  cases items with
  | nil => exact ⟨.list [], rfl, fun _ => rfl⟩
  | cons item others =>
      obtain ⟨data, found, areRelated⟩ := readItems_write (readValue budget inner) (level + 1)
        level blank (readValue_skips budget inner) budget item others fewer
        (reads item List.mem_cons_self)
        (fun other member => reads other (List.mem_cons_of_mem _ member)) rest
      obtain ⟨first, more, shown, visible, notClosed, -⟩ :=
        write_cons unit (level + 1) (((Tree.every_list_iff _).mp held).2 item List.mem_cons_self)
      have text : write unit level (.list (item :: others)) ++ rest =
          '[' :: (lineStart unit (level + 1) ++ (write unit (level + 1) item ++
            (writeItems unit (level + 1) others ++ (lineStart unit level ++ ']' :: rest)))) := by
        simp [write_nonempty_list]
      rw [shown, List.cons_append] at found text
      rw [text]
      have behind := (skipSpace_lineStart blank (level + 1) _).trans (skipSpace_cons visible
        (more ++ (writeItems unit (level + 1) others ++ (lineStart unit level ++ ']' :: rest))))
      refine ⟨.list data, readValue_list (skipSpace_cons (by decide) _) (.inr ⟨?_, ?_⟩),
        fun whole => ?_⟩
      · exact fun closed same => notClosed (List.cons.inj (behind.symm.trans same)).1
      · rw [behind, found]
      · rw [ofTree, ofItems_of_forall areRelated ((Tree.every_list_iff _).mp whole).2]

/-- A written map is read if its values are. -/
private theorem exists_readValue_map (blank : isBlankUnit unit = true) {budget inner level : Nat}
    {entries : List (String × Tree)} (fewer : entries.length ≤ budget)
    (reads : ∀ entry ∈ entries, Reads (readValue budget inner) (level + 1) unit IsDataOf entry.2)
    (rest : List Char) :
    ∃ datum, readValue budget (inner + 1) (write unit level (.map entries) ++ rest) =
      .ok (datum, rest) ∧ IsDataOf (.map entries) datum := by
  cases entries with
  | nil => exact ⟨.record [], rfl, fun _ => rfl⟩
  | cons entry others =>
      obtain ⟨key, value⟩ := entry
      obtain ⟨data, found, areRelated⟩ := readEntries_write (readValue budget inner) (level + 1)
        level blank (readValue_skips budget inner) budget (key, value) others fewer
        (reads (key, value) List.mem_cons_self)
        (fun other member => reads other (List.mem_cons_of_mem _ member)) rest
      rw [write_map_cons]
      rw [writeString, List.cons_append] at found ⊢
      refine ⟨.record data, readValue_record (skipSpace_cons (by decide) _) (.inr ⟨?_, ?_⟩),
        fun whole => ?_⟩
      · rw [skipSpace_lineStart blank, skipSpace_cons (by decide)]
        exact fun closed same => absurd (List.cons.inj same).1 (by decide)
      · rw [skipSpace_lineStart blank, skipSpace_cons (by decide), found]
      · rw [ofTree, ofEntries_of_forall areRelated ((Tree.every_map_iff _).mp whole).2]

/-- A written tree is read, whatever follows it that is no part of a number, and read back if its
numbers are integers. The reader has to allow the depth of the tree and as many items as the text
has characters. -/
theorem exists_readValue_write (blank : isBlankUnit unit = true) (budget : Nat) (tree : Tree)
    (held : tree.fits = true) (level depth : Nat) (deep : tree.depth ≤ depth)
    (fits : (write unit level tree).length ≤ budget) {rest : List Char}
    (ends : endsNumber rest = true) :
    ∃ datum, readValue budget depth (write unit level tree ++ rest) = .ok (datum, rest) ∧
      IsDataOf tree datum := by
  induction tree generalizing level depth rest with
  | null => exact ⟨.null, by cases depth <;> rfl, fun _ => rfl⟩
  | bool value => exact ⟨.bool value, by cases value <;> cases depth <;> rfl, fun _ => rfl⟩
  | number value =>
      obtain ⟨datum, found⟩ := readValue_number budget depth held ends
      refine ⟨datum, found, fun whole => ?_⟩
      cases value with
      | integer value =>
          have exact := readValue_integer budget depth value whole ends
          exact congrArg Prod.fst (Except.ok.inj (found.symm.trans exact))
      | floating value => simp [Tree.isWhole, Tree.every, Tree.isWholeNode] at whole
  | text value => exact ⟨.text value, readValue_text budget depth level value rest, fun _ => rfl⟩
  | list items inductionHypothesis =>
      obtain ⟨inner, rfl⟩ : ∃ inner, depth = inner + 1 :=
        ⟨depth - 1, by rw [Tree.depth] at deep; omega⟩
      rw [Tree.depth] at deep
      refine exists_readValue_list blank held ((length_le_list unit level _).trans fits) ?_ rest
      intro item member rest ends
      have lower := Tree.depth_le_itemDepth member
      exact inductionHypothesis item member (((Tree.every_list_iff _).mp held).2 item member)
        (level + 1) inner (by omega) ((length_write_lt_list unit level member).le.trans fits) ends
  | map entries inductionHypothesis =>
      obtain ⟨inner, rfl⟩ : ∃ inner, depth = inner + 1 :=
        ⟨depth - 1, by rw [Tree.depth] at deep; omega⟩
      rw [Tree.depth] at deep
      refine exists_readValue_map blank ((length_le_map unit level _).trans fits) ?_ rest
      intro entry member rest ends
      have lower := Tree.depth_le_entryDepth member
      exact inductionHypothesis entry member (((Tree.every_map_iff _).mp held).2 entry member)
        (level + 1) inner (by omega) ((length_write_lt_map unit level member).le.trans fits) ends

/-- A written tree whose numbers are integers is read back. -/
theorem readValue_write (blank : isBlankUnit unit = true) (budget : Nat) (tree : Tree)
    (whole : tree.isWhole = true) (level depth : Nat) (deep : tree.depth ≤ depth)
    (fits : (write unit level tree).length ≤ budget) {rest : List Char}
    (ends : endsNumber rest = true) :
    readValue budget depth (write unit level tree ++ rest) = .ok (ofTree tree, rest) := by
  obtain ⟨datum, found, isData⟩ := exists_readValue_write blank budget tree
    (Tree.fits_of_isWhole whole) level depth deep fits ends
  rw [found, isData whole]

/-! ## Whole texts -/

/-- A written tree with white space behind it is read back. -/
theorem readTree_write (blank : isBlankUnit unit = true) {tree : Tree}
    (whole : tree.isWhole = true) (keyed : tree.isKeyed = true)
    (deep : tree.depth ≤ nestingLimit) {behind : List Char}
    (spaces : behind.all isSpace = true) :
    readTree (write unit 0 tree ++ behind) = .ok tree := by
  have ends : endsNumber behind = true := by
    cases behind with
    | nil => rfl
    | cons first others =>
        simp only [List.all_cons, Bool.and_eq_true] at spaces
        have space : ((first = ' ' ∨ first = '\n') ∨ first = '\t') ∨ first = '\r' := by
          simpa [isSpace] using spaces.1
        rcases space with ((rfl | rfl) | rfl) | rfl <;> rfl
  have found := readValue_write blank (write unit 0 tree ++ behind).length tree whole 0
    nestingLimit deep (by simp) ends
  have done : skipSpace behind = [] := by
    have dropped := skipSpace_of_blank spaces []
    rwa [List.append_nil] at dropped
  have datum : readDatum (write unit 0 tree ++ behind) = .ok (ofTree tree) := by
    rw [readDatum, found, itemDone]
    simp only [done]
    rfl
  rw [readTree, datum, itemDone, Datum.toTree?_ofTree tree whole keyed]
  rfl

end Json

end ReleaseRules
