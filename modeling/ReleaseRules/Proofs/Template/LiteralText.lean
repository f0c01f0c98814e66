import ReleaseRules.Proofs.Document.Entries
import ReleaseRules.Proofs.Template.Expansion
import ReleaseRules.Proofs.Template.MarkedText

/-!
Contract: the expansion of templates without calls against substitution.

Owns:
- slots that a template writes itself;
- a template without an opening parenthesis has no calls;
- expansion is substitution for templates that write no slot in which a value is kept, and for no
  others if the values have no marks in them.

Does not own: templates with calls.

The marks of slots are characters that a template can hold as well. A slot that the template writes
itself cannot be told from one that stands for a placeholder: if a value is kept under its number,
the template's own characters give way to this value.
-/

namespace ReleaseRules.Template

variable {bindings : Variables} {slots : Slots} {parts : List Piece} {text : List Char}

/-! ## Slots that a text writes -/

/-- Whether a text starts with a slot whose number is below a bound. -/
def startsWithSlot (bound : Nat) (text : List Char) : Bool :=
  (slot? text).any fun found => found.1 < bound

theorem startsWithSlot_iff {bound : Nat} :
    startsWithSlot bound text = true ↔
      ∃ number after, slot? text = some (number, after) ∧ number < bound := by
  rw [startsWithSlot, Option.any_eq_true]
  constructor
  · rintro ⟨⟨number, after⟩, found, below⟩
    exact ⟨number, after, found, of_decide_eq_true below⟩
  · rintro ⟨number, after, found, below⟩
    exact ⟨(number, after), found, decide_eq_true below⟩

/-- Whether a slot with a number below a bound stands anywhere in a text. -/
def writesSlot (bound : Nat) (text : List Char) : Bool := text.tails.any (startsWithSlot bound)

theorem writesSlot_cons (bound : Nat) (first : Char) (rest : List Char) :
    writesSlot bound (first :: rest) =
      (startsWithSlot bound (first :: rest) || writesSlot bound rest) :=
  rfl

/-- No slot starts in characters that are no opening marks. -/
theorem writesSlot_append_of_noOpen {front : List Char} (noOpen : slotOpen ∉ front) (bound : Nat)
    (text : List Char) : writesSlot bound (front ++ text) = writesSlot bound text := by
  induction front with
  | nil => rfl
  | cons first rest inductionHypothesis =>
      have other : first ≠ slotOpen := fun same => noOpen (same ▸ List.mem_cons_self)
      rw [List.cons_append, writesSlot_cons, startsWithSlot, slot?_of_ne other,
        inductionHypothesis fun member => noOpen (List.mem_cons_of_mem first member)]
      rfl

theorem fill_append_of_noOpen {front : List Char} (noOpen : slotOpen ∉ front) (slots : Slots)
    (text : List Char) : fill slots (front ++ text) = front ++ fill slots text := by
  induction front with
  | nil => rfl
  | cons first rest inductionHypothesis =>
      have other : first ≠ slotOpen := fun same => noOpen (same ▸ List.mem_cons_self)
      rw [List.cons_append, fill_cons_of_ne other,
        inductionHypothesis fun member => noOpen (List.mem_cons_of_mem first member)]
      rfl

/-- A character stays where no kept slot starts with it; the digits of a slot that is not kept stay
with it. -/
theorem fill_cons_of_not_startsWithSlot {first : Char}
    (noSlot : startsWithSlot slots.size (first :: text) = false) :
    fill slots (first :: text) = first :: fill slots text := by
  cases found : slot? (first :: text) with
  | none =>
      rw [fill, fillFrom, found]
      rfl
  | some slot =>
      obtain ⟨number, after⟩ := slot
      obtain ⟨inner, rfl, length, noOpen⟩ := exists_inner_of_slot? found
      have free : slots[number]? = none := by
        rw [startsWithSlot, found] at noSlot
        simpa using noSlot
      rw [fill, fillFrom, found]
      simp only [free]
      rw [length, fillFrom_length_append, fill_append_of_noOpen noOpen, List.take_left]

/-! ## Marked texts without slots of their own -/

theorem IsBraced.noOpen {source : List Char} (braced : IsBraced source) : slotOpen ∉ source := by
  obtain ⟨inside, rfl, parts⟩ := braced
  intro member
  rcases List.mem_cons.mp member with brace | later
  · cases brace
  · exact absurd (parts slotOpen later) (by decide)

theorem flatMap_substituted_literals (bindings : Variables) (front : List Char) :
    (front.map Piece.literal).flatMap (Piece.substituted bindings) = front := by
  induction front with
  | nil => rfl
  | cons first rest inductionHypothesis => exact congrArg (first :: ·) inductionHypothesis

namespace Marked

/-- Texts of the same pieces start with the same slots if the first piece is literal. -/
theorem startsWithSlot_of_startsWithSlot {first : Char} {bound : Nat} {otherSlots : Slots}
    {otherBindings : Variables} {other : List Char}
    (marked : Marked slots bindings (.literal first :: parts) (first :: text))
    (also : Marked otherSlots otherBindings (.literal first :: parts) (first :: other))
    (starts : startsWithSlot bound (first :: text) = true) :
    startsWithSlot bound (first :: other) = true := by
  obtain ⟨number, after, found, below⟩ := startsWithSlot_iff.mp starts
  obtain ⟨front, others, whole, -, -, isSlot⟩ := marked.exists_of_slot? found
  rw [whole] at also
  obtain ⟨behind, shown, -⟩ := literals_append_iff.mp also
  exact startsWithSlot_iff.mpr ⟨number, behind, shown ▸ isSlot behind, below⟩

theorem startsWithSlot_written {first : Char} (marked : Marked slots bindings parts text)
    (bound : Nat) :
    startsWithSlot bound (first :: parts.flatMap Piece.written) =
      startsWithSlot bound (first :: text) := by
  have here : Marked slots bindings (.literal first :: parts) (first :: text) :=
    .literal first marked
  have there : Marked slots [] (.literal first :: parts)
      (first :: parts.flatMap Piece.written) := .literal first marked.written
  exact Bool.eq_iff_iff.mpr ⟨there.startsWithSlot_of_startsWithSlot here,
    here.startsWithSlot_of_startsWithSlot there⟩

/-- If the pieces write no kept slot, nothing but placeholders gives way to values. -/
theorem fill_eq (marked : Marked slots bindings parts text)
    (noSlot : writesSlot slots.size (parts.flatMap Piece.written) = false) :
    fill slots text = parts.flatMap (Piece.substituted bindings) := by
  induction marked with
  | nil => rfl
  | literal character rest inductionHypothesis =>
      rw [List.flatMap_cons, Piece.written, List.singleton_append, writesSlot_cons,
        Bool.or_eq_false_iff, rest.startsWithSlot_written] at noSlot
      rw [fill_cons_of_not_startsWithSlot noSlot.1, inductionHypothesis noSlot.2]
      rfl
  | known braced bound kept rest inductionHypothesis =>
      rw [List.flatMap_cons, Piece.written, writesSlot_append_of_noOpen braced.noOpen] at noSlot
      rw [fill_slotText_append kept, inductionHypothesis noSlot, List.flatMap_cons,
        Piece.substituted, bound]
  | unknown braced free rest inductionHypothesis =>
      rw [List.flatMap_cons, Piece.written, writesSlot_append_of_noOpen braced.noOpen] at noSlot
      rw [fill_append_of_noOpen braced.noOpen, inductionHypothesis noSlot, List.flatMap_cons,
        Piece.substituted, free]

/-- A kept slot that the pieces write gives way to its value, with its opening mark. -/
theorem exists_behind_slot {first : Char}
    (marked : Marked slots bindings (.literal first :: parts) (first :: text))
    (bare : ∀ value ∈ slots, slotOpen ∉ value)
    (starts : startsWithSlot slots.size (first :: text) = true) :
    ∃ others after, others.length < (Piece.literal first :: parts).length ∧
      Marked slots bindings others after ∧
      (fill slots (first :: text)).count slotOpen = (fill slots after).count slotOpen ∧
      (others.flatMap (Piece.substituted bindings)).count slotOpen <
        ((Piece.literal first :: parts).flatMap (Piece.substituted bindings)).count slotOpen := by
  obtain ⟨number, after, found, inside⟩ := startsWithSlot_iff.mp starts
  obtain ⟨front, others, whole, shown, opens, -⟩ := marked.exists_of_slot? found
  have noMark := List.count_eq_zero.mpr (bare _ (Array.getElem_mem inside))
  have mark := List.count_pos_iff.mpr opens
  refine ⟨others, after, ?_, shown, ?_, ?_⟩
  · rw [whole, List.length_append, List.length_map]
    exact Nat.lt_add_of_pos_left (List.length_pos_of_mem opens)
  · rw [fill_of_slot? found (Array.getElem?_eq_getElem inside), List.count_append, noMark,
      Nat.zero_add]
  · rw [whole, List.flatMap_append, flatMap_substituted_literals, List.count_append]
    exact Nat.lt_add_of_pos_left mark

/-- If the values have no marks in them, filling leaves no more opening marks than substitution. -/
theorem count_fill_le (marked : Marked slots bindings parts text)
    (bare : ∀ value ∈ slots, slotOpen ∉ value) :
    (fill slots text).count slotOpen ≤
      (parts.flatMap (Piece.substituted bindings)).count slotOpen := by
  -- Behind a slot that the pieces write, the text goes on with a later piece than the next.
  induction length : parts.length using Nat.strong_induction_on generalizing parts text with
  | _ count inductionHypothesis =>
      subst length
      cases marked with
      | nil => exact Nat.le_refl 0
      | @literal first others rest later =>
          cases starts : startsWithSlot slots.size (first :: rest) with
          | true =>
              obtain ⟨behind, after, shorter, shown, same, fewer⟩ :=
                (Marked.literal first later).exists_behind_slot bare starts
              rw [same]
              exact (inductionHypothesis _ shorter shown rfl).trans fewer.le
          | false =>
              have rest := inductionHypothesis _ (Nat.lt_succ_self _) later rfl
              rw [fill_cons_of_not_startsWithSlot starts, List.flatMap_cons, Piece.substituted,
                List.singleton_append, List.count_cons, List.count_cons]
              exact Nat.add_le_add_right rest _
      | known _ bound kept later =>
          have rest := inductionHypothesis _ (Nat.lt_succ_self _) later rfl
          rw [fill_slotText_append kept, List.flatMap_cons, Piece.substituted, bound,
            List.count_append, List.count_append]
          exact Nat.add_le_add_left rest _
      | unknown braced free later =>
          have rest := inductionHypothesis _ (Nat.lt_succ_self _) later rfl
          rw [fill_append_of_noOpen braced.noOpen, List.flatMap_cons, Piece.substituted, free,
            List.count_append, List.count_append]
          exact Nat.add_le_add_left rest _

/-- If the pieces write a kept slot, filling leaves fewer opening marks than substitution. -/
theorem count_fill_lt (marked : Marked slots bindings parts text)
    (bare : ∀ value ∈ slots, slotOpen ∉ value)
    (writes : writesSlot slots.size (parts.flatMap Piece.written) = true) :
    (fill slots text).count slotOpen <
      (parts.flatMap (Piece.substituted bindings)).count slotOpen := by
  induction marked with
  | nil => cases writes
  | @literal first others rest later inductionHypothesis =>
      cases starts : startsWithSlot slots.size (first :: rest) with
      | true =>
          obtain ⟨behind, after, -, shown, same, fewer⟩ :=
            (Marked.literal first later).exists_behind_slot bare starts
          rw [same]
          exact (shown.count_fill_le bare).trans_lt fewer
      | false =>
          rw [List.flatMap_cons, Piece.written, List.singleton_append, writesSlot_cons,
            later.startsWithSlot_written, starts, Bool.false_or] at writes
          rw [fill_cons_of_not_startsWithSlot starts, List.flatMap_cons, Piece.substituted,
            List.singleton_append, List.count_cons, List.count_cons]
          exact Nat.add_lt_add_right (inductionHypothesis writes) _
  | known braced bound kept _ inductionHypothesis =>
      rw [List.flatMap_cons, Piece.written, writesSlot_append_of_noOpen braced.noOpen] at writes
      rw [fill_slotText_append kept, List.flatMap_cons, Piece.substituted, bound,
        List.count_append, List.count_append]
      exact Nat.add_lt_add_left (inductionHypothesis writes) _
  | unknown braced free _ inductionHypothesis =>
      rw [List.flatMap_cons, Piece.written, writesSlot_append_of_noOpen braced.noOpen] at writes
      rw [fill_append_of_noOpen braced.noOpen, List.flatMap_cons, Piece.substituted, free,
        List.count_append, List.count_append]
      exact Nat.add_lt_add_left (inductionHypothesis writes) _

end Marked

/-! ## Templates without calls -/

theorem call?_of_noParenthesis (noParenthesis : '(' ∉ text) (before : Option Char) :
    call? before text = none := by
  cases found : call? before text with
  | none => rfl
  | some call =>
      apply absurd _ noParenthesis
      rw [(callText_append_of_call? found).1]
      simp [callText]

theorem evaluatePass_of_noParenthesis (noParenthesis : '(' ∉ text) (before : Option Char)
    (slots : Slots) : evaluatePass before 0 text slots = (text, slots) := by
  induction text generalizing before with
  | nil => rfl
  | cons first rest inductionHypothesis =>
      have later : '(' ∉ rest := fun member => noParenthesis (List.mem_cons_of_mem first member)
      rw [evaluatePass_of_none (call?_of_noParenthesis noParenthesis before),
        inductionHypothesis later]

/-- Without calls the first pass finds nothing, and it is the only one. -/
theorem evaluatePasses_of_noParenthesis (noParenthesis : '(' ∉ text) (count : Nat)
    (slots : Slots) : evaluatePasses count text slots = (text, slots) := by
  cases count with
  | zero => rfl
  | succ count =>
      rw [evaluatePasses_succ, evaluatePass_of_noParenthesis noParenthesis]
      exact if_pos rfl

/-! ## Expansion and substitution -/

/-- Whether a template writes a slot itself in which the value of one of its placeholders is
kept. -/
def writesKeptSlot (template : List Char) (bindings : Variables) : Bool :=
  writesSlot ((pieces template).countP (Piece.isKnown bindings)) template

/-- **Literal text.** A template without calls that writes no kept slot itself is expanded by
substitution. If the values have no opening marks in them, no other template without calls is. -/
theorem expand_eq_substitute_of_noParenthesis {template : List Char} (noParenthesis : '(' ∉ template)
    (bindings : Variables) :
    (writesKeptSlot template bindings = false →
      expand template bindings = substitute template bindings) ∧
    ((∀ name value, Tree.lookup name bindings = some value → slotOpen ∉ value.toList) →
      (expand template bindings = substitute template bindings ↔
        writesKeptSlot template bindings = false)) := by
  have prepared : Prepared bindings (pieces template) #[]
      (markPieces bindings (pieces template) #[]) :=
    prepared_markPieces (fun _ _ member => isBraced_of_mem_piecesFrom member) #[]
  have whole := flatMap_written_pieces template
  have filled : expand template bindings = fill (markPieces bindings (pieces template) #[]).2
      (markPieces bindings (pieces template) #[]).1 := by
    have outside := prepared.marked.noParenthesis (by rwa [whole])
    rw [expand]
    simp only [evaluatePasses_of_noParenthesis outside]
  have size : (markPieces bindings (pieces template) #[]).2.size =
      (pieces template).countP (Piece.isKnown bindings) :=
    prepared.size.trans (Nat.zero_add _)
  have same (noSlot : writesKeptSlot template bindings = false) :
      expand template bindings = substitute template bindings := by
    rw [filled]
    apply prepared.marked.fill_eq
    rwa [size, whole]
  refine ⟨same, fun bareValues => ⟨fun equal => ?_, same⟩⟩
  have bare : ∀ value ∈ (markPieces bindings (pieces template) #[]).2, slotOpen ∉ value := by
    intro value member
    rcases prepared.values value member with nothing | ⟨name, known, found, rfl⟩
    · cases Array.not_mem_empty value nothing
    · exact bareValues name known found
  by_contra writes
  rw [Bool.not_eq_false, writesKeptSlot] at writes
  have fewer := prepared.marked.count_fill_lt bare (by rwa [size, whole])
  rw [← filled, equal] at fewer
  exact absurd fewer (Nat.lt_irrefl _)

/-- With one known placeholder the first slot is kept and the second one is not. -/
theorem second_slot_is_literal_text :
    ('(' ∉ "\uE0001\uE001{tag}/{other}".toList ∧
      writesKeptSlot "\uE0001\uE001{tag}/{other}".toList [("tag", "v1")] = false ∧
      expand "\uE0001\uE001{tag}/{other}".toList [("tag", "v1")] =
        substitute "\uE0001\uE001{tag}/{other}".toList [("tag", "v1")]) ∧
    ('(' ∉ "\uE00000\uE001{{ tag }}".toList ∧
      (∀ name value, Tree.lookup name [("tag", "v1")] = some value → slotOpen ∉ value.toList) ∧
      expand "\uE00000\uE001{{ tag }}".toList [("tag", "v1")] ≠
        substitute "\uE00000\uE001{{ tag }}".toList [("tag", "v1")]) := by
  have bare : ∀ name value, Tree.lookup name [("tag", "v1")] = some value →
      slotOpen ∉ value.toList := by
    intro name value found
    obtain ⟨-, rfl⟩ := Prod.mk.inj (List.mem_singleton.mp (Tree.mem_of_lookup found))
    decide
  have noCall : '(' ∉ "\uE0001\uE001{tag}/{other}".toList := by decide
  have noCallToo : '(' ∉ "\uE00000\uE001{{ tag }}".toList := by decide
  have unkept : writesKeptSlot "\uE0001\uE001{tag}/{other}".toList [("tag", "v1")] = false :=
    rfl
  refine ⟨⟨noCall, unkept, ?_⟩, noCallToo, bare, ?_⟩
  · exact (expand_eq_substitute_of_noParenthesis noCall _).1 unkept
  · intro same
    have none := ((expand_eq_substitute_of_noParenthesis noCallToo _).2 bare).mp same
    have kept : writesKeptSlot "\uE00000\uE001{{ tag }}".toList [("tag", "v1")] = true := rfl
    exact Bool.noConfusion (kept.symm.trans none)

/-- The first slot gives way to the tag wherever a template writes it, and substitution leaves it
as it is. -/
theorem first_slot_gives_way_to_value :
    '(' ∉ "\uE0000\uE001{tag}".toList ∧
      expand "\uE0000\uE001{tag}".toList [("tag", "v1")] = "v1v1".toList ∧
      substitute "\uE0000\uE001{tag}".toList [("tag", "v1")] = "\uE0000\uE001v1".toList :=
  ⟨by decide, rfl, rfl⟩

end ReleaseRules.Template
