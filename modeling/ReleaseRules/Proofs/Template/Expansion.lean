import ReleaseRules.Proofs.Template.Calls
import ReleaseRules.Proofs.Template.Placeholders

/-!
Contract: the expansion of a template never reads the text of a variable.

Owns:
- a pass over a text with slots is a pass over the symbols that it shows;
- passes until nothing changes are the passes that a limit allows;
- the marked template shows the symbols of its pieces;
- the expansion of a template is the expansion with opaque variables.

Does not own: what the functions of templates compute.

A pass is followed from finding to finding. In front of each of them the text and the symbols agree
on whether a word ends there, as the mark that closes a slot is no character of a word.
-/

namespace ReleaseRules.Template

open ReleaseRules.Template.Symbol (isLiteral textOf)
open Unicode (isWord)

variable {slots : Slots} {text : List Char} {symbols : List Symbol}

/-! ## One pass over a text -/

/-- The characters of a call as it is written. -/
def callText (name inside : List Char) : List Char := name ++ '(' :: (inside ++ [')'])

theorem callText_append_of_call? {before : Option Char} {call : Call}
    (found : call? before text = some call) :
    text = callText call.name call.arguments ++ call.after ∧
      ∃ first others, call.name = first :: others := by
  unfold call? at found
  split at found
  · cases found
  · rename_i first rest
    split at found
    · split at found
      · rename_i inside opened
        split at found
        · rename_i after closed
          obtain rfl := Option.some.inj found
          have written := Text.eq_append_of_dropWhile opened closed
          refine ⟨?_, first, _, rfl⟩
          conv_lhs => rw [written]
          simp [callText]
        · cases found
      · cases found
    · cases found

/-- The characters that belong to a call are passed over, and the last of them is the one in front
of what follows. -/
theorem evaluatePass_skip (before : Option Char) (front : List Char) (last : Char)
    (text : List Char) (slots : Slots) :
    evaluatePass before (front ++ [last]).length (front ++ [last] ++ text) slots =
      evaluatePass (some last) 0 text slots := by
  induction front generalizing before with
  | nil => rfl
  | cons first _ inductionHypothesis => exact inductionHypothesis (some first)

theorem evaluatePass_of_none {before : Option Char} {character : Char} {text : List Char}
    (none : call? before (character :: text) = none) (slots : Slots) :
    evaluatePass before 0 (character :: text) slots =
      (character :: (evaluatePass (some character) 0 text slots).1,
        (evaluatePass (some character) 0 text slots).2) := by
  rw [evaluatePass, none]

/-- Characters that start no name of a function stay as they are. -/
theorem evaluatePass_of_not_start (before : Option Char) {front : List Char} {last : Char}
    (never : ∀ character ∈ front ++ [last], isFunctionStart character = false)
    (text : List Char) (slots : Slots) :
    evaluatePass before 0 (front ++ [last] ++ text) slots =
      (front ++ [last] ++ (evaluatePass (some last) 0 text slots).1,
        (evaluatePass (some last) 0 text slots).2) := by
  induction front generalizing before with
  | nil =>
      have none : call? before (last :: text) = none :=
        if_neg (by simp [never last (by simp)])
      exact evaluatePass_of_none none slots
  | cons first rest inductionHypothesis =>
      have none : call? before (first :: (rest ++ [last] ++ text)) = none :=
        if_neg (by simp [never first (by simp)])
      have later := inductionHypothesis (some first) fun character member =>
        never character (List.mem_cons_of_mem first member)
      rw [List.cons_append, List.cons_append, evaluatePass_of_none none, later]
      rfl

theorem isFunctionStart_of_isDecimalDigit {character : Char}
    (decimal : Number.isDecimalDigit character = true) : isFunctionStart character = false := by
  have range := Number.toNat_of_isDecimalDigit decimal
  rw [isFunctionStart, Bool.or_eq_false_iff, Bool.and_eq_false_iff]
  constructor
  · left
    rw [decide_eq_false_iff_not, Char.le_def, UInt32.le_iff_toNat_le]
    show ¬ 97 ≤ character.toNat
    omega
  · rw [decide_eq_false_iff_not]
    rintro rfl
    cases decimal

theorem evaluatePass_slotText_append (before : Option Char) (number : Nat) (text : List Char)
    (slots : Slots) :
    evaluatePass before 0 (slotText number ++ text) slots =
      (slotText number ++ (evaluatePass (some slotClose) 0 text slots).1,
        (evaluatePass (some slotClose) 0 text slots).2) := by
  have never : ∀ character ∈ slotText number, isFunctionStart character = false := by
    apply forall_slotText
    · decide
    · intro character decimal
      exact isFunctionStart_of_isDecimalDigit decimal
    · decide
  have shown : slotText number = slotOpen :: Number.digitsOf number ++ [slotClose] := rfl
  rw [shown] at never ⊢
  exact evaluatePass_of_not_start before never text slots

/-- A call gives way to a new slot if it has a value and stays as it is written if not; the pass
goes on behind it. -/
theorem evaluatePass_of_some {before : Option Char} {call : Call}
    (found : call? before text = some call) (slots : Slots) :
    evaluatePass before 0 text slots =
      match evaluate (String.ofList call.name) ((arguments call.arguments).map (fill slots)) with
      | some result =>
          (slotText slots.size ++ (evaluatePass (some ')') 0 call.after (slots.push result)).1,
            (evaluatePass (some ')') 0 call.after (slots.push result)).2)
      | none =>
          (callText call.name call.arguments ++ (evaluatePass (some ')') 0 call.after slots).1,
            (evaluatePass (some ')') 0 call.after slots).2) := by
  obtain ⟨shown, first, others, name⟩ := callText_append_of_call? found
  have written : callText call.name call.arguments =
      first :: (others ++ '(' :: call.arguments ++ [')']) := by
    simp [callText, name]
  rw [shown, written, List.cons_append] at found ⊢
  have length (front : List Char) : (front ++ call.after).length - call.after.length =
      front.length := by
    rw [List.length_append, Nat.add_sub_cancel]
  rw [evaluatePass, found]
  simp only [length, List.take_left, Slots.keep, evaluatePass_skip]
  rfl

theorem findCalls_of_some {before : Option Symbol} {first : Symbol} {rest : List Symbol}
    {call : SymbolCall} (found : symbolCall? before (first :: rest) = some call) :
    findCalls before (first :: rest) =
      .call call.name call.inside :: findCalls (some (.literal ')')) call.after := by
  rw [findCalls]
  split
  · rename_i other foundOther
    obtain rfl := Option.some.inj (found.symm.trans foundOther)
    rfl
  · rename_i none
    exact absurd (found.symm.trans none) (Option.some_ne_none call)

theorem findCalls_of_none {before : Option Symbol} {first : Symbol} {rest : List Symbol}
    (none : symbolCall? before (first :: rest) = none) :
    findCalls before (first :: rest) = .single first :: findCalls (some first) rest := by
  rw [findCalls]
  split
  · rename_i call found
    exact absurd (found.symm.trans none) (Option.some_ne_none call)
  · rfl

theorem ShowsCall.callText {call : Call} {shown : SymbolCall}
    (shows : ShowsCall slots call shown) :
    Shows slots (Template.callText call.name call.arguments)
      (callSymbols shown.name shown.inside) := by
  rw [Template.callText, callSymbols, ← shows.name_eq]
  apply (Shows.of_plain shows.name_plain).append
  apply Shows.literal (by decide)
  exact shows.arguments.append (.literal (by decide) .nil)

/-- A text with slots after a pass: slots may have been added, and the text shows the symbols after
the pass. -/
structure Passed (slots : Slots) (result : List Char × Slots) (symbols : List Symbol) : Prop where
  longer : slots.Extends result.2
  shows : Shows result.2 result.1 symbols

/-- A pass over a text is a pass over the symbols that it shows. -/
theorem Shows.passed {before : Option Char} {beforeToo : Option Symbol}
    (shows : Shows slots text symbols)
    (boundary : before.any isWord = beforeToo.any (isLiteral isWord)) :
    Passed slots (evaluatePass before 0 text slots)
      ((findCalls beforeToo symbols).flatMap Finding.replaced) := by
  -- The induction is on the search over symbols. The slots grow with every call that is replaced,
  -- and what was shown before is still shown.
  induction beforeToo, symbols using findCalls.induct generalizing text before slots with
  | case1 beforeToo =>
      cases shows
      rw [findCalls]
      exact ⟨.refl slots, .nil⟩
  | case2 beforeToo first rest call found inductionHypothesis =>
      have related := shows.call? boundary
      rw [found] at related
      generalize foundHere : Template.call? before text = here at related
      cases related with
      | @some here _ same =>
          rw [evaluatePass_of_some foundHere, findCalls_of_some found, List.flatMap_cons,
            Finding.replaced, same.name_eq, same.arguments.values_eq]
          have behind : (some ')').any isWord =
              (some (Symbol.literal ')')).any (isLiteral isWord) := rfl
          -- Both sides ask for the value of one call: the name and the arguments are the same.
          cases evaluate (String.ofList call.name) ((symbolArguments call.inside).map textOf) with
          | none =>
              have later := inductionHypothesis same.after behind
              have written := same.callText.mono later.longer
              rw [same.name_eq] at written
              exact ⟨later.longer, written.append later.shows⟩
          | some result =>
              have longer := slots.extends_push result
              have later := inductionHypothesis (same.after.mono longer) behind
              have kept : (slots.push result)[slots.size]? = some result := Array.getElem?_push_size
              exact ⟨longer.trans later.longer, .atom (later.longer _ _ kept) later.shows⟩
  | case3 beforeToo first rest found inductionHypothesis =>
      have related := shows.call? boundary
      rw [found] at related
      generalize foundHere : Template.call? before text = here at related
      cases related
      rw [findCalls_of_none found, List.flatMap_cons, Finding.replaced, List.singleton_append]
      cases shows with
      | @literal character text _ plain rest =>
          have behind : (some character).any isWord =
              (some (Symbol.literal character)).any (isLiteral isWord) := rfl
          have later := inductionHypothesis rest behind
          rw [evaluatePass_of_none foundHere]
          exact ⟨later.longer, .literal plain later.shows⟩
      | @atom number value text _ kept rest =>
          have behind : (some slotClose).any isWord =
              (some (Symbol.atom value)).any (isLiteral isWord) := by
            show isWord slotClose = false
            decide
          have later := inductionHypothesis rest behind
          rw [evaluatePass_slotText_append]
          exact ⟨later.longer, .atom (later.longer number value kept) later.shows⟩

/-! ## All passes -/

theorem evaluatePasses_succ (count : Nat) (text : List Char) (slots : Slots) :
    evaluatePasses (count + 1) text slots =
      if (evaluatePass none 0 text slots).1 = text then (text, (evaluatePass none 0 text slots).2)
      else evaluatePasses count (evaluatePass none 0 text slots).1
        (evaluatePass none 0 text slots).2 :=
  rfl

/-- A limited number of passes is that number of passes over the symbols. The passes end early when
a text stays as it is: then the symbols stay as they are, as a text shows one list of symbols. -/
theorem Shows.evaluatePasses (shows : Shows slots text symbols) (count : Nat) :
    Shows (evaluatePasses count text slots).2 (evaluatePasses count text slots).1
      (symbolPass^[count] symbols) := by
  induction count generalizing slots text symbols with
  | zero => exact shows
  | succ count inductionHypothesis =>
      have next : Passed slots (evaluatePass none 0 text slots) (symbolPass symbols) :=
        shows.passed rfl
      rw [evaluatePasses_succ]
      by_cases same : (evaluatePass none 0 text slots).1 = text
      · have before := shows.mono next.longer
        have after := next.shows
        rw [same] at after
        rw [if_pos same, Function.iterate_fixed (after.unique before)]
        exact before
      · rw [if_neg same]
        exact inductionHypothesis next.shows

/-! ## Templates -/

theorem passed_markPieces {bindings : Variables} {parts : List Piece}
    (plain : ∀ piece ∈ parts, ∀ character ∈ piece.written, isPlain character = true)
    (slots : Slots) :
    Passed slots (markPieces bindings parts slots)
      (parts.flatMap (Symbol.ofPiece bindings)) := by
  induction parts generalizing slots with
  | nil => exact ⟨.refl slots, .nil⟩
  | cons piece rest inductionHypothesis =>
      have later := inductionHypothesis fun other member =>
        plain other (List.mem_cons_of_mem piece member)
      have first := plain piece List.mem_cons_self
      rw [List.flatMap_cons]
      cases piece with
      | literal character =>
          have rest := later slots
          exact ⟨rest.longer, .literal (first character List.mem_cons_self) rest.shows⟩
      | placeholder name source =>
          rw [markPieces, Symbol.ofPiece]
          cases Tree.lookup name bindings with
          | none =>
              have rest := later slots
              exact ⟨rest.longer, (Shows.of_plain first).append rest.shows⟩
          | some value =>
              have longer := slots.extends_push value.toList
              have rest := later (slots.push value.toList)
              have kept : (slots.push value.toList)[slots.size]? = some value.toList :=
                Array.getElem?_push_size
              exact ⟨longer.trans rest.longer, .atom (rest.longer _ _ kept) rest.shows⟩

/-- The text of a variable is never read as a part of a template: a template without the marks of
slots is expanded as it is with opaque variables. -/
theorem expand_eq_expandOpaque {template : List Char} (noOpen : slotOpen ∉ template)
    (noClose : slotClose ∉ template) (bindings : Variables) :
    expand template bindings = expandOpaque template bindings := by
  have plain : ∀ piece ∈ pieces template, ∀ character ∈ piece.written,
      isPlain character = true := by
    intro piece member character inside
    have inTemplate := mem_of_mem_piecesFrom member inside
    rw [isPlain, Bool.and_eq_true, bne_iff_ne, bne_iff_ne]
    constructor
    · rintro rfl
      exact noOpen inTemplate
    · rintro rfl
      exact noClose inTemplate
  have marked : Passed #[] (markPieces bindings (pieces template) #[])
      ((pieces template).flatMap (Symbol.ofPiece bindings)) := passed_markPieces plain #[]
  exact (marked.shows.evaluatePasses passLimit).fill_eq

/-- Values with calls, separators and marks of slots are carried through two calls as they are. -/
theorem expand_eq_expandOpaque_of_marked_value :
    (slotOpen ∉ "strip_prefix(strip_prefix({tag}, 'v'), {cut})".toList ∧
      slotClose ∉ "strip_prefix(strip_prefix({tag}, 'v'), {cut})".toList) ∧
    expand "strip_prefix(strip_prefix({tag}, 'v'), {cut})".toList
        [("tag", "vlower(A), \uE0000\uE001"), ("cut", "lower(A), ")] =
      expandOpaque "strip_prefix(strip_prefix({tag}, 'v'), {cut})".toList
        [("tag", "vlower(A), \uE0000\uE001"), ("cut", "lower(A), ")] ∧
    expand "strip_prefix(strip_prefix({tag}, 'v'), {cut})".toList
        [("tag", "vlower(A), \uE0000\uE001"), ("cut", "lower(A), ")] =
      "\uE0000\uE001".toList :=
  have noOpen : slotOpen ∉ "strip_prefix(strip_prefix({tag}, 'v'), {cut})".toList := by
    decide +kernel
  have noClose : slotClose ∉ "strip_prefix(strip_prefix({tag}, 'v'), {cut})".toList := by
    decide +kernel
  ⟨⟨noOpen, noClose⟩, expand_eq_expandOpaque noOpen noClose _, by decide +kernel⟩

end ReleaseRules.Template
