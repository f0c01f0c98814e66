import ReleaseRules.Proofs.Template.LiteralText

/-!
Contract: calls inside calls, each the only argument of the one around it.

Owns:
- nested calls as they are written, and the value that they have from the inside out;
- texts that are one argument as they are written: literal texts and slots;
- one pass replaces the innermost call by a slot and leaves all others as they are;
- templates of nested calls are expanded to their value, up to the limit of passes.

Does not own: what the functions of templates compute.

A pass finds no call at the name of an outer function: between its parentheses another one is
opened. Every pass takes one opening parenthesis away, so no pass before the last call leaves the
text as it is, and the limit is the only reason to stop early.
-/

namespace ReleaseRules.Template

open ReleaseRules.Text (dropWhile_append_of_stop takeWhile_append_of_stop)
open Unicode (IsTight isBlank isWord)

variable {slots : Slots} {shown value : List Char}

/-! ## Nested calls -/

/-- Calls around a text, the outermost first, as they are written. -/
def nested (names : List String) (inner : List Char) : List Char :=
  names.foldr (fun name text => callText name.toList text) inner

/-- The value of calls around a text, if each of them has one on the value of the next. -/
def applied (names : List String) (inner : List Char) : Option (List Char) :=
  names.foldr (fun name value => value.bind fun text => evaluate name [text]) (some inner)

theorem applied_append (outer inner : List String) (text : List Char) :
    applied (outer ++ inner) text = (applied inner text).bind (applied outer) := by
  induction outer with
  | nil => exact (Option.bind_fun_some _).symm
  | cons first rest inductionHypothesis =>
      show (applied (rest ++ inner) text).bind _ = _
      rw [inductionHypothesis, Option.bind_assoc]
      rfl

/-- Inner calls have a value if all do, and the outer ones go on with it. -/
theorem exists_applied_of_append {outer inner : List String} {text : List Char}
    (valued : applied (outer ++ inner) text = some value) :
    ∃ middle, applied inner text = some middle ∧ applied outer middle = some value := by
  rw [applied_append] at valued
  exact Option.bind_eq_some_iff.mp valued

/-! ## Names -/

/-- Whether a text is the name of a function as calls have it. -/
def isFunctionName : List Char → Bool
  | [] => false
  | first :: others => isFunctionStart first && others.all isFunctionPart

theorem isFunctionPart_of_mem {name : List Char} (isName : isFunctionName name = true) :
    ∀ character ∈ name, isFunctionPart character = true := by
  intro character member
  cases name with
  | nil => cases member
  | cons first others =>
      rw [isFunctionName, Bool.and_eq_true, List.all_eq_true] at isName
      rcases List.mem_cons.mp member with rfl | later
      · rw [isFunctionPart, isName.1, Bool.true_or]
      · exact isName.2 character later

theorem not_mem_of_isFunctionName {name : List Char} (isName : isFunctionName name = true)
    {character : Char} (other : isFunctionPart character = false) : character ∉ name := by
  intro member
  exact absurd (other.symm.trans (isFunctionPart_of_mem isName character member))
    Bool.false_ne_true

theorem forall_isInsideCall {text : List Char} (noOpening : '(' ∉ text) (noClosing : ')' ∉ text) :
    ∀ character ∈ text, isInsideCall character = true := by
  intro character member
  rw [isInsideCall, Bool.and_eq_true, bne_iff_ne, bne_iff_ne]
  exact ⟨ne_of_mem_of_not_mem member noOpening, ne_of_mem_of_not_mem member noClosing⟩

/-- The functions of templates have such names. -/
theorem isFunctionName_of_evaluate {name : String} {values : List (List Char)}
    {result : List Char} (valued : evaluate name values = some result) :
    isFunctionName name.toList = true := by
  unfold evaluate at valued
  split at valued
  case h_8 => cases valued
  all_goals decide

theorem isFunctionName_of_applied {names : List String} {text : List Char}
    (valued : applied names text = some value) :
    ∀ name ∈ names, isFunctionName name.toList = true := by
  induction names generalizing value with
  | nil => nofun
  | cons first rest inductionHypothesis =>
      have split : applied ([first] ++ rest) text = some value := valued
      obtain ⟨middle, inner, outermost⟩ := exists_applied_of_append split
      intro name member
      rcases List.mem_cons.mp member with rfl | later
      · exact isFunctionName_of_evaluate outermost
      · exact inductionHypothesis inner name later

/-! ## Arguments as they are written -/

/-- Texts that are one argument as they are written: nothing is trimmed, unquoted or split. -/
structure IsArgument (text : List Char) : Prop where
  nonempty : text ≠ []
  tight : IsTight text
  noOpening : '(' ∉ text
  noClosing : ')' ∉ text
  noComma : ',' ∉ text
  noQuote : '"' ∉ text
  noApostrophe : '\'' ∉ text

theorem unquote?_of_not_mem {quote : Char} {text : List Char} (absent : quote ∉ text) :
    unquote? quote text = none := by
  cases text with
  | nil => rfl
  | cons first rest =>
      have other : quote ≠ first := fun same => absent (same ▸ List.mem_cons_self)
      rw [unquote?_cons, if_neg other]

theorem IsArgument.arguments_eq {text : List Char} (isArgument : IsArgument text) :
    arguments text = [text] := by
  have something : ¬ text.isEmpty = true := mt List.isEmpty_iff.mp isArgument.nonempty
  rw [arguments, isArgument.tight.trim_eq, if_neg something,
    Text.splitAt_of_not_mem isArgument.noComma, List.map_singleton, argument,
    isArgument.tight.trim_eq, unquote?_of_not_mem isArgument.noQuote,
    unquote?_of_not_mem isArgument.noApostrophe]

theorem not_mem_slotText {character : Char} (opening : character ≠ slotOpen)
    (closing : character ≠ slotClose) (noDigit : Number.isDecimalDigit character = false)
    (number : Nat) : character ∉ slotText number := by
  intro member
  have others : ∀ other ∈ slotText number, character ≠ other := by
    apply forall_slotText opening _ closing
    rintro other decimal rfl
    exact absurd (noDigit.symm.trans decimal) Bool.false_ne_true
  exact others character member rfl

theorem isArgument_slotText (number : Nat) : IsArgument (slotText number) where
  nonempty := List.cons_ne_nil _ _
  tight := IsTight.between (by decide) (by decide)
  noOpening := not_mem_slotText (by decide) (by decide) (by decide) number
  noClosing := not_mem_slotText (by decide) (by decide) (by decide) number
  noComma := not_mem_slotText (by decide) (by decide) (by decide) number
  noQuote := not_mem_slotText (by decide) (by decide) (by decide) number
  noApostrophe := not_mem_slotText (by decide) (by decide) (by decide) number

/-- An argument as it is written, and the text that stands for it once the slots are filled. -/
structure StandsFor (slots : Slots) (shown value : List Char) : Prop where
  isArgument : IsArgument shown
  fill_append : ∀ behind, fill slots (shown ++ behind) = value ++ fill slots behind

theorem StandsFor.fill_eq (stands : StandsFor slots shown value) : fill slots shown = value := by
  have filled := stands.fill_append []
  have nothing : fill slots [] = [] := rfl
  rwa [List.append_nil, nothing, List.append_nil] at filled

/-- A new slot stands for the text that it keeps. -/
theorem standsFor_push (slots : Slots) (value : List Char) :
    StandsFor (slots.push value) (slotText slots.size) value :=
  ⟨isArgument_slotText slots.size, fill_slotText_append Array.getElem?_push_size⟩

/-! ## One pass -/

/-- The call of a function with one argument is found. -/
theorem call?_callText {before : Option Char} (boundary : before.any isWord = false)
    {name : List Char} (isName : isFunctionName name = true) (isArgument : IsArgument shown)
    (after : List Char) :
    call? before (callText name shown ++ after) = some ⟨name, shown, after⟩ := by
  cases name with
  | nil => cases isName
  | cons first others =>
      rw [isFunctionName, Bool.and_eq_true, List.all_eq_true] at isName
      have written : callText (first :: others) shown ++ after =
          first :: (others ++ '(' :: (shown ++ ')' :: after)) := by
        simp [callText]
      have opened : ('(' :: (shown ++ ')' :: after)).head?.any isFunctionPart = false := by
        show isFunctionPart '(' = false
        decide
      have closed : (')' :: after).head?.any isInsideCall = false := by
        show isInsideCall ')' = false
        decide
      have inside := forall_isInsideCall isArgument.noOpening isArgument.noClosing
      rw [written, call?, if_pos (by simp [isName.1, boundary]),
        dropWhile_append_of_stop isName.2 opened, takeWhile_append_of_stop isName.2 opened]
      simp only [dropWhile_append_of_stop inside closed, takeWhile_append_of_stop inside closed]

/-- No call starts in the name of a function if another parenthesis is opened behind its own. -/
theorem call?_eq_none_of_opening {front inner : List Char}
    (parts : ∀ character ∈ front, isFunctionPart character = true)
    (plain : ∀ character ∈ inner, isInsideCall character = true) (before : Option Char)
    (rest : List Char) : call? before (front ++ '(' :: (inner ++ '(' :: rest)) = none := by
  cases front with
  | nil =>
      have noStart : isFunctionStart '(' = false := by decide
      have other : ¬ (isFunctionStart '(' && !before.any isWord) = true := by simp [noStart]
      rw [List.nil_append, call?, if_neg other]
  | cons first others =>
      have opened : ('(' :: (inner ++ '(' :: rest)).head?.any isFunctionPart = false := by
        show isFunctionPart '(' = false
        decide
      have stopped : ('(' :: rest).head?.any isInsideCall = false := by
        show isInsideCall '(' = false
        decide
      have behind : ∀ character ∈ others, isFunctionPart character = true :=
        fun character member => parts character (List.mem_cons_of_mem first member)
      rw [List.cons_append, call?, dropWhile_append_of_stop behind opened]
      simp only [dropWhile_append_of_stop plain stopped]
      exact ite_self none

/-- A pass goes over the name of an outer function. -/
theorem evaluatePass_opening {front inner : List Char}
    (parts : ∀ character ∈ front, isFunctionPart character = true)
    (plain : ∀ character ∈ inner, isInsideCall character = true) (before : Option Char)
    (rest : List Char) (slots : Slots) :
    evaluatePass before 0 (front ++ '(' :: (inner ++ '(' :: rest)) slots =
      (front ++ '(' :: (evaluatePass (some '(') 0 (inner ++ '(' :: rest) slots).1,
        (evaluatePass (some '(') 0 (inner ++ '(' :: rest) slots).2) := by
  induction front generalizing before with
  | nil => exact evaluatePass_of_none (call?_eq_none_of_opening parts plain before rest) slots
  | cons first others inductionHypothesis =>
      have none := call?_eq_none_of_opening parts plain before rest
      have later := inductionHypothesis (fun character member =>
        parts character (List.mem_cons_of_mem first member)) (some first)
      rw [List.cons_append] at none ⊢
      rw [evaluatePass_of_none none, later]
      rfl

theorem nested_cons_append (name : String) (names : List String) (inner behind : List Char) :
    nested (name :: names) inner ++ behind =
      name.toList ++ '(' :: (nested names inner ++ ')' :: behind) := by
  simp [nested, callText]

theorem nested_cons (name : String) (names : List String) (inner : List Char) :
    nested (name :: names) inner = name.toList ++ '(' :: (nested names inner ++ [')']) := by
  simpa using nested_cons_append name names inner []

/-- A pass over nested calls replaces the innermost one and no other. -/
theorem evaluatePass_nested {before : Option Char} (boundary : before.any isWord = false)
    {names : List String} (areNames : ∀ name ∈ names, isFunctionName name.toList = true)
    {name : String} {result : List Char} (stands : StandsFor slots shown value)
    (valued : evaluate name [value] = some result) {behind : List Char}
    (noOpening : '(' ∉ behind) :
    evaluatePass before 0 (nested (names ++ [name]) shown ++ behind) slots =
      (nested names (slotText slots.size) ++ behind, slots.push result) := by
  have isName := isFunctionName_of_evaluate valued
  induction names generalizing before behind with
  | nil =>
      have found := call?_callText boundary isName stands.isArgument behind
      have only : nested ([] ++ [name]) shown = callText name.toList shown := rfl
      rw [only, evaluatePass_of_some found, stands.isArgument.arguments_eq, List.map_singleton,
        stands.fill_eq, String.ofList_toList, valued]
      simp only [evaluatePass_of_noParenthesis noOpening]
      rfl
  | cons first others inductionHypothesis =>
      have outer := isFunctionPart_of_mem (areNames first List.mem_cons_self)
      have later : evaluatePass (some '(') 0 (nested (others ++ [name]) shown ++ ')' :: behind) slots =
          (nested others (slotText slots.size) ++ ')' :: behind, slots.push result) := by
        apply inductionHypothesis
        · decide
        · exact fun name member => areNames name (List.mem_cons_of_mem first member)
        · simpa using noOpening
      -- Whatever the next call is, it opens a parenthesis behind a name.
      obtain ⟨next, rest, opens, nextIsName⟩ : ∃ next rest, others ++ [name] = next :: rest ∧
          isFunctionName next.toList = true := by
        cases others with
        | nil => exact ⟨name, [], rfl, isName⟩
        | cons second rest =>
            exact ⟨second, rest ++ [name], rfl,
              areNames second (List.mem_cons_of_mem first List.mem_cons_self)⟩
      have plain : ∀ character ∈ next.toList, isInsideCall character = true :=
        forall_isInsideCall (not_mem_of_isFunctionName nextIsName (by decide))
          (not_mem_of_isFunctionName nextIsName (by decide))
      rw [opens, nested_cons_append] at later
      rw [List.cons_append, nested_cons_append, opens, nested_cons_append,
        evaluatePass_opening outer plain, later, nested_cons_append]

/-! ## All passes -/

theorem count_opening_nested {names : List String}
    (areNames : ∀ name ∈ names, isFunctionName name.toList = true)
    (isArgument : IsArgument shown) : (nested names shown).count '(' = names.length := by
  induction names with
  | nil => exact List.count_eq_zero.mpr isArgument.noOpening
  | cons first rest inductionHypothesis =>
      have inner := inductionHypothesis fun name member =>
        areNames name (List.mem_cons_of_mem first member)
      have none : first.toList.count '(' = 0 := List.count_eq_zero.mpr
        (not_mem_of_isFunctionName (areNames first List.mem_cons_self) (by decide))
      rw [nested_cons]
      simp [List.count_append, none, inner]

/-- As many passes as there are inner calls with a value leave the outer calls around an argument
that stands for this value. -/
theorem evaluatePasses_nested {outer inner : List String} {result : List Char}
    (areNames : ∀ name ∈ outer, isFunctionName name.toList = true)
    (stands : StandsFor slots shown value) (valued : applied inner value = some result)
    (more : Nat) :
    ∃ left argument, StandsFor left argument result ∧
      evaluatePasses (inner.length + more) (nested (outer ++ inner) shown) slots =
        evaluatePasses more (nested outer argument) left := by
  -- The innermost call is the last one, and it is the first to be replaced.
  induction inner using List.reverseRecOn generalizing slots shown value with
  | nil =>
      obtain rfl := Option.some.inj valued
      refine ⟨slots, shown, stands, ?_⟩
      rw [List.length_nil, Nat.zero_add, List.append_nil]
  | append_singleton front last inductionHypothesis =>
      obtain ⟨next, first, others⟩ := exists_applied_of_append valued
      have around : ∀ name ∈ outer ++ front, isFunctionName name.toList = true :=
        List.forall_mem_append.mpr ⟨areNames, isFunctionName_of_applied others⟩
      have all : ∀ name ∈ outer ++ front ++ [last], isFunctionName name.toList = true :=
        List.forall_mem_append.mpr
          ⟨around, List.forall_mem_singleton.mpr (isFunctionName_of_evaluate first)⟩
      have pass : evaluatePass none 0 (nested (outer ++ front ++ [last]) shown ++ []) slots =
          (nested (outer ++ front) (slotText slots.size) ++ [], slots.push next) :=
        evaluatePass_nested rfl around stands first List.not_mem_nil
      have pushed := standsFor_push slots next
      obtain ⟨left, argument, standsThen, passes⟩ := inductionHypothesis pushed others
      refine ⟨left, argument, standsThen, ?_⟩
      have changed : nested (outer ++ front) (slotText slots.size) ≠
          nested (outer ++ front ++ [last]) shown := by
        intro same
        have counts := congrArg (List.count '(') same
        have longer : (outer ++ front ++ [last]).length = (outer ++ front).length + 1 :=
          List.length_append
        rw [count_opening_nested around pushed.isArgument,
          count_opening_nested all stands.isArgument, longer] at counts
        omega
      rw [List.append_nil, List.append_nil] at pass
      have count : (front ++ [last]).length + more = front.length + more + 1 := by
        rw [List.length_append, List.length_singleton]
        omega
      rw [← List.append_assoc, count, evaluatePasses_succ, pass, if_neg changed, passes]

/-! ## Templates -/

/-- A template without braces has no placeholders. -/
theorem pieces_of_noBrace {text : List Char} (noBrace : '\x7b' ∉ text) :
    pieces text = text.map Piece.literal := by
  rw [pieces]
  induction text with
  | nil => rfl
  | cons first rest inductionHypothesis =>
      have later := inductionHypothesis fun member => noBrace (List.mem_cons_of_mem first member)
      have none : placeholder? (first :: rest) = none := by
        cases found : placeholder? (first :: rest) with
        | none => rfl
        | some parts =>
            obtain ⟨source, whole, inside, rfl, -⟩ := exists_of_placeholder? found
            obtain ⟨rfl, -⟩ := List.cons.inj whole
            exact absurd List.mem_cons_self noBrace
      rw [piecesFrom, none]
      exact congrArg (Piece.literal first :: ·) later

theorem markPieces_literals (bindings : Variables) (text : List Char) (slots : Slots) :
    markPieces bindings (text.map Piece.literal) slots = (text, slots) := by
  induction text with
  | nil => rfl
  | cons first rest inductionHypothesis =>
      rw [List.map_cons, markPieces, inductionHypothesis]

theorem expand_of_noBrace {template : List Char} (noBrace : '\x7b' ∉ template)
    (bindings : Variables) :
    expand template bindings =
      fill (evaluatePasses passLimit template #[]).2 (evaluatePasses passLimit template #[]).1 := by
  rw [expand, pieces_of_noBrace noBrace, markPieces_literals]

/-- Filling leaves calls around an argument as they are. -/
theorem fill_nested_append {names : List String}
    (areNames : ∀ name ∈ names, isFunctionName name.toList = true)
    (stands : StandsFor slots shown value) (behind : List Char) :
    fill slots (nested names shown ++ behind) = nested names value ++ fill slots behind := by
  induction names generalizing behind with
  | nil => exact stands.fill_append behind
  | cons first rest inductionHypothesis =>
      have inner := inductionHypothesis (fun name member =>
        areNames name (List.mem_cons_of_mem first member)) (')' :: behind)
      have noOpen : slotOpen ∉ first.toList :=
        not_mem_of_isFunctionName (areNames first List.mem_cons_self) (by decide)
      rw [nested_cons_append, nested_cons_append, fill_append_of_noOpen noOpen,
        fill_cons_of_ne (by decide), inner, fill_cons_of_ne (by decide)]

theorem fill_nested {names : List String}
    (areNames : ∀ name ∈ names, isFunctionName name.toList = true)
    (stands : StandsFor slots shown value) : fill slots (nested names shown) = nested names value := by
  have filled := fill_nested_append areNames stands []
  have nothing : fill slots [] = [] := rfl
  rwa [nothing, List.append_nil, List.append_nil] at filled

/-- Literal texts that are one argument: without placeholders and marks of slots. -/
structure IsLiteralArgument (text : List Char) : Prop extends IsArgument text where
  noBrace : '\x7b' ∉ text
  noOpen : slotOpen ∉ text

theorem IsLiteralArgument.standsFor {text : List Char} (literal : IsLiteralArgument text)
    (slots : Slots) : StandsFor slots text text :=
  ⟨literal.toIsArgument, fill_append_of_noOpen literal.noOpen slots⟩

theorem noBrace_nested {names : List String}
    (areNames : ∀ name ∈ names, isFunctionName name.toList = true) {text : List Char}
    (noBrace : '\x7b' ∉ text) : '\x7b' ∉ nested names text := by
  induction names with
  | nil => exact noBrace
  | cons first rest inductionHypothesis =>
      have inner := inductionHypothesis fun name member =>
        areNames name (List.mem_cons_of_mem first member)
      have outer : '\x7b' ∉ first.toList :=
        not_mem_of_isFunctionName (areNames first List.mem_cons_self) (by decide)
      rw [nested_cons]
      simp [outer, inner]

/-- If there are passes for the inner calls, they are replaced by their value; the passes that are
left over go on with the outer calls. -/
theorem expand_nested_append {outer inner : List String} {text result : List Char}
    (literal : IsLiteralArgument text)
    (areNames : ∀ name ∈ outer, isFunctionName name.toList = true)
    (valued : applied inner text = some result) {more : Nat}
    (enough : inner.length + more = passLimit) (settled : outer = [] ∨ more = 0)
    (bindings : Variables) :
    expand (nested (outer ++ inner) text) bindings = nested outer result := by
  have allNames : ∀ name ∈ outer ++ inner, isFunctionName name.toList = true :=
    List.forall_mem_append.mpr ⟨areNames, isFunctionName_of_applied valued⟩
  obtain ⟨left, argument, stands, passes⟩ :=
    evaluatePasses_nested areNames (literal.standsFor #[]) valued more
  have last : evaluatePasses more (nested outer argument) left = (nested outer argument, left) := by
    rcases settled with rfl | rfl
    · exact evaluatePasses_of_noParenthesis stands.isArgument.noOpening more left
    · rfl
  rw [expand_of_noBrace (noBrace_nested allNames literal.noBrace), ← enough, passes, last]
  exact fill_nested areNames stands

/-- **Nested calls.** Functions of one argument around a literal text, each with a value on the value of
the next: up to eight of them are expanded to the value of the outermost. Of more than eight, the
eight innermost are expanded to their value, and the others stay around it as they are written. -/
theorem expand_nested_calls {names : List String} {text value : List Char}
    (literal : IsLiteralArgument text) (valued : applied names text = some value)
    (bindings : Variables) :
    (names.length ≤ 8 → expand (nested names text) bindings = value) ∧
    (8 < names.length →
      ∃ inner, applied (names.drop (names.length - 8)) text = some inner ∧
        expand (nested names text) bindings =
          nested (names.take (names.length - 8)) inner) := by
  constructor
  · intro few
    have enough : names.length + (8 - names.length) = passLimit := by
      show _ = 8
      omega
    have expanded : expand (nested ([] ++ names) text) bindings = nested [] value :=
      expand_nested_append literal (List.forall_mem_nil _) valued enough (.inl rfl) bindings
    exact expanded
  · intro many
    have split := List.take_append_drop (names.length - 8) names
    have eight : (names.drop (names.length - 8)).length + 0 = passLimit := by
      rw [List.length_drop]
      show _ = 8
      omega
    have outer : ∀ name ∈ names.take (names.length - 8), isFunctionName name.toList = true :=
      fun name member => isFunctionName_of_applied valued name (List.mem_of_mem_take member)
    rw [← split] at valued
    obtain ⟨inner, innermost, -⟩ := exists_applied_of_append valued
    refine ⟨inner, innermost, ?_⟩
    have expanded := expand_nested_append literal outer innermost eight (.inr rfl) bindings
    rwa [split] at expanded

/-- A ninth call is left standing, although it has a value; two calls are expanded. -/
theorem expand_nested_calls_of_nine :
    expand (nested ("major" :: List.replicate 8 "lower") "V1.2.3".toList) [] =
        "major(v1.2.3)".toList ∧
      expand (nested ["major", "lower"] "V1.2.3".toList) [] = "1".toList := by
  have literal : IsLiteralArgument "V1.2.3".toList :=
    ⟨⟨by decide, ⟨by decide, by decide⟩, by decide, by decide, by decide, by decide, by decide⟩,
      by decide, by decide⟩
  have nine : applied ("major" :: List.replicate 8 "lower") "V1.2.3".toList =
      some "1".toList := by decide +kernel
  have two : applied ["major", "lower"] "V1.2.3".toList = some "1".toList := by decide +kernel
  constructor
  · obtain ⟨inner, innermost, expanded⟩ :=
      (expand_nested_calls literal nine []).2 (by decide)
    have value : applied (List.replicate 8 "lower") "V1.2.3".toList =
        some "v1.2.3".toList := by decide +kernel
    obtain rfl := Option.some.inj (value.symm.trans innermost)
    exact expanded
  · exact (expand_nested_calls literal two []).1 (by decide)

end ReleaseRules.Template
