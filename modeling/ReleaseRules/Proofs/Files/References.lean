import ReleaseRules.Files.Reference
import ReleaseRules.Proofs.Template.Placeholders
import ReleaseRules.Proofs.Text.Runs

/-!
Contract: paths with references to the home directory and to variables.

Owns:
- references as they are written, and the parts that a text is read as;
- the parts of a path are read in one pass, from left to right, and there is one reading;
- the parts of a path behind the home directory;
- expansion puts the home directory in front of the rest of a path and reads the rest once.

Does not own: the values of variables.

The home directory is put into the path before references are read. So its text is read with the
rest: a reference may begin in it, and end in it or behind it. And a rest that starts with a slash is
a path from the root, which takes the place of the home directory.
-/

namespace ReleaseRules.Path

open ReleaseRules.Template (isNamePart isNameStart name?)

/-! ## References -/

/-- A reference at the start of a text, with its name and the text behind it: a name between braces, or
the longest name behind the sign. -/
inductive Refers : List Char → List Char → List Char → Prop where
  | braced {name after : List Char} (nonempty : name ≠ []) (closes : '\x7d' ∉ name) :
      Refers ('$' :: '\x7b' :: (name ++ '\x7d' :: after)) name after
  | bare {first : Char} {others after : List Char} (starts : isNameStart first = true)
      (follow : ∀ character ∈ others, isNamePart character = true)
      (stops : after.head?.any isNamePart = false) :
      Refers ('$' :: first :: (others ++ after)) (first :: others) after

theorem name?_eq_some_iff {text name after : List Char} :
    name? text = some (name, after) ↔
      ∃ first others, text = first :: (others ++ after) ∧ name = first :: others ∧
        isNameStart first = true ∧ (∀ character ∈ others, isNamePart character = true) ∧
        after.head?.any isNamePart = false := by
  constructor
  · intro found
    obtain ⟨rfl, first, others, rfl, starts, follow⟩ := Template.exists_of_name? found
    refine ⟨first, others, rfl, rfl, starts, follow, ?_⟩
    rw [List.cons_append, name?, if_pos starts] at found
    obtain ⟨-, rest⟩ := Prod.mk.inj (Option.some.inj found)
    rw [← rest]
    exact Text.stops_dropWhile isNamePart (others ++ after)
  · rintro ⟨first, others, rfl, rfl, starts, follow, stops⟩
    rw [name?, if_pos starts, Text.takeWhile_append_of_stop follow stops,
      Text.dropWhile_append_of_stop follow stops]

theorem ne_brace_of_isNameStart {character : Char} (starts : isNameStart character = true) :
    character ≠ '\x7b' := by
  rintro rfl
  exact absurd starts (by decide)

theorem refers_of_reference? {text name after : List Char}
    (found : reference? text = some (name, after)) : Refers text name after := by
  unfold reference? at found
  split at found
  · rename_i rest
    split at found
    · rename_i close behind dropped
      dsimp only at found
      split at found
      · cases found
      · rename_i nonempty
        obtain ⟨rfl, rfl⟩ := Prod.mk.inj (Option.some.inj found)
        have closing : close = '\x7d' := by
          have stops := Text.stops_dropWhile (· != '\x7d') rest
          rw [dropped] at stops
          simpa using stops
        have written : rest = rest.takeWhile (· != '\x7d') ++ '\x7d' :: behind := by
          rw [closing] at dropped
          rw [← dropped, List.takeWhile_append_dropWhile]
        have closes : '\x7d' ∉ rest.takeWhile (· != '\x7d') := by
          intro member
          simpa using List.mem_takeWhile_imp member
        conv in '$' :: _ => rw [written]
        exact .braced (mt List.isEmpty_iff.mpr nonempty) closes
    · cases found
  · obtain ⟨first, others, rfl, rfl, starts, follow, stops⟩ := name?_eq_some_iff.mp found
    exact .bare starts follow stops
  · cases found

/-- What is found at the start of a text is the reference there. -/
theorem reference?_eq_some_iff {text name after : List Char} :
    reference? text = some (name, after) ↔ Refers text name after := by
  constructor
  · exact refers_of_reference?
  · intro refers
    cases refers with
    | @braced name after nonempty closes =>
        have passes : ∀ character ∈ name, (character != '\x7d') = true := by
          intro character member
          rw [bne_iff_ne]
          rintro rfl
          exact closes member
        have stops : ('\x7d' :: after).head?.any (· != '\x7d') = false := rfl
        have something : ¬ name.isEmpty = true := mt List.isEmpty_iff.mp nonempty
        rw [reference?, Text.dropWhile_append_of_stop passes stops]
        simp only
        rw [Text.takeWhile_append_of_stop passes stops, if_neg something]
    | @bare first others after starts follow stops =>
        have named := name?_eq_some_iff.mpr ⟨first, others, rfl, rfl, starts, follow, stops⟩
        unfold reference?
        split
        · rename_i same
          cases same
          exact absurd rfl (ne_brace_of_isNameStart starts)
        · rename_i same
          cases same
          exact named
        · rename_i other
          exact absurd rfl (other _)

theorem reference?_eq_none_iff {text : List Char} :
    reference? text = none ↔ ∀ name after, ¬ Refers text name after := by
  constructor
  · intro none name after refers
    rw [reference?_eq_some_iff.mpr refers] at none
    cases none
  · intro never
    cases found : reference? text with
    | none => rfl
    | some parts => exact absurd (refers_of_reference? found) (never parts.1 parts.2)

/-- A reference starts with its sign. -/
theorem Refers.exists_written {text name after : List Char} (refers : Refers text name after) :
    ∃ inner, text = '$' :: inner ++ after := by
  cases refers with
  | @braced name after => exact ⟨'\x7b' :: (name ++ ['\x7d']), by simp⟩
  | @bare first others => exact ⟨first :: others, rfl⟩

/-! ## Parts -/

/-- The parts that a text is read as, from left to right: a reference where one starts, as it is
written, and a character where none does. -/
inductive ReadAs : List Char → List Part → Prop where
  | nil : ReadAs [] []
  | reference {written name after : List Char} {parts : List Part}
      (refers : Refers (written ++ after) name after) (later : ReadAs after parts) :
      ReadAs (written ++ after) (.reference (String.ofList name) written :: parts)
  | character {first : Char} {rest : List Char} {parts : List Part}
      (free : ∀ name after, ¬ Refers (first :: rest) name after) (later : ReadAs rest parts) :
      ReadAs (first :: rest) (.character first :: parts)

/-- Reading goes on behind the characters of a reference. -/
theorem readParts_length_append (front text : List Char) :
    readParts front.length (front ++ text) = readParts 0 text := by
  induction front with
  | nil => rfl
  | cons _ _ inductionHypothesis => exact inductionHypothesis

theorem readParts_of_free {first : Char} {rest : List Char}
    (free : ∀ name after, ¬ Refers (first :: rest) name after) :
    readParts 0 (first :: rest) = .character first :: readParts 0 rest := by
  rw [readParts, reference?_eq_none_iff.mpr free]

theorem readParts_of_refers {written name after : List Char}
    (refers : Refers (written ++ after) name after) :
    readParts 0 (written ++ after) =
      .reference (String.ofList name) written :: readParts 0 after := by
  obtain ⟨inner, whole⟩ := refers.exists_written
  have shape : written = '$' :: inner := List.append_cancel_right whole
  subst shape
  have length : (inner ++ after).length - after.length = inner.length := by
    rw [List.length_append, Nat.add_sub_cancel]
  rw [List.cons_append] at refers ⊢
  rw [readParts, reference?_eq_some_iff.mpr refers]
  simp only [length, List.take_left, readParts_length_append]

/-- The parts of a text are what it is read as. -/
theorem readAs_readParts (text : List Char) : ReadAs text (readParts 0 text) := by
  induction length : text.length using Nat.strong_induction_on generalizing text with
  | _ count inductionHypothesis =>
      subst length
      cases text with
      | nil => exact .nil
      | cons first rest =>
          by_cases refers : ∃ name after, Refers (first :: rest) name after
          · obtain ⟨name, after, refers⟩ := refers
            obtain ⟨inner, whole⟩ := refers.exists_written
            rw [whole] at refers ⊢
            have shorter : after.length < ('$' :: inner ++ after).length := by
              simp only [List.cons_append, List.length_cons, List.length_append]
              omega
            rw [readParts_of_refers refers]
            exact .reference refers (inductionHypothesis after.length (whole ▸ shorter) after rfl)
          · have free : ∀ name after, ¬ Refers (first :: rest) name after :=
              fun name after found => refers ⟨name, after, found⟩
            rw [readParts_of_free free]
            exact .character free (inductionHypothesis rest.length (Nat.lt_succ_self _) rest rfl)

/-- A text is read in one way only. -/
theorem ReadAs.eq_readParts {text : List Char} {parts : List Part} (read : ReadAs text parts) :
    parts = readParts 0 text := by
  induction read with
  | nil => rfl
  | reference refers _ inductionHypothesis =>
      rw [readParts_of_refers refers, inductionHypothesis]
  | character free _ inductionHypothesis =>
      rw [readParts_of_free free, inductionHypothesis]

/-! ## Texts in front of others -/

/-- No reference begins in a text that another one follows. -/
def IsInert (front back : List Char) : Prop :=
  ∀ rest, rest <:+ front → rest ≠ [] → ∀ name after, ¬ Refers (rest ++ back) name after

theorem isInert_cons_iff {first : Char} {rest back : List Char} :
    IsInert (first :: rest) back ↔
      (∀ name after, ¬ Refers (first :: (rest ++ back)) name after) ∧ IsInert rest back := by
  constructor
  · intro inert
    refine ⟨inert (first :: rest) List.suffix_rfl (List.cons_ne_nil first rest), ?_⟩
    intro ending suffix
    exact inert ending (suffix.trans (List.suffix_cons first rest))
  · rintro ⟨here, later⟩ ending suffix nonempty
    rcases List.suffix_cons_iff.mp suffix with rfl | behind
    · exact here
    · exact later ending behind nonempty

/-- A text without the sign of references is inert. -/
theorem isInert_of_noSign {front : List Char} (noSign : '$' ∉ front) (back : List Char) :
    IsInert front back := by
  intro rest suffix nonempty name after refers
  obtain ⟨first, others, rfl⟩ := List.exists_cons_of_ne_nil nonempty
  obtain ⟨inner, whole⟩ := refers.exists_written
  obtain ⟨rfl, -⟩ := List.cons.inj whole
  exact noSign (suffix.subset List.mem_cons_self)

/-- A text is read character by character in front of another one exactly if it is inert there. -/
theorem readParts_append_iff {front back : List Char} :
    readParts 0 (front ++ back) = front.map Part.character ++ readParts 0 back ↔
      IsInert front back := by
  induction front with
  | nil =>
      refine iff_of_true rfl ?_
      intro rest suffix nonempty
      exact absurd (List.suffix_nil.mp suffix) nonempty
  | cons first rest inductionHypothesis =>
      rw [isInert_cons_iff, ← inductionHypothesis]
      by_cases refers : ∃ name after, Refers (first :: (rest ++ back)) name after
      · obtain ⟨name, after, refers⟩ := refers
        refine iff_of_false ?_ fun inert => inert.1 name after refers
        intro same
        obtain ⟨inner, whole⟩ := refers.exists_written
        rw [whole] at refers
        rw [List.cons_append, whole, readParts_of_refers refers] at same
        cases (List.cons.inj same).1
      · have free : ∀ name after, ¬ Refers (first :: (rest ++ back)) name after :=
          fun name after found => refers ⟨name, after, found⟩
        rw [List.cons_append, readParts_of_free free, List.map_cons, List.cons_append]
        constructor
        · intro same
          exact ⟨free, (List.cons.inj same).2⟩
        · rintro ⟨-, same⟩
          rw [same]

theorem flatMap_fill_characters (world : World) (text : List Char) :
    (text.map Part.character).flatMap (Part.fill world) = text := by
  induction text with
  | nil => rfl
  | cons first rest inductionHypothesis => exact congrArg (first :: ·) inductionHypothesis

/-! ## The home directory -/

section Home

variable {world : World} {home : String}

theorem home?_of_variable (set : world.variableValue? "HOME" = some home) (nonempty : home ≠ "") :
    world.home? = some home.toList := by
  rw [World.home?, set]
  exact if_neg (mt String.isEmpty_iff.mp nonempty)

theorem withHome_of_noTilde {path : List Char} (notAlone : path ≠ ['~'])
    (notBehind : ∀ rest, path ≠ '~' :: '/' :: rest) : withHome world path = path := by
  unfold withHome
  split
  · exact absurd rfl notAlone
  · rename_i rest _ _
    exact absurd rfl (notBehind rest)
  · rfl

theorem withHome_alone {base : List Char} (known : world.home? = some base) :
    withHome world ['~'] = base := by
  unfold withHome
  rw [known]
  rfl

theorem withHome_behind {base : List Char} (known : world.home? = some base) (rest : List Char) :
    withHome world ('~' :: '/' :: rest) = join base rest := by
  unfold withHome
  rw [known]
  rfl

/-- What stands between the home directory and a path in it. -/
def separator (home : List Char) : List Char := if home.getLast? = some '/' then [] else ['/']

theorem join_of_absolute (base : List Char) {rest : List Char} (absolute : isAbsolute rest = true) :
    join base rest = rest :=
  if_pos absolute

theorem join_of_relative {base rest : List Char} (nonempty : base ≠ [])
    (relative : isAbsolute rest = false) : join base rest = base ++ (separator base ++ rest) := by
  rw [join, if_neg (by simp [relative]), separator, List.isEmpty_eq_false_iff.mpr nonempty,
    Bool.false_or]
  by_cases ends : base.getLast? = some '/'
  · rw [if_pos (by simp [ends]), if_pos ends]
    rfl
  · rw [if_neg (by simp [ends]), if_neg ends]
    rfl

theorem isInert_separator (base rest : List Char) : IsInert (separator base) rest := by
  apply isInert_of_noSign
  rw [separator]
  split
  · decide
  · decide

/-- A lone tilde is read as the characters of the home directory, exactly if no reference begins in
it. -/
theorem readAs_withHome_alone_iff {base : List Char} (known : world.home? = some base) :
    ReadAs (withHome world ['~']) (base.map Part.character) ↔ IsInert base [] := by
  have characters : readParts 0 (base ++ []) = base.map Part.character ++ readParts 0 [] ↔
      IsInert base [] := readParts_append_iff
  have nothing : readParts 0 [] = [] := rfl
  rw [nothing, List.append_nil, List.append_nil] at characters
  rw [withHome_alone known, ← characters]
  constructor
  · intro read
    exact read.eq_readParts.symm
  · intro same
    rw [← same]
    exact readAs_readParts base

/-- A path in the home directory is read as the characters of the directory and the parts of the
rest, exactly if the rest does not start at the root and no reference begins in the directory. -/
theorem readAs_withHome_iff {base rest : List Char} {parts : List Part}
    (known : world.home? = some base) (nonempty : base ≠ []) (read : ReadAs rest parts) :
    ReadAs (withHome world ('~' :: '/' :: rest))
        ((base ++ separator base).map Part.character ++ parts) ↔
      isAbsolute rest = false ∧ IsInert base (separator base ++ rest) := by
  have behind : readParts 0 (separator base ++ rest) =
      (separator base).map Part.character ++ parts := by
    rw [readParts_append_iff.mpr (isInert_separator base rest), read.eq_readParts]
  rw [withHome_behind known]
  cases absolute : isAbsolute rest with
  | true =>
      refine iff_of_false ?_ fun relative => Bool.noConfusion relative.1
      intro readToo
      rw [join_of_absolute base absolute] at readToo
      have lengths := congrArg List.length (readToo.eq_readParts.trans read.eq_readParts.symm)
      simp only [List.length_append, List.length_map] at lengths
      have something := List.length_pos_iff.mpr nonempty
      omega
  | false =>
      rw [join_of_relative nonempty absolute, ← readParts_append_iff, behind, List.map_append,
        List.append_assoc]
      constructor
      · intro readToo
        exact ⟨rfl, readToo.eq_readParts.symm⟩
      · rintro ⟨-, same⟩
        rw [← same]
        exact readAs_readParts _

theorem expand_of_readAs {path : List Char} {parts : List Part}
    (read : ReadAs (withHome world path) parts) :
    expand world path = parts.flatMap (Part.fill world) := by
  rw [expand, read.eq_readParts]

/-- **Paths are read once.** With a home directory that is not empty, a path without a leading tilde
is its parts, each reference replaced by the value of its variable or, if that is not set, as it is
written. A lone tilde is the home directory if no reference begins in the text of that, and only then
it is read so. A path behind a tilde is the home directory, a separator and the parts of the rest, if
no reference begins in the text of the home directory and the rest does not start with a slash, and
only then it is read so. If the rest starts with a slash, it is all that there is. -/
theorem expand_reads_once (set : world.variableValue? "HOME" = some home)
    (nonempty : home ≠ "") :
    (∀ path, path ≠ ['~'] → (∀ rest, path ≠ '~' :: '/' :: rest) →
      ∃ parts, ReadAs path parts ∧ expand world path = parts.flatMap (Part.fill world)) ∧
    (IsInert home.toList [] → expand world ['~'] = home.toList) ∧
    (ReadAs (withHome world ['~']) (home.toList.map Part.character) ↔ IsInert home.toList []) ∧
    ∀ rest, ∃ parts, ReadAs rest parts ∧
      (isAbsolute rest = false ∧ IsInert home.toList (separator home.toList ++ rest) →
        expand world ('~' :: '/' :: rest) =
          home.toList ++ separator home.toList ++ parts.flatMap (Part.fill world)) ∧
      (isAbsolute rest = true →
        expand world ('~' :: '/' :: rest) = parts.flatMap (Part.fill world)) ∧
      (ReadAs (withHome world ('~' :: '/' :: rest))
          ((home.toList ++ separator home.toList).map Part.character ++ parts) ↔
        isAbsolute rest = false ∧ IsInert home.toList (separator home.toList ++ rest)) := by
  have known := home?_of_variable set nonempty
  have something : home.toList ≠ [] := by simpa using nonempty
  have readAlone := readAs_withHome_alone_iff known
  refine ⟨?_, ?_, readAlone, ?_⟩
  · intro path notTilde notBehind
    refine ⟨readParts 0 path, readAs_readParts path, ?_⟩
    rw [expand, withHome_of_noTilde notTilde notBehind]
  · intro inert
    rw [expand_of_readAs (readAlone.mpr inert), flatMap_fill_characters]
  · intro rest
    have readBehind := readAs_withHome_iff known something (readAs_readParts rest)
    refine ⟨readParts 0 rest, readAs_readParts rest, ?_, ?_, readBehind⟩
    · intro inert
      rw [expand_of_readAs (readBehind.mpr inert), List.flatMap_append, flatMap_fill_characters]
    · intro absolute
      rw [expand, withHome_behind known, join_of_absolute home.toList absolute]

end Home

/-- What a value brings in is not read again, and the sign of references in the rest is no matter of
the home directory. -/
theorem expand_reads_values_once :
    let world : World := ⟨[], [], [], [("HOME", "/h"), ("A", "$B")]⟩
    (expand world "~/x/$A/${B}".toList = "/h/x/$B/${B}".toList ∧ expand world ['~'] = "/h".toList) ∧
      expand world "${A}$\x7b".toList = "$B$\x7b".toList := by
  intro world
  have set : world.variableValue? "HOME" = some "/h" := rfl
  obtain ⟨plain, alone, -, behind⟩ := expand_reads_once set (by decide)
  have noSign : '$' ∉ "/h".toList := by decide
  refine ⟨⟨?_, alone (isInert_of_noSign noSign [])⟩, ?_⟩
  · obtain ⟨parts, read, filled, -⟩ := behind "x/$A/${B}".toList
    have expanded := filled ⟨by decide, isInert_of_noSign noSign _⟩
    rw [read.eq_readParts] at expanded
    exact expanded
  · obtain ⟨parts, read, filled⟩ := plain "${A}$\x7b".toList (by decide) (by simp)
    rw [read.eq_readParts] at filled
    exact filled

/-- Behind a tilde and two slashes the home directory is lost, and a reference in its text is
replaced. -/
theorem home_is_lost_or_read :
    expand ⟨[], [], [], [("HOME", "home")]⟩ "~//rules.yaml".toList = "/rules.yaml".toList ∧
      expand ⟨[], [], [], [("HOME", "$A"), ("A", "z")]⟩ ['~'] = ['z'] := by
  decide +kernel

end ReleaseRules.Path
