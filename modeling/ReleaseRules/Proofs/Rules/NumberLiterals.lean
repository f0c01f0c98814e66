import Mathlib.Tactic.NormNum
import ReleaseRules.Proofs.Json.Places
import ReleaseRules.Proofs.Rules.Objects

/-!
Contract: number literals that an action does not write.

Owns:
- trees whose numbers can be written, before and after an action;
- what stands in the new text where a literal stood apart from the key of the action.

Does not own: which literals the reader rounds.
-/

namespace ReleaseRules

namespace Action

/-- What an action with a key leaves of an object in JSON: the text of the object with a value
written at the key. -/
theorem exists_of_apply {action : Action} {rule key : String} {context : Context}
    {text next : List Char} {change : Change} {entries : List (String × Tree)}
    (read : Json.readTree text = .ok (.map entries)) (isKey : action.key? = some key)
    (carried : ∀ value ∈ action.value?, value.fits = true)
    (applied : action.apply rule context text = some (next, change)) :
    ∃ new changed, KeyPath.set (.map entries) key new = .ok (.map changed) ∧
      (Tree.map changed).fits = true ∧
      next = Document.jsonText (Layout.detect text .json) (.map changed) := by
  have rewritten : action.rewrite context text = some next := by
    rw [← apply_text action rule context text (isRaw_of_key? isKey), applied]
    rfl
  obtain ⟨new, changed, -, isSet, revised, shape⟩ := exists_of_rewrite read isKey rewritten
  have held := every_of_revise Tree.fitsNode_survives revised (Json.fits_of_readTree read) carried
  exact ⟨new, changed, isSet, held, shape⟩

/-- **Numbers beside an action.** An action on the tree of an object in JSON leaves a number where
a literal stands apart from its key: the one that the text denotes which the number of the reader
is written as. This is the number of the literal itself if the literal is an integer of 64 bits.
The value that the action carries has no numbers beyond 64 bits, as no value has that is read. -/
theorem apply_keeps_number_apart {action : Action} {rule key : String} {context : Context}
    {text next : List Char} {change : Change} {entries : List (String × Tree)}
    {path : List String} {literal : Json.Literal}
    (read : Json.readTree text = .ok (.map entries)) (isKey : action.key? = some key)
    (carried : ∀ value ∈ action.value?, value.fits = true)
    (applied : action.apply rule context text = some (next, change))
    (notAbove : ¬ KeyPath.segments key <+: path) (notBelow : ¬ path <+: KeyPath.segments key)
    (stands : Json.literalAt? text path = some literal) :
    ∃ number, KeyPath.follow (.map entries) path = some (.number number) ∧
      Json.numberAt? next path = Json.writtenValue number ∧
      (literal.IsExactInteger → Json.numberAt? next path = some literal.value) := by
  obtain ⟨new, changed, isSet, held, rfl⟩ := exists_of_apply read isKey carried applied
  obtain ⟨-, -, shape⟩ := KeyPath.set_eq_ok_iff.mp isSet
  obtain ⟨number, follows, exact⟩ := Json.follow_of_literalAt? read stands
  have followsAfter : KeyPath.follow (.map changed) path = some (.number number) := by
    rw [shape, KeyPath.follow_write_of_apart new _ notAbove notBelow, follows]
  have keyed : Json.KeyedAlong (.map changed) path := by
    rw [shape]
    exact Json.keyedAlong_write new
      (Json.keyedAlong_of_isKeyed (Json.isKeyed_of_readTree read) path) notAbove notBelow
  have stays : Json.numberAt? (Document.jsonText (Layout.detect text .json) (.map changed)) path =
      Json.writtenValue number := by
    rw [Document.jsonText_eq _ held]
    refine Json.numberAt?_write (Layout.indentOf_blank text) held keyed followsAfter ?_
    split <;> rfl
  exact ⟨number, follows, stays, fun isExact => stays.trans (exact isExact)⟩

private def writeTwo : Action := .replaceValue "b" (.number (.integer 2))

private def releaseDay : Context := ⟨"v1", "2026-01-15", [], false, none⟩

/-- The greatest integer of 64 bits keeps its value beside a write. -/
theorem apply_keeps_greatest_integer :
    ∃ next change, writeTwo.apply "two" releaseDay
        "\x7b\"a\":18446744073709551615,\"b\":1\x7d".toList = some (next, change) ∧
      Json.numberAt? next ["a"] = some 18446744073709551615 := by
  have made : (writeTwo.apply "two" releaseDay
      "\x7b\"a\":18446744073709551615,\"b\":1\x7d".toList).isSome = true := by
    decide +kernel
  obtain ⟨⟨next, change⟩, applied⟩ := Option.isSome_iff_exists.mp made
  have read : Json.readTree "\x7b\"a\":18446744073709551615,\"b\":1\x7d".toList =
      .ok (.map [("a", .number (.integer 18446744073709551615)), ("b", .number (.integer 1))]) :=
    ok_of_toOption (by decide +kernel)
  have stands : Json.literalAt? "\x7b\"a\":18446744073709551615,\"b\":1\x7d".toList ["a"] =
      some (.ofInteger 18446744073709551615) := by
    decide +kernel
  have value := Json.Literal.value_ofInteger 18446744073709551615
  push_cast at value
  have exact : (Json.Literal.ofInteger 18446744073709551615).IsExactInteger :=
    ⟨rfl, rfl, by rw [value]; norm_num, by rw [value]⟩
  obtain ⟨-, -, -, keeps⟩ := apply_keeps_number_apart read rfl (by decide) applied
    (by decide +kernel) (by decide +kernel) stands
  exact ⟨next, change, applied, value ▸ keeps exact⟩

/-- The next integer is rounded beside a write. -/
theorem apply_rounds_large_integer :
    ¬ ∀ (action : Action) (rule key : String) (context : Context) (text next : List Char)
        (change : Change) (entries : List (String × Tree)) (path : List String) (number : ℚ),
      Json.readTree text = .ok (.map entries) → action.key? = some key →
      action.apply rule context text = some (next, change) →
      ¬ KeyPath.segments key <+: path → ¬ path <+: KeyPath.segments key →
      Json.numberAt? text path = some number → Json.numberAt? next path = some number := by
  intro keeps
  have made : (writeTwo.apply "two" releaseDay
      "\x7b\"a\":18446744073709551616,\"b\":1\x7d".toList).map Prod.fst =
        some "\x7b\"a\":1.8446744073709552e+19,\"b\":2\x7d".toList := by
    decide +kernel
  obtain ⟨⟨next, change⟩, applied, rfl⟩ := Option.map_eq_some_iff.mp made
  have read : Json.readTree "\x7b\"a\":18446744073709551616,\"b\":1\x7d".toList =
      .ok (.map [("a", .number (.floating ⟨false, 2 ^ 52, 12⟩)), ("b", .number (.integer 1))]) :=
    ok_of_toOption (by decide +kernel)
  have source : Json.literalAt? "\x7b\"a\":18446744073709551616,\"b\":1\x7d".toList ["a"] =
      some (.ofInteger 18446744073709551616) := by
    decide +kernel
  have written : Json.literalAt? "\x7b\"a\":1.8446744073709552e+19,\"b\":2\x7d".toList ["a"] =
      some ⟨false, ['1'], "8446744073709552".toList, "+19".toList⟩ := by
    decide +kernel
  have denoted := congrArg (Option.map Json.Literal.value) source
  rw [Option.map_some, Json.Literal.value_ofInteger] at denoted
  have kept := keeps _ _ _ _ _ _ _ _ _ _ read rfl applied (by decide +kernel) (by decide +kernel)
    denoted
  rw [Json.numberAt?, written, Option.map_some] at kept
  have digits : Nat.ofDigitChars 10 ('1' :: "8446744073709552".toList) 0 = 18446744073709552 := by
    decide
  have scaled : Json.Literal.signedValue "+19".toList = 19 := by decide
  have places : "8446744073709552".toList.length = 16 := rfl
  have rounded := Option.some.inj kept
  simp only [Json.Literal.value, List.singleton_append, digits, scaled, places] at rounded
  norm_num at rounded

end Action

end ReleaseRules
