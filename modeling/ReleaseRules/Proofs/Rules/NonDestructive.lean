import ReleaseRules.Proofs.Rules.Objects

/-!
Contract: a run leaves alone what none of its actions writes.

Owns: the frame of whole runs over objects in JSON.

Does not own: actions on raw text, which may change anything.
-/

namespace ReleaseRules

namespace Engine

/-- A run over an object in JSON leaves the value at a key path alone, or its absence, if no
action works on raw text and no key that an action writes continues the path or is continued
by it. -/
theorem process_keeps_value_apart (world : World) (context : Context) (rules : List Rule)
    (path text : List Char) (entries : List (String × Tree)) (key : String)
    (read : Json.readTree text = .ok (.map entries))
    (whole : (Tree.map entries).isWhole = true)
    (structured : ∀ rule ∈ rules, ∀ action ∈ rule.actions, action.isRaw = false)
    (carriesExact : ∀ rule ∈ rules, ∀ action ∈ rule.actions, action.isExact = true)
    (readable : staysReadable world context (matchingRules rules path) text = true)
    (nonempty : KeyPath.segments key ≠ [])
    (apart : ∀ rule ∈ rules, ∀ action ∈ rule.actions, ∀ written ∈ action.key?,
      ¬ KeyPath.segments written <+: KeyPath.segments key ∧
        ¬ KeyPath.segments key <+: KeyPath.segments written) :
    ∃ before after, Document.parse text = .ok before ∧
      Document.parse (process world rules path text context).text = .ok after ∧
      after.get key = before.get key := by
  have start : HoldsObject text entries := ⟨read, whole⟩
  -- The invariant of the run: every text holds an object with the same value at the key.
  have kept : ∃ final,
      HoldsObject (process world rules path text context).text final ∧
        KeyPath.get (.map final) key = KeyPath.get (.map entries) key := by
    refine applyRules_invariant world context
      (fun current => ∃ held, HoldsObject current held ∧
        KeyPath.get (.map held) key = KeyPath.get (.map entries) key)
      (matchingRules rules path) text ⟨entries, start, rfl⟩ ?_
    rintro attempt member ⟨held, holds, same⟩ next change outcome
    obtain ⟨rule, inMatching, -, inActions⟩ := source_of_mem_attempts world context member
    have inRules : rule ∈ rules := (List.mem_filter.mp inMatching).1
    obtain ⟨written, new, changed, keyed, done, -, holdsNext⟩ :=
      holds.after_attempt (structured rule inRules _ inActions)
        (carriesExact rule inRules _ inActions)
        (List.all_eq_true.mp readable attempt member) outcome
    obtain ⟨notAbove, notBelow⟩ := apart rule inRules _ inActions written keyed
    refine ⟨changed, holdsNext, ?_⟩
    rw [KeyPath.get_of_set_of_apart done nonempty notAbove notBelow, same]
  obtain ⟨final, holdsFinal, same⟩ := kept
  exact ⟨_, _, start.parse, holdsFinal.parse, same⟩

/-- A rule that writes two keys below one. -/
private def releaseRule : Rule :=
  Rule.new "release" ["*.json"]
    [.replaceValue "app.version" (.text "{tag}"), .appendItem "app.history" (.text "{tag}")]

private def ownedApp : List Char := "\x7b\"app\":\x7b\"owner\":[1,null]\x7d\x7d".toList

private def releaseContext : Context := ⟨"v1", "2026-01-15", [], false, none⟩

/-- A third key below the same one keeps its value. -/
theorem process_keeps_value_beside_written_keys :
    ∃ before after, Document.parse ownedApp = .ok before ∧
      Document.parse (process ⟨[], [], [], []⟩ [releaseRule] "a.json".toList ownedApp
        releaseContext).text = .ok after ∧
      after.get "app.owner" = before.get "app.owner" :=
  process_keeps_value_apart ⟨[], [], [], []⟩ releaseContext [releaseRule] "a.json".toList
    ownedApp [("app", .map [("owner", .list [.number (.integer 1), .null])])] "app.owner"
    (ok_of_toOption (by decide +kernel)) (by decide +kernel) (by decide +kernel)
    (by decide +kernel) (by decide +kernel) (by decide +kernel) (by decide +kernel)

end Engine

end ReleaseRules
