import ReleaseRules.Cache

/-!
Contract: caches of compiled patterns cannot be seen from outside.

Owns:
- coherent caches: every pattern has its own compiled form, no pattern has two, and there are no more
  than the capacity allows;
- one call keeps a cache coherent and is answered as without a cache, and so are calls in a row;
- the two caches, of file patterns and of regular expressions.

Does not own: what patterns mean.

A cache may be emptied in the middle of a call. The pattern of the call is then missing from the
empty cache as well, so it is compiled afresh, and a failure leaves the cache empty.
-/

namespace ReleaseRules

namespace Cache

variable {ε α β κ : Type} {compile : List Char → Except ε α} {cache : Cache α}

/-- A cache that keeps for each of its patterns the compiled form, once, and not too many. -/
structure IsCoherent (compile : List Char → Except ε α) (cache : Cache α) : Prop where
  compiled : ∀ entry ∈ cache.entries, compile entry.1 = .ok entry.2
  distinct : (cache.entries.map Prod.fst).Nodup
  size_le : cache.entries.length ≤ capacity

theorem isCoherent_empty (compile : List Char → Except ε α) : IsCoherent compile empty :=
  ⟨nofun, List.nodup_nil, Nat.zero_le capacity⟩

/-- A pattern that is found has its own compiled form. -/
theorem IsCoherent.compile_of_lookup (coherent : IsCoherent compile cache) {pattern : List Char}
    {kept : α} (found : cache.entries.lookup pattern = some kept) : compile pattern = .ok kept := by
  obtain ⟨before, after, split, -⟩ := List.lookup_eq_some_iff.mp found
  apply coherent.compiled (pattern, kept)
  rw [split]
  exact List.mem_append_right before List.mem_cons_self

theorem IsCoherent.makeRoom (coherent : IsCoherent compile cache) (pattern : List Char) :
    IsCoherent compile (cache.makeRoom pattern) := by
  rw [Cache.makeRoom]
  split
  · exact isCoherent_empty compile
  · exact coherent

/-- If a pattern is still missing when room has been made, there is room for it. -/
theorem length_makeRoom_lt {pattern : List Char}
    (missing : (cache.makeRoom pattern).entries.lookup pattern = none) :
    (cache.makeRoom pattern).entries.length < capacity := by
  rw [makeRoom] at missing ⊢
  split
  · show 0 < capacity
    decide
  · rename_i hasRoom
    rw [if_neg hasRoom] at missing
    rw [missing] at hasRoom
    simpa using hasRoom

theorem IsCoherent.insert (coherent : IsCoherent compile cache) {pattern : List Char} {kept : α}
    (missing : cache.entries.lookup pattern = none) (compiled : compile pattern = .ok kept)
    (room : cache.entries.length < capacity) :
    IsCoherent compile ⟨(pattern, kept) :: cache.entries⟩ := by
  refine ⟨?_, ?_, room⟩
  · intro entry member
    rcases List.mem_cons.mp member with rfl | later
    · exact compiled
    · exact coherent.compiled entry later
  · apply List.nodup_cons.mpr
    refine ⟨?_, coherent.distinct⟩
    intro member
    obtain ⟨entry, inEntries, same⟩ := List.mem_map.mp member
    have other := List.lookup_eq_none_iff.mp missing entry inEntries
    simp [same] at other

/-- A call as it is answered by a coherent cache: like compiling afresh, and the cache that is left
is coherent and has the pattern if it compiles. -/
structure IsAnswered (compile : List Char → Except ε α) (pattern : List Char)
    (answer : Except ε α × Cache α) : Prop where
  result : answer.1 = compile pattern
  coherent : IsCoherent compile answer.2
  kept : answer.2.entries.lookup pattern = (compile pattern).toOption

theorem IsCoherent.fetch (coherent : IsCoherent compile cache) (pattern : List Char) :
    IsAnswered compile pattern (cache.fetch compile pattern) := by
  have emptied := coherent.makeRoom pattern
  rw [Cache.fetch]
  cases found : (cache.makeRoom pattern).entries.lookup pattern with
  | some kept =>
      have compiled := emptied.compile_of_lookup found
      refine ⟨compiled.symm, emptied, ?_⟩
      rw [compiled]
      exact found
  | none =>
      cases compiled : compile pattern with
      | error reason =>
          refine ⟨compiled.symm, emptied, ?_⟩
          rw [compiled]
          exact found
      | ok kept =>
          refine ⟨compiled.symm, emptied.insert found compiled (length_makeRoom_lt found), ?_⟩
          rw [compiled]
          exact List.lookup_cons_self

/-- If every request to a coherent cache is answered as it would be afresh, and leaves the cache
coherent, then so are requests in a row. -/
theorem IsCoherent.answerAll {answer : Cache α → κ → β × Cache α} {afresh : κ → β}
    (each : ∀ cache, IsCoherent compile cache → ∀ request,
      (answer cache request).1 = afresh request ∧ IsCoherent compile (answer cache request).2)
    (coherent : IsCoherent compile cache) (requests : List κ) :
    (Cache.answerAll answer cache requests).1 = requests.map afresh ∧
      IsCoherent compile (Cache.answerAll answer cache requests).2 := by
  induction requests generalizing cache with
  | nil => exact ⟨rfl, coherent⟩
  | cons request rest inductionHypothesis =>
      obtain ⟨first, kept⟩ := each cache coherent request
      obtain ⟨others, left⟩ := inductionHypothesis kept
      refine ⟨?_, left⟩
      show (answer cache request).1 :: _ = _
      rw [first, others, List.map_cons]

end Cache

/-! ## File patterns and regular expressions -/

/-- Match a text against a file pattern that is compiled for it. -/
def Glob.matchesAfresh (text pattern : List Char) : Except Glob.PatternError Bool :=
  (Glob.compile pattern).map fun tokens => decide (Glob.matchTokens tokens text = .matched)

/-- An invalid pattern matches nothing. -/
theorem Glob.matchesText_eq (pattern text : List Char) :
    Glob.matchesText pattern text = (Glob.matchesAfresh text pattern).toOption.getD false := by
  rw [Glob.matchesText, Glob.matchesAfresh]
  cases Glob.compile pattern with
  | ok tokens => rfl
  | error reason => rfl

theorem Cache.IsCoherent.matchesCached {cache : Cache (List Glob.Token)}
    (coherent : cache.IsCoherent Glob.compile) (text pattern : List Char) :
    (Glob.matchesCached cache text pattern).1 = Glob.matchesAfresh text pattern ∧
      (Glob.matchesCached cache text pattern).2.IsCoherent Glob.compile := by
  have answered := coherent.fetch pattern
  refine ⟨?_, answered.coherent⟩
  show Except.map _ (cache.fetch Glob.compile pattern).1 = _
  rw [answered.result, Glob.matchesAfresh]

/-- **Caches are invisible.** Whatever file patterns and regular expressions are asked for, valid or
not and however many, starting with empty caches: every answer is that of a pattern compiled for the
call, which is what the choice of files goes by; both caches are coherent after any number of
calls and never have more than 1000 entries; and the next pattern that compiles is kept. -/
theorem Cache.answers_as_afresh (requests : List (List Char × List Char))
    (patterns : List (List Char)) :
    (let run := Cache.answerAll (fun cache request => Glob.matchesCached cache request.1 request.2)
        Cache.empty requests;
      run.1 = requests.map (fun request => Glob.matchesAfresh request.1 request.2) ∧
      run.1.map (fun answer => answer.toOption.getD false) =
        requests.map (fun request => Glob.matchesText request.2 request.1) ∧
      run.2.IsCoherent Glob.compile ∧ run.2.entries.length ≤ 1000 ∧
      ∀ text next, (Glob.matchesCached run.2 text next).2.entries.lookup next =
        (Glob.compile next).toOption) ∧
    (let run := Cache.answerAll Regex.compileCached Cache.empty patterns;
      run.1 = patterns.map Regex.compile ∧
      run.2.IsCoherent Regex.compile ∧ run.2.entries.length ≤ 1000 ∧
      ∀ next, (Regex.compileCached run.2 next).2.entries.lookup next =
        (Regex.compile next).toOption) := by
  have globs := (Cache.isCoherent_empty Glob.compile).answerAll
    (fun _ coherent request => coherent.matchesCached request.1 request.2) requests
  have regexes := (Cache.isCoherent_empty Regex.compile).answerAll
    (fun _ coherent pattern => ⟨(coherent.fetch pattern).result, (coherent.fetch pattern).coherent⟩)
    patterns
  obtain ⟨globAnswers, globCache⟩ := globs
  obtain ⟨regexAnswers, regexCache⟩ := regexes
  refine ⟨⟨globAnswers, ?_, globCache, globCache.size_le, ?_⟩,
    ⟨regexAnswers, regexCache, regexCache.size_le, ?_⟩⟩
  · rw [globAnswers, List.map_map]
    apply List.map_congr_left
    intro request _
    exact (Glob.matchesText_eq request.2 request.1).symm
  · intro text next
    exact (globCache.fetch next).kept
  · intro next
    exact (regexCache.fetch next).kept

end ReleaseRules
