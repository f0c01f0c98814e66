import ReleaseRules.Files.Glob
import ReleaseRules.Regex.Basic

/-!
Contract: bounded caches of compiled patterns.

Owns:
- a cache that is emptied when it is full;
- its use for file patterns and for regular expressions.

Does not own: compiling patterns.
-/

namespace ReleaseRules

/-- Compiled forms by their patterns. -/
structure Cache (α : Type) where
  entries : List (List Char × α)
deriving Repr

namespace Cache

/-- A cache without entries. -/
def empty {α : Type} : Cache α := ⟨[]⟩

/-- How many entries a cache may have. -/
def capacity : Nat := 1000

/-- The cache, emptied if it is full and lacks a pattern. -/
def makeRoom {α : Type} (cache : Cache α) (pattern : List Char) : Cache α :=
  if capacity ≤ cache.entries.length && (cache.entries.lookup pattern).isNone then empty
  else cache

/-- The compiled form of a pattern, from the cache or compiled now and kept. Failures are not
kept. -/
def fetch {ε α : Type} (compile : List Char → Except ε α) (cache : Cache α)
    (pattern : List Char) : Except ε α × Cache α :=
  let cache := cache.makeRoom pattern
  match cache.entries.lookup pattern with
  | some compiled => (.ok compiled, cache)
  | none =>
      match compile pattern with
      | .ok compiled => (.ok compiled, ⟨(pattern, compiled) :: cache.entries⟩)
      | .error reason => (.error reason, cache)

/-- The answers to requests in a row, each with the cache that the one before leaves. -/
def answerAll {α β κ : Type} (answer : Cache α → κ → β × Cache α) :
    Cache α → List κ → List β × Cache α
  | cache, [] => ([], cache)
  | cache, request :: rest =>
      let (result, cache) := answer cache request
      let (results, cache) := answerAll answer cache rest
      (result :: results, cache)

end Cache

/-- Match a text against a file pattern by way of a cache. -/
def Glob.matchesCached (cache : Cache (List Glob.Token)) (text pattern : List Char) :
    Except Glob.PatternError Bool × Cache (List Glob.Token) :=
  let (compiled, cache) := cache.fetch Glob.compile pattern
  (compiled.map fun tokens => decide (Glob.matchTokens tokens text = .matched), cache)

/-- Compile a regular expression by way of a cache. -/
def Regex.compileCached (cache : Cache Regex) (pattern : List Char) :
    Except Regex.PatternError Regex × Cache Regex :=
  cache.fetch Regex.compile pattern

end ReleaseRules
