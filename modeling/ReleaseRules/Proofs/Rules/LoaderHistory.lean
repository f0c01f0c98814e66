import Mathlib.Data.List.DropRight
import ReleaseRules.Rules.Engine
import ReleaseRules.Rules.Loader

/-!
Contract: what a loader answers in the course of its history.

Owns:
- events: what is asked of a loader, and what happens to the world around it;
- the course of a session of a loader in its world;
- the part of a history that the rules are read from.

Does not own: what is read from the sources.

A loader keeps the rules from the first load after a reset on. So the rules that it gives are those
of the world as the history has left it up to the last reset and from there up to the next load;
what happens to the world behind that load is not seen before another reset.
-/

namespace ReleaseRules.RuleLoader

/-- What happens to a loader and to the world around it. A run loads the rules and applies them to a
text. Outside of the loader, files are written or removed and variables are set or unset. -/
inductive Event where
  | load
  | reset
  | process (path text : List Char) (context : Context)
  | outside (change : World → World)

namespace Event

def write (path text : List Char) : Event := .outside fun world => world.write path text

def remove (path : List Char) : Event := .outside fun world => world.remove path

def setVariable (name value : String) : Event := .outside fun world => world.setVariable name value

def unsetVariable (name : String) : Event := .outside fun world => world.unsetVariable name

/-- Whether an event asks for the rules. -/
def isLoading : Event → Bool
  | .load => true
  | .process _ _ _ => true
  | _ => false

def isReset : Event → Bool
  | .reset => true
  | _ => false

/-- What an event does to the world. -/
def change : Event → World → World
  | .outside change => change
  | _ => id

theorem not_isReset_of_isLoading {event : Event} (loading : event.isLoading = true) :
    event.isReset = false := by
  cases event with
  | reset => cases loading
  | _ => rfl

end Event

/-- What an event is answered with: the rules, or the outcome of a run. -/
inductive Answer where
  | rules (rules : List Rule)
  | outcome (result : Transformation)

/-- The answer to an event, given the rules and the world. -/
def Event.answer (rules : List Rule) (world : World) : Event → Option Answer
  | .load => some (.rules rules)
  | .process path text context => some (.outcome (Engine.process world rules path text context))
  | _ => none

theorem load_of_kept {loader : RuleLoader} {rules : List Rule} (kept : loader.kept = some rules)
    (world : World) : loader.load world = (rules, loader) := by
  rw [load, kept]

theorem load_of_not_kept {loader : RuleLoader} (unread : loader.kept = none) (world : World) :
    loader.load world =
      (loader.sources.readAll world, ⟨loader.sources, some (loader.sources.readAll world)⟩) := by
  rw [load, unread]

/-! ## Sessions -/

/-- Loader in its world. -/
structure Session where
  loader : RuleLoader
  world : World

namespace Session

/-- A new loader in a world. -/
def start (sources : RuleSources) (world : World) : Session := ⟨.new sources, world⟩

/-- The rules that the loader gives. -/
def rules (session : Session) : List Rule := (session.loader.load session.world).1

/-- The session after an event. -/
def after (session : Session) : Event → Session
  | .load => { session with loader := (session.loader.load session.world).2 }
  | .process _ _ _ => { session with loader := (session.loader.load session.world).2 }
  | .reset => { session with loader := session.loader.reset }
  | .outside change => { session with world := change session.world }

/-- The session after events in order. -/
def afterAll (session : Session) (events : List Event) : Session := events.foldl after session

/-- The answers to events in order. -/
def answers : Session → List Event → List (Option Answer)
  | _, [] => []
  | session, event :: rest =>
      event.answer session.rules session.world :: answers (session.after event) rest

/-- The answer to an event is given by the session that the events before it have left. -/
theorem answers_append (session : Session) (past : List Event) (event : Event)
    (future : List Event) :
    (session.answers (past ++ event :: future))[past.length]? =
      some (event.answer (session.afterAll past).rules (session.afterAll past).world) := by
  induction past generalizing session with
  | nil => rfl
  | cons earlier rest inductionHypothesis =>
      rw [List.cons_append, answers, List.length_cons, List.getElem?_cons_succ,
        inductionHypothesis]
      rfl

end Session

/-! ## Histories -/

/-- The world after what has happened to it. -/
def worldAfter (world : World) (events : List Event) : World :=
  events.foldl (fun world event => event.change world) world

/-- The events since the last reset, or since the start. -/
def sinceReset (events : List Event) : List Event := events.rtakeWhile fun event => !event.isReset

/-- The events up to the last reset, and from there up to the next load. -/
def untilReading (events : List Event) : List Event :=
  (events.rdropWhile fun event => !event.isReset) ++
    (sinceReset events).takeWhile fun event => !event.isLoading

/-- Whether the rules have been read since the last reset. -/
def hasRead (events : List Event) : Bool := (sinceReset events).any Event.isLoading

/-- Where something is found in a list, what follows the list does not matter for what comes before
it. -/
theorem takeWhile_append_of_any {Item : Type} {found : Item → Bool} {list : List Item}
    (any : list.any found = true) (rest : List Item) :
    (list ++ rest).takeWhile (fun item => !found item) =
      list.takeWhile fun item => !found item := by
  induction list with
  | nil => cases any
  | cons item list inductionHypothesis =>
      rw [List.cons_append, List.takeWhile_cons, List.takeWhile_cons]
      cases here : found item with
      | true => rfl
      | false =>
          rw [List.any_cons, here, Bool.false_or] at any
          rw [inductionHypothesis any]

section Histories

variable {events : List Event} {event : Event}

theorem worldAfter_concat (world : World) (events : List Event) (event : Event) :
    worldAfter world (events ++ [event]) = event.change (worldAfter world events) := by
  rw [worldAfter, List.foldl_append]
  rfl

theorem sinceReset_concat (events : List Event) (event : Event) :
    sinceReset (events ++ [event]) =
      if event.isReset then [] else sinceReset events ++ [event] := by
  rw [sinceReset, List.rtakeWhile_concat]
  cases event.isReset <;> rfl

theorem hasRead_concat (events : List Event) (event : Event) :
    hasRead (events ++ [event]) =
      (!event.isReset && (hasRead events || event.isLoading)) := by
  rw [hasRead, sinceReset_concat]
  cases event.isReset <;> simp [hasRead]

/-- What does not reset the loader comes behind the events since the last reset. -/
theorem untilReading_concat_of_kept (kept : event.isReset = false) :
    untilReading (events ++ [event]) =
      (events.rdropWhile fun event => !event.isReset) ++
        (sinceReset events ++ [event]).takeWhile fun event => !event.isLoading := by
  rw [untilReading, List.rdropWhile_concat, sinceReset_concat, kept]
  rfl

/-- Without a load since the last reset, nothing since then loads. -/
theorem takeWhile_sinceReset_of_not_hasRead (unread : hasRead events = false)
    (rest : List Event) :
    (sinceReset events ++ rest).takeWhile (fun event => !event.isLoading) =
      sinceReset events ++ rest.takeWhile fun event => !event.isLoading := by
  apply List.takeWhile_append_of_pos
  intro event member
  have silent := List.any_eq_false.mp unread event member
  rwa [Bool.not_eq_true, ← Bool.not_eq_true'] at silent

/-- Without a load since the last reset, all events come before the reading. -/
theorem untilReading_of_not_hasRead (unread : hasRead events = false) :
    untilReading events = events := by
  have all := takeWhile_sinceReset_of_not_hasRead unread []
  rw [List.append_nil, List.takeWhile_nil, List.append_nil] at all
  rw [untilReading, all]
  exact List.rdropWhile_append_rtakeWhile

/-- Once the rules have been read, nothing but a reset moves the reading. -/
theorem untilReading_concat_of_hasRead (read : hasRead events = true)
    (kept : event.isReset = false) :
    untilReading (events ++ [event]) = untilReading events := by
  rw [untilReading_concat_of_kept kept, takeWhile_append_of_any read]
  rfl

/-- A load does not move the reading: either it reads the world as it is, or it does not read. -/
theorem untilReading_concat_of_isLoading (loading : event.isLoading = true) :
    untilReading (events ++ [event]) = untilReading events := by
  have kept := Event.not_isReset_of_isLoading loading
  cases read : hasRead events with
  | true => exact untilReading_concat_of_hasRead read kept
  | false =>
      have stopped : [event].takeWhile (fun event => !event.isLoading) = [] := by
        rw [List.takeWhile_cons, loading]
        rfl
      rw [untilReading_concat_of_kept kept, takeWhile_sinceReset_of_not_hasRead read, stopped,
        List.append_nil, untilReading_of_not_hasRead read]
      exact List.rdropWhile_append_rtakeWhile

/-- A loader that is never asked has not read its rules. -/
theorem not_hasRead_of_silent {changes : List Event}
    (silent : changes.all (fun event => !event.isLoading) = true) : hasRead changes = false := by
  rw [hasRead, List.any_eq_false]
  intro event member
  have since := (List.rtakeWhile_suffix _ changes).subset member
  simpa using List.all_eq_true.mp silent event since

/-- What has happened before a reset does not matter for what happens since the last one. -/
theorem sinceReset_reset (past changes : List Event) :
    sinceReset (past ++ .reset :: changes) = sinceReset changes := by
  induction changes using List.reverseRecOn with
  | nil => rw [sinceReset_concat]; rfl
  | append_singleton changes event inductionHypothesis =>
      rw [← List.cons_append, ← List.append_assoc, sinceReset_concat, sinceReset_concat,
        inductionHypothesis]

/-- Events that do not load leave the rules unread behind a reset. -/
theorem not_hasRead_of_reset (past : List Event) {changes : List Event}
    (silent : changes.all (fun event => !event.isLoading) = true) :
    hasRead (past ++ .reset :: changes) = false := by
  rw [hasRead, sinceReset_reset]
  exact not_hasRead_of_silent silent

/-- From a load on, as long as there is no reset, the rules have been read, and the reading is that
of the load. -/
theorem reading_of_isLoading (past : List Event) {first : Event}
    (loading : first.isLoading = true) {between : List Event}
    (unbroken : between.all (fun event => !event.isReset) = true) :
    hasRead (past ++ first :: between) = true ∧
      untilReading (past ++ first :: between) = untilReading past := by
  induction between using List.reverseRecOn with
  | nil =>
      constructor
      · rw [hasRead_concat, loading, Event.not_isReset_of_isLoading loading, Bool.or_true]
        rfl
      · exact untilReading_concat_of_isLoading loading
  | append_singleton between event inductionHypothesis =>
      rw [List.all_append, Bool.and_eq_true, List.all_cons, List.all_nil, Bool.and_true]
        at unbroken
      have kept : event.isReset = false := by simpa using unbroken.2
      obtain ⟨read, same⟩ := inductionHypothesis unbroken.1
      rw [← List.cons_append, ← List.append_assoc]
      constructor
      · rw [hasRead_concat, kept, read]
        rfl
      · rw [untilReading_concat_of_hasRead read kept, same]

end Histories

/-! ## Rules of the past -/

namespace Session

/-- A session after events is in the world that they leave, and its loader keeps what it has read
at the reading. -/
structure Follows (session : Session) (sources : RuleSources) (world : World)
    (events : List Event) : Prop where
  sameSources : session.loader.sources = sources
  sameWorld : session.world = worldAfter world events
  sameKept : session.loader.kept =
    if hasRead events then some (sources.readAll (worldAfter world (untilReading events)))
    else none

variable {session : Session} {sources : RuleSources} {world : World} {events : List Event}

theorem Follows.start (sources : RuleSources) (world : World) :
    (start sources world).Follows sources world [] :=
  ⟨rfl, rfl, rfl⟩

/-- The rules that a session gives are those of the world at the reading. -/
theorem Follows.rules_eq (follows : session.Follows sources world events) :
    session.rules = sources.readAll (worldAfter world (untilReading events)) := by
  have kept := follows.sameKept
  cases read : hasRead events with
  | true =>
      rw [read, if_pos rfl] at kept
      rw [rules, load_of_kept kept]
  | false =>
      rw [read, if_neg Bool.false_ne_true] at kept
      rw [rules, load_of_not_kept kept, untilReading_of_not_hasRead read, follows.sameSources,
        follows.sameWorld]

/-- After a load the loader keeps the rules that it has given. -/
theorem Follows.load (follows : session.Follows sources world events) :
    (session.loader.load session.world).2 = ⟨sources, some session.rules⟩ := by
  rw [rules, ← follows.sameSources]
  cases kept : session.loader.kept with
  | some rules => rw [load_of_kept kept, ← kept]
  | none => rw [load_of_not_kept kept]

/-- A load reads at most once and leaves the world alone. -/
theorem Follows.concat_isLoading (follows : session.Follows sources world events) {event : Event}
    (loading : event.isLoading = true) :
    Follows ⟨(session.loader.load session.world).2, session.world⟩ sources world
      (events ++ [event]) := by
  have idle : event.change = id := by
    cases event with
    | outside change => cases loading
    | _ => rfl
  refine ⟨?_, ?_, ?_⟩
  · rw [follows.load]
  · rw [worldAfter_concat, idle, follows.sameWorld]
    rfl
  · have read : hasRead (events ++ [event]) = true := by
      rw [hasRead_concat, loading, Event.not_isReset_of_isLoading loading, Bool.or_true]
      rfl
    rw [follows.load, read, if_pos rfl, untilReading_concat_of_isLoading loading,
      follows.rules_eq]

/-- One event after another keeps the session on the course of its events. -/
theorem Follows.after (follows : session.Follows sources world events) (event : Event) :
    (session.after event).Follows sources world (events ++ [event]) := by
  cases event with
  | load => exact follows.concat_isLoading rfl
  | process path text context => exact follows.concat_isLoading rfl
  | reset =>
      refine ⟨follows.sameSources, ?_, ?_⟩
      · rw [worldAfter_concat]
        exact follows.sameWorld
      · rw [hasRead_concat]
        rfl
  | outside change =>
      refine ⟨follows.sameSources, ?_, ?_⟩
      · rw [worldAfter_concat, ← follows.sameWorld]
        rfl
      · have quiet : (Event.outside change).isReset = false := rfl
        show session.loader.kept = _
        rw [follows.sameKept, hasRead_concat]
        cases read : hasRead events with
        | true =>
            rw [untilReading_concat_of_hasRead read quiet]
            rfl
        | false => rfl

theorem afterAll_concat (session : Session) (events : List Event) (event : Event) :
    session.afterAll (events ++ [event]) = (session.afterAll events).after event := by
  rw [afterAll, List.foldl_append]
  rfl

/-- A new loader follows the course of its events. -/
theorem follows_afterAll (sources : RuleSources) (world : World) (events : List Event) :
    ((Session.start sources world).afterAll events).Follows sources world events := by
  induction events using List.reverseRecOn with
  | nil => exact Follows.start sources world
  | append_singleton events event inductionHypothesis =>
      rw [afterAll_concat]
      exact inductionHypothesis.after event

/-- A loader gives the rules of the world as it was at the reading, whatever has happened since. -/
theorem rules_afterAll (sources : RuleSources) (world : World) (events : List Event) :
    ((Session.start sources world).afterAll events).rules =
      sources.readAll (worldAfter world (untilReading events)) :=
  (follows_afterAll sources world events).rules_eq

end Session

/-- Whatever happens around a loader, every load is answered with the rules of the world at the
reading. So two loads without a reset between them give the same rules, and a reset, like the
start, makes the next load see all that has happened. -/
theorem loads_of_history (sources : RuleSources) (world : World) :
    (∀ (past : List Event) (event : Event) (future : List Event),
      ((Session.start sources world).answers (past ++ event :: future))[past.length]? =
        some (event.answer (sources.readAll (worldAfter world (untilReading past)))
          (worldAfter world past))) ∧
    (∀ (past : List Event) (first : Event) (between : List Event),
      first.isLoading = true → between.all (fun event => !event.isReset) = true →
        ((Session.start sources world).afterAll (past ++ first :: between)).rules =
          ((Session.start sources world).afterAll past).rules) ∧
    (∀ changes : List Event, changes.all (fun event => !event.isLoading) = true →
      ((Session.start sources world).afterAll changes).rules =
          sources.readAll (worldAfter world changes) ∧
        ∀ past : List Event,
          ((Session.start sources world).afterAll (past ++ .reset :: changes)).rules =
            sources.readAll (worldAfter world (past ++ .reset :: changes))) := by
  refine ⟨?_, ?_, ?_⟩
  · intro past event future
    rw [Session.answers_append, Session.rules_afterAll,
      (Session.follows_afterAll sources world past).sameWorld]
  · intro past first between loading unbroken
    rw [Session.rules_afterAll, Session.rules_afterAll,
      (reading_of_isLoading past loading unbroken).2]
  · intro changes silent
    constructor
    · rw [Session.rules_afterAll, untilReading_of_not_hasRead (not_hasRead_of_silent silent)]
    · intro past
      rw [Session.rules_afterAll, untilReading_of_not_hasRead (not_hasRead_of_reset past silent)]

/-- A rule file of a project, and a variable that may name one more. -/
private def projectSources : RuleSources := ⟨none, some "rules.json".toList, none, some "RULES"⟩

/-- A project without a rule file. -/
private def bareWorld : World := World.empty ["project"] []

/-- A rule file with one rule is written to the place of the project's rules, and the variable names
it as well. -/
private def arrival : List Event :=
  [.write "rules.json".toList
    "\x7b\"rules\":[\x7b\"name\":\"first\",\"target_files\":[],\"actions\":[]\x7d]\x7d".toList,
   .setVariable "RULES" "rules.json"]

/-- The file is removed and the variable is unset. -/
private def departure : List Event := [.remove "rules.json".toList, .unsetVariable "RULES"]

/-- Rules that arrive behind a load are not seen by the next load, but by the one behind a reset. -/
theorem arrival_waits_for_reset :
    Event.load.isLoading = true ∧ arrival.all (fun event => !event.isReset) = true ∧
    arrival.all (fun event => !event.isLoading) = true ∧
    ((Session.start projectSources bareWorld).afterAll (.load :: arrival)).rules = [] ∧
    ((Session.start projectSources bareWorld).afterAll
      (.load :: departure ++ .reset :: arrival)).rules.map Rule.name = ["first", "first"] := by
  have history := loads_of_history projectSources bareWorld
  refine ⟨rfl, rfl, rfl, ?_, ?_⟩
  · have same := history.2.1 [] .load arrival rfl rfl
    have start := (history.2.2 [] rfl).1
    rw [List.nil_append] at same
    rw [same, start]
    decide +kernel
  · have fresh := (history.2.2 arrival rfl).2 (.load :: departure)
    rw [fresh]
    decide +kernel

end ReleaseRules.RuleLoader
