import Mathlib.Logic.ExistsUnique
import Stencil.Proofs.Cache.Run

/-! Caches build each value once: whatever recipes request, in whatever way they fail, a run stores
behind what was there the values that were finished in it, in the order in which they were, and a
failure that is let pass names the innermost key. -/

namespace Stencil

variable {σ κ α : Type}

namespace Table

variable [DecidableEq κ]

/-- A table that holds what another one holds, and behind it the given entries, each under a key of
its own; all its views agree. -/
structure Extends (before : Table κ α) (built : List (κ × α)) (after : Table κ α) : Prop where
  entries : after.entries = before.entries ++ built
  once : (before.keys ++ built.map Prod.fst).Nodup
  keys : after.keys = before.keys ++ built.map Prod.fst
  values : after.values = before.values ++ built.map Prod.snd
  size : after.size = before.size + built.length
  contains : ∀ key, after.contains key = true ↔ key ∈ after.keys
  view : after.keys.map after.find? = after.values.map some
  find? : ∀ key value,
    after.find? key = some value ↔ before.find? key = some value ∨ (key, value) ∈ built

/-- A table whose entries are those of another one and more extends it. -/
theorem extends_of_entries {before after : Table κ α} {built : List (κ × α)}
    (entries : after.entries = before.entries ++ built) : before.Extends built after := by
  -- Every view of a table is a view of its entries.
  have keys : after.keys = before.keys ++ built.map Prod.fst := by
    simp [Table.keys, entries]
  refine ⟨entries, keys ▸ after.nodup, keys, ?_, ?_, after.contains_iff, after.map_find?_keys, ?_⟩
  · simp [Table.values, entries]
  · simp [Table.size, entries]
  · intro key value
    simp [find?_eq_some_iff, entries]

end Table

namespace Cache

namespace History

/-- The values that were built, in the order in which they were finished. -/
def finished : History κ α → List (κ × α)
  | .nil => []
  | .request key inner (.built value) rest => inner.finished ++ (key, value) :: rest.finished
  | .request _ inner (.recalled _) rest | .request _ inner (.failed _ _) rest =>
    inner.finished ++ rest.finished

/-- No request is for a key whose value is under construction, be it one of the given keys or one
that an enclosing request is for. -/
def Proper : History κ α → List κ → Prop
  | .nil, _ => True
  | .request key inner _ rest, underway =>
    key ∉ underway ∧ inner.Proper (key :: underway) ∧ rest.Proper underway

/-- The failure of one request is let pass: the recipe of a key fails for the given cause, and each
recipe around it fails with what its own request failed with, until a request at which the failures
of all of them end. The failures are listed from the outermost request to that for the key. -/
inductive LetPass : History κ α → κ → Failure → List Failure → Prop where
  | raised (key : κ) (inner rest : History κ α) (cause failure : Failure) :
      LetPass (.request key inner (.failed cause failure) rest) key cause [failure]
  | passed {key origin : κ} {inner rest : History κ α} {cause failure outer : Failure}
      {failures : List Failure} (onward : LetPass inner origin cause (failure :: failures)) :
      LetPass (.request key inner (.failed failure outer) rest) origin cause
        (outer :: failure :: failures)
  | inside {key origin : κ} {inner rest : History κ α} {ending : Ending α} {cause : Failure}
      {failures : List Failure} (onward : LetPass inner origin cause failures) :
      LetPass (.request key inner ending rest) origin cause failures
  | later {key origin : κ} {inner rest : History κ α} {ending : Ending α} {cause : Failure}
      {failures : List Failure} (onward : LetPass rest origin cause failures) :
      LetPass (.request key inner ending rest) origin cause failures

/-- A key that is under construction is not finished before its construction is. -/
theorem Proper.unfinished {history : History κ α} {underway : List κ} {key : κ}
    (proper : history.Proper underway) (member : key ∈ underway) :
    key ∉ history.finished.map Prod.fst := by
  -- The key is under construction in the whole history, so no request in it is for this key.
  induction history generalizing underway with
  | nil => simp [finished]
  | request other inner ending rest inside after =>
    obtain ⟨fresh, nested, onward⟩ := proper
    have before := inside nested (List.mem_cons_of_mem other member)
    have behind := after onward member
    have apart : key ≠ other := fun same => fresh (same ▸ member)
    -- A key that is finished here is the one of this request.
    cases ending with
    | built value =>
      simp only [finished, List.map_append, List.map_cons, List.mem_append, List.mem_cons, not_or]
      exact ⟨before, apart, behind⟩
    | recalled | failed =>
      simp only [finished, List.map_append, List.mem_append, not_or]
      exact ⟨before, behind⟩

end History

variable [DecidableEq κ] {recipe : κ → Recipe σ κ α} {nameOf : κ → String}

/-- Whatever a recipe fails for, the request fails with a failure of generation. -/
theorem isGeneration_constructionFailure (name : String) (cause : Failure) :
    (constructionFailure name cause).kind.isGeneration = true := by
  -- A failure of generation is passed on, and every other one is named.
  unfold constructionFailure
  split
  · assumption
  · rfl

/-- What a request failed with passes every other request. -/
theorem constructionFailure_constructionFailure (outer inner : String) (cause : Failure) :
    constructionFailure outer (constructionFailure inner cause) = constructionFailure inner cause :=
  if_pos (isGeneration_constructionFailure inner cause)

/-- While the value of a key is under construction, it stays absent. -/
theorem absent_of_entries {before after : Table κ α} {history : History κ α} {underway : List κ}
    {key : κ} (entries : after.entries = before.entries ++ history.finished)
    (proper : history.Proper (key :: underway)) (absent : before.find? key = none) :
    after.find? key = none := by
  have unfinished := proper.unfinished (List.mem_cons_self ..)
  refine Option.eq_none_iff_forall_ne_some.2 fun value found => ?_
  -- An entry for the key would be an old one, or one that was finished.
  rcases ((Table.extends_of_entries entries).find? key value).1 found with old | new
  · simp [absent] at old
  · exact unfinished (List.mem_map.2 ⟨_, new, rfl⟩)

/-- A run stores behind what was there the values that were finished in it. -/
theorem Run.entries {program : Recipe σ κ α} {cache after : Cache σ κ α} {history : History κ α}
    {answer : Except Failure α} {underway : List κ}
    (run : Run recipe nameOf program cache history answer after)
    (proper : history.Proper underway) :
    after.stored.entries = cache.stored.entries ++ history.finished := by
  -- What a construction finishes comes before its own value, and what comes later behind it.
  induction run generalizing underway with
  | done value cache => simp [History.finished]
  | fail failure cache => simp [History.finished]
  | inspect onward ih => exact ih proper
  | update onward ih => exact ih proper
  | recalled present onward ih => exact ih proper.2.2
  | failed absent construction onward inside ih =>
    obtain ⟨_, nested, later⟩ := proper
    rw [ih later, inside nested, History.finished, List.append_assoc]
  | @built key next value cache between after inner rest answer absent construction onward inside
      ih =>
    obtain ⟨_, nested, later⟩ := proper
    -- The key is still absent when its value is stored.
    have still := absent_of_entries (inside nested) nested absent
    rw [ih later]
    show (between.stored.put key value).entries ++ _ = _
    rw [Table.entries_put_of_absent still, inside nested, History.finished]
    simp

/-- What a request answers to a failure of its recipe is what every request that lets it pass
answers. -/
theorem Run.letPass {program : Recipe σ κ α} {cache after : Cache σ κ α} {history : History κ α}
    {answer : Except Failure α} (run : Run recipe nameOf program cache history answer after)
    {origin : κ} {cause : Failure} {failures : List Failure}
    (passes : history.LetPass origin cause failures) :
    ∀ failure ∈ failures, failure = constructionFailure (nameOf origin) cause := by
  -- A failure passes from the inside to the outside, or it is one of a later request.
  induction run generalizing origin cause failures with
  | done value cache => cases passes
  | fail failure cache => cases passes
  -- What comes behind the first instruction decides, unless it is a request.
  | inspect onward ih => exact ih passes
  | update onward ih => exact ih passes
  | recalled present onward ih =>
    cases passes with
    | inside nested => cases nested
    | later others => exact ih others
  | built absent construction onward inside ih =>
    cases passes with
    | inside nested => exact inside nested
    | later others => exact ih others
  | failed absent construction onward inside ih =>
    cases passes with
    | raised => simp
    | passed nested =>
      -- The failure that passes is already that of the innermost key.
      have known := inside nested
      have first := known _ (List.mem_cons_self ..)
      intro failure member
      rcases List.mem_cons.1 member with rfl | other
      · rw [first, constructionFailure_constructionFailure]
      · exact known failure other
    | inside nested => exact inside nested
    | later others => exact ih others

/-- A cache builds each value once, whatever the recipes request, and however they fail. A key that
is present is answered by its value, and neither a recipe nor the cache takes notice. Programs come to
what their runs come to. A run in which no request is for a key under construction stores the values
that were finished in it behind what was there, in the order in which they were, each under a key of
its own; in any run a failure that generation has not raised itself comes out of every request that
lets it pass as the one failure to construct the innermost key. A request that fails leaves its key
absent, and all that is stored is what was and what was finished meanwhile. -/
theorem requests_memoized (recipe : κ → Recipe σ κ α) (nameOf : κ → String) :
    (∀ (cache : Cache σ κ α) key value, cache.stored.find? key = some value →
      ∀ depth, obtain recipe nameOf depth key cache = some (.ok value, cache)) ∧
    (∀ (program : Recipe σ κ α) cache answer after,
      (∃ depth, follow (obtain recipe nameOf depth) program cache = some (answer, after)) ↔
        ∃! history, Run recipe nameOf program cache history answer after) ∧
    (∀ (program : Recipe σ κ α) cache history answer after,
      Run recipe nameOf program cache history answer after →
      (history.Proper [] → cache.stored.Extends history.finished after.stored) ∧
      ∀ origin cause failures, history.LetPass origin cause failures →
        cause.kind.isGeneration = false →
          ∀ failure ∈ failures, failure = .notConstructed (nameOf origin) cause.kind) ∧
    ∀ depth key (cache : Cache σ κ α) failure after,
      obtain recipe nameOf depth key cache = some (.error failure, after) →
      ∃ inner cause, Run recipe nameOf (recipe key) cache inner (.error cause) after ∧
        failure = constructionFailure (nameOf key) cause ∧
        (inner.Proper [key] → after.stored.find? key = none ∧
          cache.stored.Extends inner.finished after.stored) := by
  refine ⟨fun cache key value => obtain_present, fun program cache answer after => ?_,
    fun program cache history answer after run => ?_,
    fun depth key cache failure after obtained => ?_⟩
  -- Following a program has a history, and no two of them.
  · rw [exists_follow_iff]
    exact ⟨fun ⟨history, run⟩ => ⟨history, run, fun other also => (also.unique run).1⟩,
      ExistsUnique.exists⟩
  -- What was stored before is kept, and a foreign failure is named once.
  · refine ⟨fun proper => Table.extends_of_entries (run.entries proper), ?_⟩
    intro origin cause failures passes foreign failure member
    rw [run.letPass passes failure member, constructionFailure, if_neg (by simp [foreign])]
  -- A request that fails has followed its recipe to a failure.
  · obtain ⟨inner, ending, answers⟩ := exists_answers obtained
    cases answers with
    | failed absent construction =>
      refine ⟨inner, _, construction, rfl, fun proper => ?_⟩
      have entries := construction.entries proper
      exact ⟨absent_of_entries entries proper absent, Table.extends_of_entries entries⟩

/-- Recipes that count how many of them it takes, each of which needs the next one but for the third,
which fails as often as the state says. -/
def chain : Nat → Recipe Nat Nat Nat
  | 2 => .inspect fun times =>
    if times = 0 then .done 1 else .update (times - 1) (.fail (.raised .value "missing"))
  | key => .request (key + 1) fun
    | .ok count => .done (count + 1)
    | .error failure => .fail failure

/-- Requests the first key, then the last one, and the first one again, failures or not. -/
def visits : Recipe Nat Nat Nat :=
  .request 0 fun _ => .request 2 fun _ => .request 0 fun
    | .ok count => .done count
    | .error failure => .fail failure

/-- What the requests of the first visit fail with. -/
def unbuilt : Failure := .notConstructed "2" .value

/-- The history of the visits if the third recipe fails once. -/
def visited : History Nat Nat :=
  .request 0
    (.request 1 (.request 2 .nil (.failed (.raised .value "missing") unbuilt) .nil)
      (.failed unbuilt unbuilt) .nil)
    (.failed unbuilt unbuilt) <|
  .request 2 .nil (.built 1) <|
  .request 0 (.request 1 (.request 2 .nil (.recalled 1) .nil) (.built 2) .nil) (.built 3) .nil

/-- Three nested requests fail with the name of the innermost key, and the next visits build each
value once, from the innermost outwards. -/
theorem chain_memoized :
    ∃ after, Run chain toString visits (start 1) visited (.ok 3) after ∧
      visited.Proper [] ∧ after.stored.entries = [(2, 1), (1, 2), (0, 3)] ∧
      visited.LetPass 2 (.raised .value "missing") [unbuilt, unbuilt, unbuilt] ∧
      unbuilt = .notConstructed (toString 2) .value ∧
      obtain chain toString 0 1 after = some (.ok 2, after) ∧
      ∃ cache, obtain chain toString 3 0 (start 1) = some (.error unbuilt, cache) ∧
        cache.stored.find? 0 = none := by
  obtain ⟨present, -, runs, failing⟩ := requests_memoized chain (toString : Nat → String)
  -- The first visit, which leaves the cache empty, and then the second one.
  have wanting : Run chain toString (chain 0) (start 1)
      (.request 1 (.request 2 .nil (.failed (.raised .value "missing") unbuilt) .nil)
        (.failed unbuilt unbuilt) .nil) (.error unbuilt) (start 0) :=
    .failed rfl (.failed rfl (.inspect (.update (.fail _ _))) (.fail _ _)) (.fail _ _)
  obtain ⟨after, run⟩ : ∃ after, Run chain toString visits (start 1) visited (.ok 3) after :=
    ⟨_, .failed rfl wanting <| .built rfl (.inspect (.done _ _)) <|
      .built rfl (.built rfl (.recalled rfl (.done _ _)) (.done _ _)) (.done _ _)⟩
  have proper : visited.Proper [] := by simp [visited, History.Proper]
  have passes : visited.LetPass 2 (.raised .value "missing") [unbuilt, unbuilt, unbuilt] :=
    .passed (.passed (.raised 2 .nil .nil _ unbuilt))
  obtain ⟨stores, names⟩ := runs _ _ _ _ _ run
  have stored := stores proper
  have second : after.stored.find? 1 = some 2 :=
    (stored.find? 1 2).2 (.inr (by simp [visited, History.finished]))
  have refused : obtain chain toString 3 0 (start 1) = some (.error unbuilt, start 0) := rfl
  -- The failing visit is the first one, whose history is known.
  obtain ⟨inner, cause, construction, same, absent⟩ := failing 3 0 (start 1) unbuilt (start 0) refused
  obtain ⟨rfl, -, -⟩ := construction.unique wanting
  exact ⟨after, run, proper, stored.entries, passes,
    names 2 _ _ passes rfl unbuilt (List.mem_cons_self ..), present after 1 2 second 0, start 0,
    refused, (absent (by simp [History.Proper])).1⟩

end Cache

end Stencil
