import Stencil.Cache

/-! Runs over a cache, with their histories: each request holds the requests that the recipe of its
key made before it ended. Runs are what following a program comes to, at some depth and at every
greater one. -/

namespace Stencil

namespace Cache

/-- How a request for a key ended: its value was stored before, or was built, or the recipe failed for
a cause and the request with a failure. -/
inductive Ending (α : Type) where
  | recalled (value : α)
  | built (value : α)
  | failed (cause failure : Failure)

/-- The requests of a program in order, each of them with those that were made while the value of its
key was under construction. -/
inductive History (κ α : Type) where
  | nil
  | request (key : κ) (inner : History κ α) (ending : Ending α) (rest : History κ α)

variable {σ κ α : Type}

section Runs

variable [DecidableEq κ] (recipe : κ → Recipe σ κ α) (nameOf : κ → String)

/-- What a program comes to on a cache: its history, its answer, and the cache that it leaves. -/
inductive Run : Recipe σ κ α → Cache σ κ α → History κ α → Except Failure α → Cache σ κ α →
    Prop where
  | done (value : α) (cache : Cache σ κ α) : Run (.done value) cache .nil (.ok value) cache
  | fail (failure : Failure) (cache : Cache σ κ α) :
      Run (.fail failure) cache .nil (.error failure) cache
  | inspect {next : σ → Recipe σ κ α} {cache after : Cache σ κ α} {history : History κ α}
      {answer : Except Failure α} (onward : Run (next cache.state) cache history answer after) :
      Run (.inspect next) cache history answer after
  | update {state : σ} {next : Recipe σ κ α} {cache after : Cache σ κ α} {history : History κ α}
      {answer : Except Failure α} (onward : Run next { cache with state } history answer after) :
      Run (.update state next) cache history answer after
  /-- A value that is stored is the answer, and no recipe is asked. -/
  | recalled {key : κ} {next : Except Failure α → Recipe σ κ α} {value : α}
      {cache after : Cache σ κ α} {rest : History κ α} {answer : Except Failure α}
      (present : cache.stored.find? key = some value)
      (onward : Run (next (.ok value)) cache rest answer after) :
      Run (.request key next) cache (.request key .nil (.recalled value) rest) answer after
  /-- A value that the recipe of the key finishes is stored, and is the answer. -/
  | built {key : κ} {next : Except Failure α → Recipe σ κ α} {value : α}
      {cache between after : Cache σ κ α} {inner rest : History κ α} {answer : Except Failure α}
      (absent : cache.stored.find? key = none)
      (construction : Run (recipe key) cache inner (.ok value) between)
      (onward : Run (next (.ok value)) { between with stored := between.stored.put key value }
        rest answer after) :
      Run (.request key next) cache (.request key inner (.built value) rest) answer after
  /-- If the recipe of the key fails, the request does, and nothing is stored for the key. -/
  | failed {key : κ} {next : Except Failure α → Recipe σ κ α} {cause : Failure}
      {cache between after : Cache σ κ α} {inner rest : History κ α} {answer : Except Failure α}
      (absent : cache.stored.find? key = none)
      (construction : Run (recipe key) cache inner (.error cause) between)
      (onward : Run (next (.error (constructionFailure (nameOf key) cause))) between
        rest answer after) :
      Run (.request key next) cache
        (.request key inner (.failed cause (constructionFailure (nameOf key) cause)) rest) answer
        after

/-- What a single request comes to, with the history of the recipe of its key. -/
inductive Answers (key : κ) (cache : Cache σ κ α) : History κ α → Ending α → Except Failure α →
    Cache σ κ α → Prop where
  | recalled {value : α} (present : cache.stored.find? key = some value) :
      Answers key cache .nil (.recalled value) (.ok value) cache
  | built {value : α} {inner : History κ α} {between : Cache σ κ α}
      (absent : cache.stored.find? key = none)
      (construction : Run recipe nameOf (recipe key) cache inner (.ok value) between) :
      Answers key cache inner (.built value) (.ok value)
        { between with stored := between.stored.put key value }
  | failed {cause : Failure} {inner : History κ α} {between : Cache σ κ α}
      (absent : cache.stored.find? key = none)
      (construction : Run recipe nameOf (recipe key) cache inner (.error cause) between) :
      Answers key cache inner (.failed cause (constructionFailure (nameOf key) cause))
        (.error (constructionFailure (nameOf key) cause)) between

end Runs

variable [DecidableEq κ] {recipe : κ → Recipe σ κ α} {nameOf : κ → String}

/-- A program that makes a request goes on from what the request comes to. -/
theorem Answers.onward {key : κ} {next : Except Failure α → Recipe σ κ α}
    {cache between after : Cache σ κ α} {inner rest : History κ α} {ending : Ending α}
    {result answer : Except Failure α}
    (answers : Answers recipe nameOf key cache inner ending result between)
    (run : Run recipe nameOf (next result) between rest answer after) :
    Run recipe nameOf (.request key next) cache (.request key inner ending rest) answer after := by
  -- A request is a step of the run in each of the three ways in which it is answered.
  cases answers with
  | recalled present => exact .recalled present run
  | built absent construction => exact .built absent construction run
  | failed absent construction => exact .failed absent construction run

/-- A key that is present is answered by its value, at any depth. -/
theorem obtain_present {key : κ} {value : α} {cache : Cache σ κ α}
    (present : cache.stored.find? key = some value) (depth : Nat) :
    obtain recipe nameOf depth key cache = some (.ok value, cache) := by
  rw [obtain.eq_def]
  simp only [present]

/-- A key that is absent is answered by what its recipe comes to at a smaller depth. -/
theorem obtain_absent {key : κ} {cache : Cache σ κ α} (absent : cache.stored.find? key = none)
    (depth : Nat) :
    obtain recipe nameOf (depth + 1) key cache =
      match follow (obtain recipe nameOf depth) (recipe key) cache with
      | none => none
      | some (.ok value, after) =>
        some (.ok value, { after with stored := after.stored.put key value })
      | some (.error failure, after) =>
        some (.error (constructionFailure (nameOf key) failure), after) := by
  -- Once the key is known to be absent, both sides look at the recipe.
  rw [obtain.eq_def]
  cases followed : follow (obtain recipe nameOf depth) (recipe key) cache with
  | none => simp only [absent, followed]
  | some pair =>
    obtain ⟨answer, after⟩ := pair
    cases answer <;> simp only [absent, followed]

/-- Following a program is a run of it, if every request is answered as requests are. -/
theorem exists_run_of_follow
    {obtain : κ → Cache σ κ α → Option (Except Failure α × Cache σ κ α)}
    (each : ∀ key cache result after, obtain key cache = some (result, after) →
      ∃ inner ending, Answers recipe nameOf key cache inner ending result after)
    {program : Recipe σ κ α} {cache after : Cache σ κ α} {answer : Except Failure α}
    (followed : follow obtain program cache = some (answer, after)) :
    ∃ history, Run recipe nameOf program cache history answer after := by
  -- The program is followed instruction by instruction.
  induction program generalizing cache with
  | done value =>
    cases followed
    exact ⟨_, .done value _⟩
  | fail failure =>
    cases followed
    exact ⟨_, .fail failure _⟩
  | inspect next ih =>
    obtain ⟨history, run⟩ := ih cache.state followed
    exact ⟨history, .inspect run⟩
  -- Changing the state takes part in no request.
  | update state next ih =>
    obtain ⟨history, run⟩ := ih followed
    exact ⟨history, .update run⟩
  | request key next ih =>
    -- The request has an answer, as the program has one.
    rw [follow] at followed
    cases result : obtain key cache with
    | none => simp [result] at followed
    | some pair =>
      obtain ⟨answered, between⟩ := pair
      simp only [result] at followed
      obtain ⟨inner, ending, answers⟩ := each key cache answered between result
      obtain ⟨rest, run⟩ := ih answered followed
      exact ⟨_, answers.onward run⟩

/-- Whatever a request is answered, it is answered as requests are. -/
theorem exists_answers {depth : Nat} {key : κ} {cache after : Cache σ κ α}
    {result : Except Failure α}
    (obtained : obtain recipe nameOf depth key cache = some (result, after)) :
    ∃ inner ending, Answers recipe nameOf key cache inner ending result after := by
  -- The recipe of the key asks for others at a smaller depth.
  induction depth generalizing key cache result after with
  | zero =>
    cases found : cache.stored.find? key with
    | some value =>
      -- A stored value is found at every depth.
      rw [obtain_present found] at obtained
      cases obtained
      exact ⟨_, _, .recalled found⟩
    | none =>
      -- Without any depth left, an absent key has no answer.
      rw [obtain] at obtained
      simp [found] at obtained
  | succ depth ih =>
    cases found : cache.stored.find? key with
    | some value =>
      rw [obtain_present found] at obtained
      cases obtained
      exact ⟨_, _, .recalled found⟩
    | none =>
      rw [obtain_absent found] at obtained
      cases followed : follow (obtain recipe nameOf depth) (recipe key) cache with
      | none => simp [followed] at obtained
      | some pair =>
        obtain ⟨built, between⟩ := pair
        obtain ⟨inner, run⟩ := exists_run_of_follow (fun _ _ _ _ => ih) followed
        -- The value is stored, or the failure is shown as one of construction.
        cases built with
        | ok value =>
          simp only [followed] at obtained
          cases obtained
          exact ⟨inner, _, .built found run⟩
        | error cause =>
          simp only [followed] at obtained
          cases obtained
          exact ⟨inner, _, .failed found run⟩

/-- What a run comes to is what following its program comes to, from some depth on. -/
theorem Run.followed {program : Recipe σ κ α} {cache after : Cache σ κ α} {history : History κ α}
    {answer : Except Failure α} (run : Run recipe nameOf program cache history answer after) :
    ∃ depth, ∀ more, depth ≤ more →
      follow (obtain recipe nameOf more) program cache = some (answer, after) := by
  -- A request goes one level deeper than the recipe of its key, and the rest is on its own level.
  induction run with
  | done value cache => exact ⟨0, fun _ _ => rfl⟩
  | fail failure cache => exact ⟨0, fun _ _ => rfl⟩
  | inspect onward ih => exact ih
  | update onward ih => exact ih
  | recalled present onward ih =>
    obtain ⟨depth, further⟩ := ih
    refine ⟨depth, fun more enough => ?_⟩
    rw [follow, obtain_present present]
    exact further more enough
  | built absent construction onward inside ih =>
    -- The recipe needs one level less than the request, so the larger of the two depths will do.
    obtain ⟨below, deeper⟩ := inside
    obtain ⟨depth, further⟩ := ih
    refine ⟨max (below + 1) depth, fun more enough => ?_⟩
    obtain ⟨less, rfl⟩ : ∃ less, more = less + 1 := ⟨more - 1, by omega⟩
    rw [follow, obtain_absent absent, deeper less (by omega)]
    exact further (less + 1) (by omega)
  | failed absent construction onward inside ih =>
    -- A recipe that fails is followed as deep as one that succeeds.
    obtain ⟨below, deeper⟩ := inside
    obtain ⟨depth, further⟩ := ih
    refine ⟨max (below + 1) depth, fun more enough => ?_⟩
    obtain ⟨less, rfl⟩ : ∃ less, more = less + 1 := ⟨more - 1, by omega⟩
    rw [follow, obtain_absent absent, deeper less (by omega)]
    exact further (less + 1) (by omega)

/-- Runs are what following a program comes to at some depth. -/
theorem exists_follow_iff (program : Recipe σ κ α) (cache after : Cache σ κ α)
    (answer : Except Failure α) :
    (∃ depth, follow (obtain recipe nameOf depth) program cache = some (answer, after)) ↔
      ∃ history, Run recipe nameOf program cache history answer after := by
  constructor
  · rintro ⟨depth, followed⟩
    -- Every request that was answered is part of the run.
    exact exists_run_of_follow (fun _ _ _ _ => exists_answers) followed
  · rintro ⟨history, run⟩
    -- A run needs only some depth, and any greater one will do as well.
    obtain ⟨depth, further⟩ := run.followed
    exact ⟨depth, further depth (Nat.le_refl depth)⟩

/-- A program has one run on a cache, with one history. -/
theorem Run.unique {program : Recipe σ κ α} {cache after after' : Cache σ κ α}
    {history history' : History κ α} {answer answer' : Except Failure α}
    (run : Run recipe nameOf program cache history answer after)
    (run' : Run recipe nameOf program cache history' answer' after') :
    history = history' ∧ answer = answer' ∧ after = after' := by
  -- A key is present or absent, and the recipe of an absent one has come to one end.
  induction run generalizing history' answer' after' with
  | done value cache =>
    cases run'
    exact ⟨rfl, rfl, rfl⟩
  | fail failure cache =>
    cases run'
    exact ⟨rfl, rfl, rfl⟩
  | inspect onward ih =>
    cases run' with
    | inspect onward' => exact ih onward'
  | update onward ih =>
    cases run' with
    | update onward' => exact ih onward'
  | recalled present onward ih =>
    cases run' with
    | recalled present' onward' =>
      -- The stored value is the same for both.
      cases present.symm.trans present'
      obtain ⟨rfl, same⟩ := ih onward'
      exact ⟨rfl, same⟩
    | built absent' => cases present.symm.trans absent'
    | failed absent' => cases present.symm.trans absent'
  | built absent construction onward inside ih =>
    cases run' with
    | recalled present' => cases absent.symm.trans present'
    | built absent' construction' onward' =>
      -- Both have followed the recipe to the same end, and go on from there.
      obtain ⟨rfl, answered, rfl⟩ := inside construction'
      cases answered
      obtain ⟨rfl, same⟩ := ih onward'
      exact ⟨rfl, same⟩
    | failed absent' construction' =>
      -- The recipe cannot end both with a value and with a failure.
      obtain ⟨-, answered, -⟩ := inside construction'
      cases answered
  | failed absent construction onward inside ih =>
    cases run' with
    | recalled present' => cases absent.symm.trans present'
    | built absent' construction' =>
      obtain ⟨-, answered, -⟩ := inside construction'
      cases answered
    | failed absent' construction' onward' =>
      -- A recipe that fails does so in both.
      obtain ⟨rfl, answered, rfl⟩ := inside construction'
      cases answered
      obtain ⟨rfl, same⟩ := ih onward'
      exact ⟨rfl, same⟩

end Cache

end Stencil
