import Mathlib.Data.List.Forall2
import Mathlib.Data.List.Nodup
import ModuleAtlas.Completion.Provider
import ModuleAtlas.Failure

/-!
# Retries and stand-ins as one schedule

A chain asks its first provider several times, then the next one as often, and
so on.  That is one walk along a list in which each provider occurs so many
times in a row, each occurrence is asked once, and the first success ends the
walk.  Providers may remember what they were asked, so what comes of a prompt
depends on all calls before it; a chain whose providers keep a record of their
calls answers as the chain itself does, and shows which calls were made.
-/

namespace ModuleAtlas

namespace Chain

/-! ## One walk instead of two loops -/

section Walk

variable {m : Type → Type} [Monad m]

/-- Ask providers one after another, each of them once, keeping the latest
failure. -/
def askInTurn (prompt : String) :
    List (Provider m) → CompletionError → m Answer
  | [], failure => return .error failure
  | provider :: rest, _ => do
    match ← provider.complete prompt with
    | .ok text => return .ok text
    | .error failure => askInTurn prompt rest failure

theorem insist_eq_askInTurn (provider : Provider m) (prompt : String)
    (attempts : Nat) (failure : CompletionError) :
    insist provider prompt attempts failure =
      askInTurn prompt (List.replicate attempts provider) failure := by
  induction attempts generalizing failure with
  | zero => rfl
  | succ attempts step =>
    rw [List.replicate_succ, insist, askInTurn]
    refine congrArg (provider.complete prompt >>= ·) (funext fun answer => ?_)
    cases answer with
    | ok text => rfl
    | error failure => exact step failure

variable [LawfulMonad m]

theorem askInTurn_append (prompt : String) (front back : List (Provider m))
    (failure : CompletionError) :
    askInTurn prompt (front ++ back) failure =
      askInTurn prompt front failure >>= fun
        | .ok text => return .ok text
        | .error failure => askInTurn prompt back failure := by
  induction front generalizing failure with
  | nil => simp [askInTurn]
  | cons provider rest step =>
    rw [List.cons_append, askInTurn, askInTurn, bind_assoc]
    refine congrArg (provider.complete prompt >>= ·) (funext fun answer => ?_)
    cases answer with
    | ok text => simp
    | error failure => exact step failure

theorem completeFrom_eq_askInTurn (attempts : Nat) (prompt : String)
    (providers : List (Provider m)) (failure : CompletionError) :
    completeFrom attempts prompt providers failure =
      askInTurn prompt (providers.flatMap (List.replicate attempts))
        failure := by
  induction providers generalizing failure with
  | nil => rfl
  | cons provider rest step =>
    rw [List.flatMap_cons, askInTurn_append, ← insist_eq_askInTurn,
      completeFrom]
    refine congrArg (insist provider prompt attempts failure >>= ·)
      (funext fun answer => ?_)
    cases answer with
    | ok text => rfl
    | error failure => exact step failure

/-- A chain goes along the list in which each of its providers occurs once,
and once more for each retry. -/
theorem complete_eq_askInTurn (chain : Chain m) (prompt : String) :
    chain.complete prompt =
      askInTurn prompt
        (chain.providers.flatMap (List.replicate (chain.retries + 1)))
        .noProviders :=
  completeFrom_eq_askInTurn _ _ _ _

end Walk

/-! ## What comes of a walk -/

/-- A walk along a schedule: failures up to the first success, or to the end of
the schedule.  The failure at hand is answered when nobody is left. -/
inductive Settles {α : Type} :
    List α → CompletionError → List (α × Answer) → Answer → Prop where
  | exhausted (failure : CompletionError) :
    Settles [] failure [] (.error failure)
  | succeeded (who : α) (rest : List α) (failure : CompletionError)
    (text : String) :
    Settles (who :: rest) failure [(who, .ok text)] (.ok text)
  | failed {who : α} {rest : List α} {next : CompletionError}
    {made : List (α × Answer)} {answer : Answer} (failure : CompletionError)
    (onward : Settles rest next made answer) :
    Settles (who :: rest) failure ((who, .error next) :: made) answer

namespace Settles

variable {α : Type} {schedule : List α} {failure : CompletionError}
  {made : List (α × Answer)} {answer : Answer}

theorem asked_isPrefix (settles : Settles schedule failure made answer) :
    made.map Prod.fst <+: schedule := by
  induction settles with
  | exhausted => exact List.nil_prefix
  | succeeded who rest => exact ⟨rest, rfl⟩
  | failed failure onward step =>
    exact List.cons_prefix_cons.2 ⟨rfl, step⟩

/-- The last call decides; without calls it is the failure at hand. -/
theorem answer_eq (settles : Settles schedule failure made answer) :
    answer = (made.getLast?.map Prod.snd).getD (.error failure) := by
  induction settles with
  | exhausted => rfl
  | succeeded => rfl
  | @failed who rest next made answer failure onward step =>
    rw [step, List.getLast?_cons]
    cases made.getLast? <;> rfl

/-- A walk along a schedule with someone in it ends with a call. -/
theorem ended (settles : Settles schedule failure made answer)
    (manned : schedule ≠ []) :
    ∃ call, made.getLast? = some call ∧ answer = call.2 := by
  have decided := settles.answer_eq
  cases final : made.getLast? with
  | none =>
    rw [List.getLast?_eq_none_iff.1 final] at settles
    cases settles
    exact absurd rfl manned
  | some call =>
    rw [final] at decided
    exact ⟨call, rfl, decided⟩

theorem error_of_mem_dropLast
    (settles : Settles schedule failure made answer) {call : α × Answer}
    (member : call ∈ made.dropLast) : ∃ reason, call.2 = .error reason := by
  induction settles with
  | exhausted => exact absurd member List.not_mem_nil
  | succeeded => exact absurd member List.not_mem_nil
  | @failed who rest next made answer failure onward step =>
    cases made with
    | nil => exact absurd member List.not_mem_nil
    | cons second others =>
      rw [List.dropLast_cons_cons, List.mem_cons] at member
      rcases member with rfl | member
      · exact ⟨next, rfl⟩
      · exact step member

/-- Without a success the whole schedule is done. -/
theorem asked_eq_of_error (settles : Settles schedule failure made answer)
    {reason : CompletionError} (fails : answer = .error reason) :
    made.map Prod.fst = schedule := by
  induction settles with
  | exhausted => rfl
  | succeeded => exact nomatch fails
  | failed failure onward step => exact congrArg (_ :: ·) (step fails)

end Settles

end Chain

/-! ## Recorded calls -/

/-- A call of a provider: its place in the chain, what it was asked, and what
it answered. -/
structure ProviderCall where
  place : Nat
  prompt : String
  answer : Answer

variable {σ : Type}

/-- A provider that keeps a record of its calls. -/
def Provider.recorded (place : Nat) (provider : Provider (StateM σ)) :
    Provider (StateM (σ × List ProviderCall)) where
  service := provider.service
  model := provider.model
  complete prompt := do
    let (state, calls) ← get
    let (answer, later) := Id.run ((provider.complete prompt).run state)
    set (later, calls ++ [⟨place, prompt, answer⟩])
    return answer

namespace Chain

/-- The chain with a record of all calls that its providers get. -/
def recorded (chain : Chain (StateM σ)) :
    Chain (StateM (σ × List ProviderCall)) where
  providers := chain.providers.zipIdx.map fun (provider, place) =>
    provider.recorded place
  retries := chain.retries

/-- The places of the providers in the order in which they are asked. -/
def schedule (chain : Chain (StateM σ)) : List Nat :=
  (List.range chain.providers.length).flatMap
    (List.replicate (chain.retries + 1))

/-- How a chain comes to its answer to a prompt. -/
structure Settled (chain : Chain (StateM σ)) (prompt : String)
    (calls : List ProviderCall) (answer : Answer) : Prop where
  scheduled : calls.map ProviderCall.place <+: chain.schedule
  unchanged : ∀ call ∈ calls, call.prompt = prompt
  /-- All calls but the last one fail. -/
  failed : ∀ call ∈ calls.dropLast, ∃ reason, call.answer = .error reason
  answered : chain.providers ≠ [] →
    ∃ call, calls.getLast? = some call ∧ answer = call.answer
  /-- Without a success, every provider gets all of its calls. -/
  exhausted : ∀ reason, answer = .error reason →
    calls.map ProviderCall.place = chain.schedule ∧
    ∀ place < chain.providers.length,
      calls.countP (fun call => call.place = place) = chain.retries + 1
  alone : chain.providers = [] → calls = [] ∧
    ∃ reason, answer = .error reason ∧
      (Failure.completion reason).message? =
        some "Oracle request failed: no completion providers configured"

/-- A recorded call changes the state as the call does. -/
theorem run_recorded {provider : Provider (StateM σ)} {prompt : String}
    {state later : σ} {answer : Answer}
    (asked : (provider.complete prompt).run state = (answer, later))
    (place : Nat) (calls : List ProviderCall) :
    ((provider.recorded place).complete prompt).run (state, calls) =
      (answer, later, calls ++ [⟨place, prompt, answer⟩]) := by
  rw [Provider.recorded]
  simp only [StateT.run_bind, StateT.run_get, pure_bind]
  rw [asked]
  rfl

section Run

variable {τ : Type} {provider : Provider (StateM τ)} {prompt text : String}
  {rest : List (Provider (StateM τ))} {failure reason : CompletionError}
  {state later : τ}

theorem run_askInTurn_of_ok
    (asked : (provider.complete prompt).run state = (.ok text, later)) :
    (askInTurn prompt (provider :: rest) failure).run state =
      (.ok text, later) := by
  rw [askInTurn, StateT.run_bind, asked]
  rfl

theorem run_askInTurn_of_error
    (asked : (provider.complete prompt).run state = (.error reason, later)) :
    (askInTurn prompt (provider :: rest) failure).run state =
      (askInTurn prompt rest reason).run later := by
  rw [askInTurn, StateT.run_bind, asked]
  rfl

end Run

/-- A walk of recorded providers is the walk of the providers, with a record of
its calls. -/
theorem askInTurn_recorded (prompt : String)
    (members : List (Provider (StateM σ) × Nat)) (failure : CompletionError)
    (state : σ) (calls : List ProviderCall) :
    ∃ made answer later,
      (askInTurn prompt (members.map Prod.fst) failure).run state =
        (answer, later) ∧
      (askInTurn prompt (members.map fun member : _ × Nat =>
          Provider.recorded member.2 member.1) failure).run (state, calls) =
        (answer, later, calls ++
          made.map fun call => ⟨call.1, prompt, call.2⟩) ∧
      Settles (members.map Prod.snd) failure made answer := by
  induction members generalizing failure state calls with
  | nil =>
    refine ⟨[], .error failure, state, rfl, ?_, .exhausted _⟩
    rw [List.map_nil, List.map_nil, List.append_nil]
    rfl
  | cons member rest step =>
    rcases member with ⟨provider, place⟩
    rcases asked : (provider.complete prompt).run state with
      ⟨reason | text, inner⟩
    · rcases step reason inner
          (calls ++ [⟨place, prompt, .error reason⟩]) with
        ⟨made, answer, later, walked, noted, settles⟩
      refine ⟨(place, .error reason) :: made, answer, later,
        (run_askInTurn_of_error asked).trans walked, ?_,
        .failed failure settles⟩
      rw [List.map_cons,
        run_askInTurn_of_error (run_recorded asked place calls), noted]
      simp
    · refine ⟨[(place, .ok text)], .ok text, inner, run_askInTurn_of_ok asked,
        ?_, .succeeded place _ failure text⟩
      exact run_askInTurn_of_ok (run_recorded asked place calls)

/-- The providers of a chain with their places, in the order in which they are
asked. -/
def members (chain : Chain (StateM σ)) :
    List (Provider (StateM σ) × Nat) :=
  chain.providers.zipIdx.flatMap (List.replicate (chain.retries + 1))

theorem map_fst_members (chain : Chain (StateM σ)) :
    chain.members.map Prod.fst =
      chain.providers.flatMap (List.replicate (chain.retries + 1)) := by
  have split : (chain.providers.zipIdx.map Prod.fst) = chain.providers :=
    List.zipIdx_map_fst 0 chain.providers
  rw [members, List.map_flatMap]
  conv_rhs => rw [← split, List.flatMap_map]
  simp

theorem map_snd_members (chain : Chain (StateM σ)) :
    chain.members.map Prod.snd = chain.schedule := by
  rw [schedule, List.range_eq_range', ← List.zipIdx_map_snd, members,
    List.map_flatMap, List.flatMap_map]
  simp

theorem map_recorded_members (chain : Chain (StateM σ)) :
    chain.recorded.providers.flatMap
        (List.replicate (chain.recorded.retries + 1)) =
      chain.members.map fun member => member.1.recorded member.2 := by
  rw [recorded, members, List.map_flatMap, List.flatMap_map]
  simp

theorem count_flatMap_replicate (times place : Nat) (places : List Nat) :
    (places.flatMap (List.replicate times)).count place =
      places.count place * times := by
  induction places with
  | nil => simp
  | cons first rest step =>
    rw [List.flatMap_cons, List.count_append, step, List.count_cons,
      List.count_replicate, Nat.add_mul, Nat.add_comm]
    by_cases same : first = place <;> simp [same]

/-- A provider stands in the schedule once, and once more for each retry. -/
theorem count_schedule (chain : Chain (StateM σ)) {place : Nat}
    (member : place < chain.providers.length) :
    chain.schedule.count place = chain.retries + 1 := by
  rw [schedule, count_flatMap_replicate,
    List.count_eq_one_of_mem List.nodup_range (List.mem_range.2 member),
    Nat.one_mul]

/-- The calls that settle a walk along a chain settle the prompt. -/
theorem settled_of_settles {chain : Chain (StateM σ)} {prompt : String}
    {made : List (Nat × Answer)} {answer : Answer}
    (settles : Settles chain.schedule .noProviders made answer) :
    chain.Settled prompt (made.map fun call => ⟨call.1, prompt, call.2⟩)
      answer := by
  have places : (made.map fun call : Nat × Answer =>
      ProviderCall.mk call.1 prompt call.2).map ProviderCall.place =
        made.map Prod.fst := by
    simp
  refine ⟨?_, ?_, ?_, ?_, ?_, ?_⟩
  · rw [places]
    exact settles.asked_isPrefix
  · intro call member
    rcases List.mem_map.1 member with ⟨_, _, rfl⟩
    rfl
  · intro call member
    rw [← List.map_dropLast] at member
    rcases List.mem_map.1 member with ⟨_, inside, rfl⟩
    exact settles.error_of_mem_dropLast inside
  · intro manned
    have asked : chain.schedule ≠ [] := by
      rcases List.exists_cons_of_ne_nil manned with ⟨first, rest, split⟩
      simp [schedule, split, List.range_succ_eq_map, List.replicate_succ]
    rcases settles.ended asked with ⟨call, final, decided⟩
    exact ⟨⟨call.1, prompt, call.2⟩, by rw [List.getLast?_map, final]; rfl,
      decided⟩
  · intro reason fails
    -- The calls are the whole schedule, so they are counted there.
    have whole := settles.asked_eq_of_error fails
    refine ⟨places.trans whole, fun place member => ?_⟩
    rw [← chain.count_schedule member, ← whole, List.count, List.countP_map,
      List.countP_map]
    rfl
  · intro nobody
    have idle : chain.schedule = [] := by simp [schedule, nobody]
    rw [idle] at settles
    cases settles
    exact ⟨rfl, .noProviders, rfl, by decide⟩

theorem run_mapM_cons {τ α β : Type} {action : α → StateM τ β} {first : α}
    {rest : List α} {value : β} {values : List β} {state inner later : τ}
    (head : (action first).run state = (value, inner))
    (tail : (rest.mapM action).run inner = (values, later)) :
    ((first :: rest).mapM action).run state = (value :: values, later) := by
  rw [List.mapM_cons, StateT.run_bind, head]
  change ((rest.mapM action >>= fun values => pure (value :: values)).run
    inner) = _
  rw [StateT.run_bind, tail]
  rfl

/-- A chain with a record of its calls answers as the chain does, and shows the
calls that lead to the answer. -/
theorem complete_recorded (chain : Chain (StateM σ)) (prompt : String)
    (state : σ) (calls : List ProviderCall) :
    ∃ made answer later,
      (chain.complete prompt).run state = (answer, later) ∧
      (chain.recorded.complete prompt).run (state, calls) =
        (answer, later, calls ++ made) ∧
      chain.Settled prompt made answer := by
  rcases askInTurn_recorded prompt chain.members .noProviders state calls with
    ⟨made, answer, later, walked, noted, settles⟩
  rw [map_fst_members, ← complete_eq_askInTurn] at walked
  rw [← map_recorded_members, ← complete_eq_askInTurn] at noted
  rw [map_snd_members] at settles
  exact ⟨_, answer, later, walked, noted, settled_of_settles settles⟩

/-- Prompts are settled one after another, each by calls in a prefix of the
schedule of the chain. -/
theorem calls_follow_schedule (chain : Chain (StateM σ))
    (prompts : List String) (start : σ) :
    ∃ (turns : List (List ProviderCall × Answer)) (finish : σ),
      (prompts.mapM chain.complete).run start =
        (turns.map Prod.snd, finish) ∧
      (prompts.mapM chain.recorded.complete).run (start, []) =
        (turns.map Prod.snd, finish, turns.flatMap Prod.fst) ∧
      List.Forall₂ (fun prompt turn => chain.Settled prompt turn.1 turn.2)
        prompts turns := by
  -- Later prompts start with the calls of earlier ones on record.
  suffices further : ∀ calls, ∃ turns finish,
      (prompts.mapM chain.complete).run start =
        (turns.map Prod.snd, finish) ∧
      (prompts.mapM chain.recorded.complete).run (start, calls) =
        (turns.map Prod.snd, finish, calls ++ turns.flatMap Prod.fst) ∧
      List.Forall₂ (fun prompt turn => chain.Settled prompt turn.1 turn.2)
        prompts turns from further []
  induction prompts generalizing start with
  | nil =>
    intro calls
    refine ⟨[], start, rfl, ?_, .nil⟩
    rw [List.flatMap_nil, List.append_nil]
    rfl
  | cons prompt rest step =>
    intro calls
    rcases chain.complete_recorded prompt start calls with
      ⟨made, answer, later, asked, noted, settled⟩
    rcases step later (calls ++ made) with
      ⟨turns, finish, others, further, follow⟩
    refine ⟨(made, answer) :: turns, finish, run_mapM_cons asked others, ?_,
      .cons settled follow⟩
    rw [run_mapM_cons noted further, List.flatMap_cons, List.append_assoc]
    rfl

end Chain

end ModuleAtlas
