import ModuleAtlas.Completion.Error

/-!
# Completion providers

A provider answers prompts in some monad.  A chain asks its providers in turn,
each one several times, until one succeeds.
-/

namespace ModuleAtlas

/-- The answer to a prompt. -/
abbrev Answer := Except CompletionError String

/-- Somebody who completes prompts. -/
structure Provider (m : Type → Type) where
  service : String
  model : String
  complete : String → m Answer

/-- Providers that stand in for each other, in order. -/
structure Chain (m : Type → Type) where
  providers : List (Provider m)
  /-- How often a provider is asked again after a failure. -/
  retries : Nat

namespace Chain

variable {m : Type → Type} [Monad m]

/-- Ask a provider up to so many times, keeping the latest failure. -/
def insist (provider : Provider m) (prompt : String) :
    Nat → CompletionError → m Answer
  | 0, failure => return .error failure
  | attempts + 1, _ => do
    match ← provider.complete prompt with
    | .ok text => return .ok text
    | .error failure => insist provider prompt attempts failure

/-- Ask providers in turn, keeping the latest failure. -/
def completeFrom (attempts : Nat) (prompt : String) :
    List (Provider m) → CompletionError → m Answer
  | [], failure => return .error failure
  | provider :: rest, failure => do
    match ← insist provider prompt attempts failure with
    | .ok text => return .ok text
    | .error failure => completeFrom attempts prompt rest failure

/-- Complete a prompt with the first success of the chain, or the last
failure. -/
def complete (chain : Chain m) (prompt : String) : m Answer :=
  completeFrom (chain.retries + 1) prompt chain.providers .noProviders

/-- The chain as one provider, under the names of its first member. -/
def provider (chain : Chain m) : Provider m where
  service := (chain.providers.head?.map Provider.service).getD "none"
  model := (chain.providers.head?.map Provider.model).getD "none"
  complete := chain.complete

end Chain

end ModuleAtlas
