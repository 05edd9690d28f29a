import ModuleAtlas.Completion.Error
import ModuleAtlas.Listing
import ModuleAtlas.Module.Tree
import ModuleAtlas.Prompt
import ModuleAtlas.Reply

/-!
# Judging one set of candidates

A set of candidate components either fits the token budget or is shown to a
completion service.  What the service says is judged here: it divides the set
only when it names at least two groups with known components.
-/

namespace ModuleAtlas

/-- What holds for a whole clustering run. -/
structure ClusterRules where
  components : Keyed Component
  /-- The size of a text in tokens. -/
  count : String → Nat
  /-- The size up to which a set of components is not divided. -/
  budget : Nat
  /-- How much of a rejected reply is reported. -/
  excerptChars : Nat

/-- A set of candidates and the module that it belongs to; the empty path
stands for the whole repository. -/
structure Branch where
  path : List String
  candidates : List String
deriving DecidableEq, Repr

/-- What a service is asked. -/
structure Question where
  /-- The module to divide; none for the whole repository. -/
  moduleName : Option String
  /-- The candidates by file. -/
  listing : String
  /-- The tree built so far, unless it is empty. -/
  tree : Option String
deriving DecidableEq, Repr

/-- The text of a question. -/
def Question.prompt (question : Question) : String :=
  Prompt.render question.listing question.tree question.moduleName

/-- Why a reply was rejected. -/
inductive RejectionCause where
  | unmarked
  | malformed (cause : ReplyError)
deriving Inhabited

/-- A rejected reply with its beginning. -/
structure Rejection where
  cause : RejectionCause
  excerpt : String

/-- The wording of a rejection. -/
def Rejection.message (rejection : Rejection) : String :=
  match rejection.cause with
  | .unmarked =>
    "has no grouped components block: " ++ rejection.excerpt
  | .malformed cause =>
    "could not be parsed (" ++ cause.message ++ "): " ++ rejection.excerpt

/-- What an answer means for a set of candidates. -/
inductive Verdict where
  /-- The service gave no answer. -/
  | failed
  | rejected (rejection : Rejection)
  /-- The reply holds fewer than two usable groups. -/
  | degenerate
  /-- The set is divided into these modules. -/
  | divided (modules : List NewModule)

namespace ClusterRules

/-- The number of unknown ids in a list. -/
def unknownCount (rules : ClusterRules) (ids : List String) : Nat :=
  ids.countP fun id => !rules.components.contains id

/-- The listing of the known components among some ids. -/
def listing (rules : ClusterRules) (ids : List String) : Listing :=
  Listing.ofCandidates rules.components ids

/-- The number of known candidates of a branch. -/
def size (rules : ClusterRules) (branch : Branch) : Nat :=
  (rules.listing branch.candidates).ids.length

/-- Whether a set of candidates fits the budget. -/
def fits (rules : ClusterRules) (listing : Listing) : Bool :=
  rules.count listing.withCode ≤ rules.budget

/-- Groups that have a name. -/
def named (groups : List Group) : List Group :=
  groups.filter fun group => Text.trim group.name ≠ ""

/-- The module that a group describes; none without known components. -/
def module? (rules : ClusterRules) (group : Group) : Option NewModule :=
  let known := group.components.filter rules.components.contains
  if known.isEmpty then none
  else
    some {
      name := Text.trim group.name
      description := group.description
      components := .ofList known }

/-- The modules that groups describe. -/
def usable (rules : ClusterRules) (groups : List Group) : List NewModule :=
  (named groups).filterMap rules.module?

/-- The number of unknown ids in the groups that have a name. -/
def unknownInGroups (rules : ClusterRules) (groups : List Group) : Nat :=
  rules.unknownCount ((named groups).flatMap Group.components)

/-- The beginning of a reply. -/
def excerpt (rules : ClusterRules) (reply : String) : String :=
  String.ofList (reply.toList.take rules.excerptChars)

/-- Judge an answer; also counts the unknown ids in it. -/
def judge (rules : ClusterRules) :
    Except CompletionError String → Verdict × Nat
  | .error _ => (.failed, 0)
  | .ok reply =>
    match Reply.ofText reply with
    | .unmarked => (.rejected ⟨.unmarked, rules.excerpt reply⟩, 0)
    | .malformed cause =>
      (.rejected ⟨.malformed cause, rules.excerpt reply⟩, 0)
    | .proposed groups =>
      let modules := rules.usable groups
      let unknown := rules.unknownInGroups groups
      if modules.length ≤ 1 then (.degenerate, unknown)
      else (.divided modules, unknown)

/-- The branches of new modules that are smaller than the set they come from;
a module of the same size would only raise the same question again. -/
def pending (path : List String) (size : Nat) (modules : List NewModule) :
    List Branch :=
  (modules.filter fun added => added.components.size < size).map
    fun added => ⟨path ++ [added.name], added.components.names⟩

/-- The question for a set of candidates. -/
def question (branch : Branch) (listing : Listing) (tree : ModuleTree) :
    Question where
  moduleName := branch.path.getLast?
  listing := listing.summary
  tree := if tree.isEmpty then none else some tree.toText

end ClusterRules

end ModuleAtlas
