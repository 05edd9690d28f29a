import Mathlib.Data.List.TakeWhile
import ModuleAtlas.Completion.Service
import ModuleAtlas.Proofs.Completion.Schedule

/-!
# What a service is asked, and what counts as its answer

The configured service is asked for one model several times and then, when
another model stands in for it, for that model as often.  Each request goes to
one URL and carries its model and the prompt.  The first answer of success that
holds a text where the message of its first choice stands ends the requests; of
an answer that does not, the failure tells what was wrong with it.

The library that delivers the answers also words them.  All that is asked of its
words is documented of it.
-/

namespace ModuleAtlas

/-! ## The words of the library -/

/-- An answer that does not say in which characters its body is written. -/
def HttpResponse.NamesNoCharset (response : HttpResponse) : Prop :=
  ∀ kind, response.contentType = some kind →
    ¬ "charset".toList <:+: kind.toList.map Char.toLower

/-- What is documented of a library: a status shows its number and a name, and
a body that spells a text shows this text, without the mark in front of it, if
the answer names no other characters. -/
structure HttpLibrary.Documented (library : HttpLibrary) : Prop where
  statusText (status : Nat) :
    ∃ name, library.statusText status = toString status ++ " " ++ name
  bodyText {response : HttpResponse} {text : String} :
    response.NamesNoCharset → response.body.text? = some text →
      library.bodyText response = Text.withoutMark text

theorem HttpLibrary.documented_standard : standard.Documented where
  statusText _ := ⟨_, rfl⟩
  bodyText {response text} _ spelled := by
    have decoded : Utf8.decode response.body.bytes = text := by
      rw [HttpBody.text?] at spelled
      simp only [Utf8.decode, spelled]
    exact congrArg Text.withoutMark decoded

theorem HttpBody.text?_coe (text : String) :
    (text : HttpBody).text? = some text :=
  dif_pos text.isValidUTF8

namespace Http

/-! ## Answers that count -/

/-- A text that stands in a document as the message of its first choice. -/
def IsMessage (document : Json) (text : String) : Prop :=
  ∃ fields choice others message,
    document = .record fields ∧
    lookupRow "choices" fields = some (.list (.record choice :: others)) ∧
    lookupRow "message" choice = some (.record message) ∧
    lookupRow "content" message = some (.text text)

theorem field?_eq_some {name : String} {document value : Json} :
    field? name document = some value ↔
      ∃ fields, document = .record fields ∧
        lookupRow name fields = some value := by
  cases document <;> simp [field?]

theorem content?_eq_some {document : Json} {text : String} :
    content? document = some text ↔ IsMessage document text := by
  constructor
  · intro answered
    rcases Option.bind_eq_some_iff.1 answered with ⟨choices, given, chosen⟩
    dsimp only at chosen
    split at chosen
    · next first others =>
      rw [Option.bind_eq_bind, Option.bind_some] at chosen
      rcases Option.bind_eq_some_iff.1 chosen with ⟨message, told, reached⟩
      rcases Option.bind_eq_some_iff.1 reached with ⟨content, kept, same⟩
      split at same
      · obtain rfl := Option.some.inj same
        rcases field?_eq_some.1 given with ⟨fields, rfl, given⟩
        rcases field?_eq_some.1 told with ⟨choice, rfl, told⟩
        rcases field?_eq_some.1 kept with ⟨inner, rfl, kept⟩
        exact ⟨fields, choice, others, inner, rfl, given, told, kept⟩
      · exact nomatch same
    · exact nomatch chosen
  · rintro ⟨fields, choice, others, message, rfl, chosen, told, kept⟩
    simp [content?, field?, chosen, told, kept]

/-- A status of success. -/
def IsSuccess (response : HttpResponse) : Prop :=
  200 ≤ response.status ∧ response.status < 300

/-- An answer of success whose body is a document with a message. -/
def Tells (response : HttpResponse) (text : String) : Prop :=
  IsSuccess response ∧
    ∃ document, response.body.document? = some document ∧
      IsMessage document text

/-- The wording of a failure tells which model gave an answer, and what kept the
answer from being taken. -/
structure Blames (library : HttpLibrary) (model : String)
    (response : HttpResponse) (failure : CompletionError) : Prop where
  status : ¬ IsSuccess response →
    (Failure.completion failure).message? =
      some ("Oracle request failed: " ++ (model ++ " returned "
        ++ library.statusText response.status ++ ": "
        ++ library.bodyText response))
  plain {text : String} : ¬ IsSuccess response → response.NamesNoCharset →
    response.body.text? = some text →
    ∃ name, (Failure.completion failure).message? =
      some ("Oracle request failed: " ++ (model ++ " returned "
        ++ (toString response.status ++ " " ++ name) ++ ": "
        ++ Text.withoutMark text))
  unreadable : IsSuccess response → response.body.document? = none →
    (Failure.completion failure).message? =
      some ("Oracle request failed: " ++ ("Failed to parse " ++ model
        ++ " response: " ++ library.decodeFailure response))
  speechless : IsSuccess response → response.body.document?.isSome = true →
    (Failure.completion failure).message? =
      some ("Oracle request failed: " ++ (model
        ++ " response has no message content"))

section Interpret

variable {library : HttpLibrary} {model text : String}
  {response : HttpResponse} {document : Json}

theorem isSuccess_iff : isSuccess response.status = true ↔ IsSuccess response := by
  simp [isSuccess, IsSuccess]

theorem interpret_of_refused (refused : ¬ IsSuccess response) :
    interpret library model response =
      .error (.refused model (library.statusText response.status)
        (library.bodyText response)) := by
  have status : isSuccess response.status = false :=
    Bool.eq_false_iff.2 (mt isSuccess_iff.1 refused)
  rw [interpret, status]
  rfl

theorem interpret_of_unreadable (success : IsSuccess response)
    (unreadable : response.body.document? = none) :
    interpret library model response =
      .error (.undecodable model (library.decodeFailure response)) := by
  rw [interpret, isSuccess_iff.2 success, unreadable]
  rfl

theorem interpret_of_read (success : IsSuccess response)
    (read : response.body.document? = some document) :
    interpret library model response =
      match content? document with
      | some content => .ok content
      | none => .error (.noContent model) := by
  rw [interpret, isSuccess_iff.2 success, read]
  rfl

theorem interpret_eq_ok :
    interpret library model response = .ok text ↔ Tells response text := by
  by_cases success : IsSuccess response
  · cases read : response.body.document? with
    | none => simp [interpret_of_unreadable success read, Tells, read]
    | some document =>
      rw [interpret_of_read success read]
      cases found : content? document <;>
        simp [Tells, success, read, ← content?_eq_some, found]
  · simp [interpret_of_refused success, Tells, success]

theorem blames_of_interpret (documented : library.Documented)
    {failure : CompletionError}
    (fails : interpret library model response = .error failure) :
    Blames library model response failure := by
  constructor
  · intro refused
    rw [interpret_of_refused refused] at fails
    cases fails
    rfl
  · intro text refused unnamed spelled
    rw [interpret_of_refused refused] at fails
    cases fails
    rcases documented.statusText response.status with ⟨name, worded⟩
    rw [worded, documented.bodyText unnamed spelled]
    exact ⟨name, rfl⟩
  · intro success unreadable
    rw [interpret_of_unreadable success unreadable] at fails
    cases fails
    rfl
  · intro success readable
    rcases Option.isSome_iff_exists.1 readable with ⟨document, read⟩
    rw [interpret_of_read success read] at fails
    cases said : content? document with
    | some text =>
      rw [said] at fails
      exact nomatch fails
    | none =>
      rw [said] at fails
      cases fails
      rfl

end Interpret

/-! ## Requests -/

/-- A server that gets every request.  It answers by what it was sent so far,
the request at hand included. -/
def served (answers : List HttpRequest → HttpResponse) :
    Transport (StateM (List HttpRequest)) := fun request => do
  let sent := (← get) ++ [request]
  set sent
  return .ok (answers sent)

theorem run_provider (library : HttpLibrary)
    {transport : Transport (StateM (List HttpRequest))}
    {answers : List HttpRequest → HttpResponse} {endpoint : Endpoint}
    {prompt : String}
    (delivered : transport (request endpoint prompt) =
      served answers (request endpoint prompt))
    (before : List HttpRequest) :
    ((provider library transport endpoint).complete prompt).run before =
      (interpret library endpoint.model
          (answers (before ++ [request endpoint prompt])),
        before ++ [request endpoint prompt]) := by
  rw [provider, StateT.run_bind, delivered]
  rfl

/-- What a server that was sent some requests answers to further ones. -/
def heard (answers : List HttpRequest → HttpResponse) :
    List HttpRequest → List HttpRequest → List HttpResponse
  | _, [] => []
  | before, request :: rest =>
    answers (before ++ [request])
      :: heard answers (before ++ [request]) rest

theorem exists_of_mem_heard {answers : List HttpRequest → HttpResponse}
    {before requests : List HttpRequest} {response : HttpResponse}
    (member : response ∈ heard answers before requests) :
    ∃ sent, response = answers sent := by
  induction requests generalizing before with
  | nil => exact absurd member List.not_mem_nil
  | cons request rest step =>
    rcases List.mem_cons.1 member with same | later
    · exact ⟨before ++ [request], same⟩
    · exact step later

/-- One request to a service for a model, and the answer to it. -/
structure Turn where
  model : String
  request : HttpRequest
  response : HttpResponse

/-- A walk along the models of a service sends a request for each of them until
the answer to one is taken. -/
theorem askInTurn_served {library : HttpLibrary}
    {transport : Transport (StateM (List HttpRequest))}
    {answers : List HttpRequest → HttpResponse}
    {endpoint : String → Endpoint} {prompt : String}
    (named : ∀ model, (endpoint model).model = model)
    (delivered : ∀ model, transport (request (endpoint model) prompt) =
      served answers (request (endpoint model) prompt))
    (models : List String) (failure : CompletionError)
    (before : List HttpRequest) :
    ∃ (turns : List Turn) (answer : Answer),
      (Chain.askInTurn prompt (models.map fun model =>
          provider library transport (endpoint model)) failure).run before =
        (answer, before ++ turns.map Turn.request) ∧
      turns.map Turn.response =
        heard answers before (turns.map Turn.request) ∧
      (∀ turn ∈ turns,
        turn.request = request (endpoint turn.model) prompt) ∧
      Chain.Settles models failure
        (turns.map fun turn =>
          (turn.model, interpret library turn.model turn.response)) answer := by
  induction models generalizing failure before with
  | nil =>
    refine ⟨[], .error failure, ?_, rfl, List.forall_mem_nil _,
      .exhausted failure⟩
    rw [List.map_nil, List.map_nil, List.append_nil]
    rfl
  | cons model rest step =>
    have asked := run_provider library (delivered model) before
    rw [named] at asked
    let turn : Turn :=
      ⟨model, request (endpoint model) prompt,
        answers (before ++ [request (endpoint model) prompt])⟩
    cases taken : interpret library model turn.response with
    | ok text =>
      rw [show interpret library model _ = _ from taken] at asked
      refine ⟨[turn], .ok text, Chain.run_askInTurn_of_ok asked, rfl,
        List.forall_mem_singleton.2 rfl, ?_⟩
      · rw [List.map_singleton, show interpret library turn.model _ = _ from taken]
        exact .succeeded model rest failure text
    | error reason =>
      rw [show interpret library model _ = _ from taken] at asked
      rcases step reason (before ++ [turn.request]) with
        ⟨turns, answer, walked, answered, posted, settles⟩
      refine ⟨turn :: turns, answer, ?_, ?_, ?_, ?_⟩
      · rw [List.map_cons, Chain.run_askInTurn_of_error asked, walked,
          List.append_assoc]
        rfl
      · rw [List.map_cons, List.map_cons, heard, answered]
      · exact List.forall_mem_cons.2 ⟨rfl, posted⟩
      · rw [List.map_cons, show interpret library turn.model _ = _ from taken]
        exact .failed failure settles

end Http

namespace ServiceSettings

/-- The models in the order in which they are asked for: the wanted one, and
then the one that stands in for it if that is another one, each of them once and
once more for each retry. -/
def schedule (settings : ServiceSettings) (model : String) : List String :=
  let times := settings.maxRetries.toNat + 1
  List.replicate times model ++
    match settings.fallbackModel with
    | some fallback =>
      if fallback = model then [] else List.replicate times fallback
    | none => []

theorem flatMap_models (settings : ServiceSettings) (model : String) :
    (settings.models model).flatMap
        (List.replicate (settings.maxRetries.toNat + 1)) =
      settings.schedule model := by
  unfold models schedule
  cases settings.fallbackModel with
  | none => simp
  | some fallback => by_cases same : fallback = model <;> simp [same]

/-- A request that asks a service for one model to answer one prompt. -/
structure Posts (settings : ServiceSettings) (model prompt : String)
    (request : HttpRequest) : Prop where
  url : ∃ base slashes, settings.baseUrl = base ++ slashes ∧
    (∀ c ∈ slashes.toList, c = '/') ∧ base.toList.getLast? ≠ some '/' ∧
    request.url = base ++ "/chat/completions"
  body : ∃ document, request.body = document.compact ∧
    Http.field? "model" document = some (.text model) ∧
    Http.field? "messages" document = some (.list [.record
      [("content", .text prompt), ("role", .text "user")]])

theorem posts_request (settings : ServiceSettings)
    (environment : Option String) (model prompt : String) :
    settings.Posts model prompt
      (Http.request (settings.endpoint environment model) prompt) := by
  refine ⟨?_, ⟨_, rfl, rfl, rfl⟩⟩
  let slash : Char → Bool := fun c => c = '/'
  let reversed := settings.baseUrl.toList.reverse
  refine ⟨withoutFinalSlashes settings.baseUrl,
    String.ofList (reversed.takeWhile slash).reverse, ?_, ?_, ?_, rfl⟩
  · rw [withoutFinalSlashes, ← String.ofList_append, ← List.reverse_append,
      List.takeWhile_append_dropWhile, List.reverse_reverse,
      String.ofList_toList]
  · intro c member
    rw [String.toList_ofList, List.mem_reverse] at member
    have found : slash c = true := List.mem_takeWhile_imp member
    exact of_decide_eq_true found
  · rw [withoutFinalSlashes, String.toList_ofList, List.getLast?_reverse]
    intro slashed
    have clean := List.head?_dropWhile_not slash reversed
    rw [slashed] at clean
    exact absurd clean (by decide)

open Http

/-- How a service is asked to complete a prompt, and what is made of its
answers: none is taken but the last one, and that one unless the whole schedule
was in vain. -/
structure Conversation (library : HttpLibrary) (settings : ServiceSettings)
    (model prompt : String) (turns : List Turn) (answer : Answer) : Prop where
  scheduled : turns.map Turn.model <+: settings.schedule model
  posted : ∀ turn ∈ turns, settings.Posts turn.model prompt turn.request
  passed : ∀ turn ∈ turns.dropLast, ∀ text, ¬ Tells turn.response text
  ended : ∃ last, turns.getLast? = some last ∧
    ((∃ text, answer = .ok text ∧ Tells last.response text) ∨
      ∃ failure, answer = .error failure ∧
        (∀ text, ¬ Tells last.response text) ∧
        turns.map Turn.model = settings.schedule model ∧
        Blames library last.model last.response failure)

theorem conversation_of_settles {library : HttpLibrary}
    {settings : ServiceSettings} {model prompt : String} {turns : List Turn}
    {answer : Answer} (documented : library.Documented)
    (posted : ∀ turn ∈ turns, settings.Posts turn.model prompt turn.request)
    (settles : Chain.Settles (settings.schedule model) .noProviders
      (turns.map fun turn =>
        (turn.model, interpret library turn.model turn.response)) answer) :
    Conversation library settings model prompt turns answer := by
  have models : (turns.map fun turn =>
      (turn.model, interpret library turn.model turn.response)).map Prod.fst =
        turns.map Turn.model := by
    simp
  refine ⟨models ▸ settles.asked_isPrefix, posted, ?_, ?_⟩
  · intro turn member text tells
    have inside : (turn.model, interpret library turn.model turn.response) ∈
        (turns.map fun turn =>
          (turn.model, interpret library turn.model turn.response)).dropLast := by
      rw [← List.map_dropLast]
      exact List.mem_map_of_mem member
    rcases settles.error_of_mem_dropLast inside with ⟨reason, fails⟩
    rw [interpret_eq_ok.2 tells] at fails
    exact nomatch fails
  · have asked : settings.schedule model ≠ [] := by
      simp [schedule, List.replicate_succ]
    rcases settles.ended asked with ⟨call, final, decided⟩
    rw [List.getLast?_map, Option.map_eq_some_iff] at final
    rcases final with ⟨last, final, rfl⟩
    refine ⟨last, final, ?_⟩
    cases taken : interpret library last.model last.response with
    | ok text =>
      exact .inl ⟨text, decided.trans taken, interpret_eq_ok.1 taken⟩
    | error failure =>
      refine .inr ⟨failure, decided.trans taken, fun text tells => ?_,
        models ▸ settles.asked_eq_of_error (decided.trans taken),
        blames_of_interpret documented taken⟩
      rw [interpret_eq_ok.2 tells] at taken
      exact nomatch taken

/-- A service with a base URL is asked along its schedule, whatever the server
answers, if the transport delivers its requests. -/
theorem complete_converses {settings : ServiceSettings}
    {environment : Option String}
    {transport : Transport (StateM (List HttpRequest))}
    {library : HttpLibrary} {answers : List HttpRequest → HttpResponse}
    (visible : Text.isBlankText settings.baseUrl = false)
    (documented : library.Documented)
    (delivered : ∀ model prompt,
      transport (request (settings.endpoint environment model) prompt) =
        served answers (request (settings.endpoint environment model) prompt))
    (model : String) :
    ∃ chain, settings.chain environment transport model library = .ok chain ∧
      ∀ prompt before, ∃ turns answer,
        (chain.complete prompt).run before =
          (answer, before ++ turns.map Turn.request) ∧
        turns.map Turn.response =
          heard answers before (turns.map Turn.request) ∧
        Conversation library settings model prompt turns answer := by
  let one : String → Provider (StateM (List HttpRequest)) := fun model =>
    provider library transport (settings.endpoint environment model)
  refine ⟨⟨(settings.models model).map one, settings.maxRetries.toNat⟩, ?_,
    fun prompt before => ?_⟩
  · rw [chain, visible]
    rfl
  · have walk : ((settings.models model).map one).flatMap
        (List.replicate (settings.maxRetries.toNat + 1)) =
          (settings.schedule model).map one := by
      simp only [← flatMap_models, List.map_flatMap, List.flatMap_map,
        List.map_replicate]
    rcases askInTurn_served (fun _ => rfl)
        (fun other => delivered other prompt) (settings.schedule model)
        .noProviders before with
      ⟨turns, answer, walked, answered, posted, settles⟩
    rw [Chain.complete_eq_askInTurn, walk]
    refine ⟨turns, answer, walked, answered,
      conversation_of_settles documented ?_ settles⟩
    intro turn member
    rw [posted turn member]
    exact settings.posts_request environment turn.model prompt

namespace Sample

/-- Settings of a service that is asked twice for each of two models. -/
def brief : ServiceSettings := { maxRetries := 1 }

/-- A body with an encoding mark in front of its text. -/
def marked : HttpBody := "\uFEFFbusy"

/-- A server that first answers with a byte that spells nothing, and is busy
from then on. -/
def busy (sent : List HttpRequest) : HttpResponse :=
  if sent.length ≤ 1 then { status := 200, body := ⟨⟨#[0xFF]⟩⟩ }
  else { status := 503, body := marked }

theorem not_tells_busy (sent : List HttpRequest) (text : String) :
    ¬ Tells (busy sent) text := by
  rintro ⟨success, document, read, -⟩
  unfold busy at success read
  split at success
  · next first =>
    rw [if_pos first] at read
    have spelled : (HttpBody.mk ⟨#[0xFF]⟩).text? = none := by decide
    rw [HttpBody.document?, spelled] at read
    exact nomatch read
  · exact absurd success (by simp [IsSuccess])

end Sample

/-- A service that is busy is asked along its whole schedule, in vain. -/
theorem complete_converses_busy :
    Text.isBlankText Sample.brief.baseUrl = false ∧
    HttpLibrary.standard.Documented ∧
    ∃ chain, Sample.brief.chain none (served Sample.busy) "m" = .ok chain ∧
      ∀ prompt, ∃ (turns : List Turn) (failure : CompletionError),
        (chain.complete prompt).run [] =
          (.error failure, turns.map Turn.request) ∧
        turns.map Turn.model = ["m", "m", "glm-4p5", "glm-4p5"] ∧
        turns.map (fun turn => turn.response.status) = [200, 503, 503, 503] ∧
        (Failure.completion failure).message? =
          some ("Oracle request failed: glm-4p5 returned "
            ++ "503 Service Unavailable: busy") := by
  have visible : Text.isBlankText Sample.brief.baseUrl = false := by decide
  have documented := HttpLibrary.documented_standard
  have delivered : ∀ model prompt,
      served Sample.busy
          (request (Sample.brief.endpoint none model) prompt) =
        served Sample.busy
          (request (Sample.brief.endpoint none model) prompt) :=
    fun _ _ => rfl
  rcases complete_converses visible documented delivered "m" with
    ⟨chain, made, converses⟩
  refine ⟨visible, documented, chain, made, fun prompt => ?_⟩
  rcases converses prompt [] with ⟨turns, answer, asked, answered, conversation⟩
  rcases conversation.ended with
    ⟨last, final, ⟨text, -, tells⟩ | ⟨failure, rfl, -, whole, blames⟩⟩
  · have told : last.response ∈ turns.map Turn.response :=
      List.mem_map_of_mem (List.mem_of_getLast? final)
    rw [answered] at told
    rcases exists_of_mem_heard told with ⟨sent, same⟩
    exact absurd (same ▸ tells) (Sample.not_tells_busy sent text)
  · have models : turns.map Turn.model = ["m", "m", "glm-4p5", "glm-4p5"] :=
      whole
    refine ⟨turns, failure, asked, models, ?_⟩
    simp only [List.map_eq_cons_iff, List.map_eq_nil_iff] at models
    rcases models with
      ⟨one, _, rfl, -, two, _, rfl, -, three, _, rfl, -, four, _, rfl, named, rfl⟩
    obtain rfl : four = last := Option.some.inj final
    simp only [List.map_cons, List.map_nil, heard, List.cons.injEq, and_true]
      at answered
    rcases answered with ⟨first, second, third, fourth⟩
    have busy : four.response = { status := 503, body := Sample.marked } :=
      fourth
    have plain : four.response.NamesNoCharset := by
      rw [busy]
      exact nofun
    have spelled : four.response.body.text? = some "\uFEFFbusy" := by
      rw [busy]
      exact HttpBody.text?_coe _
    have refused : ¬ IsSuccess four.response := by
      rw [busy]
      simp [IsSuccess]
    have status : HttpLibrary.standard.statusText 503 =
        "503 Service Unavailable" := by decide
    have shown : Text.withoutMark "\uFEFFbusy" = "busy" := by decide
    have worded := blames.status refused
    rw [named, documented.bodyText plain spelled, shown, busy, status] at worded
    exact ⟨by simp [first, second, third, fourth, Sample.busy], worded⟩

end ServiceSettings

end ModuleAtlas
