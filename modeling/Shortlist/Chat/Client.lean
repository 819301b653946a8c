import Shortlist.Chat.Reply
import Shortlist.Chat.Settings

/-! # Chat clients

How a text-generation service is asked over HTTP, and how its answer is taken apart. The services
differ in the address, the request and the shape of the answer.
-/

namespace Shortlist

structure OutgoingRequest where
  url : String
  headers : Option (List (String × String))
  body : Value
  timeout : Int

inductive Transport where
  | answered (status : Int) (body : String)
  | noConnection (message : String)
  | timedOut (message : String)

inductive ChatService where
  | ollama
  | openrouter
deriving DecidableEq, Repr

def ChatService.name : ChatService → String
  | .ollama => "ollama"
  | .openrouter => "openrouter"

structure ChatClient where
  service : ChatService
  settings : ChatSettings

namespace ChatClient

/-- The client that some settings call for; without a key there is none for OpenRouter. -/
def ofSettings? (s : ChatSettings) : Option ChatClient :=
  match s.provider with
  | .none => none
  | .ollama => some ⟨.ollama, s⟩
  | .openrouter => if (s.apiKey.getD "").isEmpty then none else some ⟨.openrouter, s⟩

/-- The name of the service, the model and the address. -/
def toValue (c : ChatClient) : Value :=
  .texts [c.service.name, c.settings.resolvedModel, c.settings.resolvedBaseUrl]

/-! ## Asking -/

def messages (systemPrompt userPrompt : String) : Value :=
  .list
    [.record [("role", .text "system"), ("content", .text systemPrompt)],
      .record [("role", .text "user"), ("content", .text userPrompt)]]

def headers (s : ChatSettings) : List (String × String) :=
  let optional (name : String) (value : Option String) : List (String × String) :=
    ((value.filter (!·.isEmpty)).map fun v => (name, v)).toList
  [("Content-Type", "application/json"), ("Authorization", "Bearer " ++ s.apiKey.getD "None")] ++
    optional "HTTP-Referer" s.httpReferer ++ optional "X-Title" s.appTitle

def request (c : ChatClient) (systemPrompt userPrompt : String) : OutgoingRequest :=
  let s := c.settings
  let model := ("model", .text s.resolvedModel)
  let prompts := ("messages", messages systemPrompt userPrompt)
  let temperature := ("temperature", .float s.temperature)
  match c.service with
  | .ollama =>
    { url := s.resolvedBaseUrl ++ "/api/chat"
      headers := none
      body :=
        .record [model, prompts, ("options", .record [temperature]), ("stream", .bool false)]
      timeout := s.timeout }
  | .openrouter =>
    { url := s.resolvedBaseUrl ++ "/chat/completions"
      headers := some (headers s)
      body := .record [model, prompts, temperature]
      timeout := s.timeout }

/-! ## Taking the answer apart -/

def failure (c : ChatClient) (message : String) : Failure :=
  .externalService message c.service.name

def shownBodyLength : Nat := 300

/-- The fields of the body of a good answer; other JSON values count as a record without fields. -/
def bodyFields (c : ChatClient) (body : String) : Except Fault Fields :=
  let unreadable := c.failure (c.service.name ++ " returned a non-JSON body")
  match Json.read body with
  | .ok (.record fs) => .ok fs
  | .ok _ => .ok []
  | .error e =>
    match e.reason with
    | .tooDeep _ => .error e.fault
    | _ => .error (.failure (unreadable.withCause e.fault))

/-- The error of asking a value for what its kind does not have. -/
def lacks (v : Value) (name : String) : Fault :=
  .foreign .attribute ("'" ++ v.kindName ++ "' object has no attribute '" ++ name ++ "'")

/-- A field of a record, null if it is not there. Other values have no fields. -/
def part (name : String) : Value → Except Fault Value
  | .record fs => .ok ((Fields.get? name fs).getD .null)
  | v => .error (lacks v "get")

/-- A value, or another for an empty one. -/
def orElse (v other : Value) : Value := if v.isFalsy then other else v

def firstChoice : Value → Except Fault Value
  | .list (v :: _) => .ok v
  | .text s => .ok (.text (Text.take 1 s))
  | .record _ => .error (.foreign .key "0")
  | v => .error (.foreign .type ("'" ++ v.kindName ++ "' object is not subscriptable"))

/-- The content of a message, empty where there is none. -/
def messageContent (v : Value) : Except Fault Value := do
  let message ← part "message" v
  let content ← part "content" (orElse message (.record []))
  .ok (orElse content (.text ""))

/-- The content of an answer by Ollama: a text that is not blank. -/
def ollamaContent (c : ChatClient) (fs : Fields) : Except Fault Value := do
  match ← messageContent (.record fs) with
  | .text s =>
    if Text.isBlankText s then .error (.failure (c.failure "ollama returned an empty response"))
    else .ok (.text s)
  | v => .error (lacks v "strip")

/-- The content of an answer by OpenRouter: that of the first choice. -/
def openrouterContent (c : ChatClient) (fs : Fields) : Except Fault Value := do
  let choices := (fs.get? "choices").getD .null
  if choices.isFalsy then .error (.failure (c.failure "no choices returned by model"))
  else messageContent (← firstChoice choices)

/-- What an outcome of a request is worth. -/
def content (c : ChatClient) : Transport → Except Fault Value
  | .noConnection message =>
    .error <| .failure <|
      (c.failure (c.service.name ++ " request failed: " ++ message)).withCause
        (.foreign .noConnection message)
  | .timedOut message =>
    .error <| .failure <|
      (c.failure (c.service.name ++ " request failed: " ++ message)).withCause
        (.foreign .timedOut message)
  | .answered status body =>
    if status < 400 then do
      let fs ← c.bodyFields body
      match c.service with
      | .ollama => c.ollamaContent fs
      | .openrouter => c.openrouterContent fs
    else
      .error <| .failure <|
        .make .externalService
          (c.service.name ++ " http " ++ toString status ++ ": " ++ Text.take shownBodyLength body)
          [("service_name", .text c.service.name), ("status_code", .int status)]

/-- Asks the service once, over a transport. Without a key OpenRouter is not asked. The requests
made are told, too. -/
def ask (c : ChatClient) (transport : OutgoingRequest → Transport)
    (systemPrompt userPrompt : String) : List OutgoingRequest × Except Fault Value :=
  if c.service = .openrouter && (c.settings.apiKey.getD "").isEmpty then
    ([], .error (.failure (c.failure "openrouter api key is empty")))
  else
    let r := c.request systemPrompt userPrompt
    ([r], c.content (transport r))

end ChatClient

end Shortlist
