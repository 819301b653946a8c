import Shortlist.Text.Blank
import Shortlist.Validation.Record
import Shortlist.Validation.Scalar
import Shortlist.Failure.Basic

/-! # Settings of text generation

Which service generates text, and how it is asked. Settings come as a record or from the variables
of the environment.
-/

namespace Shortlist

inductive Provider where
  | none
  | ollama
  | openrouter
deriving DecidableEq, Repr

namespace Provider

def name : Provider → String
  | .none => "none"
  | .ollama => "ollama"
  | .openrouter => "openrouter"

def members : List (String × Provider) :=
  [Provider.none, .ollama, .openrouter].map fun p => (p.name, p)

def defaultModel : Provider → String
  | .none => ""
  | .ollama => "llama3.1:8b"
  | .openrouter => "qwen/qwen2.5-32b-instruct"

def defaultBaseUrl : Provider → String
  | .none => ""
  | .ollama => "http://localhost:11434"
  | .openrouter => "https://openrouter.ai/api/v1"

/-- Case and space around the name do not matter; a blank name and null stand for no provider. -/
def ofValue : Value → Validation Provider
  | .null => .valid .none
  | .text s =>
    let word := Text.strip s
    if word.isEmpty then .valid .none
    else Validation.oneOf members (.text (Text.lower word))
  | v => Validation.oneOf members v

end Provider

structure ChatSettings where
  provider : Provider
  modelName : String
  baseUrl : String
  apiKey : Option String
  temperature : Float
  timeout : Int
  httpReferer : Option String
  appTitle : Option String

namespace ChatSettings

open Validation

def ofFields (fs : Fields) : Validation ChatSettings :=
  mk <$> optional "provider" .none Provider.ofValue fs
    <*> optional "model_name" "" text fs
    <*> optional "base_url" "" text fs
    <*> optional "api_key" none optionalText fs
    <*> optional "temperature" 0.2 (fun v => (float v).andThen (bounded 0.0 2.0)) fs
    <*> optional "timeout" 60 (fun v => (int v).andThen (bounded 1 600)) fs
    <*> optional "http_referer" none optionalText fs
    <*> optional "app_title" (some "screening") optionalText fs

def ofValue : Value → Validation ChatSettings := record .notRecord ofFields

def toFields (s : ChatSettings) : Fields :=
  [("provider", .text s.provider.name), ("model_name", .text s.modelName),
    ("base_url", .text s.baseUrl), ("api_key", .ofOption .text s.apiKey),
    ("temperature", .float s.temperature), ("timeout", .int s.timeout),
    ("http_referer", .ofOption .text s.httpReferer), ("app_title", .ofOption .text s.appTitle)]

def toValue (s : ChatSettings) : Value := .record s.toFields

def resolvedModel (s : ChatSettings) : String :=
  if s.modelName.isEmpty then s.provider.defaultModel else s.modelName

/-- The address of the service without slashes at its end. -/
def resolvedBaseUrl (s : ChatSettings) : String :=
  let url := if s.baseUrl.isEmpty then s.provider.defaultBaseUrl else s.baseUrl
  String.ofList (Text.dropEndWhile (· = '/') url.toList)

def summary (s : ChatSettings) : Value :=
  .record
    (s.toFields ++
      [("resolved_model", .text s.resolvedModel), ("resolved_base_url", .text s.resolvedBaseUrl)])

/-- The variables of an environment. -/
abbrev Environment := List (String × String)

/-- The fields that environment variables set. Where an optional one is empty, nothing is set. -/
def environmentFields (env : Environment) : Fields :=
  let given (name default : String) : Value := .text ((env.lookup name).getD default)
  let nonEmpty (name : String) : Value :=
    .ofOption .text ((env.lookup name).filter (!·.isEmpty))
  [("provider", given "LLM_PROVIDER" "none"), ("model_name", given "LLM_MODEL" ""),
    ("base_url", given "LLM_BASE_URL" ""), ("api_key", nonEmpty "LLM_API_KEY"),
    ("temperature", given "LLM_TEMPERATURE" "0.2"), ("timeout", given "LLM_TIMEOUT" "60"),
    ("http_referer", nonEmpty "LLM_HTTP_REFERER"),
    ("app_title", given "LLM_APP_TITLE" "screening")]

def ofEnvironment (env : Environment) : Except Fault ChatSettings :=
  match ofFields (environmentFields env) with
  | .valid s => .ok s
  | .invalid vs =>
    .error <| .failure <|
      (Failure.make .configuration "invalid LLM settings" []).withCause (.invalid vs)

end ChatSettings

end Shortlist
