import Shortlist.Failure.Basic
import Shortlist.Skill.PhraseSet
import Shortlist.Text.Lowercase
import Shortlist.Text.Uppercase

/-! # Logging configuration

Where log entries go and how they look. The configuration comes from options, or from a profile that
the environment names.
-/

namespace Shortlist

/-- Level, directory and style are texts, unless whoever sets the options gives something else. -/
structure LoggingOptions where
  level : Value
  directory : Value
  console : Bool
  file : Bool
  style : Value

namespace LoggingOptions

def standard : LoggingOptions := ⟨.text "INFO", .null, true, true, .text "detailed"⟩

/-- The options that named arguments set; other names are refused. -/
def ofFields (fs : Fields) : Except Fault LoggingOptions :=
  let known := ["level", "log_dir", "enable_console", "enable_file", "format_style"]
  let flag (name : String) : Bool := ((fs.get? name).map fun v => !v.isFalsy).getD true
  if fs.all fun (name, _) => known.contains name then
    .ok
      { level := (fs.get? "level").getD standard.level
        directory := (fs.get? "log_dir").getD standard.directory
        console := flag "enable_console"
        file := flag "enable_file"
        style := (fs.get? "format_style").getD standard.style }
  else .error (.foreign .type "")

def withProfile (o : LoggingOptions) (profile : String) : LoggingOptions :=
  if profile = "production" then { o with file := true, style := .text "detailed" }
  else if profile = "development" then
    { o with level := .text "DEBUG", file := true, style := .text "detailed" }
  else if profile = "testing" then
    { o with level := .text "WARNING", file := false, style := .text "simple" }
  else o

def ofEnvironment (env : List (String × String)) : LoggingOptions :=
  let profile := Text.lower ((env.lookup "ENVIRONMENT").getD "development")
  let level := Text.upper ((env.lookup "LOG_LEVEL").getD "INFO")
  { standard with level := .text level }.withProfile profile

end LoggingOptions

namespace LoggingConfig

/-! ## Files -/

/-- The components of a path that count. -/
def components (path : String) : List String :=
  (Text.split '/' path).filter fun part => !part.isEmpty && part ≠ "."

def isAbsolute (path : String) : Bool := path.toList.head? = some '/'

/-- The beginning of an absolute path: one slash, or two where exactly two are written. -/
def rootOf (path : String) : String :=
  match (path.toList.takeWhile (· = '/')).length with
  | 0 => ""
  | 2 => "//"
  | _ => "/"

def fileIn (directory name : String) : String :=
  rootOf directory ++ Text.join "/" (components directory ++ [name])

/-- Goes back one step for every component that says so. -/
def resolve (parts : List String) : List String :=
  (parts.foldl (fun back part => if part = ".." then back.tail else part :: back) []).reverse

/-- The directories on the way to a directory. -/
def directories (path : String) : List String :=
  let parts := components path
  let root := if isAbsolute path then "/" else ""
  let ways := (List.range parts.length).map fun k => resolve (parts.take (k + 1))
  PhraseSet.ofList ((ways.filter (!·.isEmpty)).map fun way => root ++ Text.join "/" way)

/-! ## The configuration -/

def formats : List (String × String) :=
  [("simple", "%(levelname)s - %(name)s - %(message)s"),
    ("detailed",
      "%(asctime)s | %(levelname)-8s | %(name)-30s | %(funcName)-20s:%(lineno)-4d | %(message)s"),
    ("json",
      "\x7b\"timestamp\": \"%(asctime)s\", \"level\": \"%(levelname)s\", " ++
        "\"logger\": \"%(name)s\", \"message\": \"%(message)s\"\x7d")]

def formatters : Value :=
  .record <| formats.map fun (style, format) =>
    (style, .record [("format", .text format), ("datefmt", .text "%Y-%m-%d %H:%M:%S")])

/-- The name of the format of a style; a style that is no known name counts as detailed. What has
no fixed value cannot be looked up. -/
def formatName : Value → Except Fault String
  | .text s => .ok (if (formats.lookup s).isSome then s else "detailed")
  | .list _ | .record _ => .error (.foreign .type "")
  | _ => .ok "detailed"

def consoleHandler (o : LoggingOptions) : Except Fault Value := do
  let format ← formatName o.style
  .ok <| .record
    [("class", .text "logging.StreamHandler"), ("level", o.level), ("formatter", .text format),
      ("stream", .text "ext://sys.stdout")]

def maxBytes : Int := 10 * 1024 * 1024

def fileHandler (path : String) (level : Value) : Value :=
  .record
    [("class", .text "logging.handlers.RotatingFileHandler"), ("level", level),
      ("formatter", .text "detailed"), ("filename", .text path), ("maxBytes", .int maxBytes),
      ("backupCount", .int 5), ("encoding", .text "utf8")]

/-- The handlers that write into a directory; the files carry the day's stamp. -/
def fileHandlers (o : LoggingOptions) (directory stamp : String) : Fields :=
  [("file", fileHandler (fileIn directory ("screening_" ++ stamp ++ ".log")) o.level),
    ("error_file",
      fileHandler (fileIn directory ("screening_errors_" ++ stamp ++ ".log")) (.text "ERROR"))]

def logger (level : Value) (handlers : List String) : Value :=
  .record [("level", level), ("handlers", .texts handlers), ("propagate", .bool false)]

def noisyLoggers : List String := ["pymongo", "pdfminer", "httpx", "urllib3"]

def loggers (o : LoggingOptions) (handlers : List String) : Fields :=
  let info := Value.text "INFO"
  [("", logger o.level handlers), ("uvicorn", logger info (handlers.filter (· ≠ "error_file"))),
      ("uvicorn.access", logger info (handlers.filter (· = "console")))] ++
    noisyLoggers.map fun name => (name, .record [("level", .text "WARNING")])

/-- The directory that options call for, `fallback` where they name none. -/
def directoryIn (o : LoggingOptions) (fallback : String) : Except Fault String :=
  match o.directory with
  | .text s => .ok (if s.isEmpty then fallback else s)
  | v => if v.isFalsy then .ok fallback else .error (.foreign .type "")

def build (o : LoggingOptions) (fallback stamp : String) :
    Except Fault (Value × List String) := do
  let console ← if o.console then (fun h => [("console", h)]) <$> consoleHandler o else .ok []
  let directory ← if o.file then some <$> directoryIn o fallback else .ok none
  let files := ((directory.map fun d => fileHandlers o d stamp).getD [] : Fields)
  let used := console ++ files
  .ok
    (.record
        [("version", .int 1), ("disable_existing_loggers", .bool false),
          ("formatters", formatters), ("handlers", .record used),
          ("loggers", .record (loggers o (used.map Prod.fst)))],
      (directory.map directories).getD [])

def directoryOf (env : List (String × String)) : String := (env.lookup "LOG_DIR").getD "logs"

/-- The name of a logger under the common root; names below the root stay. -/
def loggerName (name : String) : String :=
  if name = "screening" || "screening.".toList.isPrefixOf name.toList then name
  else "screening." ++ name

end LoggingConfig

end Shortlist
