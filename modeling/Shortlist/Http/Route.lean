import Shortlist.Analysis.Access
import Shortlist.Candidate.Access
import Shortlist.Export.Digest
import Shortlist.Http.Sending
import Shortlist.Vacancy.Access

/-! # Routes

What can be asked for over HTTP, and how it is answered. A body that is no JSON is refused before
anything else; then the actor is looked at, then the parameters and the body. Failures of a service
are answered with their status and details.
-/

namespace Shortlist

inductive Resource where
  | root
  | analyses
  | analysis (id : String)
  | vacancies
  | vacancy (id : String)
  | vacancySkills (id : String)
  | vacancyAnalyses (id : String)
  | vacancyExport (id : String)
  | resumeUpload (id : String)
  | resumeProfile (id : String)
  | profileRebuild (id : String)

namespace Resource

/-- A name that a path gives, which has to be there. -/
def named (make : String → Resource) (id : String) : Option Resource :=
  if id.isEmpty then none else some (make id)

def ofParts : List String → Option Resource
  | ["", ""] => some .root
  | ["", "api", "analyses"] => some .analyses
  | ["", "api", "analyses", id] => named .analysis id
  | ["", "api", "vacancies"] => some .vacancies
  | ["", "api", "vacancies", id] => named .vacancy id
  | ["", "api", "vacancies", id, "skills"] => named .vacancySkills id
  | ["", "api", "vacancies", id, "analyses"] => named .vacancyAnalyses id
  | ["", "api", "vacancies", id, "analyses", "export"] => named .vacancyExport id
  | ["", "api", "resumes", id, "upload"] => named .resumeUpload id
  | ["", "api", "resumes", id, "profile"] => named .resumeProfile id
  | ["", "api", "resumes", id, "profile", "rebuild"] => named .profileRebuild id
  | _ => none

/-- The resource that a path names. A line feed behind a path that ends with a fixed word is read
over. -/
def ofPath (path : String) : Option Resource :=
  let cs := path.toList
  let named (cs : List Char) := ofParts ((Text.splitChars '/' cs).map String.ofList)
  (named cs).orElse fun _ => if cs.getLast? = some '\n' then named cs.dropLast else none

/-- The path without the slash at its end, or with one if there is none. -/
def toggleSlash (path : String) : String :=
  let cs := path.toList
  if cs.getLast? = some '/' then String.ofList (Text.dropEndWhile (· = '/') cs) else path ++ "/"

end Resource

namespace Http

def banner : Value :=
  .record
    [("message", .text "Candidate Screening API"), ("version", .text "1.0.0"),
      ("status", .text "ok")]

def vacancyList (vs : List Vacancy) : Value :=
  .record [("vacancies", .list (vs.map Vacancy.toValue)), ("count", .int vs.length)]

def analysisList (vacancyId : Option String) (as : List Analysis) : Value :=
  .record
    [("vacancy_id", .ofOption .text vacancyId), ("analyses", .list (as.map Analysis.toValue)),
      ("count", .int as.length)]

def exportAnalyses (quoting : Csv.Quoting) (o : Occasion) (r : HttpRequest) (actor : Actor)
    (vacancyId : String) : Program HttpResponse :=
  let format := Text.lower ((r.parameter? "format").getD "csv")
  if format ≠ "csv" && format ≠ "md" then
    pure (.problem 400 (.text "format must be 'csv' or 'md'"))
  else
    (Analyses.vacancyReport o actor vacancyId).andThen fun
      | .ok (vacancy, analyses) =>
        pure <|
          if format = "csv" then .text "text/csv; charset=utf-8" (csvExport quoting analyses)
          else .text "text/markdown; charset=utf-8" (markdownExport vacancy analyses)
      | .error (.failure f) => pure (refusal f)
      | .error fault => .fail fault

/-- The answer of a resource to a method, none for a method that it does not know. -/
def dispatch (assistant : Option Assistant) (quoting : Csv.Quoting) (o : Occasion)
    (r : HttpRequest) : Resource → Option (Program HttpResponse)
  | .root => if r.method = "GET" then some (pure (result 200 banner)) else none
  | .analyses =>
    if r.method = "POST" then
      some <| withBody r fun body actor =>
        given (readBody (NewAnalysis.ofValue .notRecordLike) body) fun new =>
          serve 201 Analysis.toValue
            (Analyses.create assistant o actor new.resumeId new.vacancyId)
    else if r.method = "GET" then
      some <| withActor r fun actor => given (page r) fun page =>
        serve 200 (analysisList none) (Analyses.listFor o actor page.limit page.offset)
    else none
  | .analysis id =>
    if r.method = "GET" then
      some <| withActor r fun actor => serve 200 Analysis.toValue (Analyses.getFor o actor id)
    else if r.method = "DELETE" then
      some <| withActor r fun actor => served do
        Analyses.deleteFor o actor id
        pure (.bare 204)
    else none
  | .vacancies =>
    if r.method = "POST" then
      some <| withBody r fun body actor =>
        given (readBody (NewVacancy.ofValue .notRecordLike) body) fun new =>
          serve 201 Vacancy.toValue
            (Vacancies.create o actor new.title new.description new.skills)
    else if r.method = "GET" then
      some <| withActor r fun actor => given (page r) fun page =>
        serve 200 vacancyList (Vacancies.listFor o actor page.limit page.offset)
    else none
  | .vacancy id =>
    if r.method = "GET" then
      some <| withActor r fun actor => serve 200 Vacancy.toValue (Vacancies.getFor o actor id)
    else none
  | .vacancySkills id =>
    if r.method = "PUT" then
      some <| withBody r fun body actor =>
        given (readBody (newSkills .notRecordLike) body) fun skills =>
          serve 200 Vacancy.toValue (Vacancies.updateSkillsFor o actor id skills)
    else none
  | .vacancyAnalyses id =>
    if r.method = "GET" then
      some <| withActor r fun actor => given (page r) fun page =>
        serve 200 (analysisList (some id))
          (Analyses.listByVacancyFor o actor id page.limit page.offset)
    else none
  | .vacancyExport id =>
    if r.method = "GET" then
      some <| withActor r fun actor => exportAnalyses quoting o r actor id
    else none
  | .resumeUpload id =>
    if r.method = "POST" then
      some <| withActor r fun actor => given (formFile r.body) fun upload =>
        serve 200 ProfileRecord.toValue (Profiles.ingest assistant o actor id upload)
    else none
  | .resumeProfile id =>
    if r.method = "GET" then
      some <| withActor r fun actor => serve 200 ProfileRecord.toValue (Profiles.get o actor id)
    else none
  | .profileRebuild id =>
    if r.method = "POST" then
      some <| withActor r fun actor =>
        serve 200 ProfileRecord.toValue (Profiles.rebuild assistant o actor id)
    else none

/-- What the routes make of a request. A path that lacks or has a slash too many is redirected. -/
def route (assistant : Option Assistant) (quoting : Csv.Quoting) (o : Occasion)
    (r : HttpRequest) : Program HttpResponse :=
  match Resource.ofPath r.path with
  | some resource =>
    (dispatch assistant quoting o r resource).getD
      (pure (.problem 405 (.text "Method Not Allowed")))
  | none =>
    if r.path ≠ "/" && (Resource.ofPath (Resource.toggleSlash r.path)).isSome then pure (.bare 307)
    else pure (.problem 404 (.text "Not Found"))

/-- What is sent of a response: its body only where it was not asked for the head alone. -/
def sent (r : HttpRequest) (response : HttpResponse) : HttpResponse :=
  if r.method = "HEAD" then { response with body := .text "" } else response

def respond (assistant : Option Assistant) (quoting : Csv.Quoting) (o : Occasion) (pace : Pace)
    (r : HttpRequest) : Program HttpResponse :=
  (route assistant quoting o r).andThen fun outcome =>
    match outcome with
    | .error (.cancelled text) => .fail (.cancelled text)
    | outcome => .ofExcept ((finish o r pace outcome).map (sent r))

end Http

end Shortlist
