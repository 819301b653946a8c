import Shortlist.Analysis.Report
import Shortlist.Chat.Template
import Shortlist.Vacancy.Basic

/-! # Prompts

What a text-generation service is told: to extract a profile from a resume, and to comment on how a
candidate fits a vacancy.
-/

namespace Shortlist.Prompt

def profileSystem : String :=
  "You are an HR analyst. Return the result STRICTLY as JSON " ++
    "(no markdown, no code fences, no explanations). " ++
    "Always return empty lists as [], never null. Do not invent facts."

def profileUser : Template :=
  [.text "Resume text:\n<<<\n", .slot "resume_text",
    .text <|
      "\n>>>\n\nReturn STRICTLY one JSON object with this schema:\n\x7b\n" ++
        "  \"summary\": string,\n  \"skills\": string[],\n" ++
        "  \"experience\": [\x7b\"company\": string, \"role\": string, \"start\": string, " ++
        "\"end\": string, \"description\": string\x7d],\n" ++
        "  \"education\": [\x7b\"institution\": string, \"degree\": string, \"start\": string, " ++
        "\"end\": string\x7d]\n\x7d\n\n" ++
        "Rules:\n- No extra fields\n- No markdown\n- If a list is empty, return []\n"]

def enrichmentSystem : String :=
  "You are an HR analyst. Return the result strictly as a single JSON object without explanations."

def enrichmentUser : Template :=
  [.text "Vacancy:\nTitle: ", .slot "title", .text "\nDescription: ", .slot "description",
    .text "\n\nCandidate profile:\nSummary: ", .slot "summary", .text "\nSkills: ", .slot "skills",
    .text "\nExperience entries: ", .slot "experience_count",
    .text "\nEducation entries: ", .slot "education_count",
    .text "\n\nMatched skills: ", .slot "matched", .text "\nMissing skills: ", .slot "missing",
    .text <|
      "\n\nReturn JSON with the fields:\n- candidate_summary (string)\n" ++
        "- unique_strengths (string[])\n- hr_recommendation (string)\n" ++
        "- candidate_recommendations (string[])\n"]

def sources : Fields :=
  [("PROFILE_SYSTEM_PROMPT", .text profileSystem),
    ("PROFILE_USER_PROMPT", .text profileUser.source),
    ("ENRICHMENT_SYSTEM_PROMPT", .text enrichmentSystem),
    ("ENRICHMENT_USER_PROMPT", .text enrichmentUser.source)]

def forProfile (text : String) : String := profileUser.fill [("resume_text", text)]

def forNarrative (v : Vacancy) (p : Profile) (matched missing : List String) : String :=
  enrichmentUser.fill
    [("title", v.title), ("description", v.description), ("summary", p.summary),
      ("skills", Text.join ", " p.skills),
      ("experience_count", toString p.experience.length),
      ("education_count", toString p.education.length),
      ("matched", Text.join ", " matched), ("missing", Text.join ", " missing)]

end Shortlist.Prompt
