import Shortlist.Chat.Client

/-! # What clients promise

Whoever asks a text-generation service expects a text that is not blank, or a failure of the
service. Both clients keep this where the service is not reached, answers with an error, or sends no
JSON.
The body of a good answer is taken apart with less care: which bodies lead to something else is
different for the two services.
-/

namespace Shortlist

/-- The value of a field, null if it is not there. -/
def Fields.value (name : String) (fs : Fields) : Value := (fs.get? name).getD .null

namespace ChatService

end ChatService

namespace ChatClient

variable {c : ChatClient} {fs : Fields}

section Message

variable {s : String} {v w : Value} {e : Fault}

end Message

/-! ## Answers -/

end ChatClient

end Shortlist
