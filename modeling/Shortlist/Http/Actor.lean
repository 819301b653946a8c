import Shortlist.Actor
import Shortlist.Failure.Basic
import Shortlist.Text.Lowercase

/-! # The actor of a request

A gateway that knows the caller forwards the id and the role in headers.
-/

namespace Shortlist.Actor

def missingUserId : Failure :=
  .make .validation "X-User-Id header is required" [("field", .text "X-User-Id")]

/-- The actor that the headers tell. An id is needed; the role counts whatever its case. -/
def ofHeaders (userId role : Option String) : Except Failure Actor :=
  let id := Text.strip (userId.getD "")
  if id.isEmpty then .error missingUserId
  else .ok ⟨id, Text.lower (role.getD "") == "admin"⟩

end Shortlist.Actor
