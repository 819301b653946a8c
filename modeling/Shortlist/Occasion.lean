import Shortlist.Moment.Basic

/-! # Occasions

What an operation takes from outside to make something new: the time, and an id not used before.
-/

namespace Shortlist

structure Occasion where
  now : Moment
  freshId : String

end Shortlist
