import Shortlist.Program.Basic

/-! # Running programs alone

A world answers the effects of one program after another: a store whose calls can be made to fail,
and replies prepared for the text-generation service. It remembers what was written and asked.
-/

namespace Shortlist

structure PendingFault where
  collection : Collection
  method : StoreMethod
  fault : Fault

def PendingFault.awaits (q : StoreCall) (p : PendingFault) : Bool :=
  p.collection = q.collection && p.method = q.method

structure World where
  store : Store
  pendingFaults : List PendingFault
  /-- Prepared replies; the last one is given again and again. -/
  replies : List (Except Fault (Option String))
  /-- The writes, in order. -/
  journal : List StoreCall
  /-- The prompts asked, in order. -/
  asked : List (String × String)

namespace World

def expectFault (w : World) (p : PendingFault) : World :=
  let others := w.pendingFaults.filter fun other =>
    !(other.collection = p.collection && other.method = p.method)
  { w with pendingFaults := others ++ [p] }

/-- A call that is made to fail does nothing else; a write is remembered before it is done. -/
def answerCall (w : World) (q : StoreCall) : Except Fault q.Answer × World :=
  match w.pendingFaults.find? (PendingFault.awaits q) with
  | some p =>
    (.error p.fault, { w with pendingFaults := w.pendingFaults.eraseP (PendingFault.awaits q) })
  | none =>
    let (answer, store) := w.store.answer q
    (.ok answer,
      { w with store := store, journal := if q.isWrite then w.journal ++ [q] else w.journal })

def answerQuestion (w : World) (systemPrompt userPrompt : String) :
    Except Fault (Option String) × World :=
  let w := { w with asked := w.asked ++ [(systemPrompt, userPrompt)] }
  match w.replies with
  | [] => (.ok none, w)
  | [reply] => (reply, w)
  | reply :: rest => (reply, { w with replies := rest })

def answer (w : World) : (e : Effect) → Except Fault e.Answer × World
  | .store q => w.answerCall q
  | .ask systemPrompt userPrompt => w.answerQuestion systemPrompt userPrompt
  | .acquire _ => (.ok (), w)
  | .release _ => (.ok (), w)

end World

def Program.run {α : Type} : Program α → World → Except Fault α × World
  | .done outcome, w => (outcome, w)
  | .perform effect next, w => (next (w.answer effect).1).run (w.answer effect).2

end Shortlist
