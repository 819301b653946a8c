import Shortlist.Failure.Operation
import Shortlist.Store.Basic

/-! # Programs

What a service does is a tree of effects: calls to the store, questions to the text-generation
service, and locks taken and given back. Every effect can fail, and goes on with its outcome. A
program ends with a result or a fault. It says nothing about who answers, so that it can be run
alone, interleaved with others, or against an adversary.
-/

namespace Shortlist

inductive Effect where
  | store (call : StoreCall)
  | ask (systemPrompt userPrompt : String)
  | acquire (key : String)
  | release (key : String)

/-- The type of the answer to an effect. A text-generation service may answer without a text. -/
abbrev Effect.Answer : Effect → Type
  | .store call => call.Answer
  | .ask .. => Option String
  | .acquire _ => Unit
  | .release _ => Unit

inductive Program (α : Type) : Type where
  | done (outcome : Except Fault α)
  | perform (effect : Effect) (next : Except Fault effect.Answer → Program α)

namespace Program

variable {α β : Type}

/-- Goes on with the outcome, whatever it is. -/
def andThen (p : Program α) (f : Except Fault α → Program β) : Program β :=
  match p with
  | .done outcome => f outcome
  | .perform effect next => .perform effect fun answer => (next answer).andThen f

def bind (p : Program α) (f : α → Program β) : Program β :=
  p.andThen fun
    | .ok a => f a
    | .error fault => .done (.error fault)

instance : Monad Program where
  pure a := .done (.ok a)
  bind := bind

def fail (fault : Fault) : Program α := .done (.error fault)

def refuse (f : Failure) : Program α := fail (.failure f)

/-- Handles errors; cancellation is passed on. -/
def handle (p : Program α) (h : Fault → Program α) : Program α :=
  p.andThen fun
    | .ok a => .done (.ok a)
    | .error fault => if fault.isError then h fault else .done (.error fault)

/-- Changes the fault that the program ends with, if it does. -/
def mapFault (f : Fault → Fault) (p : Program α) : Program α :=
  p.andThen fun outcome => .done (outcome.mapError f)

def effect (e : Effect) : Program e.Answer := .perform e .done

def call (op : Operation) (q : StoreCall) : Program q.Answer :=
  (effect (.store q)).mapFault op.wrap

def ask (systemPrompt userPrompt : String) : Program (Option String) :=
  effect (.ask systemPrompt userPrompt)

/-- Runs a program while holding the lock of a key, which is given back however the program ends. -/
def holding (key : String) (p : Program α) : Program α :=
  .perform (.acquire key) fun
    | .error fault => .done (.error fault)
    | .ok () => p.andThen fun outcome => .perform (.release key) fun _ => .done outcome

/-- Runs programs one after another, each to its end; of their faults the first counts. -/
def inTurn : List (Program α) → Program (List α)
  | [] => .done (.ok [])
  | p :: rest =>
    p.andThen fun outcome =>
      (inTurn rest).andThen fun others =>
        .done (outcome.bind fun a => others.map (a :: ·))

def ofExcept (r : Except Fault α) : Program α := .done r

/-- What a reading gives; violations end the program. -/
def ofValidation (v : Validation α) : Program α := .done (v.toExcept.mapError .invalid)

end Program

end Shortlist
