import Shortlist.Lock.Keyed

/-! # Workers

Workers that enter a key, wait for its lock, and stay inside until they are told to end. A lock is
served in the order of arrival. What a waiting worker is told is done when it gets the lock; a
cancelled worker leaves at once.
-/

namespace Shortlist

inductive WorkerPhase where
  | waiting
  | holding
  | done
  | failed
  | cancelled
deriving DecidableEq, Repr

def WorkerPhase.name : WorkerPhase → String
  | .waiting => "waiting"
  | .holding => "holding"
  | .done => "done"
  | .failed => "failed"
  | .cancelled => "cancelled"

/-- Holding or waiting. -/
def WorkerPhase.isInside : WorkerPhase → Bool
  | .waiting => true
  | .holding => true
  | _ => false

structure Worker where
  name : String
  key : String
  lock : LockId
  phase : WorkerPhase
  /-- How the worker was told to end. -/
  ending : Option WorkerPhase
deriving Repr

structure Workplace where
  keyed : KeyedLock
  workers : List Worker
deriving Repr

inductive WorkerOrder where
  | start (key : String)
  | finish
  | fail
  | cancel
deriving DecidableEq, Repr

namespace Workplace

def empty : Workplace := ⟨.empty, []⟩

/-- Who holds a lock: of those inside, the first to arrive. -/
def holder? (ws : List Worker) (lock : LockId) : Option Worker :=
  ws.find? fun w => w.lock = lock && w.phase.isInside

/-- Lets everybody hold the lock who is first for it. -/
def promote (ws : List Worker) : List Worker :=
  ws.map fun w =>
    if w.phase = .waiting && (holder? ws w.lock).any (·.name == w.name) then
      { w with phase := .holding }
    else w

def change (name : String) (f : Worker → Worker) (ws : List Worker) : List Worker :=
  ws.map fun w => if w.name = name then f w else w

def depart (p : Workplace) (w : Worker) (phase : WorkerPhase) : Workplace :=
  { keyed := p.keyed.leave w.key
    workers := change w.name ({ · with phase := phase }) p.workers }

/-- Serves the locks until nobody can go on; every round but the last ends a worker. -/
def settle : (rounds : Nat) → Workplace → Workplace
  | 0, p => p
  | rounds + 1, p =>
    let p := { p with workers := promote p.workers }
    match p.workers.find? fun w => w.phase = .holding && w.ending.isSome with
    | some w => settle rounds (p.depart w (w.ending.getD .done))
    | none => p

def tell (p : Workplace) (name : String) (phase : WorkerPhase) : Workplace :=
  { p with workers := change name ({ · with ending := some phase }) p.workers }

/-- What an order changes at once. -/
def obey (p : Workplace) (name : String) : WorkerOrder → Workplace
  | .start key =>
    let (lock, keyed) := p.keyed.enter key
    { keyed, workers := p.workers.filter (·.name ≠ name) ++ [⟨name, key, lock, .waiting, none⟩] }
  | .finish => p.tell name .done
  | .fail => p.tell name .failed
  | .cancel =>
    match p.workers.find? fun w => w.name = name && w.phase.isInside with
    | some w => p.depart w .cancelled
    | none => p

/-- Gives an order and lets everything run until nobody can go on. -/
def step (p : Workplace) (name : String) (order : WorkerOrder) : Workplace :=
  let p := p.obey name order
  settle (p.workers.length + 1) p

end Workplace

end Shortlist
