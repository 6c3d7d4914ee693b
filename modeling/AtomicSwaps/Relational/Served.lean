import AtomicSwaps.Transition.Run

namespace Relational

open Transition

variable {Db Call Reply ε : Type}

/-- A call served by one serialised transaction. Its process may end before the commit, which undoes
    the transaction, or after it and before the answer. -/
inductive Served (perform : Db → Call → Except ε (Reply × Db)) (db : Db) :
    Call × Option (Except ε Reply) → Db → Prop
  | committed {call : Call} {reply : Reply} {next : Db} (performed : perform db call = .ok (reply, next)) :
      Served perform db (call, some (.ok reply)) next
  | refused {call : Call} {error : ε} (performed : perform db call = .error error) :
      Served perform db (call, some (.error error)) db
  | crashed {call : Call} : Served perform db (call, none) db
  | unanswered {call : Call} {reply : Reply} {next : Db} (performed : perform db call = .ok (reply, next)) :
      Served perform db (call, none) next

variable {perform : Db → Call → Except ε (Reply × Db)} {start db next : Db}
  {event : Call × Option (Except ε Reply)} {history : List (Call × Option (Except ε Reply))}

theorem Served.cases_db (served : Served perform db event next) :
    next = db ∨ ∃ reply, perform db event.1 = .ok (reply, next) ∧
      (event.2 = none ∨ event.2 = some (.ok reply)) := by
  cases served with
  | committed performed => exact .inr ⟨_, performed, .inr rfl⟩
  | refused performed => exact .inl rfl
  | crashed => exact .inl rfl
  | unanswered performed => exact .inr ⟨_, performed, .inl rfl⟩

theorem Served.answer {reply : Reply} (served : Served perform db event next)
    (answered : event.2 = some (.ok reply)) : perform db event.1 = .ok (reply, next) := by
  cases served with
  | committed performed =>
    cases answered
    exact performed
  | refused performed => cases answered
  | crashed => cases answered
  | unanswered performed => cases answered

theorem Served.refusal {error : ε} (served : Served perform db event next)
    (answered : event.2 = some (.error error)) : perform db event.1 = .error error ∧ next = db := by
  cases served with
  | committed performed => cases answered
  | refused performed =>
    cases answered
    exact ⟨performed, rfl⟩
  | crashed => cases answered
  | unanswered performed => cases answered

def serve (perform : Db → Call → Except ε (Reply × Db)) (db : Db) (call : Call) :
    Db × (Call × Option (Except ε Reply)) :=
  match perform db call with
  | .ok (reply, next) => (next, call, some (.ok reply))
  | .error error => (db, call, some (.error error))

theorem serve_served (perform : Db → Call → Except ε (Reply × Db)) (db : Db) (call : Call) :
    Served perform db (serve perform db call).2 (serve perform db call).1 := by
  unfold serve
  split
  · rename_i performed
    exact .committed performed
  · rename_i performed
    exact .refused performed

end Relational
