import LLMPool.Transactions.Sequence

/-! Programs whose calls are answered as they are, whatever has answered them: what such
a program returns. -/
namespace Transactions
variable {E : Engine} {answer : (op : Op E) → Except Failure op.Reply}

def Prog.given (answer : (op : Op E) → Except Failure op.Reply) : Prog E α → α
  | .done value => value
  | .call op next => (next (answer op)).given answer

theorem given_bind {p : Prog E α} {f : α → Prog E β} :
    (p >>= f).given answer = (f (p.given answer)).given answer := by
  change (p.bind f).given answer = _
  induction p with
  | done value => rfl
  | call op next ih => exact ih _

theorem given_auto {s : E.Stmt} : (Prog.auto s).given answer = answer (.auto s) := rfl

theorem given_remote {c : E.Remote} : (Prog.remote c).given answer = answer (.remote c) := rfl

theorem Prog.Runs.calls_suffix {p : Prog E α} {faults : Op E → Prop} {m m' : Solo E}
    (runs : p.Runs faults m value m') : m.calls <:+ m'.calls := by
  induction runs with
  | done => exact List.suffix_rfl
  | call env performed _ ih => exact (List.suffix_cons _ _).trans ih
  | fault faulty _ ih => exact (List.suffix_cons _ _).trans ih

/-- Whatever a program yields, it has run to. -/
theorem yields_runs {p : Prog E α} {faults : Op E → Prop} {m : Solo E} :
    p.yields faults (fun value m' => p.Runs faults m value m') m := by
  induction p generalizing m with
  | done value => exact .done
  | call op next ih =>
      exact ⟨fun env reply performed => yields_mono (fun _ _ rest => .call env performed rest) (ih reply),
        fun faulty => yields_mono (fun _ _ rest => .fault faulty rest) (ih _)⟩

/-- A run returns what its program returns with the answers that the run was given. -/
theorem Prog.Runs.given {p : Prog E α} {faults : Op E → Prop} {m m' : Solo E}
    (runs : p.Runs faults m value m') (answered : ∀ call ∈ m'.calls, call.reply = answer call.op) :
    p.given answer = value := by
  induction runs with
  | done => rfl
  | call env performed rest ih =>
      have here := answered _ (rest.calls_suffix.subset List.mem_cons_self)
      rw [Prog.given, ← here]
      exact ih answered
  | fault faulty rest ih =>
      have here := answered _ (rest.calls_suffix.subset List.mem_cons_self)
      rw [Prog.given, ← here]
      exact ih answered

end Transactions
