import LLMPool.Transactions.Paths

/-! Programs that run after others in one process: what holds of the calls of a program that starts
afresh holds of them after any calls that have left no transaction open. -/
namespace Transactions
variable {E : Engine} {own older : List (Call E)}

theorem session_append (idle : session older = .idle) : session (own ++ older) = session own := by
  induction own with
  | nil => exact idle
  | cons call own ih => exact congrArg (fun t => t.after call) ih

theorem permanent_append (idle : session older = .idle) :
    permanent (own ++ older) = permanent older ++ permanent own := by
  induction own with
  | nil => exact (List.append_nil _).symm
  | cons call own ih =>
      change permanent (own ++ older) ++ call.op.commits (session (own ++ older)) call.reply = _
      rw [ih, session_append idle, List.append_assoc]
      rfl

/-- A program makes its calls after those before it as it makes them by itself. -/
theorem path_after {P : List (Call E) → Op E → Prop} {Q : α → List (Call E) → Prop} {p : Prog E α}
    (idle : session older = .idle) (path : p.path P Q own) :
    p.path (fun later op => ∃ own, later = own ++ older ∧ P own op)
      (fun value later => ∃ own, later = own ++ older ∧ Q value own) (own ++ older) := by
  induction p generalizing own with
  | done value => exact ⟨own, rfl, path⟩
  | call op next ih =>
      refine ⟨⟨own, rfl, path.1⟩, fun reply sensible => ?_⟩
      rw [session_append idle] at sensible
      exact ih reply (path.2 reply sensible)

theorem session_pooled {calls : List (Call E)} (pooled : ∀ call ∈ calls, call.op.Pooled) : session calls = .idle := by
  induction calls with
  | nil => rfl
  | cons call older ih =>
      have idle := ih (fun c member => pooled c (List.mem_cons_of_mem _ member))
      have outside := pooled call List.mem_cons_self
      obtain ⟨op, reply⟩ := call
      cases op with
      | auto s => cases reply <;> exact idle
      | remote c => cases reply <;> exact idle
      | begin | sql | commit => exact absurd outside id

/-- What a program may call is known of the calls before each of its calls. -/
theorem path_noting {A : Op E → Prop} {P : List (Call E) → Op E → Prop} {Q : α → List (Call E) → Prop} {p : Prog E α}
    {calls : List (Call E)} (noted : ∀ call ∈ calls, A call.op)
    (path : p.path (fun later op => A op ∧ ((∀ call ∈ later, A call.op) → P later op)) Q calls) :
    p.path P (fun value later => (∀ call ∈ later, A call.op) ∧ Q value later) calls := by
  induction p generalizing calls with
  | done value => exact ⟨noted, path⟩
  | call op next ih =>
      refine ⟨path.1.2 noted, fun reply sensible => ih reply ?_ (path.2 reply sensible)⟩
      intro call member
      rcases List.mem_cons.mp member with rfl | earlier
      · exact path.1.1
      · exact noted call earlier

end Transactions
