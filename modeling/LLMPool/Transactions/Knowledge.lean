import LLMPool.Transactions.Paths

/-! What a program knows: it can only draw on what the replies to its earlier calls have told it. To
check a program, assume that its replies tell facts of some set; whatever the set is, it is enough. -/
namespace Transactions
variable {E : Engine} {κ : Type}

/-- The facts that calls tell, and the facts that have to be known to make one. -/
structure Knowledge (E : Engine) (κ : Type) where
  tells : Call E → κ → Prop
  needs : Op E → (κ → Prop) → Prop

/-- What the calls so far have told. -/
def Knowledge.known (J : Knowledge E κ) (calls : List (Call E)) (fact : κ) : Prop :=
  ∃ call ∈ calls, J.tells call fact

/-- As long as the replies tell nothing else, the facts of `K` are enough for every call, and the value
that is returned satisfies `Q`. -/
def Prog.Within (J : Knowledge E κ) (K : κ → Prop) (Q : α → Prop) : Prog E α → Prop
  | .done value => Q value
  | .call op next => J.needs op K ∧
      ∀ reply, (∀ fact, J.tells ⟨op, reply⟩ fact → K fact) → (next reply).Within J K Q

variable {J : Knowledge E κ} {K : κ → Prop}

theorem within_bind {M : α → Prop} {Q : β → Prop} {p : Prog E α} {f : α → Prog E β} (first : p.Within J K M)
    (rest : ∀ value, M value → (f value).Within J K Q) : (p >>= f).Within J K Q := by
  change (p.bind f).Within J K Q
  induction p with
  | done value => exact rest value first
  | call op next ih => exact ⟨first.1, fun reply told => ih reply (first.2 reply told)⟩

theorem within_run_bind {M : Except ε α → Prop} {Q : Except ε β → Prop} {x : ExceptT ε (Prog E) α}
    {f : α → ExceptT ε (Prog E) β} (first : x.run.Within J K M)
    (rest : ∀ value, M (.ok value) → (f value).run.Within J K Q) (stops : ∀ e, M (.error e) → Q (.error e)) :
    (x >>= f).run.Within J K Q := by
  rw [ExceptT.run_bind]
  refine within_bind first ?_
  rintro (e | value) middle
  · exact stops e middle
  · exact rest value middle

theorem within_op {op : Op E} {Q : Except Failure op.Reply → Prop} (needs : J.needs op K)
    (answered : ∀ reply, (∀ fact, J.tells ⟨op, reply⟩ fact → K fact) → Q reply) : (Prog.op op).Within J K Q :=
  ⟨needs, answered⟩

/-- Whatever was needed for a call had been told by then. -/
theorem path_of_within {Q : (κ → Prop) → α → Prop} {p : Prog E α} {calls : List (Call E)}
    (within : ∀ K, p.Within J K (Q K)) :
    p.path (fun later op => J.needs op (J.known later)) (fun value later => Q (J.known later) value) calls := by
  have above : ∀ calls, (∀ K : κ → Prop, (∀ fact, J.known calls fact → K fact) → p.Within J K (Q K)) →
      p.path (fun later op => J.needs op (J.known later)) (fun value later => Q (J.known later) value) calls := by
    clear within
    induction p with
    | done value => exact fun calls within => within _ (fun _ known => known)
    | call op next ih =>
        intro calls within
        refine ⟨(within _ (fun _ known => known)).1, fun reply _ => ih reply _ (fun K covers => ?_)⟩
        have before : ∀ fact, J.known calls fact → K fact := fun fact ⟨call, member, told⟩ =>
          covers fact ⟨call, List.mem_cons_of_mem _ member, told⟩
        exact (within K before).2 reply (fun fact told => covers fact ⟨_, List.mem_cons_self, told⟩)
  exact above calls (fun K _ => within K)

end Transactions
