import Mathlib.Logic.Function.Basic

/-! Programs that talk to a transactional database: what an engine offers, the
calls a program makes, and the transaction its own calls have left open. -/
namespace Transactions

/-- Why a call failed: a unique index refused it, the infrastructure did, or an
earlier statement had already failed in the same transaction. -/
inductive Failure where
  | conflict
  | fault
  | aborted
  deriving DecidableEq

/-- `exec` answers a statement on the rows it sees (`none` is a unique
violation). Its writes and row locks are read off the answer, and last until the
transaction ends. `same l` says that what `l` guards is the same in two databases. -/
structure Engine where
  Db : Type
  World : Type
  Env : Type
  Stmt : Type
  Answer : Stmt → Type
  Write : Type
  Lock : Type
  Remote : Type
  Reply : Remote → Type
  possible : Stmt → Env → Db → Bool
  exec : (s : Stmt) → Env → Db → Option (Answer s)
  writes : (s : Stmt) → Answer s → List Write
  locks : (s : Stmt) → Answer s → List Lock
  apply : Write → Db → Db
  touches : Write → List Lock
  remote : (c : Remote) → Env → World → Reply c × World
  same : Lock → Db → Db → Prop
  same_refl : ∀ l db, same l db db
  same_trans : ∀ l first second third, same l first second → same l second third → same l first third
  covered : ∀ s answer, ∀ w ∈ writes s answer, ∀ l ∈ touches w, l ∈ locks s answer
  apply_same : ∀ w l db, l ∉ touches w → same l db (apply w db)

variable {E : Engine}

def Engine.applyAll (E : Engine) (writes : List E.Write) (db : E.Db) : E.Db :=
  writes.foldl (fun db w => E.apply w db) db

@[simp] theorem Engine.applyAll_nil (db : E.Db) : E.applyAll [] db = db := rfl

@[simp] theorem Engine.applyAll_cons (w : E.Write) (ws : List E.Write) (db : E.Db) :
    E.applyAll (w :: ws) db = E.applyAll ws (E.apply w db) := rfl

theorem Engine.applyAll_append (older newer : List E.Write) (db : E.Db) :
    E.applyAll (older ++ newer) db = E.applyAll newer (E.applyAll older db) :=
  List.foldl_append

theorem Engine.applyAll_same {l : E.Lock} (writes : List E.Write) (db : E.Db)
    (apart : ∀ w ∈ writes, l ∉ E.touches w) : E.same l db (E.applyAll writes db) := by
  induction writes generalizing db with
  | nil => exact E.same_refl l db
  | cons w ws ih =>
      have first := E.apply_same w l db (apart w List.mem_cons_self)
      have rest := ih (E.apply w db) (fun v member => apart v (List.mem_cons_of_mem _ member))
      exact E.same_trans l _ _ _ first rest

/-- `auto` is a statement on the pool: a transaction of its own. `remote` is a
call to anything but the database. -/
inductive Op (E : Engine) where
  | begin
  | sql (s : E.Stmt)
  | commit
  | auto (s : E.Stmt)
  | remote (c : E.Remote)

@[reducible] def Op.Reply : Op E → Type
  | .begin => Unit
  | .sql s => E.Answer s
  | .commit => Unit
  | .auto s => E.Answer s
  | .remote c => E.Reply c

inductive Prog (E : Engine) (α : Type) where
  | done (value : α)
  | call (op : Op E) (next : Except Failure op.Reply → Prog E α)

namespace Prog

def bind : Prog E α → (α → Prog E β) → Prog E β
  | .done value, f => f value
  | .call op next, f => .call op (fun reply => (next reply).bind f)

instance : Monad (Prog E) where
  pure := .done
  bind := bind

theorem bind_done (p : Prog E α) : p.bind .done = p := by
  induction p with
  | done value => rfl
  | call op next ih => exact congrArg (Prog.call op) (funext ih)

theorem bind_bind (p : Prog E α) (f : α → Prog E β) (g : β → Prog E γ) :
    (p.bind f).bind g = p.bind (fun value => (f value).bind g) := by
  induction p with
  | done value => rfl
  | call op next ih => exact congrArg (Prog.call op) (funext ih)

instance : LawfulMonad (Prog E) :=
  .mk' (Prog E) (fun p => bind_done p) (fun _ _ => rfl) bind_bind

def op (op : Op E) : Prog E (Except Failure op.Reply) := .call op .done

def begin : Prog E (Except Failure Unit) := op .begin
def sql (s : E.Stmt) : Prog E (Except Failure (E.Answer s)) := op (.sql s)
def commit : Prog E (Except Failure Unit) := op .commit
def auto (s : E.Stmt) : Prog E (Except Failure (E.Answer s)) := op (.auto s)
def remote (c : E.Remote) : Prog E (Except Failure (E.Reply c)) := op (.remote c)

end Prog

structure Call (E : Engine) where
  op : Op E
  reply : Except Failure op.Reply

/-- The transaction that a program's calls have left open. -/
structure Session (E : Engine) where
  isOpen : Bool
  failed : Bool
  writes : List E.Write
  held : List E.Lock

namespace Session

def idle : Session E := ⟨false, false, [], []⟩

/-- A failed statement leaves the transaction aborted: it stays open, and keeps
its locks, until it ends. -/
def after (t : Session E) : Call E → Session E
  | ⟨.begin, .ok _⟩ => ⟨true, false, [], []⟩
  | ⟨.sql s, .ok answer⟩ =>
      { t with writes := t.writes ++ E.writes s answer, held := t.held ++ E.locks s answer }
  | ⟨.sql _, .error _⟩ => { t with failed := true }
  | ⟨.commit, _⟩ => idle
  | _ => t

def view (t : Session E) (db : E.Db) : E.Db := E.applyAll t.writes db

end Session

/-- The session after a program's calls, newest first. -/
def session : List (Call E) → Session E
  | [] => .idle
  | call :: older => (session older).after call

@[simp] theorem session_begin (calls : List (Call E)) :
    session (⟨.begin, .ok ()⟩ :: calls) = ⟨true, false, [], []⟩ := rfl

theorem session_answered {s : E.Stmt} (answer : E.Answer s) (calls : List (Call E)) :
    session (⟨.sql s, .ok answer⟩ :: calls) =
      { session calls with
        writes := (session calls).writes ++ E.writes s answer
        held := (session calls).held ++ E.locks s answer } := rfl

theorem session_refused {s : E.Stmt} (reason : Failure) (calls : List (Call E)) :
    session (⟨.sql s, .error reason⟩ :: calls) = { session calls with failed := true } := rfl

namespace Op

/-- What a call makes permanent. Committing an aborted transaction is a rollback
that reports success. -/
def commits (t : Session E) : (op : Op E) → Except Failure op.Reply → List E.Write
  | .commit, .ok _ => if t.failed then [] else t.writes
  | .auto s, .ok answer => E.writes s answer
  | _, _ => []

end Op

/-- Everything that a program's calls have made permanent. -/
def permanent : List (Call E) → List E.Write
  | [] => []
  | call :: older => permanent older ++ call.op.commits (session older) call.reply

theorem permanent_begin (reply : Except Failure Unit) (calls : List (Call E)) :
    permanent (⟨.begin, reply⟩ :: calls) = permanent calls := by
  cases reply <;> exact List.append_nil _

theorem permanent_sql {s : E.Stmt} (reply : Except Failure (E.Answer s)) (calls : List (Call E)) :
    permanent (⟨.sql s, reply⟩ :: calls) = permanent calls := by
  cases reply <;> exact List.append_nil _

theorem permanent_remote {c : E.Remote} (reply : Except Failure (E.Reply c)) (calls : List (Call E)) :
    permanent (⟨.remote c, reply⟩ :: calls) = permanent calls := by
  cases reply <;> exact List.append_nil _

theorem permanent_auto {s : E.Stmt} (answer : E.Answer s) (calls : List (Call E)) :
    permanent (⟨.auto s, .ok answer⟩ :: calls) = permanent calls ++ E.writes s answer := rfl

theorem permanent_auto_refused {s : E.Stmt} (reason : Failure) (calls : List (Call E)) :
    permanent (⟨.auto s, .error reason⟩ :: calls) = permanent calls := List.append_nil _

theorem permanent_suffix {older calls : List (Call E)} (suffix : older <:+ calls) :
    permanent older ⊆ permanent calls := by
  obtain ⟨newer, rfl⟩ := suffix
  induction newer with
  | nil => exact List.Subset.refl _
  | cons call rest ih => exact List.Subset.trans ih (List.subset_append_left _ _)

/-- What is made permanent was answered to one of the program's statements. -/
theorem mem_session_writes {w : E.Write} {calls : List (Call E)} (member : w ∈ (session calls).writes) :
    ∃ s answer, (⟨.sql s, .ok answer⟩ : Call E) ∈ calls ∧ w ∈ E.writes s answer := by
  induction calls with
  | nil => cases member
  | cons call older ih =>
      obtain ⟨op, reply⟩ := call
      have kept : w ∈ (session older).writes →
          ∃ s answer, (⟨.sql s, .ok answer⟩ : Call E) ∈ ⟨op, reply⟩ :: older ∧ w ∈ E.writes s answer := by
        intro member
        obtain ⟨s, answer, inside, wrote⟩ := ih member
        exact ⟨s, answer, List.mem_cons_of_mem _ inside, wrote⟩
      cases op <;> cases reply <;> simp only [session, Session.after, Session.idle,
        List.not_mem_nil, List.mem_append] at member
      case sql.ok s answer =>
        rcases member with before | now
        · exact kept before
        · exact ⟨s, answer, List.mem_cons_self, now⟩
      all_goals exact kept member

theorem mem_permanent {w : E.Write} {calls : List (Call E)} (member : w ∈ permanent calls) :
    ∃ s answer, ((⟨.sql s, .ok answer⟩ : Call E) ∈ calls ∨ (⟨.auto s, .ok answer⟩ : Call E) ∈ calls) ∧
      w ∈ E.writes s answer := by
  induction calls with
  | nil => cases member
  | cons call older ih =>
      rcases List.mem_append.mp member with before | now
      · obtain ⟨s, answer, inside, wrote⟩ := ih before
        exact ⟨s, answer, inside.imp (List.mem_cons_of_mem _) (List.mem_cons_of_mem _), wrote⟩
      · obtain ⟨op, reply⟩ := call
        cases op <;> cases reply <;> simp only [Op.commits, List.not_mem_nil] at now
        case commit.ok =>
          split at now
          · cases now
          · obtain ⟨s, answer, inside, wrote⟩ := mem_session_writes now
            exact ⟨s, answer, .inl (List.mem_cons_of_mem _ inside), wrote⟩
        case auto.ok s answer => exact ⟨s, answer, .inr List.mem_cons_self, now⟩

/-- What is permanent was written by a statement on the pool, or by a transaction that was committed. -/
theorem permanent_cases {w : E.Write} {calls : List (Call E)} (member : w ∈ permanent calls) :
    (∃ s answer, (⟨.auto s, .ok answer⟩ : Call E) ∈ calls ∧ w ∈ E.writes s answer) ∨
      ∃ older, (⟨.commit, .ok ()⟩ : Call E) :: older <:+ calls ∧ (session older).failed = false ∧
        w ∈ (session older).writes := by
  induction calls with
  | nil => cases member
  | cons call older ih =>
      rcases List.mem_append.mp member with before | now
      · refine (ih before).imp ?_ ?_
        · rintro ⟨s, answer, inside, wrote⟩
          exact ⟨s, answer, List.mem_cons_of_mem _ inside, wrote⟩
        · rintro ⟨earlier, inside, committed⟩
          exact ⟨earlier, inside.trans (List.suffix_cons _ _), committed⟩
      · obtain ⟨op, reply⟩ := call
        cases op <;> cases reply <;> simp only [Op.commits, List.not_mem_nil] at now
        case commit.ok =>
          split at now
          · cases now
          · rename_i sound
            exact .inr ⟨older, List.suffix_rfl, Bool.eq_false_iff.mpr sound, now⟩
        case auto.ok s answer => exact .inl ⟨s, answer, List.mem_cons_self, now⟩

namespace Op

/-- The row locks that a call waits for. -/
def takes : (op : Op E) → Except Failure op.Reply → List E.Lock
  | .sql s, .ok answer => E.locks s answer
  | .auto s, .ok answer => E.locks s answer
  | _, _ => []

theorem commits_begin (t : Session E) (reply : Except Failure Unit) :
    commits t .begin reply = [] := by
  cases reply <;> rfl

theorem commits_sql {s : E.Stmt} (t : Session E) (reply : Except Failure (E.Answer s)) :
    commits t (.sql s) reply = [] := by
  cases reply <;> rfl

theorem commits_remote {c : E.Remote} (t : Session E) (reply : Except Failure (E.Reply c)) :
    commits t (.remote c) reply = [] := by
  cases reply <;> rfl

/-- The writes that a call adds to its transaction. -/
def offers : (op : Op E) → Except Failure op.Reply → List E.Write
  | .sql s, .ok answer => E.writes s answer
  | .auto s, .ok answer => E.writes s answer
  | _, _ => []

theorem mem_commits {w : E.Write} {t : Session E} {op : Op E} {reply : Except Failure op.Reply}
    (member : w ∈ op.commits t reply) : w ∈ t.writes ∨ w ∈ op.offers reply := by
  cases op <;> cases reply <;> simp only [commits, List.not_mem_nil] at member
  case commit.ok =>
    split at member
    · cases member
    · exact .inl member
  case auto.ok => exact .inr member

theorem mem_after {w : E.Write} {t : Session E} {op : Op E} {reply : Except Failure op.Reply}
    (member : w ∈ (t.after ⟨op, reply⟩).writes) : w ∈ t.writes ∨ w ∈ op.offers reply := by
  cases op <;> cases reply <;> simp only [Session.after, Session.idle, List.not_mem_nil,
    List.mem_append] at member
  case sql.ok => exact member
  all_goals exact .inl member

def answer (s : E.Stmt) (env : E.Env) (db : E.Db) : Option (Except Failure (E.Answer s)) :=
  if E.possible s env db then
    match E.exec s env db with
    | some answer => some (.ok answer)
    | none => some (.error .conflict)
  else none

/-- The reply of a call that the infrastructure lets through; `none` where no
such call can happen, because the environment offers what cannot be drawn. -/
def perform (env : E.Env) (t : Session E) (db : E.Db) (world : E.World) :
    (op : Op E) → Option (Except Failure op.Reply)
  | .begin => some (.ok ())
  | .sql s =>
      if t.isOpen && !t.failed then answer s env (t.view db) else some (.error .aborted)
  | .commit => some (.ok ())
  | .auto s => answer s env db
  | .remote c => some (.ok (E.remote c env world).1)

def moves (env : E.Env) (world : E.World) : Op E → E.World
  | .remote c => (E.remote c env world).2
  | _ => world

theorem answer_ok {a : E.Answer s} (answered : answer s env db = some (.ok a)) :
    E.possible s env db = true ∧ E.exec s env db = some a := by
  unfold answer at answered
  split at answered
  · rename_i possible
    split at answered
    · cases answered
      exact ⟨possible, ‹_›⟩
    · cases answered
  · cases answered

theorem answer_error {s : E.Stmt} (answered : answer s env db = some (.error reason)) :
    reason = .conflict ∧ E.possible s env db = true ∧ E.exec s env db = none := by
  unfold answer at answered
  split at answered
  · rename_i possible
    split at answered
    · cases answered
    · cases answered
      exact ⟨rfl, possible, ‹_›⟩
  · cases answered

/-- A statement is executed in an open transaction that has not failed, on what
that transaction sees; in any other it answers with an error. -/
theorem perform_sql {t : Session E} (performed : perform env t db world (.sql s) = some reply) :
    t.isOpen = true ∧ t.failed = false ∧ answer s env (t.view db) = some reply ∨
      ¬(t.isOpen = true ∧ t.failed = false) ∧ reply = .error .aborted := by
  simp only [perform] at performed
  split at performed
  · rename_i running
    simp only [Bool.and_eq_true, Bool.not_eq_true'] at running
    exact .inl ⟨running.1, running.2, performed⟩
  · rename_i stopped
    simp only [Bool.and_eq_true, Bool.not_eq_true'] at stopped
    cases performed
    exact .inr ⟨stopped, rfl⟩

end Op
end Transactions
