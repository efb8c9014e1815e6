import LLMPool.Billing.SessionRows
import LLMPool.Views.SessionEvents
import Mathlib.Logic.Function.Basic

/-! Event transactions next to a client that follows the cursor. An `INSERT` draws its id from
the sequence before it takes its place in the unique index, and its row is visible from the
commit on. -/
namespace LLMPool.SessionEvents
open Relational Transactions AdminRestApi

/-- What a worker's transaction has done of its insert. -/
inductive Work where
  | idle
  | drawn (id : Int) (new : NewSessionEvent)
  | written (e : SessionEvent)

structure State (ι : Type) where
  rows : Table SessionEvent
  nextId : Int
  work : ι → Work
  cursor : Int
  returned : List SessionEvent

inductive Turn (ι : Type) where
  | draw (i : ι) (new : NewSessionEvent)
  | write (i : ι)
  | commit (i : ι)
  | abort (i : ι)
  | poll (count : Int) (fault : Option SqlxError)

section System
variable {ι : Type} [DecidableEq ι]

def State.setWork (s : State ι) (i : ι) (w : Work) : State ι := { s with work := Function.update s.work i w }

def State.query (s : State ι) (fault : Option SqlxError) (session : Option String) (start count : Int) :
    Except SqlxError (List SessionEvent) :=
  match fault with
  | some e => .error e
  | none => listSessionEventsCursor s.rows session start count

/-- The client goes on from the page it gets; a failed request it makes again. -/
def State.received (s : State ι) : Billing.AdminRestApi.Response (CursorResponse SessionEvent) → State ι
  | .success _ page => { s with cursor := page.nextId, returned := s.returned ++ page.data }
  | .error _ _ _ => s

/-- A row under a place that another transaction has written to is waited for. -/
inductive Step (session : Option String) : State ι → Turn ι → State ι → Prop where
  | draw {s : State ι} (i : ι) (new : NewSessionEvent) (idle : s.work i = .idle) :
      Step session s (.draw i new) { s.setWork i (.drawn s.nextId new) with nextId := s.nextId + 1 }
  | write {s : State ι} {id : Int} {new : NewSessionEvent} (i : ι) (drawn : s.work i = .drawn id new)
      (unlocked : ∀ j e, s.work j = .written e → index e ≠ (new.sessionId, new.sessionIndex)) :
      Step session s (.write i) (s.setWork i (.written (upserted s.rows new id)))
  | commit {s : State ι} {e : SessionEvent} (i : ι) (written : s.work i = .written e) :
      Step session s (.commit i) { s.setWork i .idle with rows := putSessionEvent s.rows e }
  | abort {s : State ι} (i : ι) : Step session s (.abort i) (s.setWork i .idle)
  | poll {s : State ι} (count : Int) (fault : Option SqlxError) :
      Step session s (.poll count fault) (s.received (listSessionEvents (s.query fault) ⟨session, s.cursor, count⟩))

/-- The states of the runs in which every turn is one that `P` admits. -/
inductive Reaches (session : Option String) (P : State ι → Turn ι → Prop) (s₀ : State ι) : State ι → Prop where
  | refl : Reaches session P s₀ s₀
  | step {s s' : State ι} {turn : Turn ι} (before : Reaches session P s₀ s)
      (taken : Step session s turn s') (admitted : P s turn) : Reaches session P s₀ s'

/-- Before the client's first request, and between the transactions. -/
structure Initial (s : State ι) : Prop where
  drawn : ∀ e ∈ s.rows, 0 < e.id ∧ e.id < s.nextId
  positive : 0 < s.nextId
  idle : ∀ i, s.work i = .idle
  cursor : s.cursor = 0
  returned : s.returned = []

/-- Every committed event up to the cursor was returned, and once. -/
def Exact (session : Option String) (s : State ι) : Prop :=
  ∀ e ∈ s.rows, Matches session e → e.id ≤ s.cursor → (s.returned.map SessionEvent.id).count e.id = 1

instance {session : Option String} {s : State ι} : Decidable (Exact session s) :=
  inferInstanceAs (Decidable (∀ e ∈ s.rows.rows, Matches session e → e.id ≤ s.cursor →
    (s.returned.map SessionEvent.id).count e.id = 1))

/-- No event commits behind the cursor. -/
def Timely (session : Option String) (s : State ι) : Turn ι → Prop
  | .commit i => ∀ e, s.work i = .written e → s.rows.find e.id = none → Matches session e → s.cursor < e.id
  | _ => True

end System

section Sequence
variable {ι : Type}

/-- The id that a transaction's insert holds. -/
def Work.held : Work → Option Int
  | .idle => none
  | .drawn id _ => some id
  | .written e => some e.id

/-- The place in the unique index that it has written to. -/
def Work.locked : Work → Option (String × Int)
  | .written e => some (index e)
  | _ => none

def Work.Apart (w w' : Work) : Prop :=
  (∀ id, w.held = some id → w'.held ≠ some id) ∧ ∀ u, w.locked = some u → w'.locked ≠ some u

theorem Work.Apart.symm {w w' : Work} (apart : w.Apart w') : w'.Apart w :=
  ⟨fun id held other => apart.1 id other held, fun u locked other => apart.2 u other locked⟩

theorem Work.idle_apart (w : Work) : Work.idle.Apart w := by
  constructor
  · intro id held
    cases held
  · intro u locked
    cases locked

/-- What an insert holds was drawn; it is new to the table, or the row that the table has. -/
def Work.Good (rows : Table SessionEvent) (nextId : Int) : Work → Prop
  | .idle => True
  | .drawn id _ => (0 < id ∧ id < nextId) ∧ ∀ u, ¬rows.Lists id u
  | .written e => (0 < e.id ∧ e.id < nextId) ∧ rows.Fits e

structure Sound (s : State ι) : Prop where
  positive : 0 < s.nextId
  drawn : ∀ k u, s.rows.Lists k u → 0 < k ∧ k < s.nextId
  good : ∀ i, (s.work i).Good s.rows s.nextId
  apart : ∀ i j, i ≠ j → (s.work i).Apart (s.work j)

variable {s s' s₀ : State ι} {turn : Turn ι} {i : ι} {w : Work}

theorem Initial.sound (initial : Initial s) : Sound s := by
  constructor
  case positive => exact initial.positive
  case drawn =>
    rintro k u ⟨e, member, rfl, _⟩
    exact initial.drawn e member
  case good =>
    intro i
    rw [initial.idle i]
    trivial
  case apart =>
    intro i j _
    rw [initial.idle i]
    exact Work.idle_apart _

variable [DecidableEq ι]

/-- One transaction moves on, and keeps apart from the others. -/
theorem Sound.setWork (sound : Sound s) (good : w.Good s.rows s.nextId)
    (apart : ∀ j, j ≠ i → w.Apart (s.work j)) : Sound (s.setWork i w) := by
  constructor
  case positive => exact sound.positive
  case drawn => exact sound.drawn
  case good =>
    intro j
    by_cases here : j = i
    · subst here
      simpa only [State.setWork, Function.update_self] using good
    · simpa only [State.setWork, Function.update_of_ne here] using sound.good j
  case apart =>
    intro j k distinct
    by_cases here : j = i
    · subst here
      simpa only [State.setWork, Function.update_self, Function.update_of_ne distinct.symm] using
        apart k distinct.symm
    · by_cases there : k = i
      · subst there
        simpa only [State.setWork, Function.update_self, Function.update_of_ne here] using (apart j here).symm
      · simpa only [State.setWork, Function.update_of_ne here, Function.update_of_ne there] using
          sound.apart j k distinct

theorem Sound.abort (sound : Sound s) : Sound (s.setWork i .idle) :=
  sound.setWork trivial (fun _ _ => Work.idle_apart _)

variable {session : Option String} {rows : Table SessionEvent} {nextId k : Int} {u : String × Int} {id : Int}
  {new : NewSessionEvent} {e : SessionEvent}

theorem held_bounds (good : w.Good rows nextId)
    (held : w.held = some k) : 0 < k ∧ k < nextId := by
  cases w with
  | idle => cases held
  | drawn id new =>
      cases held
      exact good.1
  | written e =>
      cases held
      exact good.1

theorem good_later (good : w.Good rows nextId) : w.Good rows (nextId + 1) := by
  cases w with
  | idle => trivial
  | drawn id new => exact ⟨⟨good.1.1, Int.lt_add_one_iff.mpr good.1.2.le⟩, good.2⟩
  | written e => exact ⟨⟨good.1.1, Int.lt_add_one_iff.mpr good.1.2.le⟩, good.2⟩

theorem Sound.draw (sound : Sound s) :
    Sound { s.setWork i (.drawn s.nextId new) with nextId := s.nextId + 1 } := by
  have later : Sound { s with nextId := s.nextId + 1 } := by
    constructor
    case positive => exact Int.lt_add_one_iff.mpr sound.positive.le
    case drawn =>
      intro k u listed
      obtain ⟨positive, below⟩ := sound.drawn k u listed
      exact ⟨positive, Int.lt_add_one_iff.mpr below.le⟩
    case good => exact fun j => good_later (sound.good j)
    case apart => exact sound.apart
  refine later.setWork ⟨⟨sound.positive, Int.lt_succ s.nextId⟩, fun u listed => ?_⟩
    (fun j _ => ⟨fun id held other => ?_, ?_⟩)
  · exact lt_irrefl _ (sound.drawn s.nextId u listed).2
  · cases held
    exact lt_irrefl _ (held_bounds (sound.good j) other).2
  · intro u locked
    cases locked

/-- Only the transaction that updates a row holds its id. -/
theorem locked_of_held (good : w.Good rows nextId) (held : w.held = some k) (listed : rows.Lists k u) :
    w.locked = some u := by
  cases w with
  | idle => cases held
  | drawn id new =>
      cases held
      exact absurd listed (good.2 u)
  | written e =>
      cases held
      exact congrArg some ((good.2 e.id u listed).mp rfl).symm

theorem locked_iff : w.locked = some u ↔ ∃ e, w = .written e ∧ index e = u := by
  cases w with
  | idle => simp only [Work.locked, reduceCtorEq, false_and, exists_false]
  | drawn id new => simp only [Work.locked, reduceCtorEq, false_and, exists_false]
  | written e => simp only [Work.locked, Option.some.injEq, Work.written.injEq, exists_eq_left']

theorem Sound.write (sound : Sound s) (drawn : s.work i = .drawn id new)
    (unlocked : ∀ j e, s.work j = .written e → index e ≠ (new.sessionId, new.sessionIndex)) :
    Sound (s.setWork i (.written (upserted s.rows new id))) := by
  have held : (Work.drawn id new).Good s.rows s.nextId := drawn ▸ sound.good i
  obtain ⟨place, found⟩ := upserted_cases s.rows new id
  generalize upserted s.rows new id = e at place found ⊢
  have free : ∀ j, (s.work j).locked ≠ some (index e) := by
    intro j locked
    obtain ⟨e', written, same⟩ := locked_iff.mp locked
    exact unlocked j e' written (same.trans place)
  rw [← place] at found
  apply sound.setWork
  · rcases found with ⟨kept, absent⟩ | listed
    · have fresh : ∀ u, ¬s.rows.Lists e.id u := kept ▸ held.2
      exact ⟨kept ▸ held.1, Table.fits_of_absent fresh absent⟩
    · exact ⟨sound.drawn _ _ listed, Table.fits_of_listed listed⟩
  · intro j other
    constructor
    · intro k holds taken
      cases holds
      rcases found with ⟨kept, absent⟩ | listed
      · have apart : (Work.drawn id new).Apart (s.work j) := drawn ▸ sound.apart i j other.symm
        exact apart.1 id rfl (kept ▸ taken)
      · exact free j (locked_of_held (sound.good j) taken listed)
    · intro u locked taken
      cases locked
      exact free j taken

/-- What another transaction holds stays good when a row is put. -/
theorem good_put (fits : rows.Fits e) (apart : (Work.written e).Apart w) (good : w.Good rows nextId) :
    w.Good (putSessionEvent rows e) nextId := by
  cases w with
  | idle => trivial
  | drawn id new =>
      refine ⟨good.1, fun u listed => ?_⟩
      rcases (Table.lists_put fits).mp listed with before | ⟨same, _⟩
      · exact good.2 u before
      · exact apart.1 e.id rfl (congrArg some same.symm)
  | written e' =>
      refine ⟨good.1, fun k u listed => ?_⟩
      rcases (Table.lists_put fits).mp listed with before | ⟨rfl, rfl⟩
      · exact good.2 k u before
      · have key_ne : e'.id ≠ e.id := fun same => apart.1 e.id rfl (congrArg some same)
        have index_ne : index e' ≠ index e := fun same => apart.2 (index e) rfl (congrArg some same)
        exact iff_of_false key_ne.symm index_ne.symm

theorem Sound.commit (sound : Sound s) (written : s.work i = .written e) :
    Sound { s.setWork i .idle with rows := putSessionEvent s.rows e } := by
  have held : (Work.written e).Good s.rows s.nextId := written ▸ sound.good i
  have others : ∀ j, j ≠ i → (Work.written e).Apart (s.work j) :=
    fun j other => written ▸ sound.apart i j other.symm
  have lists : ∀ k u, (putSessionEvent s.rows e).Lists k u → s.rows.Lists k u ∨ (e.id = k ∧ index e = u) :=
    fun k u => (Table.lists_put held.2).mp
  have idle : Sound (s.setWork i .idle) := sound.abort
  constructor
  case positive => exact sound.positive
  case drawn =>
    intro k u listed
    rcases lists k u listed with before | ⟨rfl, rfl⟩
    · exact sound.drawn k u before
    · exact held.1
  case good =>
    intro j
    by_cases here : j = i
    · subst here
      simp only [State.setWork, Function.update_self]
      trivial
    · simpa only [State.setWork, Function.update_of_ne here] using good_put held.2 (others j here) (sound.good j)
  case apart => exact idle.apart

theorem Step.sound (sound : Sound s) (taken : Step session s turn s') : Sound s' := by
  cases taken with
  | draw i new idle => exact sound.draw
  | write i drawn unlocked => exact sound.write drawn unlocked
  | commit i written => exact sound.commit written
  | abort i => exact sound.abort
  | poll count fault =>
      unfold State.received
      split
      · exact ⟨sound.positive, sound.drawn, sound.good, sound.apart⟩
      · exact sound

end Sequence

section Client
variable {ι : Type} {s s' s₀ : State ι} {session : Option String} {turn : Turn ι}

/-- What the client has was visible, and it has nothing twice. -/
structure Seen (s : State ι) : Prop where
  natural : 0 ≤ s.cursor
  once : (s.returned.map SessionEvent.id).Nodup
  visible : ∀ e ∈ s.returned, e.id ≤ s.cursor ∧ ∃ u, s.rows.Lists e.id u

theorem Initial.seen (initial : Initial s) : Seen s := by
  constructor
  case natural => exact initial.cursor.ge
  case once =>
    rw [initial.returned]
    exact List.nodup_nil
  case visible =>
    rw [initial.returned]
    intro e member
    cases member

theorem Initial.exact (initial : Initial s) : Exact session s := by
  intro e member _ within
  have positive : 0 < e.id := (initial.drawn e member).1
  rw [initial.cursor] at within
  omega

theorem matches_congr {e e' : SessionEvent} (same : index e = index e') : Matches session e ↔ Matches session e' := by
  cases session with
  | none => exact Iff.rfl
  | some sid =>
      have names : e.sessionId = e'.sessionId := congrArg Prod.fst same
      simp only [Matches, names]

theorem exact_iff (seen : Seen s) : Exact session s ↔
    ∀ k u, s.rows.Lists k u → (∀ e, index e = u → Matches session e) → k ≤ s.cursor →
      k ∈ s.returned.map SessionEvent.id := by
  have counted : ∀ k, (s.returned.map SessionEvent.id).count k = 1 ↔ k ∈ s.returned.map SessionEvent.id := by
    intro k
    constructor
    · exact fun one => List.count_pos_iff.mp (by omega)
    · exact fun member => List.count_eq_one_of_mem seen.once member
  constructor
  · rintro complete k u ⟨e, member, rfl, rfl⟩ wanted within
    exact (counted _).mp (complete e member (wanted e rfl) within)
  · intro listed e member wanted within
    exact (counted _).mpr (listed e.id (index e) (Table.lists_of_mem member)
      (fun e' same => (matches_congr same).mpr wanted) within)

section Page
variable {page : CursorResponse SessionEvent} {status : StatusCode}

theorem Seen.receive (seen : Seen s) (follows : Follows s.rows session s.cursor page) :
    Seen (s.received (.success status page)) := by
  constructor
  case natural => exact seen.natural.trans follows.onward
  case once =>
    simp only [State.received, List.map_append]
    refine List.nodup_append.mpr ⟨seen.once, follows.once, ?_⟩
    rintro k before _ new rfl
    obtain ⟨e, old, rfl⟩ := List.mem_map.mp before
    obtain ⟨e', member, same⟩ := List.mem_map.mp new
    have within : e.id ≤ s.cursor := (seen.visible e old).1
    have beyond : s.cursor < e'.id := ((follows.data e').mp member).1.2.2
    omega
  case visible =>
    intro e member
    rcases List.mem_append.mp member with before | new
    · exact ⟨(seen.visible e before).1.trans follows.onward, (seen.visible e before).2⟩
    · obtain ⟨⟨stored, _⟩, within⟩ := (follows.data e).mp new
      exact ⟨within, index e, Table.lists_of_mem stored⟩

theorem Exact.receive (seen : Seen s) (before : Exact session s) (follows : Follows s.rows session s.cursor page) :
    Exact session (s.received (.success status page)) := by
  refine (exact_iff (seen.receive follows)).mpr ?_
  rintro k u ⟨e, member, rfl, rfl⟩ wanted within
  simp only [State.received, List.map_append, List.mem_append]
  rcases Int.lt_or_le s.cursor e.id with beyond | passed
  · right
    exact List.mem_map_of_mem ((follows.data e).mpr ⟨⟨member, wanted e rfl, beyond⟩, within⟩)
  · left
    exact (exact_iff seen).mp before e.id (index e) (Table.lists_of_mem member) wanted passed

end Page

theorem follows_of_query {fault : Option SqlxError} {params : ListSessionEventsParams}
    {page : CursorResponse SessionEvent} {status : StatusCode} (natural : 0 ≤ params.start)
    (answered : listSessionEvents (s.query fault) params = .success status page) :
    Follows s.rows params.session params.start page := by
  cases fault with
  | none => exact listSessionEvents_follows natural answered
  | some e => cases answered

section Commit
variable [DecidableEq ι] {i : ι} {e : SessionEvent}

theorem Seen.commit (sound : Sound s) (seen : Seen s) (written : s.work i = .written e) :
    Seen { s.setWork i .idle with rows := putSessionEvent s.rows e } := by
  have held : (Work.written e).Good s.rows s.nextId := written ▸ sound.good i
  constructor
  case natural => exact seen.natural
  case once => exact seen.once
  case visible =>
    intro r member
    obtain ⟨within, u, listed⟩ := seen.visible r member
    exact ⟨within, u, (Table.lists_put held.2).mpr (.inl listed)⟩

/-- A commit behind the cursor is the one that leaves an event out. -/
theorem exact_commit_iff (sound : Sound s) (seen : Seen s) (before : Exact session s)
    (written : s.work i = .written e) :
    Exact session { s.setWork i .idle with rows := putSessionEvent s.rows e } ↔ Timely session s (.commit i) := by
  have held : (Work.written e).Good s.rows s.nextId := written ▸ sound.good i
  have old := (exact_iff seen).mp before
  rw [exact_iff (seen.commit sound written)]
  constructor
  · intro listed e' same absent wanted
    cases written.symm.trans same
    by_contra passed
    have here : (putSessionEvent s.rows e).Lists e.id (index e) := (Table.lists_put held.2).mpr (.inr ⟨rfl, rfl⟩)
    have member : e.id ∈ s.returned.map SessionEvent.id :=
      listed e.id (index e) here (fun r same => (matches_congr same).mpr wanted) (Int.not_lt.mp passed)
    obtain ⟨r, had, names⟩ := List.mem_map.mp member
    obtain ⟨_, u, r', stored, key_eq, _⟩ := seen.visible r had
    exact Table.find_eq_none.mp absent r' stored (key_eq.trans names)
  · intro timely k u listed wanted within
    rcases (Table.lists_put held.2).mp listed with earlier | ⟨rfl, rfl⟩
    · exact old k u earlier wanted within
    · cases found : s.rows.find e.id with
      | some r =>
          obtain ⟨stored, same⟩ := Table.find_iff.mp found
          have place : index r = index e := (held.2 _ _ (Table.lists_of_mem stored)).mp same
          exact old e.id (index e) ⟨r, stored, same, place⟩ wanted within
      | none => exact absurd within (Int.not_le.mpr (timely e written found (wanted e rfl)))

theorem Step.seen (sound : Sound s) (seen : Seen s) (taken : Step session s turn s') : Seen s' := by
  cases taken with
  | draw i new idle => exact ⟨seen.natural, seen.once, seen.visible⟩
  | write i drawn unlocked => exact ⟨seen.natural, seen.once, seen.visible⟩
  | commit i written => exact seen.commit sound written
  | abort i => exact ⟨seen.natural, seen.once, seen.visible⟩
  | poll count fault =>
      cases answered : listSessionEvents (s.query fault) ⟨session, s.cursor, count⟩ with
      | success status page => exact seen.receive (follows_of_query seen.natural answered)
      | error status error message => exact seen

theorem Step.exact_iff (sound : Sound s) (seen : Seen s) (before : Exact session s)
    (taken : Step session s turn s') : Exact session s' ↔ Timely session s turn := by
  cases taken with
  | draw i new idle => exact iff_of_true before trivial
  | write i drawn unlocked => exact iff_of_true before trivial
  | commit i written => exact exact_commit_iff sound seen before written
  | abort i => exact iff_of_true before trivial
  | poll count fault =>
      refine iff_of_true ?_ trivial
      cases answered : listSessionEvents (s.query fault) ⟨session, s.cursor, count⟩ with
      | success status page => exact before.receive seen (follows_of_query seen.natural answered)
      | error status error message => exact before

theorem Reaches.sound {P : State ι → Turn ι → Prop} (initial : Initial s₀) (reached : Reaches session P s₀ s) :
    Sound s ∧ Seen s := by
  induction reached with
  | refl => exact ⟨initial.sound, initial.seen⟩
  | step before taken admitted ih =>
      obtain ⟨sound, seen⟩ := ih
      exact ⟨taken.sound sound, taken.seen sound seen⟩

theorem Reaches.exact (initial : Initial s₀) (reached : Reaches session (Timely session) s₀ s) : Exact session s := by
  induction reached with
  | refl => exact initial.exact
  | step before taken timely ih =>
      obtain ⟨sound, seen⟩ := Reaches.sound initial before
      exact (taken.exact_iff sound seen ih).mpr timely

/-- A client that follows the cursor gets every event up to it once, as long as no event
commits behind the cursor, and misses the first that does. -/
theorem cursor_exact (initial : Initial s₀) (reached : Reaches session (Timely session) s₀ s) :
    Exact session s ∧
      (∀ count, (∀ sid, session = some sid → Catalogue.IsText sid) →
        ∃ page, listSessionEvents (listSessionEventsCursor s.rows) ⟨session, s.cursor, count⟩ = .success .ok page ∧
          (page.hasMore = true ↔ ∃ e ∈ s.rows, Matches session e ∧ page.nextId < e.id)) ∧
      ∀ turn s', Step session s turn s' → (Exact session s' ↔ Timely session s turn) := by
  obtain ⟨sound, seen⟩ := Reaches.sound initial reached
  have complete : Exact session s := Reaches.exact initial reached
  refine ⟨complete, fun count text => ?_, fun turn s' taken => taken.exact_iff sound seen complete⟩
  obtain ⟨page, answered⟩ := listSessionEvents_success ⟨session, s.cursor, count⟩ text
  exact ⟨page, answered, (listSessionEvents_follows seen.natural answered).hasMore⟩

end Commit

end Client

section Runs

def emptyTable : State (Fin 2) := ⟨.empty, 1, fun _ => .idle, 0, []⟩

theorem emptyTable_initial : Initial emptyTable :=
  ⟨fun _ member => (by cases member), by decide, fun _ => rfl, rfl, rfl⟩

def newEvent (sessionIndex : Int) : NewSessionEvent :=
  ⟨"", sessionIndex, 1, 1, 1, 0, 0, 0, 0, .anthropic (.createMessageStreamResponseDone 0 0)⟩

theorem unlocked_of_locked {s : State (Fin 2)} {u : String × Int} (none₀ : (s.work 0).locked = none)
    (none₁ : (s.work 1).locked = none) : ∀ j e, s.work j = .written e → index e ≠ u := by
  intro j e written
  have locked : (s.work j).locked = some (index e) := congrArg Work.locked written
  match j with
  | 0 => cases none₀.symm.trans locked
  | 1 => cases none₁.symm.trans locked

/-- A client that reads what a transaction has committed goes on from there. -/
theorem cursor_exact_one : ∃ s : State (Fin 2), Reaches none (Timely none) emptyTable s ∧
    s.cursor = 1 ∧ s.returned.map SessionEvent.id = [1] ∧ Exact none s ∧
    ∀ turn s', Step none s turn s' → (Exact none s' ↔ Timely none s turn) := by
  have drawn : Reaches none (Timely none) emptyTable _ := .step .refl (.draw 0 (newEvent 0) rfl) trivial
  have written := Reaches.step drawn (.write 0 rfl (unlocked_of_locked rfl rfl)) trivial
  have committed := Reaches.step written (.commit 0 rfl) (fun e found _ _ => (by cases found; decide))
  have read := Reaches.step committed (.poll 20 none) trivial
  obtain ⟨exact, _, next⟩ := cursor_exact emptyTable_initial read
  exact ⟨_, read, by decide +kernel, by decide +kernel, exact, next⟩

/-- Two transactions draw an id each; the second commits first, a client reads, and then the
first commits. -/
theorem overtaken_event_is_lost :
    ∃ s, Reaches none (fun _ _ => True) emptyTable s ∧ ¬Exact none s := by
  have drawn : Reaches none (fun _ _ => True) emptyTable _ := .step .refl (.draw 0 (newEvent 0) rfl) trivial
  have overtaken := Reaches.step drawn (.draw 1 (newEvent 1) rfl) trivial
  have written := Reaches.step overtaken (.write 1 rfl (unlocked_of_locked rfl rfl)) trivial
  have committed := Reaches.step written (.commit 1 rfl) trivial
  have read := Reaches.step committed (.poll 20 none) trivial
  have late := Reaches.step read (.write 0 rfl (unlocked_of_locked rfl rfl)) trivial
  have behind := Reaches.step late (.commit 0 rfl) trivial
  exact ⟨_, behind, by decide +kernel⟩

end Runs
end LLMPool.SessionEvents
