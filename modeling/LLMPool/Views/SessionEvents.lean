import LLMPool.Catalogue.Listing
import LLMPool.Relational.Cursor

/-! The admin endpoint that lists session events after a cursor, and what one page of it is. -/
namespace LLMPool.SessionEvents
open Relational Transactions Catalogue

/-- `LIMIT n`; the server refuses a number below zero. -/
def limited (rows : List SessionEvent) (limit : Int) : Except SqlxError (List SessionEvent) :=
  if limit < 0 then .error (.database .conflict) else .ok (rows.take limit.toNat)

/-- The server refuses a session that is no text. -/
def listSessionEventsCursor (rows : Table SessionEvent) (sessionId : Option String) (start count : Int) :
    Except SqlxError (List SessionEvent) :=
  match sessionId with
  | some sid =>
      if IsText sid then limited (rows.after (fun e => e.sessionId = sid) start) (count + 1)
      else .error (.database .conflict)
  | none => limited (rows.after (fun _ => true) start) (count + 1)

namespace AdminRestApi
open Billing.AdminRestApi (databaseError)
open Catalogue.AdminRestApi (clamp clamp_bounds)

def maxCursorCount : Int := 100

structure ListSessionEventsParams where
  session : Option String
  start : Int := 0
  count : Int := 20

structure CursorResponse (α : Type) where
  data : List α
  nextId : Int
  hasMore : Bool

/-- The query is a parameter: it is answered from the rows that are visible to it, or it fails. -/
def listSessionEvents (query : Option String → Int → Int → Except SqlxError (List SessionEvent))
    (params : ListSessionEventsParams) : Billing.AdminRestApi.Response (CursorResponse SessionEvent) :=
  let start := if params.start < 0 then 0 else params.start
  let count := clamp 1 maxCursorCount params.count
  match query params.session start count with
  | .error _ => databaseError "Failed to query session events"
  | .ok events =>
      let hasMore := decide (count < events.length)
      let page := if hasMore then events.take count.toNat else events
      let nextId := (page.getLast?.map SessionEvent.id).getD start
      .success .ok ⟨page, nextId, hasMore⟩

end AdminRestApi

section Pages
open AdminRestApi
open Catalogue.AdminRestApi (clamp clamp_bounds)

/-- The events that a filter lets through. -/
def Matches : Option String → SessionEvent → Prop
  | none, _ => True
  | some sid, e => e.sessionId = sid

variable {rows : Table SessionEvent} {session : Option String} {count limit cursor : Int} {e : SessionEvent}

instance : Decidable (Matches session e) :=
  match session with
  | none => isTrue trivial
  | some sid => inferInstanceAs (Decidable (e.sessionId = sid))

/-- What the page after a cursor has to be. -/
structure Follows (rows : Table SessionEvent) (session : Option String) (cursor : Int)
    (page : CursorResponse SessionEvent) : Prop where
  onward : cursor ≤ page.nextId
  once : (page.data.map SessionEvent.id).Nodup
  data : ∀ e, e ∈ page.data ↔ (e ∈ rows ∧ Matches session e ∧ cursor < e.id) ∧ e.id ≤ page.nextId
  hasMore : page.hasMore = true ↔ ∃ e ∈ rows, Matches session e ∧ page.nextId < e.id

theorem limited_ok {all events : List SessionEvent} (found : limited all limit = .ok events) :
    events = all.take limit.toNat := by
  unfold limited at found
  split at found
  · cases found
  · exact (Except.ok.inj found).symm

theorem listSessionEventsCursor_ok
    (found : listSessionEventsCursor rows session cursor count = .ok events) :
    events = (rows.after (fun e => decide (Matches session e)) cursor).take (count + 1).toNat := by
  cases session with
  | none => exact limited_ok found
  | some sid =>
      simp only [listSessionEventsCursor] at found
      split at found
      · exact limited_ok found
      · cases found

theorem mem_matching :
    e ∈ rows.after (fun e => decide (Matches session e)) cursor ↔ e ∈ rows ∧ Matches session e ∧ cursor < e.id := by
  rw [Table.mem_after, decide_eq_true_eq]
  exact Iff.rfl

/-- The page that a positive number of rows after a cursor is. -/
theorem follows_take {size : Nat} (positive : 0 < size) :
    let all := rows.after (fun e => decide (Matches session e)) cursor
    Follows rows session cursor
      ⟨all.take size, lastRank SessionEvent.id cursor (all.take size), decide (size < all.length)⟩ := by
  intro all
  have ordered : all.Pairwise (fun r s => r.id < s.id) := Table.after_ordered
  have beyond : ∀ e ∈ all, cursor < e.id := fun e member => (mem_matching.mp member).2.2
  have onward : cursor ≤ lastRank SessionEvent.id cursor (all.take size) :=
    start_le_lastRank (fun e member => beyond e (List.mem_of_mem_take member))
  constructor
  case onward => exact onward
  case once =>
    have distinct := (ordered.sublist (List.take_sublist size all)).imp (fun less => ne_of_lt less)
    exact List.pairwise_map.mpr distinct
  case data =>
    intro e
    rw [← mem_matching]
    exact mem_take_iff ordered positive
  case hasMore =>
    have more : size < all.length ↔ ∃ e ∈ all, lastRank SessionEvent.id cursor (all.take size) < e.id :=
      lt_length_iff ordered positive
    refine decide_eq_true_iff.trans (more.trans ?_)
    constructor
    · rintro ⟨e, member, later⟩
      obtain ⟨stored, wanted, _⟩ := mem_matching.mp member
      exact ⟨e, stored, wanted, later⟩
    · rintro ⟨e, stored, wanted, later⟩
      exact ⟨e, mem_matching.mpr ⟨stored, wanted, lt_of_le_of_lt onward later⟩, later⟩

theorem listSessionEvents_follows {params : ListSessionEventsParams} (natural : 0 ≤ params.start)
    (answered : listSessionEvents (listSessionEventsCursor rows) params = .success status page) :
    Follows rows params.session params.start page := by
  obtain ⟨low, high⟩ : 1 ≤ clamp 1 maxCursorCount params.count ∧ clamp 1 maxCursorCount params.count ≤ 100 :=
    clamp_bounds (by decide)
  simp only [listSessionEvents, if_neg (Int.not_lt.mpr natural)] at answered
  split at answered
  · cases answered
  · rename_i events found
    obtain ⟨size, sized⟩ := Int.eq_ofNat_of_zero_le (a := clamp 1 maxCursorCount params.count) (by omega)
    rw [sized] at found answered
    have read := listSessionEventsCursor_ok found
    have next : ((size : Int) + 1).toNat = size + 1 := by omega
    rw [next] at read
    simp only [Int.toNat_natCast, Int.ofNat_lt, decide_eq_true_eq, read, take_lookahead] at answered
    simp only [lt_lookahead] at answered
    cases answered
    exact follows_take (by omega)

theorem limited_natural {all : List SessionEvent} (natural : 0 ≤ limit) :
    limited all limit = .ok (all.take limit.toNat) := if_neg (Int.not_lt.mpr natural)

theorem listSessionEventsCursor_text (text : ∀ sid, session = some sid → IsText sid) (natural : 0 ≤ count + 1) :
    ∃ events, listSessionEventsCursor rows session cursor count = .ok events := by
  cases session with
  | none => exact ⟨_, limited_natural natural⟩
  | some sid => exact ⟨_, (if_pos (text sid rfl)).trans (limited_natural natural)⟩

/-- Whatever a request asks for, it is answered where its session is a text. -/
theorem listSessionEvents_success (params : ListSessionEventsParams)
    (text : ∀ sid, params.session = some sid → IsText sid) :
    ∃ page, listSessionEvents (listSessionEventsCursor rows) params = .success .ok page := by
  obtain ⟨low, high⟩ : 1 ≤ clamp 1 maxCursorCount params.count ∧ clamp 1 maxCursorCount params.count ≤ 100 :=
    clamp_bounds (by decide)
  obtain ⟨events, found⟩ : ∃ events, listSessionEventsCursor rows params.session
      (if params.start < 0 then 0 else params.start) (clamp 1 maxCursorCount params.count) = .ok events :=
    listSessionEventsCursor_text text (by omega)
  simp only [listSessionEvents, found]
  exact ⟨_, rfl⟩

end Pages
end LLMPool.SessionEvents
