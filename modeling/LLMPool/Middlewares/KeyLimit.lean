import LLMPool.Middlewares.RateLimit
import LLMPool.Printing.Numerals
import LLMPool.Transactions.Sequence

/-! How many requests with one `Authorization` header, or with one API key, the limits let
through to a handler. -/
namespace LLMPool.Middlewares
open Printing Relational Transactions Windows

section Members

/-- The members of two checks differ unless they were made of the same time and suffix. -/
theorem member_injective {kind : String} {moment moment' : Moment}
    (same : moment.member kind = moment'.member kind) :
    moment.now = moment'.now ∧ moment.randSuffix kind = moment'.randSuffix kind := by
  have digits : ∀ n : Nat, ∀ c ∈ Nat.toDigits 10 n, (c ≠ '-' : Bool) = true := by
    intro n c member
    refine decide_eq_true ?_
    rintro rfl
    exact not_mem_toDigits (by decide) n member
  have lists : Nat.toDigits 10 moment.now ++ '-' :: Nat.toDigits 10 (moment.randSuffix kind) =
      Nat.toDigits 10 moment'.now ++ '-' :: Nat.toDigits 10 (moment'.randSuffix kind) := by
    have characters := congrArg String.toList same
    simpa [Moment.member, Nat.toList_repr] using characters
  have split : ∀ m n : Nat, (Nat.toDigits 10 m ++ '-' :: Nat.toDigits 10 n).span (fun c => c ≠ '-') =
      (Nat.toDigits 10 m, '-' :: Nat.toDigits 10 n) := by
    intro m n
    rw [List.span_eq_takeWhile_dropWhile, List.takeWhile_append_of_pos (digits m),
      List.dropWhile_append_of_pos (digits m)]
    simp
  have parts := congrArg (fun l : List Char => l.span (fun c => c ≠ '-')) lists
  simp only [split, Prod.mk.injEq, List.cons.injEq, true_and] at parts
  exact ⟨toDigits_injective parts.1, toDigits_injective parts.2⟩

theorem rateLimitKey_kinds {ip token : String} : rateLimitKey "ip" ip ≠ rateLimitKey "token" token := by
  intro same
  have characters := congrArg (fun key : String => key.toList[10]?) same
  simp [rateLimitKey] at characters

end Members

section Checks
variable {moment : Moment} {sets : SortedSets} {sha256Hex : String → String} {cfg : RateLimitConfig}
  {request : Incoming}

/-- The set that a check counts: what is in the window, and the request itself. -/
def recorded (moment : Moment) (kind : String) (windowSecs : Nat) (set : SortedSet) : SortedSet :=
  ((set.live moment.now).zremrangebyscore (moment.now - windowSecs * 1000)).zadd (moment.member kind) moment.now

theorem asI64_small {n : Nat} (fits : n < 2 ^ 63) : asI64 n = n := by
  refine Int.bmod_eq_of_le ?_ ?_
  · omega
  · omega

theorem checkRateLimit_apart {kind identifier key : String} {maxRequests windowSecs : Nat}
    (apart : key ≠ rateLimitKey kind identifier) :
    (moment.checkRateLimit (α := α) kind identifier maxRequests windowSecs sets).2 key = sets key := by
  simp only [Moment.checkRateLimit]
  repeat' split
  all_goals simp [Moment.command, Function.update_of_ne apart]

theorem checkRateLimit_healthy (kind identifier : String) (maxRequests : Nat) (sets : SortedSets) {windowSecs : Nat}
    (healthy : moment.Healthy) (fits : windowSecs * 1000 < 2 ^ 63) :
    (moment.checkRateLimit (α := α) kind identifier maxRequests windowSecs sets).2
        (rateLimitKey kind identifier) =
      (recorded moment kind windowSecs (sets (rateLimitKey kind identifier))).expire moment.now windowSecs ∧
    ((moment.checkRateLimit (α := α) kind identifier maxRequests windowSecs sets).1 = none ↔
      (recorded moment kind windowSecs (sets (rateLimitKey kind identifier))).zcard ≤ maxRequests) := by
  have window : asI64 (windowSecs * 1000) = windowSecs * 1000 := by
    rw [asI64_small fits, Nat.cast_mul]
    rfl
  have seconds : asI64 windowSecs = windowSecs := asI64_small (by omega)
  generalize unexpired : (sets (rateLimitKey kind identifier)).live moment.now = set
  have alive : set.live moment.now = set := unexpired ▸ SortedSet.live_live
  have removed : (set.zremrangebyscore (moment.now - windowSecs * 1000)).live moment.now =
      set.zremrangebyscore (moment.now - windowSecs * 1000) := SortedSet.live_zremrangebyscore alive
  have added : ((set.zremrangebyscore (moment.now - windowSecs * 1000)).zadd (moment.member kind) moment.now).live
      moment.now = (set.zremrangebyscore (moment.now - windowSecs * 1000)).zadd (moment.member kind) moment.now :=
    SortedSet.live_zadd removed
  simp only [Moment.checkRateLimit, healthy kind, Moment.command, Function.update_self,
    Bool.false_eq_true, if_false, window, seconds, recorded, unexpired, removed, added]
  split
  · rename_i many
    exact ⟨Function.update_self _ _ _, nofun, fun few => absurd few (Nat.not_le.mpr many)⟩
  · rename_i few
    exact ⟨Function.update_self _ _ _, fun _ => Nat.le_of_not_lt few, fun _ => rfl⟩

/-- What the middleware does to the set of a header's value: nothing, or it counts the
request there; only requests with another header, or few enough of them, pass uncounted. -/
theorem rateLimitMiddleware_token (sets : SortedSets) (request : Incoming) (authorization : String)
    (enabled : cfg.enabled = true) (healthy : moment.Healthy) (fits : cfg.tokenWindowSecs * 1000 < 2 ^ 63) :
    ((rateLimitMiddleware (α := α) sha256Hex cfg moment request sets).2
          (rateLimitKey "token" (sha256Hex authorization)) =
        sets (rateLimitKey "token" (sha256Hex authorization)) ∧
      ((rateLimitMiddleware (α := α) sha256Hex cfg moment request sets).1 = none →
        request.authorization ≠ some authorization)) ∨
    ((rateLimitMiddleware (α := α) sha256Hex cfg moment request sets).2
          (rateLimitKey "token" (sha256Hex authorization)) =
        (recorded moment "token" cfg.tokenWindowSecs
          (sets (rateLimitKey "token" (sha256Hex authorization)))).expire moment.now cfg.tokenWindowSecs ∧
      ((rateLimitMiddleware (α := α) sha256Hex cfg moment request sets).1 = none →
        (recorded moment "token" cfg.tokenWindowSecs
          (sets (rateLimitKey "token" (sha256Hex authorization)))).zcard ≤ cfg.tokenRequests)) := by
  have apart : (checkPresent (α := α) moment "ip" (extractClientIp request) cfg.ipRequests
      cfg.ipWindowSecs sets).2 (rateLimitKey "token" (sha256Hex authorization)) =
      sets (rateLimitKey "token" (sha256Hex authorization)) := by
    unfold checkPresent
    split
    · rfl
    · exact checkRateLimit_apart rateLimitKey_kinds.symm
  rw [rateLimitMiddleware, if_neg (by simp [enabled])]
  split
  · rename_i refused sets' checked
    rw [checked] at apart
    exact .inl ⟨apart, nofun⟩
  · rename_i sets' checked
    rw [checked] at apart
    rw [← apart]
    cases presented : request.authorization with
    | none => exact .inl ⟨rfl, nofun⟩
    | some other =>
        by_cases same : rateLimitKey "token" (sha256Hex other) = rateLimitKey "token" (sha256Hex authorization)
        · have counted := checkRateLimit_healthy (α := α) "token" (sha256Hex other) cfg.tokenRequests sets'
            healthy fits
          rw [same] at counted
          exact .inr ⟨counted.1, counted.2.mp⟩
        · refine .inl ⟨checkRateLimit_apart (Ne.symm same), fun _ here => same ?_⟩
          cases here
          rfl

end Checks

/-- A request that has been handled, at a moment, with its response. -/
structure Served (α : Type) where
  moment : Moment
  request : Incoming
  value : Response α

def Response.isPassed : Response α → Bool
  | .passed _ => true
  | .error .. => false

namespace Served
variable {α : Type}

def now (turn : Served α) : Int := turn.moment.now

/-- A request that was authenticated with a key and has reached a handler. -/
def servedWith (token : String) (turn : Served α) : Bool :=
  turn.request.token = some token ∧ turn.value.isPassed

def servedUnder (authorization : String) (turn : Served α) : Bool :=
  turn.request.authorization = some authorization ∧ turn.value.isPassed

end Served

/-- Requests to both providers that are processed one at a time, newest first. The
authentication of each finds any rows and any cache. -/
inductive Traffic (hashToken : String → String) (cfg : RateLimitConfig) (next : Int → Int → Action α)
    (faults : Op engine → Prop) (initial : SortedSets) : List (Served α) → SortedSets → Prop
  | start : Traffic hashToken cfg next faults initial [] initial
  | refused (earlier : Traffic hashToken cfg next faults initial turns sets) (moment : Moment) (request : Incoming)
      (limited : (rateLimitMiddleware hashToken cfg moment request sets).1 = some response) :
      Traffic hashToken cfg next faults initial (⟨moment, request, response⟩ :: turns)
        (rateLimitMiddleware (α := α) hashToken cfg moment request sets).2
  | passed {db : Db} {world : World} {value : Response α} {m : Solo engine}
      (earlier : Traffic hashToken cfg next faults initial turns sets) (moment : Moment) (request : Incoming)
      (limited : (rateLimitMiddleware (α := α) hashToken cfg moment request sets).1 = none)
      (ran : (request.authenticate hashToken next).Runs faults ⟨[], db, world⟩ value m) :
      Traffic hashToken cfg next faults initial (⟨moment, request, value⟩ :: turns)
        (rateLimitMiddleware (α := α) hashToken cfg moment request sets).2

/-- Redis works, time does not go back, and no two requests of one millisecond draw the
same suffix. -/
structure Undisturbed (turns : List (Served α)) : Prop where
  healthy : ∀ turn ∈ turns, turn.moment.Healthy
  inOrder : turns.Pairwise (fun newer older => older.now ≤ newer.now)
  drawn : turns.Pairwise (fun newer older => newer.now = older.now →
    newer.moment.randSuffix "token" ≠ older.moment.randSuffix "token")

/-- At most so many turns of a kind in any half-open window of so many seconds. -/
def AtMost (limit windowSecs : Nat) (counted : Served α → Bool) (turns : List (Served α)) : Prop :=
  ∀ start : Int,
    turns.countP (fun turn => counted turn &&
      decide (start ≤ turn.now ∧ turn.now < start + windowSecs * 1000)) ≤ limit ∧
    turns.countP (fun turn => counted turn &&
      decide (start < turn.now ∧ turn.now ≤ start + windowSecs * 1000)) ≤ limit

section Sets
variable {hashToken : String → String} {authorization : String} {windowSecs : Nat} {sets : SortedSets}
  {turn : Served α} {turns : List (Served α)}

/-- Each request that was served under a header is in the set of the header's value as long
as it is in the window. -/
def Kept (authorization : String) (windowSecs : Nat) (turns : List (Served α)) (set : SortedSet) : Prop :=
  ∀ turn ∈ turns, turn.servedUnder authorization = true → ∀ later : Int, (∀ t ∈ turns, t.now ≤ later) →
    later < turn.now + windowSecs * 1000 → (turn.moment.member "token", turn.now) ∈ (set.live later).members

theorem recorded_self {set : SortedSet} :
    (turn.moment.member "token", turn.now) ∈ (recorded turn.moment "token" windowSecs set).members :=
  SortedSet.mem_zadd_self

theorem Kept.inside {set : SortedSet} {older : Served α} (kept : Kept authorization windowSecs turns set)
    (latest : ∀ t ∈ turns, t.now ≤ turn.now) (member : older ∈ turns)
    (served : older.servedUnder authorization = true) (near : turn.now < older.now + windowSecs * 1000) :
    (older.moment.member "token", older.now) ∈ (recorded turn.moment "token" windowSecs set).members := by
  have inside := kept older member served turn.now latest near
  refine SortedSet.mem_zadd (SortedSet.mem_zremrangebyscore.mpr ⟨inside, ?_⟩) (fun same => ?_)
  · simp only [Served.now] at near ⊢
    omega
  · exact congrArg Int.ofNat (member_injective same).1

theorem Kept.expire {set : SortedSet} (kept : Kept authorization windowSecs turns set)
    (latest : ∀ t ∈ turns, t.now ≤ turn.now) :
    Kept authorization windowSecs (turn :: turns)
      ((recorded turn.moment "token" windowSecs set).expire turn.moment.now windowSecs) := by
  intro served member under later last near
  have present : turn.now ≤ later := last turn List.mem_cons_self
  have before : served.now ≤ turn.now := by
    rcases List.mem_cons.mp member with rfl | older
    · exact le_rfl
    · exact latest served older
  have alive : later < turn.moment.now + windowSecs * 1000 := by
    simp only [Served.now] at before near
    omega
  refine SortedSet.mem_expire ?_ alive present
  rcases List.mem_cons.mp member with rfl | older
  · exact recorded_self
  · exact kept.inside latest older under (by omega)

/-- A set that is left as it was keeps what it holds. -/
theorem Kept.unchanged {set : SortedSet} (kept : Kept authorization windowSecs turns set)
    (other : turn.servedUnder authorization = false) : Kept authorization windowSecs (turn :: turns) set := by
  intro served member under later last near
  rcases List.mem_cons.mp member with rfl | older
  · rw [other] at under
    cases under
  · exact kept served older under later (fun t inside => last t (List.mem_cons_of_mem _ inside)) near

/-- The requests that were served shortly before are among those that a check counts. -/
theorem Kept.count {set : SortedSet} (kept : Kept authorization windowSecs turns set)
    (undisturbed : Undisturbed (turn :: turns)) :
    (turn :: turns).countP (fun b => b.servedUnder authorization &&
        decide (turn.now < b.now + windowSecs * 1000)) ≤
      (recorded turn.moment "token" windowSecs set).zcard := by
  obtain ⟨latest, _⟩ := List.pairwise_cons.mp undisturbed.inOrder
  rw [List.countP_eq_length_filter, ← List.length_map (fun b => (b.moment.member "token", b.now)),
    SortedSet.zcard]
  refine List.Nodup.length_le_of_subset ?_ ?_
  · rw [List.Nodup, List.pairwise_map]
    refine (undisturbed.drawn.imp ?_).filter _
    intro newer older drawn same
    have members := member_injective (Prod.mk.inj same).1
    exact drawn (Prod.mk.inj same).2 members.2
  · intro entry inside
    obtain ⟨served, member, rfl⟩ := List.mem_map.mp inside
    obtain ⟨stored, near⟩ := List.mem_filter.mp member
    simp only [Bool.and_eq_true, decide_eq_true_eq] at near
    rcases List.mem_cons.mp stored with rfl | older
    · exact recorded_self
    · exact kept.inside latest older near.1 near.2

end Sets

section Runs
variable {hashToken : String → String} {cfg : RateLimitConfig} {next : Int → Int → Action α}
  {faults : Op engine → Prop} {initial sets : SortedSets} {turns : List (Served α)} {authorization : String}

theorem Undisturbed.older {turn : Served α} (undisturbed : Undisturbed (turn :: turns)) : Undisturbed turns where
  healthy t member := undisturbed.healthy t (List.mem_cons_of_mem _ member)
  inOrder := undisturbed.inOrder.tail
  drawn := undisturbed.drawn.tail

theorem servedUnder_refused {moment : Moment} {request : Incoming} {response : Response α}
    (limited : (rateLimitMiddleware hashToken cfg moment request sets).1 = some response) :
    response.isPassed = false := by
  have refuses : ∀ kind identifier maxRequests windowSecs (sets : SortedSets) (response : Response α),
      (moment.checkRateLimit kind identifier maxRequests windowSecs sets).1 = some response →
      response.isPassed = false := by
    intro kind identifier maxRequests windowSecs sets response refused
    simp only [Moment.checkRateLimit] at refused
    repeat' split at refused
    all_goals cases refused
    all_goals rfl
  have present : ∀ kind identifier maxRequests windowSecs (sets : SortedSets) (response : Response α),
      (checkPresent moment kind identifier maxRequests windowSecs sets).1 = some response →
      response.isPassed = false := by
    intro kind identifier maxRequests windowSecs sets response refused
    cases identifier with
    | none => cases refused
    | some identifier => exact refuses _ _ _ _ _ _ refused
  rw [rateLimitMiddleware] at limited
  split at limited
  · cases limited
  · split at limited
    · rename_i refused sets' checked
      cases limited
      exact present _ _ _ _ _ _ (congrArg Prod.fst checked)
    · exact present _ _ _ _ _ _ limited

/-- What a request leaves behind, whether it passes or not. -/
theorem Kept.step {turn : Served α} (enabled : cfg.enabled = true)
    (fits : cfg.tokenWindowSecs * 1000 < 2 ^ 63) (undisturbed : Undisturbed (turn :: turns))
    (kept : Kept authorization cfg.tokenWindowSecs turns (sets (rateLimitKey "token" (hashToken authorization))))
    (passes : turn.value.isPassed = true →
      (rateLimitMiddleware (α := α) hashToken cfg turn.moment turn.request sets).1 = none) :
    Kept authorization cfg.tokenWindowSecs (turn :: turns)
        ((rateLimitMiddleware (α := α) hashToken cfg turn.moment turn.request sets).2
          (rateLimitKey "token" (hashToken authorization))) ∧
      (turn.servedUnder authorization = true →
        (turn :: turns).countP (fun b => b.servedUnder authorization &&
          decide (turn.now < b.now + cfg.tokenWindowSecs * 1000)) ≤ cfg.tokenRequests) := by
  have healthy := undisturbed.healthy turn List.mem_cons_self
  have latest := (List.pairwise_cons.mp undisturbed.inOrder).1
  rcases rateLimitMiddleware_token sets turn.request authorization enabled healthy fits with
    ⟨same, other⟩ | ⟨counted, few⟩
  · have apart : turn.servedUnder authorization = false := by
      by_contra served
      simp only [Bool.not_eq_false, Served.servedUnder, decide_eq_true_eq] at served
      exact other (passes served.2) served.1
    rw [same]
    exact ⟨kept.unchanged apart, fun served => absurd (served.symm.trans apart) (by decide)⟩
  · rw [counted]
    refine ⟨kept.expire latest, fun served => ?_⟩
    simp only [Served.servedUnder, decide_eq_true_eq] at served
    exact (kept.count undisturbed).trans (few (passes served.2))

theorem Traffic.limited (authorization : String) (enabled : cfg.enabled = true)
    (fits : cfg.tokenWindowSecs * 1000 < 2 ^ 63) (traffic : Traffic hashToken cfg next faults initial turns sets)
    (undisturbed : Undisturbed turns) :
    Kept authorization cfg.tokenWindowSecs turns (sets (rateLimitKey "token" (hashToken authorization))) ∧
      Limited Served.now (Served.servedUnder authorization) cfg.tokenRequests (cfg.tokenWindowSecs * 1000) turns := by
  induction traffic with
  | start => exact ⟨fun _ never => absurd never List.not_mem_nil, trivial⟩
  | refused earlier moment request limited ih =>
      obtain ⟨kept, before⟩ := ih undisturbed.older
      have refused := servedUnder_refused limited
      obtain ⟨after, few⟩ := kept.step enabled fits undisturbed
        (fun passed => absurd (passed.symm.trans refused) (by decide))
      exact ⟨after, few, before⟩
  | passed earlier moment request limited ran ih =>
      obtain ⟨kept, before⟩ := ih undisturbed.older
      obtain ⟨after, few⟩ := kept.step enabled fits undisturbed (fun _ => limited)
      exact ⟨after, few, before⟩

theorem bearerToken_eq {header token : String} (bears : bearerToken header = some token) :
    header = "Bearer " ++ token := by
  rw [bearerToken] at bears
  split at bears
  · rename_i starts
    cases bears
    obtain ⟨rest, characters⟩ := starts
    refine String.toList_inj.mp ?_
    rw [String.toList_append, String.toList_ofList, ← characters]
    simp
  · cases bears

/-- At most the configured number of requests that are authenticated with one key reach a
handler in a window, on the OpenAI routes, and of those with one `Authorization` header on
the routes of either provider. -/
theorem authorization_limited (enabled : cfg.enabled = true) (fits : cfg.tokenWindowSecs * 1000 < 2 ^ 63)
    (traffic : Traffic hashToken cfg next faults initial turns sets) (undisturbed : Undisturbed turns)
    (token : String) :
    AtMost cfg.tokenRequests cfg.tokenWindowSecs
        (fun turn => turn.servedWith token && decide (turn.request.provider = .openai)) turns ∧
      ∀ authorization, AtMost cfg.tokenRequests cfg.tokenWindowSecs
        (fun turn => turn.servedWith token && decide (turn.request.authorization = some authorization)) turns := by
  have under : ∀ (authorization : String) (counted : Served α → Bool),
      (∀ turn ∈ turns, counted turn = true → turn.servedUnder authorization = true) →
      AtMost cfg.tokenRequests cfg.tokenWindowSecs counted turns := by
    intro authorization counted served start
    have limited := (traffic.limited authorization enabled fits undisturbed).2
    have fewer : ∀ window : Served α → Bool, turns.countP (fun turn => counted turn && window turn) ≤
        turns.countP (fun turn => turn.servedUnder authorization && window turn) := by
      intro window
      refine List.countP_mono_left (fun turn member both => ?_)
      simp only [Bool.and_eq_true] at both ⊢
      exact ⟨served turn member both.1, both.2⟩
    constructor
    · refine (fewer _).trans (limited.within _ ?_)
      intro a b first second
      simp only [decide_eq_true_eq] at first second
      omega
    · refine (fewer _).trans (limited.within _ ?_)
      intro a b first second
      simp only [decide_eq_true_eq] at first second
      omega
  constructor
  · refine under ("Bearer " ++ token) _ (fun turn _ counted => ?_)
    simp only [Served.servedWith, Bool.and_eq_true, decide_eq_true_eq] at counted
    obtain ⟨⟨presented, passed⟩, provider⟩ := counted
    rw [Incoming.token, provider] at presented
    obtain ⟨header, given, bears⟩ := Option.bind_eq_some_iff.mp presented
    have same := bearerToken_eq bears
    subst same
    exact decide_eq_true ⟨given, passed⟩
  · intro authorization
    refine under authorization _ (fun turn _ counted => ?_)
    simp only [Served.servedWith, Served.servedUnder, Bool.and_eq_true, decide_eq_true_eq]
      at counted ⊢
    exact ⟨counted.2, counted.1.2⟩

end Runs

/-- An account with one key. -/
def oneKey : Db := { Db.empty with
  accounts := Table.empty.insert ⟨1, "account-1", true⟩
  apiCredentials := Table.empty.insert ⟨1, some 1, "lpx-018f77aa", "laptop", true⟩ }

def onePerMinute : RateLimitConfig := { enabled := true, tokenRequests := 1 }

/-- A handler that answers with the ids that it was given. -/
def echo (accountId apiKeyId : Int) : Action (Int × Int) := return (accountId, apiKeyId)

def clock (now : Nat) : Moment := ⟨now, fun _ => 0, fun _ _ => false⟩

def messagesRequest : Incoming := ⟨.anthropic, none, some "lpx-018f77aa", none, none, none⟩

def completionRequest : Incoming := ⟨.openai, some "Bearer lpx-018f77aa", none, none, none, none⟩

/-- The key is accepted on the routes of both providers. -/
theorem authenticated {request : Incoming}
    (plain : request = messagesRequest ∨ request = completionRequest) : ∃ m,
    (request.authenticate id echo).Runs (fun _ => False) ⟨[], oneKey, .empty⟩ (.passed (1, 1)) m := by
  have ran : ((request.authenticate id echo).alone (Env.plain 0 0) ⟨[], oneKey, .empty⟩).map Prod.fst =
      some (.passed (1, 1)) := by
    rcases plain with rfl | rfl <;> decide +kernel
  obtain ⟨⟨value, m⟩, ran, rfl⟩ := Option.map_eq_some_iff.mp ran
  exact ⟨m, runs_of_alone ran⟩

/-- Two requests with the same Anthropic key reach a handler within a second, where one a
minute is allowed. -/
theorem messages_are_unlimited : ∃ turns sets,
    Traffic id onePerMinute echo (fun _ => False) (fun _ => .empty) turns sets ∧ Undisturbed turns ∧
    ¬AtMost onePerMinute.tokenRequests onePerMinute.tokenWindowSecs
      (fun turn => turn.servedWith "lpx-018f77aa") turns := by
  obtain ⟨m, ran⟩ := authenticated (.inl rfl)
  have idle : Traffic id onePerMinute echo (fun _ => False) (fun _ => .empty) [] (fun _ => .empty) := .start
  have first := idle.passed (clock 0) messagesRequest (by decide +kernel) ran
  have second := first.passed (clock 1000) messagesRequest (by decide +kernel) ran
  refine ⟨_, _, second, ?_, fun limited => absurd (limited 0).1 (by decide +kernel)⟩
  refine ⟨?_, ?_, ?_⟩ <;> simp [Moment.Healthy, clock, Served.now]

/-- Of two such requests with the same OpenAI key only the first reaches a handler. -/
theorem authorization_limited_completions : ∃ (turns : List (Served (Int × Int))) (sets : SortedSets),
    Traffic id onePerMinute echo (fun _ => False) (fun _ => .empty) turns sets ∧
    turns.map (fun turn => turn.value.isPassed) = [false, true] ∧
    AtMost onePerMinute.tokenRequests onePerMinute.tokenWindowSecs
      (fun turn => turn.servedWith "lpx-018f77aa" && decide (turn.request.provider = .openai)) turns := by
  obtain ⟨m, ran⟩ := authenticated (.inr rfl)
  have idle : Traffic id onePerMinute echo (fun _ => False) (fun _ => .empty) [] (fun _ => .empty) := .start
  have first := idle.passed (clock 0) completionRequest (by decide +kernel) ran
  have exceeded : (rateLimitMiddleware (α := Int × Int) id onePerMinute (clock 1000) completionRequest
      (rateLimitMiddleware (α := Int × Int) id onePerMinute (clock 0) completionRequest fun _ => .empty).2).1 =
      some (rateLimitResponse "Rate limit exceeded: more than 1 requests per 60 seconds (token)") := by
    decide +kernel
  have second := first.refused (clock 1000) completionRequest exceeded
  refine ⟨_, _, second, rfl, (authorization_limited rfl (by decide) second ?_ _).1⟩
  refine ⟨?_, ?_, ?_⟩ <;> simp [Moment.Healthy, clock, Served.now]

end LLMPool.Middlewares
