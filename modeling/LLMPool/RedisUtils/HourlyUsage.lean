import LLMPool.RedisUtils.Counters
import Mathlib.Algebra.Order.BigOperators.Group.List

/-! What a counter holds within its hour: every increment of that model and hour, and no
other, since it expires an hour after the last one at the earliest. -/
namespace LLMPool.RedisUtils
open Windows Printing

inductive UsageCall where
  | increment (modelId inputTokens outputTokens : Int)
  | read (modelIds : List Int)

structure TimedCall where
  tick : Tick
  call : UsageCall

namespace TimedCall

def run (timed : TimedCall) (counters : Counters) : Counters :=
  match timed.call with
  | .increment modelId inputTokens outputTokens =>
      timed.tick.incrementTokenUsage modelId inputTokens outputTokens counters
  | .read _ => counters

/-- What a call adds to the output tokens of a model in an hour since 1970. -/
def added (modelId : Int) (hour : Nat) (timed : TimedCall) : Option Int :=
  match timed.call with
  | .increment id _ outputTokens =>
      if id = modelId ∧ timed.tick.now / 3600000 = hour ∧ 0 < outputTokens then some outputTokens else none
  | .read _ => none

end TimedCall

/-- Calls one after the other, newest first. -/
def afterCalls (initial : Counters) : List TimedCall → Counters
  | [] => initial
  | timed :: earlier => timed.run (afterCalls initial earlier)

def addedIn (modelId : Int) (hour : Nat) (calls : List TimedCall) : List Int :=
  calls.filterMap (TimedCall.added modelId hour)

section Keys
variable {modelId other : Int} {now later : Nat} {key : String}

theorem hour_eq_iff : hour now = hour later ↔ now / 3600000 = later / 3600000 := by
  rw [hour, hour, ← hourDigits_eq_iff]
  constructor
  · intro same
    simpa using congrArg String.toList same
  · exact congrArg String.ofList

theorem not_mem_hour : ':' ∉ (hour now).toList := by
  rw [hour, String.toList_ofList]
  intro member
  rcases isDigit_of_mem_hourDigits member with digit | sign
  · cases digit
  · cases sign

theorem toList_outputKey (label : String) : (outputKey modelId label).toList =
    "tokenusage:output:".toList ++ ((toString modelId).toList ++ ':' :: label.toList) := by
  unfold outputKey
  rw [String.toList_append, String.toList_append, String.toList_append]
  rfl

theorem toList_inputKey (label : String) : (inputKey modelId label).toList =
    "tokenusage:input:".toList ++ ((toString modelId).toList ++ ':' :: label.toList) := by
  unfold inputKey
  rw [String.toList_append, String.toList_append, String.toList_append]
  rfl

/-- Each model and each hour has a key of its own. -/
theorem outputKey_eq_iff : outputKey modelId (hour now) = outputKey other (hour later) ↔
    modelId = other ∧ now / 3600000 = later / 3600000 := by
  constructor
  · intro same
    have characters := congrArg String.toList same
    rw [toList_outputKey, toList_outputKey] at characters
    obtain ⟨models, _, hours⟩ := (List.append_cons_inj_of_notMem
      (not_mem_toString_int (by decide) (by decide) modelId) not_mem_hour).mp (List.append_cancel_left characters)
    exact ⟨toString_int_injective (congrArg String.toList (String.toList_inj.mp models)),
      hour_eq_iff.mp (String.toList_inj.mp hours)⟩
  · rintro ⟨rfl, same⟩
    rw [hour_eq_iff.mpr same]

theorem outputKey_ne_inputKey (modelId other : Int) (label label' : String) :
    outputKey modelId label ≠ inputKey other label' := by
  intro same
  have characters := congrArg (fun key : String => key.toList[11]?) same
  simp only [toList_outputKey, toList_inputKey] at characters
  rw [List.getElem?_append_left (by decide), List.getElem?_append_left (by decide)] at characters
  exact absurd characters (by decide)

end Keys

section Steps
variable {tick : Tick} {key : String} {tokens limit : Int} {increments : List Int} {counters : Counters}

theorem bump_apart (tick : Tick) (tokens : Int) (counters : Counters) {other : String} (apart : other ≠ key) :
    tick.bump key tokens counters other = counters other := by
  rw [Tick.bump]
  cases Counter.incrBy tick.now tokens (counters key) with
  | none => split <;> simp only [ite_self]
  | some counter =>
      repeat' split
      all_goals simp only [Function.update_of_ne apart]

theorem bump_nothing (nothing : ¬0 < tokens) : tick.bump key tokens counters = counters := by
  rw [Tick.bump, if_neg nothing]

/-- An increment is counted, and the key is kept for another hour. -/
theorem holds_bump (holds : Counter.Holds limit increments (counters key)) (healthy : tick.Healthy)
    (positive : 0 < tokens) (early : tick.now ≤ limit) (soon : limit ≤ tick.now + 3600 * 1000)
    (low : 0 ≤ increments.sum) (high : increments.sum + tokens < 2 ^ 63) :
    Counter.Holds limit (tokens :: increments) (tick.bump key tokens counters key) := by
  obtain ⟨expiresAt, counted, alive⟩ := holds.incrBy tokens early (by omega) high
  have works : ∀ step, tick.fails step = false := healthy
  simp only [Tick.bump, positive, works, counted, if_true, Bool.false_eq_true, if_false, Function.update_self]
  rw [Counter.expire_live (by decide) alive]
  refine ⟨_, soon, ?_⟩
  rw [List.sum_cons, Int.add_comm]

end Steps

section Runs
variable {initial : Counters} {calls earlier : List TimedCall} {timed : TimedCall} {modelId : Int} {now : Nat}

theorem added_increment {tick : Tick} {id inputTokens outputTokens : Int} {hour : Nat} :
    TimedCall.added modelId hour ⟨tick, .increment id inputTokens outputTokens⟩ =
      if id = modelId ∧ tick.now / 3600000 = hour ∧ 0 < outputTokens then some outputTokens else none := rfl

theorem addedIn_pos {hour : Nat} {tokens : Int} (member : tokens ∈ addedIn modelId hour calls) : 0 < tokens := by
  obtain ⟨timed, _, added⟩ := List.mem_filterMap.mp member
  rw [TimedCall.added] at added
  split at added
  · split at added
    · rename_i counted
      cases added
      exact counted.2.2
    · cases added
  · cases added

theorem addedIn_nonneg {hour : Nat} : 0 ≤ (addedIn modelId hour calls).sum :=
  List.sum_nonneg (fun _ member => (addedIn_pos member).le)

theorem addedIn_cons {hour : Nat} : addedIn modelId hour (timed :: earlier) =
    (timed.added modelId hour).toList ++ addedIn modelId hour earlier := by
  rw [addedIn, List.filterMap_cons]
  cases timed.added modelId hour with
  | none => rfl
  | some tokens => rfl

/-- One call, at whatever time, keeps what the key of a model and an hour holds. -/
theorem holds_run {counters : Counters} (healthy : timed.tick.Healthy)
    (holds : Counter.Holds ((now / 3600000 + 1) * 3600000 : Nat) (addedIn modelId (now / 3600000) earlier)
      (counters (outputKey modelId (hour now))))
    (fits : (addedIn modelId (now / 3600000) (timed :: earlier)).sum < 2 ^ 63) :
    Counter.Holds ((now / 3600000 + 1) * 3600000 : Nat) (addedIn modelId (now / 3600000) (timed :: earlier))
      (timed.run counters (outputKey modelId (hour now))) := by
  obtain ⟨tick, call⟩ := timed
  cases call with
  | read modelIds => exact holds
  | increment id inputTokens outputTokens =>
      have works : tick.fails .connect = false := healthy .connect
      have input := bump_apart tick inputTokens counters
        (outputKey_ne_inputKey modelId id (hour now) (hour tick.now))
      rw [← input] at holds
      simp only [TimedCall.run, Tick.incrementTokenUsage, works, Bool.false_eq_true, if_false]
      by_cases counted : id = modelId ∧ tick.now / 3600000 = now / 3600000 ∧ 0 < outputTokens
      · have added : addedIn modelId (now / 3600000) (⟨tick, .increment id inputTokens outputTokens⟩ :: earlier) =
            outputTokens :: addedIn modelId (now / 3600000) earlier := by
          rw [addedIn_cons, added_increment, if_pos counted]
          rfl
        obtain ⟨rfl, same, positive⟩ := counted
        rw [added] at fits ⊢
        rw [List.sum_cons] at fits
        rw [hour_eq_iff.mpr same.symm] at holds ⊢
        refine holds_bump holds healthy positive ?_ ?_ addedIn_nonneg (by omega)
        · push_cast
          omega
        · push_cast
          omega
      · have added : addedIn modelId (now / 3600000) (⟨tick, .increment id inputTokens outputTokens⟩ :: earlier) =
            addedIn modelId (now / 3600000) earlier := by
          rw [addedIn_cons, added_increment, if_neg counted]
          rfl
        rw [added]
        by_cases positive : 0 < outputTokens
        · have apart : outputKey modelId (hour now) ≠ outputKey id (hour tick.now) := by
            intro same
            obtain ⟨rfl, hours⟩ := outputKey_eq_iff.mp same
            exact counted ⟨rfl, hours.symm, positive⟩
          rw [bump_apart _ _ _ apart]
          exact holds
        · rw [bump_nothing positive]
          exact holds

theorem holds_afterCalls (healthy : ∀ timed ∈ calls, timed.tick.Healthy)
    (absent : initial (outputKey modelId (hour now)) = none)
    (fits : (addedIn modelId (now / 3600000) calls).sum < 2 ^ 63) :
    Counter.Holds ((now / 3600000 + 1) * 3600000 : Nat) (addedIn modelId (now / 3600000) calls)
      (afterCalls initial calls (outputKey modelId (hour now))) := by
  induction calls with
  | nil => exact absent
  | cons timed earlier ih =>
      have before : (addedIn modelId (now / 3600000) earlier).sum < 2 ^ 63 := by
        have first : 0 ≤ (timed.added modelId (now / 3600000)).toList.sum := by
          refine List.sum_nonneg (fun tokens member => ?_)
          have inside : tokens ∈ addedIn modelId (now / 3600000) (timed :: earlier) := by
            rw [addedIn_cons]
            exact List.mem_append_left _ member
          exact (addedIn_pos inside).le
        rw [addedIn_cons, List.sum_append] at fits
        omega
      exact holds_run (healthy timed List.mem_cons_self)
        (ih (fun timed member => healthy timed (List.mem_cons_of_mem _ member)) before) fits

theorem stored_afterCalls (healthy : ∀ timed ∈ calls, timed.tick.Healthy)
    (absent : initial (outputKey modelId (hour now)) = none)
    (fits : (addedIn modelId (now / 3600000) calls).sum < 2 ^ 63) :
    Tick.stored now (outputKey modelId (hour now)) (afterCalls initial calls) =
      if addedIn modelId (now / 3600000) calls = [] then none
      else some (addedIn modelId (now / 3600000) calls).sum := by
  have holds := holds_afterCalls healthy absent fits
  have early : (now : Int) ≤ ((now / 3600000 + 1) * 3600000 : Nat) := by omega
  rw [Tick.stored, holds.live early, holds.value]

/-- At every moment, the counter of a model's output tokens in the current hour is the sum
of what was added for that model in that hour. -/
theorem outputTokens_exact (healthy : ∀ timed ∈ calls, timed.tick.Healthy)
    (absent : ∀ modelId label, initial (outputKey modelId label) = none)
    (fits : ∀ modelId hour, (addedIn modelId hour calls).sum < 2 ^ 63) (modelId : Int) (now : Nat) :
    (Tick.stored now (outputKey modelId (hour now)) (afterCalls initial calls)).getD 0 =
      (addedIn modelId (now / 3600000) calls).sum := by
  rw [stored_afterCalls healthy (absent _ _) (fits _ _)]
  split
  · rename_i nothing
    rw [nothing]
    rfl
  · rfl

/-- Two increments before the turn of the hour, and two after it, the last of another model. -/
def aroundTheHour : List TimedCall :=
  [⟨⟨3600900, fun _ => false⟩, .increment 2 1 40⟩, ⟨⟨3600500, fun _ => false⟩, .increment 1 1 30⟩,
    ⟨⟨3600000, fun _ => false⟩, .read [1, 2]⟩, ⟨⟨3599900, fun _ => false⟩, .increment 1 1 20⟩,
    ⟨⟨0, fun _ => false⟩, .increment 1 5 (-10)⟩, ⟨⟨0, fun _ => false⟩, .increment 1 5 10⟩]

theorem outputTokens_exact_aroundTheHour :
    (Tick.stored 3599999 (outputKey 1 (hour 3599999)) (afterCalls (fun _ => none) (aroundTheHour.drop 3))).getD 0 =
      30 ∧
    (Tick.stored 3601000 (outputKey 1 (hour 3601000)) (afterCalls (fun _ => none) aroundTheHour)).getD 0 = 30 := by
  have healthy : ∀ timed ∈ aroundTheHour, timed.tick.Healthy := by
    intro timed member step
    simp only [aroundTheHour, List.mem_cons, List.not_mem_nil, or_false] at member
    rcases member with rfl | rfl | rfl | rfl | rfl | rfl <;> rfl
  have fits : ∀ modelId hour, (addedIn modelId hour aroundTheHour).sum < 2 ^ 63 := by
    intro modelId hour
    have few : (addedIn modelId hour aroundTheHour).sum ≤ 100 := by
      simp only [aroundTheHour, addedIn_cons, List.sum_append, added_increment]
      split_ifs <;> simp [TimedCall.added, addedIn]
    omega
  exact ⟨by decide +kernel,
    (outputTokens_exact healthy (fun _ _ => rfl) fits 1 3601000).trans (by decide +kernel)⟩

/-- The calls as the log of increments that the hourly usage is computed from. -/
def TimedCall.logged (timed : TimedCall) : Option (Int × Int × Int × Int) :=
  match timed.call with
  | .increment modelId inputTokens outputTokens =>
      some (timed.tick.now / 1000, modelId, inputTokens, outputTokens)
  | .read _ => none

theorem logged_outputTokens (calls : List TimedCall) :
    ((calls.filterMap TimedCall.logged).filter (fun (moment, id, _, outputTokens) =>
      moment / 3600 = (now / 1000 : Int) / 3600 ∧ id = modelId ∧ 0 < outputTokens)).map
        (fun (_, _, _, outputTokens) => outputTokens) = addedIn modelId (now / 3600000) calls := by
  induction calls with
  | nil => rfl
  | cons timed earlier ih =>
      obtain ⟨tick, call⟩ := timed
      rw [addedIn_cons, ← ih]
      cases call with
      | read modelIds => rfl
      | increment id inputTokens outputTokens =>
          have hours : ((tick.now : Int) / 1000 / 3600 = (now / 1000 : Int) / 3600) ↔
              tick.now / 3600000 = now / 3600000 := by omega
          rw [List.filterMap_cons, TimedCall.logged, List.filter_cons, added_increment]
          by_cases counted : id = modelId ∧ tick.now / 3600000 = now / 3600000 ∧ 0 < outputTokens
          · obtain ⟨rfl, same, positive⟩ := counted
            simp [hours, same, positive]
          · rw [if_neg counted, if_neg ?_]
            · rfl
            · rw [decide_eq_true_eq, hours]
              exact fun ⟨same, model, positive⟩ => counted ⟨model, same, positive⟩

/-- The keys refine the log: they hold what it says was used in the hour. -/
theorem stored_eq_outputUsage (world : World) (healthy : ∀ timed ∈ calls, timed.tick.Healthy)
    (absent : initial (outputKey modelId (hour now)) = none)
    (fits : (addedIn modelId (now / 3600000) calls).sum < 2 ^ 63)
    (log : world.tokenUsage = calls.filterMap TimedCall.logged) :
    Tick.stored now (outputKey modelId (hour now)) (afterCalls initial calls) =
      outputUsage world (now / 1000) modelId := by
  rw [stored_afterCalls healthy absent fits, outputUsage, log, ← logged_outputTokens]
  simp only [List.map_eq_nil_iff]

/-- What a read answers is what the log says, for each of the models. -/
theorem getOutputTokenUsageBatch_eq (world : World) {tick : Tick} {modelIds : List Int} (works : tick.Healthy)
    (healthy : ∀ timed ∈ calls, timed.tick.Healthy)
    (absent : ∀ modelId label, initial (outputKey modelId label) = none)
    (fits : ∀ modelId hour, (addedIn modelId hour calls).sum < 2 ^ 63)
    (log : world.tokenUsage = calls.filterMap TimedCall.logged) :
    tick.getOutputTokenUsageBatch modelIds (afterCalls initial calls) =
      (redisGet (outputUsage world (tick.now / 1000)) modelIds).map (fun value => value.getD 0) := by
  have steps : ∀ step, tick.fails step = false := works
  have each : (fun modelId => Tick.stored tick.now (outputKey modelId (hour tick.now)) (afterCalls initial calls)) =
      outputUsage world (tick.now / 1000) :=
    funext (fun modelId => stored_eq_outputUsage world healthy (absent _ _) (fits _ _) log)
  rw [Tick.getOutputTokenUsageBatch, each]
  simp only [steps, Bool.false_eq_true, if_false]
  split
  · rename_i nothing
    rw [nothing]
    rfl
  · rfl

end Runs

end LLMPool.RedisUtils
