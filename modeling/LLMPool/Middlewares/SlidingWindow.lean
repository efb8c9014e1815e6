import LLMPool.Middlewares.KeyLimit

/-! Which checks on one key are admitted, by the times of the checks before them. -/
namespace LLMPool.Middlewares
open Windows

section Windows
variable (kind identifier : String) (maxRequests windowSecs : Nat) (initial : SortedSets)

/-- What a sequence of checks, newest first, leaves behind. -/
def afterChecks : List Moment → SortedSets
  | [] => initial
  | call :: earlier =>
      (call.checkRateLimit (α := Empty) kind identifier maxRequests windowSecs (afterChecks earlier)).2

def admits (earlier : List Moment) (call : Moment) : Bool :=
  (call.checkRateLimit (α := Empty) kind identifier maxRequests windowSecs
    (afterChecks kind identifier maxRequests windowSecs initial earlier)).1.isNone

/-- The checks of a sequence, newest first, that are admitted where they stand. -/
def admittedChecks : List Moment → List Moment
  | [] => []
  | call :: earlier =>
      if admits kind identifier maxRequests windowSecs initial earlier call = true then
        call :: admittedChecks earlier
      else admittedChecks earlier

/-- Checks one after the other, newest first, by a Redis without faults. -/
structure OneAtATime (calls : List Moment) : Prop where
  healthy : ∀ call ∈ calls, call.Healthy
  inOrder : calls.Pairwise (fun newer older => older.now ≤ newer.now)
  distinct : calls.Pairwise (fun newer older => older.member kind ≠ newer.member kind)

end Windows

section Exact
variable {kind identifier : String} {maxRequests windowSecs : Nat} {initial : SortedSets}
  {call last : Moment} {earlier calls : List Moment}

theorem OneAtATime.suffix (serial : OneAtATime kind calls) (suffix : earlier <:+ calls) :
    OneAtATime kind earlier where
  healthy older member := serial.healthy older (suffix.subset member)
  inOrder := serial.inOrder.sublist suffix.sublist
  distinct := serial.distinct.sublist suffix.sublist

def Moment.entry (kind : String) (call : Moment) : String × Int := (call.member kind, call.now)

/-- The checks that a check counts beside itself. -/
def inWindow (windowSecs : Nat) (call : Moment) (earlier : List Moment) : List Moment :=
  earlier.filter (fun older => decide ((call.now : Int) - windowSecs * 1000 < older.now))

/-- The set of a key holds the checks in the window of the last one, and expires with it. -/
def Window (kind : String) (windowSecs : Nat) (set : SortedSet) : List Moment → Prop
  | [] => set = .empty
  | call :: earlier =>
      set = ⟨(call :: inWindow windowSecs call earlier).map (Moment.entry kind),
        some (call.now + windowSecs * 1000)⟩

theorem inWindow_inWindow (windowSecs : Nat) (latest : last.now ≤ call.now) (rest : List Moment) :
    inWindow windowSecs call (inWindow windowSecs last rest) = inWindow windowSecs call rest := by
  rw [inWindow, inWindow, inWindow, List.filter_filter]
  refine List.filter_congr (fun other _ => ?_)
  simp only [Bool.and_eq_decide, decide_eq_decide, decide_eq_true_eq]
  omega

/-- A check finds those of the checks before it that are in its window, whatever became of
the key in between, and adds itself. -/
theorem Window.recorded {set : SortedSet} (window : Window kind windowSecs set earlier)
    (serial : OneAtATime kind (call :: earlier)) :
    (recorded call kind windowSecs set).members =
      (call :: inWindow windowSecs call earlier).map (Moment.entry kind) := by
  obtain ⟨latest, ordered⟩ := List.pairwise_cons.mp serial.inOrder
  obtain ⟨distinct, _⟩ := List.pairwise_cons.mp serial.distinct
  have kept : ((set.live call.now).zremrangebyscore (call.now - windowSecs * 1000)).members =
      (inWindow windowSecs call earlier).map (Moment.entry kind) := by
    cases earlier with
    | nil =>
        obtain rfl : set = .empty := window
        rfl
    | cons last before =>
        obtain rfl : set = _ := window
        obtain ⟨newest, _⟩ := List.pairwise_cons.mp ordered
        have same := inWindow_inWindow windowSecs (latest last List.mem_cons_self) before
        refine (SortedSet.members_live_zremrangebyscore ?_).trans ?_
        · intro expiresAt expires before entry member
          cases expires
          obtain ⟨older, inside, rfl⟩ := List.mem_map.mp member
          have notLater : older.now ≤ last.now := by
            rcases List.mem_cons.mp inside with rfl | inside
            · exact le_rfl
            · exact newest older (List.mem_filter.mp inside).1
          simp only [Moment.entry]
          omega
        · rw [List.filter_map]
          refine congrArg (List.map (Moment.entry kind)) ?_
          have again : (last :: inWindow windowSecs last before).filter
              (fun older => decide ((call.now : Int) - windowSecs * 1000 < older.now)) =
              inWindow windowSecs call (last :: before) := by
            simp only [inWindow, List.filter_cons] at same ⊢
            rw [same]
          exact again
  rw [Middlewares.recorded, SortedSet.members_zadd_new]
  · rw [kept]
    rfl
  · intro entry member
    rw [kept] at member
    obtain ⟨older, inside, rfl⟩ := List.mem_map.mp member
    exact distinct older (List.mem_filter.mp inside).1

theorem Window.expire {set : SortedSet} (window : Window kind windowSecs set earlier)
    (serial : OneAtATime kind (call :: earlier)) (positive : 1 ≤ windowSecs) :
    Window kind windowSecs ((Middlewares.recorded call kind windowSecs set).expire call.now windowSecs)
      (call :: earlier) := by
  have later : ¬(windowSecs : Int) ≤ 0 := by omega
  rw [Window, SortedSet.expire, if_neg later, window.recorded serial]

theorem afterChecks_window (maxRequests : Nat) (serial : OneAtATime kind calls) (positive : 1 ≤ windowSecs)
    (fits : windowSecs * 1000 < 2 ^ 63) (absent : initial (rateLimitKey kind identifier) = .empty) :
    Window kind windowSecs
      (afterChecks kind identifier maxRequests windowSecs initial calls (rateLimitKey kind identifier)) calls := by
  induction calls with
  | nil => exact absent
  | cons call earlier ih =>
      have window := ih (serial.suffix (List.suffix_cons call earlier))
      have healthy := serial.healthy call List.mem_cons_self
      have checked := (checkRateLimit_healthy (α := Empty) kind identifier maxRequests
        (afterChecks kind identifier maxRequests windowSecs initial earlier) healthy fits).1
      rw [afterChecks, checked]
      exact window.expire serial positive

/-- A check is admitted where at most so many are in its window, itself among them. -/
theorem admits_iff (serial : OneAtATime kind (call :: earlier)) (positive : 1 ≤ windowSecs)
    (fits : windowSecs * 1000 < 2 ^ 63) (absent : initial (rateLimitKey kind identifier) = .empty) :
    admits kind identifier maxRequests windowSecs initial earlier call = true ↔
      1 + earlier.countP (fun older => decide ((call.now : Int) - windowSecs * 1000 < older.now)) ≤ maxRequests := by
  have window := afterChecks_window maxRequests
    (serial.suffix (List.suffix_cons call earlier)) positive fits absent
  have healthy := serial.healthy call List.mem_cons_self
  have checked := (checkRateLimit_healthy (α := Empty) kind identifier maxRequests
    (afterChecks kind identifier maxRequests windowSecs initial earlier) healthy fits).2
  rw [SortedSet.zcard, window.recorded serial, List.length_map, List.length_cons, inWindow,
    ← List.countP_eq_length_filter] at checked
  rw [admits, Option.isNone_iff_eq_none, checked, Nat.add_comm]

theorem admittedChecks_sublist (calls : List Moment) :
    (admittedChecks kind identifier maxRequests windowSecs initial calls).Sublist calls := by
  induction calls with
  | nil => exact .slnil
  | cons call earlier ih =>
      rw [admittedChecks]
      split
      · exact ih.cons_cons call
      · exact ih.cons call

theorem admittedChecks_limited (maxRequests : Nat) (serial : OneAtATime kind calls) (positive : 1 ≤ windowSecs)
    (fits : windowSecs * 1000 < 2 ^ 63) (absent : initial (rateLimitKey kind identifier) = .empty) :
    Limited (fun call : Moment => (call.now : Int)) (fun _ => true) maxRequests (windowSecs * 1000)
      (admittedChecks kind identifier maxRequests windowSecs initial calls) := by
  induction calls with
  | nil => trivial
  | cons call earlier ih =>
      have before := ih (serial.suffix (List.suffix_cons call earlier))
      rw [admittedChecks]
      split
      · rename_i admitted
        refine ⟨fun _ => ?_, before⟩
        have few := (admits_iff serial positive fits absent).mp admitted
        have fewer : (admittedChecks kind identifier maxRequests windowSecs initial earlier).countP
              (fun older => decide ((call.now : Int) < older.now + windowSecs * 1000)) ≤
            earlier.countP (fun older => decide ((call.now : Int) - windowSecs * 1000 < older.now)) := by
          refine (admittedChecks_sublist earlier).countP_le.trans (List.countP_mono_left (fun older _ near => ?_))
          simp only [decide_eq_true_eq] at near ⊢
          omega
        have self := List.countP_le_length (p := fun older : Moment =>
          decide ((call.now : Int) < older.now + windowSecs * 1000)) (l := [call])
        rw [← List.singleton_append, List.countP_append]
        simp only [Bool.true_and, List.length_singleton] at self ⊢
        omega
      · exact before

/-- A check is admitted if and only if it and the checks before it in the last so many
seconds are few enough, whether those were admitted or not; so no window of that width
holds more admitted checks, whichever of its ends belongs to it. -/
theorem checkRateLimit_exact (serial : OneAtATime kind calls) (positive : 1 ≤ windowSecs)
    (fits : windowSecs * 1000 < 2 ^ 63) (absent : initial (rateLimitKey kind identifier) = .empty) :
    (∀ call earlier, call :: earlier <:+ calls →
      (admits kind identifier maxRequests windowSecs initial earlier call = true ↔
        1 + earlier.countP (fun older => decide ((call.now : Int) - 1000 * windowSecs < older.now)) ≤
          maxRequests)) ∧
    ∀ start : Int,
      (admittedChecks kind identifier maxRequests windowSecs initial calls).countP
        (fun call => decide (start ≤ call.now ∧ call.now < start + 1000 * windowSecs)) ≤ maxRequests ∧
      (admittedChecks kind identifier maxRequests windowSecs initial calls).countP
        (fun call => decide (start < call.now ∧ call.now ≤ start + 1000 * windowSecs)) ≤ maxRequests := by
  constructor
  · intro call earlier suffix
    rw [Int.mul_comm]
    exact admits_iff (serial.suffix suffix) positive fits absent
  · intro start
    have limited := admittedChecks_limited maxRequests serial positive fits absent
    have near : ∀ a b : Moment, decide (start ≤ a.now ∧ a.now < start + 1000 * windowSecs) = true →
        decide (start ≤ b.now ∧ b.now < start + 1000 * windowSecs) = true →
        (a.now : Int) < b.now + windowSecs * 1000 := by
      intro a b first second
      simp only [decide_eq_true_eq] at first second
      omega
    have near' : ∀ a b : Moment, decide (start < a.now ∧ a.now ≤ start + 1000 * windowSecs) = true →
        decide (start < b.now ∧ b.now ≤ start + 1000 * windowSecs) = true →
        (a.now : Int) < b.now + windowSecs * 1000 := by
      intro a b first second
      simp only [decide_eq_true_eq] at first second
      omega
    have closed := limited.within _ near
    have opened := limited.within _ near'
    simp only [Bool.true_and] at closed opened
    exact ⟨closed, opened⟩

/-- Checks at 0 s, 1 s, 2 s and 61 s. -/
def fourChecks : List Moment :=
  [61000, 2000, 1000, 0].map (fun now => ⟨now, fun _ => 0, fun _ _ => false⟩)

/-- Two checks a minute are allowed: the third of these is refused, and the fourth admitted
as the first two have left its window. -/
theorem checkRateLimit_exact_four :
    (admittedChecks "ip" "10.0.0.1" 2 60 (fun _ => .empty) fourChecks).map Moment.now = [61000, 1000, 0] ∧
    ∀ start : Int, (admittedChecks "ip" "10.0.0.1" 2 60 (fun _ => .empty) fourChecks).countP
      (fun call => decide (start < call.now ∧ call.now ≤ start + 1000 * (60 : Nat))) ≤ 2 := by
  have serial : OneAtATime "ip" fourChecks := by
    refine ⟨?_, by decide +kernel, by decide +kernel⟩
    intro call member
    obtain ⟨now, _, rfl⟩ := List.mem_map.mp member
    exact fun _ _ => rfl
  exact ⟨by decide +kernel, fun start =>
    ((checkRateLimit_exact serial (by decide) (by decide) rfl).2 start).2⟩

end Exact
end LLMPool.Middlewares
