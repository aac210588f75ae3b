import Mathlib.Data.Rat.Floor
import Mathlib.Tactic.Linarith
import Devnest.PyText
import Devnest.Runs
import Devnest.Table

/-!
# The in-memory rate limiter

`SlidingWindowRateLimiter` keeps, for each key, the clock readings of the
requests it let through and drops from the front those that have left the
window. `Tracks` says what such a list is worth after any history: at every
later reading it holds the same requests of the window as the whole history
does. From it the limiter is an exact sliding window, and the `Retry-After` of
a refusal is enough.

Clock readings are exact rationals, in the order the calls take the lock.
-/

namespace Devnest

open Runs

/-! ## The limiter -/

/-- `calls` and `period`, as both constructors let them through. -/
structure RateLimit where
  calls : Int
  period : Int
  calls_pos : 0 < calls
  period_pos : 0 < period

def RateLimit.checked (calls period : Int) : Except String RateLimit :=
  if h : 0 < calls ∧ 0 < period then .ok ⟨calls, period, h.1, h.2⟩
  else .error "calls and period must be positive integers"

/-- `int(retry_after) + 1`, of a time that is not negative. -/
def retryAfterHeader (retryAfter : ℚ) : Int := ⌊retryAfter⌋ + 1

structure SlidingWindowRateLimiter where
  limit : RateLimit
  windows : Table String (List ℚ) := ∅

/-- The readings that leave from the front. -/
def evict (cutoff : ℚ) : List ℚ → List ℚ
  | [] => []
  | t :: window => if t ≤ cutoff then evict cutoff window else t :: window

namespace SlidingWindowRateLimiter

def window (l : SlidingWindowRateLimiter) (key : String) : List ℚ := (l.windows.lookup key).getD []

def setWindow (l : SlidingWindowRateLimiter) (key : String) (window : List ℚ) :
    SlidingWindowRateLimiter :=
  { l with windows := l.windows.insert key window }

/-- `is_allowed` at the reading `now`. -/
def isAllowed (l : SlidingWindowRateLimiter) (key : String) (now : ℚ) :
    SlidingWindowRateLimiter × Bool :=
  let window := evict (now - l.limit.period) (l.window key)
  if l.limit.calls ≤ window.length then (l.setWindow key window, false)
  else (l.setWindow key (window ++ [now]), true)

def retryAfterSeconds (l : SlidingWindowRateLimiter) (key : String) (now : ℚ) : ℚ :=
  match l.window key with
  | [] => 0
  | oldest :: _ => max 0 (oldest + l.limit.period - now)

/-- What the middleware and `make_rate_limit_dependency` make of a request: `none` lets it
through, else it is the `Retry-After` of the answer 429, read off at `later`. -/
def check (l : SlidingWindowRateLimiter) (key : String) (now later : ℚ) :
    SlidingWindowRateLimiter × Option Int :=
  let (l, allowed) := l.isAllowed key now
  (l, if allowed then none else some (retryAfterHeader (l.retryAfterSeconds key later)))

end SlidingWindowRateLimiter

/-- One call of `is_allowed`. -/
structure RateCall where
  key : String
  now : ℚ

namespace SlidingWindowRateLimiter

def step (l : SlidingWindowRateLimiter) (c : RateCall) : SlidingWindowRateLimiter :=
  (l.isAllowed c.key c.now).1

/-- The readings of the calls for `key` that were allowed. -/
def allowedReadings (key : String) (l : SlidingWindowRateLimiter) : List RateCall → List ℚ
  | [] => []
  | c :: cs =>
      (if c.key = key ∧ (l.isAllowed c.key c.now).2 = true then [c.now] else []) ++
        allowedReadings key (step l c) cs

end SlidingWindowRateLimiter

/-- The readings in the half-open interval from `t - period` to `t`. -/
def inWindow (period : Int) (t : ℚ) (readings : List ℚ) : List ℚ :=
  readings.filter fun s => t - period < s ∧ s ≤ t

/-! ## Windows of sorted readings -/

theorem evict_eq_filter {cutoff : ℚ} {window : List ℚ} (h : window.Pairwise (· ≤ ·)) :
    evict cutoff window = window.filter (cutoff < ·) := by
  induction window with
  | nil => rfl
  | cons t window ih =>
      obtain ⟨hle, htail⟩ := List.pairwise_cons.mp h
      unfold evict
      split
      · rename_i ht
        rw [ih htail, List.filter_cons_of_neg (by simpa using ht)]
      · rename_i ht
        have ht : cutoff < t := not_le.mp ht
        refine (List.filter_eq_self.mpr fun s hs => ?_).symm
        rcases List.mem_cons.mp hs with rfl | hs
        · exact decide_eq_true ht
        · exact decide_eq_true (ht.trans_le (hle s hs))

theorem length_evict_le (cutoff : ℚ) (window : List ℚ) :
    (evict cutoff window).length ≤ window.length := by
  induction window with
  | nil => exact le_refl _
  | cons t window ih =>
      unfold evict
      split
      · exact ih.trans (Nat.le_succ _)
      · exact le_refl _

/-- Of readings up to `t`, those in the window are those past its start. -/
theorem inWindow_eq {period : Int} {t : ℚ} {readings : List ℚ} (h : ∀ s ∈ readings, s ≤ t) :
    inWindow period t readings = readings.filter (t - period < ·) := by
  refine List.filter_congr fun s hs => ?_
  simp [h s hs]

theorem inWindow_append (period : Int) (t : ℚ) (l l' : List ℚ) :
    inWindow period t (l ++ l') = inWindow period t l ++ inWindow period t l' :=
  List.filter_append ..

/-- A later window holds fewer of the readings before it. -/
theorem length_filter_le {a b : ℚ} (h : a ≤ b) (readings : List ℚ) :
    (readings.filter (b < ·)).length ≤ (readings.filter (a < ·)).length := by
  refine List.Sublist.length_le (List.monotone_filter_right _ fun s hs => ?_)
  exact decide_eq_true (h.trans_lt (of_decide_eq_true hs))

theorem filter_filter_of_le {a b : ℚ} (h : a ≤ b) (readings : List ℚ) :
    (readings.filter (a < ·)).filter (b < ·) = readings.filter (b < ·) := by
  rw [List.filter_filter]
  refine List.filter_congr fun s _ => ?_
  by_cases hs : b < s
  · simp [hs, h.trans_lt hs]
  · simp [hs]

/-! ## What the window is worth -/

/-- After the allowed readings `hist`, none later than `now`, the window of `key` counts as
all of them do, from `now` on. -/
structure Tracks (key : String) (hist : List ℚ) (now : ℚ) (l : SlidingWindowRateLimiter) :
    Prop where
  sorted : (l.window key).Pairwise (· ≤ ·)
  past : ∀ s ∈ hist, s ≤ now
  window_past : ∀ s ∈ l.window key, s ≤ now
  kept : ∀ t, now ≤ t → (l.window key).filter (t - l.limit.period < ·) =
    hist.filter (t - l.limit.period < ·)
  few : ((l.window key).length : Int) ≤ l.limit.calls
  spaced : ∀ t, ((inWindow l.limit.period t hist).length : Int) ≤ l.limit.calls

section Steps

variable {l : SlidingWindowRateLimiter} {key : String} {hist : List ℚ} {last now : ℚ}

theorem Tracks.mono (h : Tracks key hist last l) (hle : last ≤ now) : Tracks key hist now l where
  sorted := h.sorted
  past := fun s hs => (h.past s hs).trans hle
  window_past := fun s hs => (h.window_past s hs).trans hle
  kept := fun t ht => h.kept t (hle.trans ht)
  few := h.few
  spaced := h.spaced

/-- The window at a call is the part of the history in it. -/
theorem Tracks.evict_eq (h : Tracks key hist last l) (hle : last ≤ now) :
    evict (now - l.limit.period) (l.window key) = inWindow l.limit.period now hist := by
  rw [evict_eq_filter h.sorted, h.kept now hle,
    inWindow_eq fun s hs => (h.past s hs).trans hle]

@[simp] theorem setWindow_limit (l : SlidingWindowRateLimiter) (key : String) (w : List ℚ) :
    (l.setWindow key w).limit = l.limit := rfl

@[simp] theorem setWindow_window (l : SlidingWindowRateLimiter) (key key' : String) (w : List ℚ) :
    (l.setWindow key w).window key' = if key' = key then w else l.window key' := by
  unfold SlidingWindowRateLimiter.setWindow SlidingWindowRateLimiter.window
  simp only [Table.lookup_insert_eq]
  split <;> rfl

/-- A call in words: it is allowed when fewer than `calls` readings of the window remain. -/
theorem isAllowed_eq (l : SlidingWindowRateLimiter) (key : String) (now : ℚ) :
    l.isAllowed key now =
      (l.setWindow key (evict (now - l.limit.period) (l.window key) ++
          if (evict (now - l.limit.period) (l.window key)).length < l.limit.calls then [now]
          else []),
        decide ((evict (now - l.limit.period) (l.window key)).length < l.limit.calls)) := by
  unfold SlidingWindowRateLimiter.isAllowed
  dsimp only
  split
  · rename_i hfull
    have hnot := not_lt.mpr hfull
    simp [hnot]
  · rename_i hroom
    have hlt := not_le.mp hroom
    simp [hlt]

theorem step_limit (l : SlidingWindowRateLimiter) (c : RateCall) :
    (SlidingWindowRateLimiter.step l c).limit = l.limit := by
  unfold SlidingWindowRateLimiter.step
  rw [isAllowed_eq]
  rfl

theorem run_limit (l : SlidingWindowRateLimiter) (cs : List RateCall) :
    (run SlidingWindowRateLimiter.step l cs).limit = l.limit := by
  induction cs generalizing l with
  | nil => rfl
  | cons c cs ih => exact (ih _).trans (step_limit l c)

/-- A call for another key leaves the window of `key` alone. -/
theorem step_window_of_ne (l : SlidingWindowRateLimiter) {c : RateCall} (h : c.key ≠ key) :
    (SlidingWindowRateLimiter.step l c).window key = l.window key := by
  unfold SlidingWindowRateLimiter.step
  rw [isAllowed_eq, setWindow_window, if_neg (Ne.symm h)]

theorem run_window_of_ne (l : SlidingWindowRateLimiter) {cs : List RateCall}
    (h : ∀ c ∈ cs, c.key ≠ key) :
    (run SlidingWindowRateLimiter.step l cs).window key = l.window key := by
  induction cs generalizing l with
  | nil => rfl
  | cons c cs ih =>
      rw [run_cons, ih _ fun x hx => h x (List.mem_cons_of_mem c hx)]
      exact step_window_of_ne l (h c List.mem_cons_self)

/-- What a call adds to the history of `key`. -/
def reading (key : String) (l : SlidingWindowRateLimiter) (c : RateCall) : List ℚ :=
  if c.key = key ∧ (l.isAllowed c.key c.now).2 = true then [c.now] else []

/-- An admitted reading adds one to the windows that hold it, and those had room. -/
theorem Tracks.spaced_snoc (h : Tracks key hist last l) (hle : last ≤ now)
    (hroom : ((inWindow l.limit.period now hist).length : Int) < l.limit.calls) (t : ℚ) :
    ((inWindow l.limit.period t (hist ++ [now])).length : Int) ≤ l.limit.calls := by
  have hpast : ∀ s ∈ hist, s ≤ now := fun s hs => (h.past s hs).trans hle
  rw [inWindow_append, List.length_append]
  by_cases hnow : t - l.limit.period < now ∧ now ≤ t
  · have hone : inWindow l.limit.period t [now] = [now] := by simp [inWindow, hnow]
    have hsub : (inWindow l.limit.period t hist).length ≤
        (inWindow l.limit.period now hist).length := by
      rw [inWindow_eq hpast, inWindow_eq fun s hs => (hpast s hs).trans hnow.2]
      exact length_filter_le (by linarith [hnow.2]) hist
    rw [hone, List.length_singleton]
    omega
  · have hnone : inWindow l.limit.period t [now] = [] := by
      simp only [inWindow, List.filter_eq_nil_iff, List.mem_singleton]
      rintro s rfl
      simpa using hnow
    rw [hnone]
    exact h.spaced t

/-- **One call** keeps the window worth its history. -/
theorem Tracks.step {c : RateCall} (h : Tracks key hist last l) (hle : last ≤ c.now) :
    Tracks key (hist ++ reading key l c) c.now (SlidingWindowRateLimiter.step l c) := by
  by_cases hkey : c.key = key
  · subst hkey
    have hwin := h.evict_eq hle
    have hpast : ∀ s ∈ hist, s ≤ c.now := fun s hs => (h.past s hs).trans hle
    -- Past the start of a later window, the evicted readings count for nothing.
    have hkept : ∀ t, c.now ≤ t → (inWindow l.limit.period c.now hist).filter
        (t - l.limit.period < ·) = hist.filter (t - l.limit.period < ·) := by
      intro t ht
      rw [inWindow_eq hpast]
      exact filter_filter_of_le (by linarith) hist
    have hsorted : (inWindow l.limit.period c.now hist).Pairwise (· ≤ ·) := by
      rw [← hwin, evict_eq_filter h.sorted]
      exact h.sorted.sublist List.filter_sublist
    have hwpast : ∀ s ∈ inWindow l.limit.period c.now hist, s ≤ c.now := fun s hs =>
      hpast s (List.mem_of_mem_filter hs)
    unfold SlidingWindowRateLimiter.step reading
    rw [isAllowed_eq, hwin]
    by_cases hroom : ((inWindow l.limit.period c.now hist).length : Int) < l.limit.calls
    · simp only [hroom, decide_true, and_self, if_true]
      refine ⟨?_, ?_, ?_, fun t ht => ?_, ?_, h.spaced_snoc hle hroom⟩
      · rw [setWindow_window, if_pos rfl, List.pairwise_append]
        refine ⟨hsorted, List.pairwise_singleton _ _, fun s hs s' hs' => ?_⟩
        rw [List.mem_singleton.mp hs']
        exact hwpast s hs
      · intro s hs
        rcases List.mem_append.mp hs with hs | hs
        · exact hpast s hs
        · exact (List.mem_singleton.mp hs).le
      · intro s hs
        rw [setWindow_window, if_pos rfl] at hs
        rcases List.mem_append.mp hs with hs | hs
        · exact hwpast s hs
        · exact (List.mem_singleton.mp hs).le
      · rw [setWindow_window, if_pos rfl, setWindow_limit, List.filter_append,
          List.filter_append, hkept t ht]
      · rw [setWindow_window, if_pos rfl, setWindow_limit, List.length_append,
          List.length_singleton]
        omega
    · simp only [hroom, decide_false, Bool.false_eq_true, and_false, if_false, List.append_nil]
      refine ⟨?_, hpast, ?_, fun t ht => ?_, ?_, h.spaced⟩
      · rw [setWindow_window, if_pos rfl]
        exact hsorted
      · rw [setWindow_window, if_pos rfl]
        exact hwpast
      · rw [setWindow_window, if_pos rfl]
        exact hkept t ht
      · rw [setWindow_window, if_pos rfl]
        exact h.spaced c.now
  · have hnil : reading key l c = [] := if_neg fun hc => hkey hc.1
    have hwin := step_window_of_ne l hkey
    have hlimit := step_limit l c
    have hmono := h.mono hle
    rw [hnil, List.append_nil]
    refine ⟨?_, hmono.past, ?_, ?_, ?_, ?_⟩
    · rw [hwin]
      exact hmono.sorted
    · rw [hwin]
      exact hmono.window_past
    · rw [hwin, hlimit]
      exact hmono.kept
    · rw [hwin, hlimit]
      exact hmono.few
    · rw [hlimit]
      exact hmono.spaced

/-- **Every history** keeps it. -/
theorem Tracks.run {cs : List RateCall} (h : Tracks key hist last l)
    (hmono : cs.Pairwise (·.now ≤ ·.now)) (hlast : ∀ c ∈ cs, last ≤ c.now) (hle : last ≤ now)
    (hnow : ∀ c ∈ cs, c.now ≤ now) :
    Tracks key (hist ++ l.allowedReadings key cs) now (run SlidingWindowRateLimiter.step l cs) := by
  induction cs generalizing l hist last with
  | nil =>
      show Tracks key (hist ++ []) now l
      rw [List.append_nil]
      exact h.mono hle
  | cons c cs ih =>
      obtain ⟨hhead, htail⟩ := List.pairwise_cons.mp hmono
      have hstep := h.step (hlast c List.mem_cons_self)
      have hrest := ih hstep htail hhead (hnow c List.mem_cons_self) fun x hx =>
        hnow x (List.mem_cons_of_mem c hx)
      rw [List.append_assoc] at hrest
      exact hrest

theorem tracks_new (limit : RateLimit) (key : String) (now : ℚ) :
    Tracks key [] now ⟨limit, ∅⟩ := by
  have hnil : SlidingWindowRateLimiter.window ⟨limit, ∅⟩ key = [] := rfl
  refine ⟨?_, ?_, ?_, fun _ _ => ?_, ?_, fun _ => ?_⟩
  · rw [hnil]
    exact List.Pairwise.nil
  · intro s hs
    cases hs
  · rw [hnil]
    intro s hs
    cases hs
  · rw [hnil]
  · rw [hnil]
    exact limit.calls_pos.le
  · exact limit.calls_pos.le

/-- The calls before a call, from a new limiter. -/
theorem tracks_before (limit : RateLimit) {before after : List RateCall} {c : RateCall}
    (hmono : (before ++ c :: after).Pairwise (·.now ≤ ·.now)) (key : String) :
    Tracks key (SlidingWindowRateLimiter.allowedReadings key ⟨limit, ∅⟩ before) c.now
      (run SlidingWindowRateLimiter.step ⟨limit, ∅⟩ before) := by
  obtain ⟨hbefore, -, hto⟩ := List.pairwise_append.mp hmono
  have hnow : ∀ x ∈ before, x.now ≤ c.now := fun x hx => hto x hx c List.mem_cons_self
  cases before with
  | nil => exact tracks_new limit key c.now
  | cons b before =>
      have hfirst : ∀ x ∈ b :: before, b.now ≤ x.now := by
        intro x hx
        rcases List.mem_cons.mp hx with rfl | hx
        · exact le_refl _
        · exact (List.pairwise_cons.mp hbefore).1 x hx
      exact (tracks_new limit key b.now).run hbefore hfirst (hnow b List.mem_cons_self) hnow

/-- Some reading comes after all the calls. -/
theorem exists_after (cs : List RateCall) : ∃ now : ℚ, ∀ c ∈ cs, c.now ≤ now := by
  induction cs with
  | nil => exact ⟨0, by simp⟩
  | cons c cs ih =>
      obtain ⟨now, hnow⟩ := ih
      refine ⟨max c.now now, fun x hx => ?_⟩
      rcases List.mem_cons.mp hx with rfl | hx
      · exact le_max_left _ _
      · exact (hnow x hx).trans (le_max_right _ _)

/-- A refused call leaves `calls` readings of its window, no more. -/
theorem Tracks.refused (h : Tracks key hist last l) (hle : last ≤ now)
    (hno : (l.isAllowed key now).2 = false) :
    ((inWindow l.limit.period now hist).length : Int) = l.limit.calls := by
  rw [isAllowed_eq, h.evict_eq hle] at hno
  exact le_antisymm (h.spaced now) (not_lt.mp (of_decide_eq_false hno))

/-- Once the oldest reading has left, there is room again. -/
theorem isAllowed_of_oldest {oldest : ℚ} {rest : List ℚ} (hwin : l.window key = oldest :: rest)
    (hfew : ((l.window key).length : Int) ≤ l.limit.calls) (hout : oldest ≤ now - l.limit.period) :
    (l.isAllowed key now).2 = true := by
  rw [isAllowed_eq]
  refine decide_eq_true ?_
  have hevict : evict (now - l.limit.period) (l.window key) =
      evict (now - l.limit.period) rest := by
    rw [hwin]
    exact if_pos hout
  have hle := length_evict_le (now - l.limit.period) rest
  rw [hwin, List.length_cons] at hfew
  rw [hevict]
  omega

/-- The advertised wait outlasts the oldest reading of the window. -/
theorem retryAfter_enough (now : ℚ) {oldest : ℚ} {rest : List ℚ}
    (hwin : l.window key = oldest :: rest) :
    oldest + l.limit.period < now + retryAfterHeader (l.retryAfterSeconds key now) := by
  have hmax : oldest + l.limit.period - now ≤ l.retryAfterSeconds key now := by
    unfold SlidingWindowRateLimiter.retryAfterSeconds
    rw [hwin]
    exact le_max_right _ _
  have hfloor : l.retryAfterSeconds key now <
      (retryAfterHeader (l.retryAfterSeconds key now) : ℚ) := by
    unfold retryAfterHeader
    push_cast
    exact Int.lt_floor_add_one _
  linarith

end Steps

/-! ## The law -/

/-- **An exact sliding window**: with readings in order, no half-open window of a key holds more
than `calls` allowed readings, a refused call had exactly `calls` of them in its window, and a
call that waits for the `Retry-After` of a refusal, with no call for the key in between, is
allowed. -/
theorem sliding_window_exact (limit : RateLimit) (key : String) {cs : List RateCall}
    (hmono : cs.Pairwise (·.now ≤ ·.now)) :
    (∀ t, ((inWindow limit.period t
      (SlidingWindowRateLimiter.allowedReadings key ⟨limit, ∅⟩ cs)).length : Int) ≤ limit.calls) ∧
    (∀ before (c : RateCall) after, cs = before ++ c :: after → c.key = key →
      ((run SlidingWindowRateLimiter.step ⟨limit, ∅⟩ before).isAllowed key c.now).2 = false →
      ((inWindow limit.period c.now
        (SlidingWindowRateLimiter.allowedReadings key ⟨limit, ∅⟩ before)).length : Int) =
          limit.calls) ∧
    (∀ before (c : RateCall) between (c' : RateCall) after (r : Int),
      cs = before ++ c :: (between ++ c' :: after) → c.key = key →
      ((run SlidingWindowRateLimiter.step ⟨limit, ∅⟩ before).check key c.now c.now).2 = some r →
      (∀ x ∈ between, x.key ≠ key) → c'.key = key → c.now + r ≤ c'.now →
      ((run SlidingWindowRateLimiter.step ⟨limit, ∅⟩ (before ++ c :: between)).isAllowed key
        c'.now).2 = true) := by
  refine ⟨fun t => ?_, ?_, ?_⟩
  · cases cs with
    | nil => exact limit.calls_pos.le
    | cons c cs =>
        obtain ⟨now, hnow⟩ := exists_after (c :: cs)
        have hmono' : ((c :: cs) ++ [(⟨key, now⟩ : RateCall)]).Pairwise (·.now ≤ ·.now) := by
          refine List.pairwise_append.mpr ⟨hmono, List.pairwise_singleton _ _, fun x hx y hy => ?_⟩
          rw [List.mem_singleton.mp hy]
          exact hnow x hx
        have htracks := tracks_before limit hmono' key
        have hspaced := htracks.spaced t
        rw [run_limit] at hspaced
        exact hspaced
  · intro before c after hcs hkey hno
    subst hcs
    have hrefused := (tracks_before limit hmono key).refused (le_refl c.now) hno
    rw [run_limit] at hrefused
    exact hrefused
  · intro before c between c' after r hcs hkey hr hbetween hkey' hwait
    subst hcs
    subst hkey
    have htracks := tracks_before limit hmono c.key
    have hafter := htracks.step (le_refl c.now)
    have hlimit : (SlidingWindowRateLimiter.step
        (run SlidingWindowRateLimiter.step ⟨limit, ∅⟩ before) c).limit = limit :=
      (step_limit _ _).trans (run_limit _ _)
    generalize hl : run SlidingWindowRateLimiter.step ⟨limit, ∅⟩ before = l at *
    have hno : (l.isAllowed c.key c.now).2 = false := by
      unfold SlidingWindowRateLimiter.check at hr
      dsimp only at hr
      split at hr
      · cases hr
      · rename_i hno
        simpa using hno
    have hheader : retryAfterHeader
        ((SlidingWindowRateLimiter.step l c).retryAfterSeconds c.key c.now) = r := by
      unfold SlidingWindowRateLimiter.check at hr
      dsimp only at hr
      rw [hno] at hr
      exact Option.some.inj hr
    -- The window is as full as it was when the call was refused, so it has an oldest reading.
    have hwin : (SlidingWindowRateLimiter.step l c).window c.key ≠ [] := by
      have hfull := htracks.refused (le_refl c.now) hno
      have hpos := l.limit.calls_pos
      unfold SlidingWindowRateLimiter.step
      rw [isAllowed_eq, htracks.evict_eq (le_refl _), setWindow_window, if_pos rfl]
      intro hnil
      have hempty := List.append_eq_nil_iff.mp hnil
      rw [hempty.1] at hfull
      simp only [List.length_nil, Nat.cast_zero] at hfull
      omega
    obtain ⟨oldest, rest, hwin⟩ := List.exists_cons_of_ne_nil hwin
    have henough := retryAfter_enough c.now hwin
    rw [hheader, hlimit] at henough
    have hsame := run_window_of_ne (SlidingWindowRateLimiter.step l c) hbetween
    rw [run_append, run_cons, hl]
    refine isAllowed_of_oldest (hsame.trans hwin) ?_ ?_
    · rw [hsame, run_limit]
      exact hafter.few
    · rw [run_limit, hlimit]
      linarith

/-- Two requests a minute: the third of a burst waits for the first. -/
def twoAMinute : RateLimit := ⟨2, 60, by decide, by decide⟩

def burst : List RateCall := [⟨"10.0.0.1", 0⟩, ⟨"10.0.0.1", 1 / 2⟩, ⟨"10.0.0.2", 1⟩]

/-- The third call comes after a second and is told to come back after sixty, when it is let in. -/
theorem third_request_waits :
    ((run SlidingWindowRateLimiter.step ⟨twoAMinute, ∅⟩ burst).check "10.0.0.1" 1 1).2 = some 60 ∧
      ((run SlidingWindowRateLimiter.step ⟨twoAMinute, ∅⟩ (burst ++ [⟨"10.0.0.1", 1⟩])).isAllowed
        "10.0.0.1" 61).2 = true := by
  have hr : ((run SlidingWindowRateLimiter.step ⟨twoAMinute, ∅⟩ burst).check "10.0.0.1" 1 1).2 =
      some 60 := by decide +kernel
  have hmono : (burst ++ (⟨"10.0.0.1", 1⟩ : RateCall) :: ([] ++ [⟨"10.0.0.1", 61⟩])).Pairwise
      (·.now ≤ ·.now) := by decide +kernel
  exact ⟨hr, (sliding_window_exact twoAMinute "10.0.0.1" hmono).2.2 burst ⟨"10.0.0.1", 1⟩ []
    ⟨"10.0.0.1", 61⟩ [] 60 rfl rfl hr (by simp) rfl (by norm_num)⟩

end Devnest
