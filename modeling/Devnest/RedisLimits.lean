import Mathlib.Data.List.Dedup
import Mathlib.Data.List.Perm.Basic
import Devnest.RateLimits

/-!
# The rate limiter on Redis

`RedisRateLimiter` counts the members of one sorted set for each client key.
It records a request before it knows whether to let it through, and one set
serves every limiter that is asked about the same client.

`standing` is what such a set holds after the requests recorded so far, so
`recorded` counts it without the set. Both laws are read off from it: when the
answers are those of the limiter in memory, and when the limiters of two
endpoints leave each other alone.

`EXPIRE` only drops a set whose members have all left the window; it has no
counterpart here.
-/

/-! ## Tables -/

namespace Table

variable {κ ρ : Type} [DecidableEq κ]

/-- The rows that pass the test. -/
def filter (p : ρ → Bool) (t : Table κ ρ) : Table κ ρ where
  entries := t.entries.filter fun e => p e.2
  nodupKeys := t.nodupKeys.sublist List.filter_sublist

theorem lookup_filter (p : ρ → Bool) (t : Table κ ρ) (k : κ) :
    (t.filter p).lookup k = (t.lookup k).filter p := by
  refine Option.ext fun r => ?_
  rw [Option.filter_eq_some_iff]
  have h : (t.filter p).lookup k = some r ↔ ⟨k, r⟩ ∈ (t.filter p).entries :=
    AList.mem_lookup_iff (s := t.filter p)
  have h' : t.lookup k = some r ↔ ⟨k, r⟩ ∈ t.entries := AList.mem_lookup_iff
  rw [h, h']
  exact List.mem_filter

/-- A table with the keys of a list without duplicates has as many rows. -/
theorem length_entries_eq {t : Table κ ρ} {ks : List κ} (hks : ks.Nodup)
    (h : ∀ k, (t.lookup k).isSome ↔ k ∈ ks) : t.entries.length = ks.length := by
  have hkeys : t.entries.keys.Perm ks :=
    (List.perm_ext_iff_of_nodup t.nodupKeys hks).mpr fun k => by
      rw [← h k, AList.lookup_isSome]
      rfl
  rw [← hkeys.length_eq, List.keys, List.length_map]

end Table

namespace Devnest

open PyText Runs

/-! ## The limiter -/

/-- A member `f"{now}:{id(object())}"`: the text of a float has no colon and names it. -/
structure RequestId where
  now : ℚ
  objectId : Nat
  deriving DecidableEq

/-- A sorted set: members with their scores. -/
abbrev SortedSet := Table RequestId ℚ

namespace SortedSet

/-- `ZREMRANGEBYSCORE key -inf cutoff`. -/
def zremrangebyscore (s : SortedSet) (cutoff : ℚ) : SortedSet := s.filter (cutoff < ·)

def zcard (s : SortedSet) : Nat := s.entries.length

def zadd (s : SortedSet) (m : RequestId) (score : ℚ) : SortedSet := s.insert m score

/-- `ZRANGEBYSCORE key cutoff +inf` with a limit of one: its score. -/
def oldestFrom (s : SortedSet) (cutoff : ℚ) : Option ℚ :=
  ((Table.rows s).filter (cutoff ≤ ·)).min?

end SortedSet

/-- The sorted sets of the server. -/
abbrev RedisStore := Table String SortedSet

def redisKey (key : String) : String := "devnest:rl:" ++ key

def RedisStore.sortedSet (store : RedisStore) (key : String) : SortedSet :=
  (AList.lookup (redisKey key) store).getD ∅

namespace RedisRateLimiter

/-- `is_allowed` at the reading `now`; it lets everything through when Redis is not `up`. -/
def isAllowed (limit : RateLimit) (store : RedisStore) (up : Bool) (key : String)
    (id : RequestId) : RedisStore × Bool :=
  if !up then (store, true)
  else
    let set := (store.sortedSet key).zremrangebyscore (id.now - limit.period)
    (store.insert (redisKey key) (set.zadd id id.now), set.zcard < limit.calls)

def retryAfterSeconds (limit : RateLimit) (store : RedisStore) (up : Bool) (key : String)
    (now : ℚ) : ℚ :=
  if !up then 0
  else match (store.sortedSet key).oldestFrom (now - limit.period) with
    | none => 0
    | some oldest => max 0 (oldest + limit.period - now)

end RedisRateLimiter

/-! ## What a set holds -/

/-- The members left of those recorded, in order: recorded last after every reading whose window
they were not in. -/
def standing (period : Int) : List RequestId → List RequestId
  | [] => []
  | m :: later =>
      if (∀ x ∈ later, x.now - period < m.now) ∧ m ∉ standing period later then
        m :: standing period later
      else standing period later

/-- How many of the requests recorded earlier stand in the window of `now`. -/
def recorded (period : Int) (earlier : List RequestId) (now : ℚ) : Nat :=
  ((standing period earlier).filter fun m => now - period < m.now).length

section Standing

variable {period : Int} {ms : List RequestId} {m x : RequestId}

theorem standing_nodup (period : Int) (ms : List RequestId) : (standing period ms).Nodup := by
  induction ms with
  | nil => exact List.nodup_nil
  | cons m later ih =>
      unfold standing
      split
      · rename_i h
        exact List.nodup_cons.mpr ⟨h.2, ih⟩
      · exact ih

theorem mem_standing_cons : x ∈ standing period (m :: ms) ↔
    (x = m ∧ ∀ y ∈ ms, y.now - period < m.now) ∨ x ∈ standing period ms := by
  rw [standing]
  by_cases hm : m ∈ standing period ms
  · rw [if_neg fun h => h.2 hm]
    exact ⟨.inr, fun h => h.elim (fun h => h.1 ▸ hm) id⟩
  · by_cases hall : ∀ y ∈ ms, y.now - period < m.now
    · rw [if_pos ⟨hall, hm⟩, List.mem_cons]
      exact or_congr_left ⟨fun h => ⟨h, hall⟩, And.left⟩
    · rw [if_neg fun h => hall h.1]
      exact ⟨.inr, fun h => h.elim (fun h => absurd h.2 hall) id⟩

/-- A new request leaves those of its window standing, and stands itself. -/
theorem mem_standing_snoc : x ∈ standing period (ms ++ [m]) ↔
    x = m ∨ x ∈ standing period ms ∧ m.now - period < x.now := by
  induction ms with
  | nil => simp [standing]
  | cons y ms ih =>
      rw [List.cons_append, mem_standing_cons, ih, mem_standing_cons]
      simp only [List.mem_append, List.mem_singleton, or_imp, forall_and, forall_eq]
      constructor
      · rintro (⟨rfl, hall, hm⟩ | rfl | ⟨hx, hm⟩)
        · exact .inr ⟨.inl ⟨rfl, hall⟩, hm⟩
        · exact .inl rfl
        · exact .inr ⟨.inr hx, hm⟩
      · rintro (rfl | ⟨⟨rfl, hall⟩ | hx, hm⟩)
        · exact .inr (.inl rfl)
        · exact .inl ⟨rfl, hall, hm⟩
        · exact .inr (.inr ⟨hx, hm⟩)

/-- Where the readings come in order, a request stands until it leaves the window. -/
theorem recorded_eq_of_sorted {now : ℚ} (hle : ∀ x ∈ ms, x.now ≤ now) :
    recorded period ms now = ((ms.filter fun x => now - period < x.now).dedup).length := by
  refine List.Perm.length_eq ((List.perm_ext_iff_of_nodup
    ((standing_nodup period ms).filter _) (List.nodup_dedup _)).mpr fun x => ?_)
  rw [List.mem_dedup, List.mem_filter, List.mem_filter]
  refine and_congr_left fun hx => ?_
  have hx : now - period < x.now := of_decide_eq_true hx
  induction ms with
  | nil => exact Iff.rfl
  | cons y ms ih =>
      have hle' : ∀ z ∈ ms, z.now ≤ now := fun z hz => hle z (List.mem_cons_of_mem y hz)
      have hrest : x ∈ standing period ms ↔ x ∈ ms := ih hle'
      rw [mem_standing_cons, hrest, List.mem_cons]
      refine or_congr_left ⟨And.left, ?_⟩
      rintro rfl
      refine ⟨rfl, fun z hz => ?_⟩
      have := hle' z hz
      linarith

end Standing

/-- The set of each client holds the requests of that client that still stand. -/
def StoreHolds (period : Int) (seen : String → List RequestId) (store : RedisStore) : Prop :=
  ∀ key m, (store.sortedSet key).lookup m =
    if m ∈ standing period (seen key) then some m.now else none

/-- One more request of one client. -/
def noteRequest (seen : String → List RequestId) (key : String) (id : RequestId) :
    String → List RequestId :=
  fun k => if k = key then seen k ++ [id] else seen k

theorem redisKey_inj {a b : String} (h : redisKey a = redisKey b) : a = b := by
  have h := congrArg String.toList h
  simp only [redisKey, String.toList_append] at h
  exact String.toList_inj.mp (List.append_cancel_left h)

theorem sortedSet_insert (store : RedisStore) (key key' : String) (s : SortedSet) :
    RedisStore.sortedSet (store.insert (redisKey key) s) key' =
      if key' = key then s else store.sortedSet key' := by
  unfold RedisStore.sortedSet
  rw [Table.lookup_insert_eq]
  by_cases h : key' = key
  · simp [h]
  · rw [if_neg h, if_neg fun hk => h (redisKey_inj hk)]

section Store

variable {limit : RateLimit} {seen : String → List RequestId} {store : RedisStore}

/-- The requests of the window are counted before the new one is added. -/
theorem StoreHolds.zcard (h : StoreHolds limit.period seen store) (key : String) (now : ℚ) :
    ((store.sortedSet key).zremrangebyscore (now - limit.period)).zcard =
      recorded limit.period (seen key) now := by
  refine Table.length_entries_eq ((standing_nodup _ _).filter _) fun m => ?_
  unfold SortedSet.zremrangebyscore
  rw [Table.lookup_filter, h key m, List.mem_filter]
  by_cases hm : m ∈ standing limit.period (seen key)
  · by_cases hwin : now - limit.period < m.now
    · simp [hm, hwin]
    · simp [hm, hwin]
  · simp [hm]

theorem isAllowed_up (h : StoreHolds limit.period seen store) (key : String) (id : RequestId) :
    (RedisRateLimiter.isAllowed limit store true key id).2 =
      decide (recorded limit.period (seen key) id.now < limit.calls) := by
  rw [← h.zcard]
  rfl

/-- **One request** is recorded, whatever its answer. -/
theorem StoreHolds.isAllowed (h : StoreHolds limit.period seen store) (key : String)
    (id : RequestId) : StoreHolds limit.period (noteRequest seen key id)
      (RedisRateLimiter.isAllowed limit store true key id).1 := by
  intro key' m
  show (RedisStore.sortedSet (store.insert _ _) key').lookup m = _
  rw [sortedSet_insert]
  unfold noteRequest
  by_cases hkey : key' = key
  · subst hkey
    rw [if_pos rfl, if_pos rfl]
    unfold SortedSet.zadd SortedSet.zremrangebyscore
    rw [Table.lookup_insert_eq, Table.lookup_filter, h key' m]
    by_cases hm : m = id
    · rw [if_pos hm, if_pos (mem_standing_snoc.mpr (.inl hm)), hm]
    · rw [if_neg hm]
      by_cases hs : m ∈ standing limit.period (seen key')
      · by_cases hwin : id.now - limit.period < m.now
        · rw [if_pos hs, if_pos (mem_standing_snoc.mpr (.inr ⟨hs, hwin⟩))]
          simp [hwin]
        · rw [if_pos hs, if_neg fun hc => (mem_standing_snoc.mp hc).elim hm fun hc => hwin hc.2]
          simp [not_lt.mp hwin]
      · rw [if_neg hs, if_neg fun hc => (mem_standing_snoc.mp hc).elim hm fun hc => hs hc.1]
        rfl
  · rw [if_neg hkey, if_neg hkey]
    exact h key' m

theorem storeHolds_empty (period : Int) : StoreHolds period (fun _ => []) ∅ := by
  intro key m
  rfl

end Store

/-! ## Against the limiter in memory -/

/-- One request of a client: its key and what identifies it. -/
structure RedisCall where
  key : String
  id : RequestId

def RedisCall.toRateCall (c : RedisCall) : RateCall := ⟨c.key, c.id.now⟩

/-- The answers of the limiter on Redis. -/
def redisAnswers (limit : RateLimit) (store : RedisStore) : List RedisCall → List Bool
  | [] => []
  | c :: cs =>
      let answer := RedisRateLimiter.isAllowed limit store true c.key c.id
      answer.2 :: redisAnswers limit answer.1 cs

/-- The answers of the limiter in memory. -/
def memoryAnswers (l : SlidingWindowRateLimiter) : List RateCall → List Bool
  | [] => []
  | c :: cs => (l.isAllowed c.key c.now).2 :: memoryAnswers (l.step c) cs

/-- The different requests of the window that came earlier, allowed or not. -/
def distinctInWindow (period : Int) (earlier : List RequestId) (now : ℚ) : Nat :=
  ((earlier.filter fun m => now - period < m.now).dedup).length

/-- Of the requests after `seen`, those that came while fewer than `calls` different ones were in
their window. -/
def foundRoom (limit : RateLimit) (seen : List RequestId) : List RequestId → List RequestId
  | [] => []
  | m :: ms =>
      if distinctInWindow limit.period seen m.now < limit.calls then
        m :: foundRoom limit (seen ++ [m]) ms
      else foundRoom limit (seen ++ [m]) ms

/-- At a request, the different ones of its window are fewer than `calls` exactly when those that
found room are. -/
def RoomAlike (limit : RateLimit) (earlier : List RequestId) (now : ℚ) : Prop :=
  distinctInWindow limit.period earlier now < limit.calls ↔
    ((foundRoom limit [] earlier).filter fun m => now - limit.period < m.now).length < limit.calls

/-- The earlier requests of one client. -/
def ofClient (key : String) (cs : List RedisCall) : List RequestId :=
  (cs.filter (·.key = key)).map (·.id)

section Agreement

variable {limit : RateLimit}

theorem foundRoom_snoc (seen ms : List RequestId) (m : RequestId) :
    foundRoom limit seen (ms ++ [m]) = foundRoom limit seen ms ++
      if distinctInWindow limit.period (seen ++ ms) m.now < limit.calls then [m] else [] := by
  induction ms generalizing seen with
  | nil => simp [foundRoom]
  | cons x ms ih =>
      simp only [List.cons_append, foundRoom, ih, List.append_assoc, List.nil_append]
      split <;> rfl

theorem foundRoom_sublist (seen ms : List RequestId) :
    (foundRoom limit seen ms).Sublist ms := by
  induction ms generalizing seen with
  | nil => exact List.Sublist.refl _
  | cons m ms ih =>
      unfold foundRoom
      split
      · exact (ih _).cons_cons m
      · exact (ih _).cons m

theorem ofClient_snoc (key : String) (cs : List RedisCall) (c : RedisCall) :
    ofClient key (cs ++ [c]) =
      if c.key = key then ofClient key cs ++ [c.id] else ofClient key cs := by
  unfold ofClient
  by_cases h : c.key = key
  · simp [h]
  · simp [h]

theorem ofClient_note (seen : List RedisCall) (c : RedisCall) :
    noteRequest (fun key => ofClient key seen) c.key c.id =
      fun key => ofClient key (seen ++ [c]) := by
  funext key
  unfold noteRequest
  rw [ofClient_snoc]
  by_cases h : key = c.key
  · rw [if_pos h, if_pos h.symm]
  · rw [if_neg h, if_neg (Ne.symm h)]

/-- The readings of the requests that found room. -/
def roomReadings (limit : RateLimit) (key : String) (seen : List RedisCall) : List ℚ :=
  (foundRoom limit [] (ofClient key seen)).map (·.now)

/-- Where memory and the count of different requests see the same room, both histories grow by
the same reading. -/
theorem roomReadings_snoc {l : SlidingWindowRateLimiter} {seen : List RedisCall} {c : RedisCall}
    (hmemory : (l.isAllowed c.key c.id.now).2 = decide (((foundRoom limit []
      (ofClient c.key seen)).filter fun m => c.id.now - limit.period < m.now).length <
        limit.calls))
    (ha : RoomAlike limit (ofClient c.key seen) c.id.now) (key : String) :
    roomReadings limit key (seen ++ [c]) =
      roomReadings limit key seen ++ reading key l c.toRateCall := by
  unfold roomReadings reading
  rw [ofClient_snoc]
  by_cases hkey : c.key = key
  · subst hkey
    rw [if_pos rfl, foundRoom_snoc, List.nil_append, List.map_append]
    congr 1
    show List.map _ (if _ then _ else _) = if c.key = c.key ∧ (l.isAllowed c.key c.id.now).2 = true
      then [c.id.now] else []
    by_cases hroom : (distinctInWindow limit.period (ofClient c.key seen) c.id.now : Int) <
        limit.calls
    · rw [if_pos hroom, if_pos ⟨rfl, hmemory.trans (decide_eq_true (ha.mp hroom))⟩]
      rfl
    · rw [if_neg hroom, if_neg fun h =>
        hroom (ha.mpr (of_decide_eq_true (hmemory.symm.trans h.2)))]
      rfl
  · rw [if_neg hkey]
    refine (List.append_nil _).symm.trans (congrArg _ (Eq.symm (if_neg fun h => hkey h.1)))

/-- What a split of a list asks of the head and of the rest. -/
theorem forall_split_cons {α : Type} {P : List α → α → Prop} {seen cs : List α} {c : α} :
    (∀ before x after, c :: cs = before ++ x :: after → P (seen ++ before) x) ↔
      P seen c ∧ ∀ before x after, cs = before ++ x :: after → P (seen ++ [c] ++ before) x := by
  constructor
  · intro h
    refine ⟨by simpa using h [] c cs rfl, fun before x after heq => ?_⟩
    have hx := h (c :: before) x after (by rw [heq]; rfl)
    rwa [List.append_cons] at hx
  · rintro ⟨hc, hrest⟩ before x after heq
    cases before with
    | nil =>
        obtain ⟨rfl, -⟩ := List.cons.inj heq
        simpa using hc
    | cons b before =>
        obtain ⟨rfl, hcs⟩ := List.cons.inj heq
        rw [List.append_cons]
        exact hrest before x after hcs

/-- Where both limiters have agreed so far, they go on to agree as long as each request finds
room in both or in neither. -/
theorem answers_agree_iff {l : SlidingWindowRateLimiter} {store : RedisStore} {last : ℚ}
    (hl : l.limit = limit) (seen cs : List RedisCall)
    (hstore : StoreHolds limit.period (fun key => ofClient key seen) store)
    (hpast : ∀ c ∈ seen, c.id.now ≤ last)
    (hmem : ∀ key, Tracks key (roomReadings limit key seen) last l)
    (hmono : cs.Pairwise (·.id.now ≤ ·.id.now)) (hlast : ∀ c ∈ cs, last ≤ c.id.now) :
    redisAnswers limit store cs = memoryAnswers l (cs.map (·.toRateCall)) ↔
      ∀ before c after, cs = before ++ c :: after →
        RoomAlike limit (ofClient c.key (seen ++ before)) c.id.now := by
  induction cs generalizing seen store l last with
  | nil =>
      refine iff_of_true rfl fun before c after h => ?_
      cases before <;> cases h
  | cons c cs ih =>
      obtain ⟨hhead, htail⟩ := List.pairwise_cons.mp hmono
      have hc := hlast c List.mem_cons_self
      have hclient : ∀ x ∈ ofClient c.key seen, x.now ≤ c.id.now := by
        intro x hx
        obtain ⟨y, hy, rfl⟩ := List.mem_map.mp hx
        exact (hpast y (List.mem_of_mem_filter hy)).trans hc
      have hroom : ∀ x ∈ roomReadings limit c.key seen, x ≤ c.id.now := by
        intro x hx
        obtain ⟨y, hy, rfl⟩ := List.mem_map.mp hx
        exact hclient y ((foundRoom_sublist _ _).subset hy)
      have hredis := isAllowed_up hstore c.key c.id
      rw [recorded_eq_of_sorted hclient] at hredis
      have hmemory : (l.isAllowed c.key c.id.now).2 = decide (((foundRoom limit []
          (ofClient c.key seen)).filter fun m => c.id.now - limit.period < m.now).length <
            limit.calls) := by
        rw [isAllowed_eq, (hmem c.key).evict_eq hc, hl, inWindow_eq hroom]
        unfold roomReadings
        rw [List.filter_map, List.length_map]
        rfl
      rw [forall_split_cons (P := fun seen c => RoomAlike limit (ofClient c.key seen) c.id.now)]
      show (_ :: _ = _ :: _) ↔ _
      rw [List.cons_eq_cons]
      show ((RedisRateLimiter.isAllowed limit store true c.key c.id).2 =
        (l.isAllowed c.key c.id.now).2 ∧ _) ↔ _
      have halike : (RedisRateLimiter.isAllowed limit store true c.key c.id).2 =
          (l.isAllowed c.key c.id.now).2 ↔ RoomAlike limit (ofClient c.key seen) c.id.now := by
        rw [hredis, hmemory, decide_eq_decide]
        rfl
      rw [halike]
      refine and_congr_right fun ha => ih ((step_limit l _).trans hl) (seen ++ [c]) ?_ ?_ ?_
        htail hhead
      · rw [← ofClient_note]
        exact hstore.isAllowed c.key c.id
      · intro x hx
        rcases List.mem_append.mp hx with hx | hx
        · exact (hpast x hx).trans hc
        · rw [List.mem_singleton.mp hx]
      · intro key
        rw [roomReadings_snoc hmemory ha]
        exact (hmem key).step hc

end Agreement

/-- **Where the two backends agree**: with readings in order, the limiter on Redis gives the
answers of the one in memory exactly when at each request the different ones of its window are
fewer than `calls` if and only if those among them are that came while there was room. -/
theorem redis_agrees_iff (limit : RateLimit) (cs : List RedisCall)
    (hmono : cs.Pairwise (·.id.now ≤ ·.id.now)) :
    redisAnswers limit ∅ cs = memoryAnswers ⟨limit, ∅⟩ (cs.map (·.toRateCall)) ↔
      ∀ before c after, cs = before ++ c :: after →
        RoomAlike limit (ofClient c.key before) c.id.now := by
  have hlast : ∃ last : ℚ, ∀ c ∈ cs, last ≤ c.id.now := by
    cases cs with
    | nil => exact ⟨0, by simp⟩
    | cons c cs =>
        refine ⟨c.id.now, fun x hx => ?_⟩
        rcases List.mem_cons.mp hx with rfl | hx
        · exact le_refl _
        · exact (List.pairwise_cons.mp hmono).1 x hx
  obtain ⟨last, hlast⟩ := hlast
  exact answers_agree_iff rfl [] cs (storeHolds_empty limit.period) (by simp)
    (fun key => tracks_new limit key last) hmono hlast

/-- Three requests of one client, far apart. -/
def spacedRequests : List RedisCall :=
  [⟨"10.0.0.1", ⟨0, 1⟩⟩, ⟨"10.0.0.1", ⟨1, 1⟩⟩, ⟨"10.0.0.1", ⟨61, 1⟩⟩]

theorem spaced_requests_agree :
    redisAnswers twoAMinute ∅ spacedRequests =
        memoryAnswers ⟨twoAMinute, ∅⟩ (spacedRequests.map (·.toRateCall)) ∧
      RoomAlike twoAMinute [⟨0, 1⟩, ⟨1, 1⟩] 61 := by
  have hsame : redisAnswers twoAMinute ∅ spacedRequests =
      memoryAnswers ⟨twoAMinute, ∅⟩ (spacedRequests.map (·.toRateCall)) := by decide +kernel
  exact ⟨hsame, (redis_agrees_iff twoAMinute spacedRequests (by decide +kernel)).mp hsame
    [⟨"10.0.0.1", ⟨0, 1⟩⟩, ⟨"10.0.0.1", ⟨1, 1⟩⟩] ⟨"10.0.0.1", ⟨61, 1⟩⟩ [] rfl⟩

/-- The third request is refused by both; Redis counts it against the fourth. -/
theorem refused_request_is_counted :
    ¬ ∀ (limit : RateLimit) (cs : List RedisCall), cs.Pairwise (·.id.now ≤ ·.id.now) →
      redisAnswers limit ∅ cs = memoryAnswers ⟨limit, ∅⟩ (cs.map (·.toRateCall)) := by
  intro h
  have hbad := h twoAMinute [⟨"10.0.0.1", ⟨0, 1⟩⟩, ⟨"10.0.0.1", ⟨1, 1⟩⟩, ⟨"10.0.0.1", ⟨30, 1⟩⟩,
    ⟨"10.0.0.1", ⟨60, 1⟩⟩, ⟨"10.0.0.1", ⟨61, 1⟩⟩] (by decide +kernel)
  revert hbad
  decide +kernel

/-! ## The limiters of the endpoints -/

structure RateLimitSettings where
  devnestRateLimitEnabled : Bool := true
  devnestRateLimitAuthPerMinute : Int := 20
  devnestRateLimitSsePerMinute : Int := 30
  devnestRateLimitBackend : Option String := some "memory"
  devnestRedisUrl : Option String := none

/-- `_is_redis_backend`. -/
def RateLimitSettings.isRedisBackend (s : RateLimitSettings) : Bool :=
  let backend := s.devnestRateLimitBackend.getD ""
  lower (strip (if backend = "" then "memory" else backend)) = "redis" &&
    stripOr s.devnestRedisUrl ≠ ""

inductive NamedLimiter where
  | memory (l : SlidingWindowRateLimiter)
  | redis (limit : RateLimit)

/-- The registry of one process, and the server. -/
structure RateLimitState where
  namedLimiters : Table String NamedLimiter := ∅
  redis : RedisStore := ∅

def RateLimitState.setLimiter (st : RateLimitState) (name : String) (l : NamedLimiter) :
    RateLimitState :=
  { st with namedLimiters := st.namedLimiters.insert name l }

/-- A request: its address, the readings of its two calls, and what else is up to chance. -/
structure LimitedRequest where
  forwardedFor : Option String := none
  client : Option String
  now : ℚ
  later : ℚ
  objectId : Nat := 0
  redisUp : Bool := true
  deriving DecidableEq

def LimitedRequest.id (r : LimitedRequest) : RequestId := ⟨r.now, r.objectId⟩

/-- `_client_ip`. -/
def clientIp (r : LimitedRequest) : String :=
  let xff := r.forwardedFor.getD ""
  if xff ≠ "" then strip (String.ofList ((splitChar ',' xff.toList).headD []))
  else if r.client.getD "" = "" then "unknown"
  else r.client.getD ""

/-- The dependency returns, or raises the answer 429 or the limiter's `ValueError`. -/
inductive RateVerdict where
  | allowed
  | limited (detail : String) (retryAfter : Int)
  | raised (message : String)
  deriving DecidableEq

def RateVerdict.isAllowed : RateVerdict → Bool
  | .allowed => true
  | _ => false

section Endpoints

variable (s : RateLimitSettings)

/-- `_get_or_create_limiter`: the limiter of that name, made at its first request. -/
def getOrCreateLimiter (st : RateLimitState) (name : String) (calls period : Int) :
    Except String NamedLimiter :=
  match st.namedLimiters.lookup name with
  | some l => .ok l
  | none => (RateLimit.checked calls period).map fun limit =>
      if s.isRedisBackend then .redis limit else .memory ⟨limit, ∅⟩

/-- What `auth_rate_limit` and `sse_rate_limit` do. -/
def namedRateLimit (name detail : String) (calls : Int) (st : RateLimitState)
    (r : LimitedRequest) : RateLimitState × RateVerdict :=
  if !s.devnestRateLimitEnabled then (st, .allowed)
  else match getOrCreateLimiter s st name calls 60 with
    | .error m => (st, .raised m)
    | .ok (.memory l) =>
        let (l, refused) := l.check (clientIp r) r.now r.later
        (st.setLimiter name (.memory l), match refused with
          | none => .allowed
          | some retry => .limited detail retry)
    | .ok (.redis limit) =>
        let (store, allowed) :=
          RedisRateLimiter.isAllowed limit st.redis r.redisUp (clientIp r) r.id
        ({ st.setLimiter name (.redis limit) with redis := store },
          if allowed then .allowed
          else .limited detail (retryAfterHeader
            (RedisRateLimiter.retryAfterSeconds limit store r.redisUp (clientIp r) r.later)))

/-- Login, registration and forgotten passwords. -/
def authRateLimit : RateLimitState → LimitedRequest → RateLimitState × RateVerdict :=
  namedRateLimit s "auth" "auth_rate_limit_exceeded" s.devnestRateLimitAuthPerMinute

/-- The event stream. -/
def sseRateLimit : RateLimitState → LimitedRequest → RateLimitState × RateVerdict :=
  namedRateLimit s "sse" "sse_rate_limit_exceeded" s.devnestRateLimitSsePerMinute

end Endpoints

/-- The two limiters with a name. -/
inductive Endpoint where
  | auth
  | sse
  deriving DecidableEq

namespace Endpoint

def name : Endpoint → String
  | auth => "auth"
  | sse => "sse"

def detail : Endpoint → String
  | auth => "auth_rate_limit_exceeded"
  | sse => "sse_rate_limit_exceeded"

def perMinute (s : RateLimitSettings) : Endpoint → Int
  | auth => s.devnestRateLimitAuthPerMinute
  | sse => s.devnestRateLimitSsePerMinute

def rateLimit (s : RateLimitSettings) :
    Endpoint → RateLimitState → LimitedRequest → RateLimitState × RateVerdict
  | auth => authRateLimit s
  | sse => sseRateLimit s

end Endpoint

/-- The decisions on the requests for `n`. -/
def decisions (s : RateLimitSettings) (n : Endpoint) (st : RateLimitState) :
    List (Endpoint × LimitedRequest) → List Bool
  | [] => []
  | (e, r) :: rest =>
      let (st, verdict) := e.rateLimit s st r
      (if e = n then [verdict.isAllowed] else []) ++ decisions s n st rest

/-- A limiter that exists asks a server that is up. -/
def isRecorded (s : RateLimitSettings) (e : Endpoint) (r : LimitedRequest) : Bool :=
  0 < e.perMinute s && r.redisUp

/-- For each request for `n`, how many recorded requests of its client, for either endpoint,
stand in the last minute; no matter, if the server is down. -/
def loads (s : RateLimitSettings) (n : Endpoint) (seen : String → List RequestId) :
    List (Endpoint × LimitedRequest) → List Nat
  | [] => []
  | (e, r) :: rest =>
      (if e = n then [if r.redisUp then recorded 60 (seen (clientIp r)) r.now else 0] else []) ++
        loads s n (if isRecorded s e r then noteRequest seen (clientIp r) r.id else seen) rest

/-- Redis serves the limiter of `n`. -/
def OnRedis (s : RateLimitSettings) (n : Endpoint) : Prop :=
  s.devnestRateLimitEnabled = true ∧ s.isRedisBackend = true ∧ 0 < n.perMinute s

/-- Request by request, both sequences leave room for `n` or neither does. -/
def SameRoom (s : RateLimitSettings) (n : Endpoint) (xs ys : List (Endpoint × LimitedRequest)) :
    Prop :=
  List.Forall₂ (fun a b => (a : Int) < n.perMinute s ↔ (b : Int) < n.perMinute s)
    (loads s n (fun _ => []) xs) (loads s n (fun _ => []) ys)

section Apart

variable {s : RateLimitSettings} {n : Endpoint}

theorem rateLimit_eq (s : RateLimitSettings) (e : Endpoint) :
    e.rateLimit s = namedRateLimit s e.name e.detail (e.perMinute s) := by
  cases e with
  | auth => rfl
  | sse => rfl

theorem name_ne {e e' : Endpoint} (h : e ≠ e') : e.name ≠ e'.name := by
  cases e with
  | auth =>
      cases e' with
      | auth => exact absurd rfl h
      | sse => decide
  | sse =>
      cases e' with
      | auth => decide
      | sse => exact absurd rfl h

@[simp] theorem setLimiter_lookup (st : RateLimitState) (name name' : String) (l : NamedLimiter) :
    (st.setLimiter name l).namedLimiters.lookup name' =
      if name' = name then some l else st.namedLimiters.lookup name' :=
  Table.lookup_insert_eq ..

/-- A request for another endpoint leaves the limiter of `n` as it is. -/
theorem rateLimit_other {e : Endpoint} (h : e ≠ n) (st : RateLimitState) (r : LimitedRequest) :
    (e.rateLimit s st r).1.namedLimiters.lookup n.name = st.namedLimiters.lookup n.name := by
  have hne : n.name ≠ e.name := name_ne (Ne.symm h)
  rw [rateLimit_eq]
  unfold namedRateLimit
  split
  · rfl
  · split
    · rfl
    · rw [setLimiter_lookup, if_neg hne]
    · show (st.setLimiter _ _).namedLimiters.lookup _ = _
      rw [setLimiter_lookup, if_neg hne]

/-- The limiter of `n`, if there is one yet, is in memory. -/
def InMemory (n : Endpoint) (st : RateLimitState) : Prop :=
  ∀ limit, st.namedLimiters.lookup n.name ≠ some (.redis limit)

theorem getOrCreateLimiter_on_redis {st : RateLimitState} {name : String} {calls period : Int}
    {limit : RateLimit} (h : getOrCreateLimiter s st name calls period = .ok (.redis limit)) :
    st.namedLimiters.lookup name = some (.redis limit) ∨ s.isRedisBackend = true ∧ 0 < calls := by
  unfold getOrCreateLimiter at h
  cases hlook : st.namedLimiters.lookup name with
  | some l =>
      rw [hlook] at h
      exact .inl (congrArg some (Except.ok.inj h))
  | none =>
      rw [hlook] at h
      by_cases hpos : 0 < calls ∧ 0 < period
      · have hnew : RateLimit.checked calls period = .ok ⟨calls, period, hpos.1, hpos.2⟩ :=
          dif_pos hpos
        cases hback : s.isRedisBackend with
        | true => exact .inr ⟨rfl, hpos.1⟩
        | false =>
            rw [hnew, hback] at h
            cases h
      · have hbad : RateLimit.checked calls period =
            .error "calls and period must be positive integers" := dif_neg hpos
        rw [hbad] at h
        cases h

/-- In memory, a request for `n` meets only the limiter of `n`. -/
theorem rateLimit_inMemory (hno : ¬ OnRedis s n) {st st' : RateLimitState}
    (hsame : st.namedLimiters.lookup n.name = st'.namedLimiters.lookup n.name)
    (hmem : InMemory n st) (r : LimitedRequest) :
    (n.rateLimit s st r).2 = (n.rateLimit s st' r).2 ∧
      (n.rateLimit s st r).1.namedLimiters.lookup n.name =
        (n.rateLimit s st' r).1.namedLimiters.lookup n.name ∧
      InMemory n (n.rateLimit s st r).1 := by
  have hget : getOrCreateLimiter s st n.name (n.perMinute s) 60 =
      getOrCreateLimiter s st' n.name (n.perMinute s) 60 := by
    unfold getOrCreateLimiter
    rw [hsame]
  rw [rateLimit_eq]
  unfold namedRateLimit
  cases hen : s.devnestRateLimitEnabled with
  | false => exact ⟨rfl, hsame, hmem⟩
  | true =>
      rw [← hget, if_neg (by simp), if_neg (by simp)]
      cases hl : getOrCreateLimiter s st n.name (n.perMinute s) 60 with
      | error m => exact ⟨rfl, hsame, hmem⟩
      | ok l =>
          cases l with
          | memory l =>
              dsimp only
              refine ⟨rfl, by simp only [setLimiter_lookup, if_true], fun limit hlook => ?_⟩
              rw [setLimiter_lookup, if_pos rfl] at hlook
              cases hlook
          | redis limit =>
              rcases getOrCreateLimiter_on_redis hl with hlook | ⟨hback, hpos⟩
              · exact absurd hlook (hmem limit)
              · exact absurd ⟨hen, hback, hpos⟩ hno

/-- Off Redis the decisions on `n` are those on its requests alone. -/
theorem decisions_inMemory (hno : ¬ OnRedis s n) {st : RateLimitState} (st' : RateLimitState)
    (hsame : st.namedLimiters.lookup n.name = st'.namedLimiters.lookup n.name)
    (hmem : InMemory n st) (xs : List (Endpoint × LimitedRequest)) :
    decisions s n st xs = decisions s n st' (xs.filter (·.1 = n)) := by
  induction xs generalizing st st' with
  | nil => rfl
  | cons x xs ih =>
      obtain ⟨e, r⟩ := x
      by_cases he : e = n
      · subst he
        obtain ⟨hverdict, hnext, hmem'⟩ := rateLimit_inMemory hno hsame hmem r
        rw [List.filter_cons_of_pos (by simp)]
        simp only [decisions, if_true, hverdict]
        rw [ih _ hnext hmem']
      · rw [List.filter_cons_of_neg (by simpa using he)]
        simp only [decisions, if_neg he, List.nil_append]
        refine ih st' ((rateLimit_other he st r).trans hsame) fun limit => ?_
        rw [rateLimit_other he]
        exact hmem limit

/-- Every limiter made so far is on Redis, with the limit of its endpoint. -/
def AllOnRedis (s : RateLimitSettings) (st : RateLimitState) : Prop :=
  ∀ (e : Endpoint) l, st.namedLimiters.lookup e.name = some l →
    ∃ limit : RateLimit, l = .redis limit ∧ limit.calls = e.perMinute s ∧ limit.period = 60

theorem getOrCreateLimiter_redis {st : RateLimitState} (hback : s.isRedisBackend = true)
    (hall : AllOnRedis s st) {e : Endpoint} (hpos : 0 < e.perMinute s) :
    ∃ limit : RateLimit, getOrCreateLimiter s st e.name (e.perMinute s) 60 = .ok (.redis limit) ∧
      limit.calls = e.perMinute s ∧ limit.period = 60 := by
  unfold getOrCreateLimiter
  split
  · rename_i l hlook
    obtain ⟨limit, rfl, hlimit⟩ := hall e l hlook
    exact ⟨limit, rfl, hlimit⟩
  · have hok : 0 < e.perMinute s ∧ (0 : Int) < 60 := ⟨hpos, by decide⟩
    refine ⟨⟨e.perMinute s, 60, hok.1, hok.2⟩, ?_, rfl, rfl⟩
    simp only [RateLimit.checked, dif_pos hok, Except.map, hback, if_true]

theorem getOrCreateLimiter_error {st : RateLimitState} (hall : AllOnRedis s st) {e : Endpoint}
    (hpos : ¬ 0 < e.perMinute s) :
    ∃ m, getOrCreateLimiter s st e.name (e.perMinute s) 60 = .error m := by
  unfold getOrCreateLimiter
  split
  · rename_i l hlook
    obtain ⟨limit, -, hcalls, -⟩ := hall e l hlook
    exact absurd (hcalls ▸ limit.calls_pos) hpos
  · have hbad : RateLimit.checked (e.perMinute s) 60 =
        .error "calls and period must be positive integers" := dif_neg fun h => hpos h.1
    exact ⟨_, by rw [hbad]; rfl⟩

/-- On Redis a request is let through while the load is below the limit, and recorded. -/
theorem rateLimit_redis (hen : s.devnestRateLimitEnabled = true)
    (hback : s.isRedisBackend = true) {st : RateLimitState} {seen : String → List RequestId}
    (hall : AllOnRedis s st) (hstore : StoreHolds 60 seen st.redis) (e : Endpoint)
    (r : LimitedRequest) :
    AllOnRedis s (e.rateLimit s st r).1 ∧
      StoreHolds 60 (if isRecorded s e r then noteRequest seen (clientIp r) r.id else seen)
        (e.rateLimit s st r).1.redis ∧
      (0 < e.perMinute s → (e.rateLimit s st r).2.isAllowed =
        decide (((if r.redisUp then recorded 60 (seen (clientIp r)) r.now else 0 : Nat) : Int) <
          e.perMinute s)) := by
  rw [rateLimit_eq]
  unfold namedRateLimit isRecorded
  rw [if_neg (by simp [hen])]
  by_cases hpos : 0 < e.perMinute s
  · obtain ⟨limit, hget, hcalls, hperiod⟩ := getOrCreateLimiter_redis hback hall hpos
    rw [hget]
    dsimp only
    have hall' : AllOnRedis s (st.setLimiter e.name (.redis limit)) := by
      intro e' l hlook
      rw [setLimiter_lookup] at hlook
      split at hlook
      · rename_i hname
        have heq : e' = e := by
          by_contra hne
          exact name_ne hne hname
        subst heq
        exact ⟨limit, (Option.some.inj hlook).symm, hcalls, hperiod⟩
      · exact hall e' l hlook
    rw [← hperiod] at hstore ⊢
    cases hup : r.redisUp with
    | false =>
        refine ⟨hall', ?_, fun _ => ?_⟩
        · simp only [Bool.and_false, Bool.false_eq_true, if_false]
          exact hstore
        · simpa [RateVerdict.isAllowed, RedisRateLimiter.isAllowed] using hpos
    | true =>
        refine ⟨hall', ?_, fun _ => ?_⟩
        · simp only [hpos, decide_true, Bool.and_self, if_true]
          exact hstore.isAllowed (clientIp r) r.id
        · have hcount := isAllowed_up hstore (clientIp r) r.id
          rw [hcalls] at hcount
          rw [if_pos rfl]
          show RateVerdict.isAllowed (if _ then _ else _) = _
          rw [← show r.id.now = r.now from rfl, ← hcount]
          cases (RedisRateLimiter.isAllowed limit st.redis true (clientIp r) r.id).2 with
          | true => rfl
          | false => rfl
  · obtain ⟨m, hget⟩ := getOrCreateLimiter_error hall hpos
    rw [hget]
    refine ⟨hall, ?_, fun h => absurd h hpos⟩
    simpa [hpos] using hstore

theorem decisions_redis (hredis : OnRedis s n) {st : RateLimitState}
    {seen : String → List RequestId} (hall : AllOnRedis s st)
    (hstore : StoreHolds 60 seen st.redis) (xs : List (Endpoint × LimitedRequest)) :
    decisions s n st xs =
      (loads s n seen xs).map fun load => decide ((load : Int) < n.perMinute s) := by
  induction xs generalizing st seen with
  | nil => rfl
  | cons x xs ih =>
      obtain ⟨e, r⟩ := x
      obtain ⟨hall', hstore', hverdict⟩ := rateLimit_redis hredis.1 hredis.2.1 hall hstore e r
      simp only [decisions, loads, ih hall' hstore']
      by_cases he : e = n
      · subst he
        rw [if_pos rfl, if_pos rfl, hverdict hredis.2.2]
        rfl
      · rw [if_neg he, if_neg he]
        rfl

end Apart

/-- **When the limiters leave each other alone**: two sequences with the same requests for `n`
get the same decisions on them exactly when the limiter of `n` is not on Redis or, request by
request, both leave room below its limit or neither does, counting the requests of the client
for either endpoint. -/
theorem limiters_apart_iff (s : RateLimitSettings) (n : Endpoint)
    (xs ys : List (Endpoint × LimitedRequest))
    (hsame : xs.filter (·.1 = n) = ys.filter (·.1 = n)) :
    decisions s n {} xs = decisions s n {} ys ↔ (OnRedis s n → SameRoom s n xs ys) := by
  by_cases hredis : OnRedis s n
  · have hall : AllOnRedis s {} := fun e l hlook => by cases hlook
    have hstore := storeHolds_empty 60
    rw [decisions_redis hredis hall hstore xs, decisions_redis hredis hall hstore ys,
      ← List.forall₂_eq_eq_eq, List.forall₂_map_left_iff, List.forall₂_map_right_iff]
    simp only [decide_eq_decide]
    exact ⟨fun h _ => h, fun h => h hredis⟩
  · have hmem : InMemory n {} := fun limit hlook => by cases hlook
    rw [decisions_inMemory hredis {} rfl hmem xs,
      decisions_inMemory hredis {} rfl hmem ys, hsame]
    exact iff_of_true rfl fun h => absurd h hredis

/-- Requests of one client in the seconds of a minute. -/
def requestsOf (e : Endpoint) (seconds : List Nat) : List (Endpoint × LimitedRequest) :=
  seconds.map fun i : Nat => (e, { client := some "203.0.113.7", now := i, later := i, objectId := i })

/-- In memory, twenty event streams leave the logins alone. -/
theorem streams_leave_logins :
    decisions {} .auth {} (requestsOf .sse (List.range 20) ++ requestsOf .auth [20]) =
      decisions {} .auth {} (requestsOf .auth [20]) :=
  (limiters_apart_iff {} .auth (requestsOf .sse (List.range 20) ++ requestsOf .auth [20])
    (requestsOf .auth [20]) (by decide +kernel)).mpr fun h => absurd h.2.1 (by decide +kernel)

/-- On Redis, twenty event streams take every login of the minute. -/
theorem streams_use_up_logins :
    ¬ ∀ (s : RateLimitSettings) (n : Endpoint) (xs ys : List (Endpoint × LimitedRequest)),
      xs.filter (·.1 = n) = ys.filter (·.1 = n) →
        decisions s n {} xs = decisions s n {} ys := by
  intro h
  have hbad := h { devnestRateLimitBackend := some "redis"
                   devnestRedisUrl := some "redis://cache:6379/0" } .auth
    (requestsOf .sse (List.range 20) ++ requestsOf .auth [20]) (requestsOf .auth [20])
    (by decide +kernel)
  revert hbad
  decide +kernel

end Devnest
