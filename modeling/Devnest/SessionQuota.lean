import Devnest.Quotas
import Devnest.SessionCounts
import Mathlib.Data.Finset.SDiff

/-!
# `max_sessions` on attach

`request_attach_workspace` compares `max_sessions` with the stored counter, not
with the session rows. The counter is what the last recount saw. Sessions that
expire afterwards stay in it until the next recount, and so do those that the
recount of a bulk revocation still saw (`lapsed`). Nothing else sets the counter
and the rows apart: at any time from the last recount on, every live session is
one that it counted.
-/

namespace Devnest

open Runs

/-! ## Attach -/

/-- What `request_attach_workspace` raises. -/
inductive AttachRefusal where
  | gate (message : String)
  | quota (e : QuotaExceeded)
  | policy (message : String)
  | integrity
  deriving DecidableEq, Repr

/-- An attach request. `gates` is the answer of the checks before the quota (the owner's workspace
is `RUNNING`, its runtime and its route are ready), `policy` that of `evaluate_session_creation`. -/
structure AttachWorkspaceRequest where
  gates : Option String := none
  policy : Option String := none
  ttl : Int
  now : Int
  wid : Nat
  owner : Nat
  token : String

section Attach

variable (hashToken : String → String) (quotas : List Quota)

/-- `request_attach_workspace`. -/
def requestAttachWorkspace (r : AttachWorkspaceRequest) (s : OrmSession) : Except AttachRefusal OrmSession :=
  match r.gates with
  | some m => .error (.gate m)
  | none =>
      match checkSessionQuota quotas r.owner r.wid
          ((s.objects.activeSessionsCount.lookup r.wid).getD 0) with
      | .error e => .error (.quota e)
      | .ok _ =>
          match r.policy with
          | some m => .error (.policy m)
          | none =>
              match createWorkspaceSession hashToken r.ttl r.now r.wid r.owner r.token s with
              | none => .error .integrity
              | some s => .ok s

/-- What the sessions are asked for. -/
inductive SessionRequest where
  | attach (r : AttachWorkspaceRequest)
  | resolve (now : Int) (wid uid : Nat) (tokenPlain : String)
  | revokeAll (now : Int) (wid : Nat)

/-- The operation that a request comes to; a refused attach changes no session. -/
def SessionRequest.op (d : SessionTables) : SessionRequest → Option SessionOp
  | .attach r => match requestAttachWorkspace hashToken quotas r (.fresh d) with
      | .ok _ => some (.create r.now r.ttl r.wid r.owner r.token)
      | .error _ => none
  | .resolve now wid uid tokenPlain => some (.resolve now wid uid tokenPlain)
  | .revokeAll now wid => some (.revokeAll now wid)

end Attach

/-! ## Which sessions were counted -/

/-- The ids of the sessions that are `ACTIVE` and expire later than `t`. -/
def SessionTables.liveIds (d : SessionTables) (wid : Nat) (t : Int) : Finset Nat :=
  ((d.sessions.entries.filter fun e => e.2.isLiveOf wid t).map Sigma.fst).toFinset

/-- The tables, and of each workspace the sessions and the time of its last recount. -/
structure WatchedSessions where
  tables : SessionTables
  counted : Nat → Finset Nat := fun _ => ∅
  recountedAt : Nat → Int := fun _ => 0

namespace WatchedSessions

/-- Counted by the last recount, and not live any more. -/
def lapsed (s : WatchedSessions) (wid : Nat) (t : Int) : Nat :=
  (s.counted wid \ s.tables.liveIds wid t).card

/-- Live, and not counted by the last recount. -/
def missed (s : WatchedSessions) (wid : Nat) (t : Int) : Nat :=
  (s.tables.liveIds wid t \ s.counted wid).card

end WatchedSessions

section Watched

variable (hashToken : String → String) (quotas : List Quota)

/-- One operation. -/
def watchOp (s : WatchedSessions) (op : SessionOp) : WatchedSessions :=
  let o := performSessionOp hashToken s.tables op
  if o.recounted then
    { tables := o.objects
      counted := Function.update s.counted op.wid (o.flushed.liveIds op.wid op.now)
      recountedAt := Function.update s.recountedAt op.wid op.now }
  else { s with tables := o.objects }

def watchedStep (s : WatchedSessions) (r : SessionRequest) : WatchedSessions :=
  (r.op hashToken quotas s.tables).elim s (watchOp hashToken s)

end Watched

section LiveIds

variable {d : SessionTables} {wid k : Nat} {t : Int}

theorem mem_liveIds : k ∈ d.liveIds wid t ↔
    ∃ r, d.sessions.lookup k = some r ∧ r.isLiveOf wid t = true := by
  simp only [SessionTables.liveIds, List.mem_toFinset, List.mem_map, List.mem_filter]
  constructor
  · rintro ⟨⟨k', r⟩, ⟨hmem, hlive⟩, rfl⟩
    exact ⟨r, mem_entries_iff.mp hmem, hlive⟩
  · rintro ⟨r, hk, hlive⟩
    exact ⟨⟨k, r⟩, ⟨mem_entries_iff.mpr hk, hlive⟩, rfl⟩

theorem card_liveIds : (d.liveIds wid t).card = d.liveSessions wid t := by
  have hnodup : ((d.sessions.entries.filter fun e => e.2.isLiveOf wid t).map Sigma.fst).Nodup :=
    (List.filter_sublist.map Sigma.fst).nodup d.sessions.nodupKeys
  rw [SessionTables.liveIds, List.toFinset_card_of_nodup hnodup, List.length_map,
    liveSessions_eq_countP, List.countP_eq_length_filter]

end LiveIds

/-! ## The counter is what the last recount saw -/

/-- The counter is the number of counted sessions; from the last recount on, the live sessions are
among them. -/
structure CountedOk (s : WatchedSessions) : Prop where
  owned : s.tables.Owned
  counter : ∀ w c, s.tables.activeSessionsCount.lookup w = some c → c = (s.counted w).card
  covers : ∀ w t, s.recountedAt w ≤ t → s.tables.liveIds w t ⊆ s.counted w

section Invariant

variable (hashToken : String → String)

/-- Rows of another workspace are live as before. -/
theorem RowChange.liveIds_other {d d' : SessionTables} {op : SessionOp}
    {stored rows : Table Nat SessionRow} (h : RowChange d op stored rows) {w : Nat}
    (hw : w ≠ op.wid) (t : Int) (hd : d'.sessions = rows) : d'.liveIds w t ⊆ d.liveIds w t := by
  intro k hk
  obtain ⟨r, hr, hlive⟩ := mem_liveIds.mp hk
  rw [hd] at hr
  rcases h.lookup hr with hwid | hold
  · have hact := (Bool.and_eq_true _ _ ▸ hlive : r.isActiveOf w = true ∧ _).1
    exact absurd ((isActiveOf_iff.mp hact).1.symm.trans hwid) hw
  · exact mem_liveIds.mpr ⟨r, hold, hlive⟩

theorem isLiveOf_mono {r : SessionRow} {w : Nat} {t t' : Int} (ht : t' ≤ t)
    (h : r.isLiveOf w t = true) : r.isLiveOf w t' = true := by
  simp only [SessionRow.isLiveOf, Bool.and_eq_true, decide_eq_true_eq] at h ⊢
  exact ⟨h.1, by omega⟩

/-- What is live after an operation was seen by its recount. -/
theorem RowChange.liveIds_recounted {d d' ds : SessionTables} {op : SessionOp}
    {stored rows : Table Nat SessionRow} (h : RowChange d op stored rows) {t : Int}
    (ht : op.now ≤ t) (hd : d'.sessions = rows) (hs : ds.sessions = stored) :
    d'.liveIds op.wid t ⊆ ds.liveIds op.wid op.now := by
  intro k hk
  obtain ⟨r, hr, hlive⟩ := mem_liveIds.mp hk
  rw [hd] at hr
  refine mem_liveIds.mpr ?_
  rw [hs]
  cases h with
  | created => exact ⟨r, hr, isLiveOf_mono ht hlive⟩
  | expired =>
      rw [Table.lookup_insert_eq] at hr
      split at hr
      · obtain rfl := Option.some.inj hr
        simp [SessionRow.isLiveOf, SessionRow.isActiveOf] at hlive
      · exact ⟨r, hr, isLiveOf_mono ht hlive⟩
  | revoked hop hrows =>
      have hno := (RowChange.revoked hop hrows).no_active hop k r hr
      simp [SessionRow.isLiveOf, hno] at hlive

/-- An access that is granted leaves the live sessions as they were. -/
theorem liveIds_seen {d d' : SessionTables} {k : Nat} {r : SessionRow} {t : Int}
    (hk : d.sessions.lookup k = some r)
    (hd : d'.sessions = d.sessions.insert k { r with lastSeenAt := t }) (w : Nat) (t' : Int) :
    d'.liveIds w t' ⊆ d.liveIds w t' := by
  intro k' hk'
  obtain ⟨r', hr', hlive⟩ := mem_liveIds.mp hk'
  rw [hd, Table.lookup_insert_eq] at hr'
  split at hr'
  · rename_i hkk
    obtain rfl := Option.some.inj hr'
    exact mem_liveIds.mpr ⟨r, hkk ▸ hk, hlive⟩
  · exact mem_liveIds.mpr ⟨r', hr', hlive⟩

theorem watchOp_ok {s : WatchedSessions} (h : CountedOk s) (op : SessionOp) :
    CountedOk (watchOp hashToken s op) := by
  have howned := sessionStep_owned hashToken h.owned op
  have heff := performSessionOp_effect hashToken h.owned op
  unfold sessionStep at howned
  unfold watchOp
  generalize performSessionOp hashToken s.tables op = o at howned heff
  cases heff with
  | idle => exact h
  | seen _ hk t =>
      exact ⟨howned, h.counter, fun w t' ht => (liveIds_seen hk rfl w t').trans (h.covers w t' ht)⟩
  | @recounted c stored rows hws hrows =>
      refine ⟨howned, fun w c hc => ?_, fun w t ht => ?_⟩
      · change (s.tables.activeSessionsCount.insert op.wid _).lookup w = some c at hc
        change c = (Function.update s.counted op.wid _ w).card
        rw [Table.lookup_insert_eq] at hc
        split at hc
        · rename_i hw
          subst hw
          rw [Function.update_self, card_liveIds]
          exact (Option.some.inj hc).symm
        · rename_i hw
          rw [Function.update_of_ne hw]
          exact h.counter w c hc
      · change Function.update s.recountedAt op.wid op.now w ≤ t at ht
        change _ ⊆ Function.update s.counted op.wid _ w
        by_cases hw : w = op.wid
        · subst hw
          rw [Function.update_self] at ht ⊢
          exact hrows.liveIds_recounted ht rfl rfl
        · rw [Function.update_of_ne hw] at ht ⊢
          exact (hrows.liveIds_other hw t rfl).trans (h.covers w t ht)

theorem watchedStep_ok (quotas : List Quota) {s : WatchedSessions} (h : CountedOk s)
    (r : SessionRequest) : CountedOk (watchedStep hashToken quotas s r) := by
  unfold watchedStep
  cases r.op hashToken quotas s.tables with
  | none => exact h
  | some op => exact watchOp_ok hashToken h op

theorem countedOk_init (workspaces : List Nat) :
    CountedOk { tables := initSessionTables workspaces } where
  owned := (initSessionTables_inv workspaces).1
  counter := fun _ _ hc => initSessionTables_zero workspaces hc
  covers := fun w t _ k hk => by
    obtain ⟨r, hr, -⟩ := mem_liveIds.mp hk
    cases hr

end Invariant

/-! ## When the check is exact -/

section Exact

variable {hashToken : String → String} {quotas : List Quota}

/-- The sessions that have lapsed since the last recount do not decide: the live ones reach the
limit, or both together do not. A session the recount missed weighs the other way. -/
def LapsedFit (s : WatchedSessions) (wid : Nat) (t : Int) (m : Nat) : Prop :=
  m ≤ s.tables.liveSessions wid t ∧
      m + s.missed wid t ≤ s.tables.liveSessions wid t + s.lapsed wid t ∨
    s.tables.liveSessions wid t < m ∧
      s.tables.liveSessions wid t + s.lapsed wid t < m + s.missed wid t

/-- The attach is refused for `max_sessions`. -/
def QuotaRefused (hashToken : String → String) (quotas : List Quota) (d : SessionTables)
    (r : AttachWorkspaceRequest) : Prop :=
  ∃ e, requestAttachWorkspace hashToken quotas r (.fresh d) = .error (.quota e) ∧
    e.quotaField = "max_sessions"

theorem quotaRefused_iff {d : SessionTables} {r : AttachWorkspaceRequest} {c m : Nat} (hgate : r.gates = none)
    (hws : d.activeSessionsCount.lookup r.wid = some c)
    (hm : (getEffectiveQuota quotas (some r.owner) (some r.wid)).bind (·.maxSessions) = some m) :
    QuotaRefused hashToken quotas d r ↔ m ≤ c := by
  unfold QuotaRefused requestAttachWorkspace checkSessionQuota
  have hc : (OrmSession.fresh d).objects.activeSessionsCount.lookup r.wid = some c := hws
  simp only [hgate, hm, hc, Option.getD_some]
  by_cases hle : m ≤ c
  · simp [hle]
  · simp only [if_neg hle]
    refine iff_of_false ?_ hle
    rintro ⟨e, he, -⟩
    split at he
    · cases he
    · split at he <;> cases he

/-- The counter and the live sessions differ by what lapsed and what was missed. -/
theorem counter_balance {s : WatchedSessions} (h : CountedOk s) {w c : Nat} (t : Int)
    (hws : s.tables.activeSessionsCount.lookup w = some c) :
    c + s.missed w t = s.tables.liveSessions w t + s.lapsed w t := by
  have h₁ := Finset.card_sdiff_add_card (s.tables.liveIds w t) (s.counted w)
  have h₂ := Finset.card_sdiff_add_card (s.counted w) (s.tables.liveIds w t)
  rw [Finset.union_comm] at h₂
  rw [h.counter w c hws, ← card_liveIds]
  unfold WatchedSessions.missed WatchedSessions.lapsed
  omega

/-- **The session quota.** In every state reached by attaches, accesses and bulk revocations, an
attach that passes its other gates is refused for `max_sessions = m` exactly when `m` sessions are
live, if and only if the lapsed ones do not decide. From the last recount on, no live session is
missed. -/
theorem session_quota_exact_iff {workspaces : List Nat} {s : WatchedSessions}
    (hs : Reachable (watchedStep hashToken quotas) { tables := initSessionTables workspaces } s)
    {r : AttachWorkspaceRequest} {c m : Nat} (hgate : r.gates = none)
    (hws : s.tables.activeSessionsCount.lookup r.wid = some c)
    (hm : (getEffectiveQuota quotas (some r.owner) (some r.wid)).bind (·.maxSessions) = some m) :
    ((QuotaRefused hashToken quotas s.tables r ↔ m ≤ s.tables.liveSessions r.wid r.now) ↔
        LapsedFit s r.wid r.now m) ∧
      (s.recountedAt r.wid ≤ r.now → s.missed r.wid r.now = 0) := by
  have hok : CountedOk s := hs.invariant (countedOk_init workspaces)
    fun s r h => watchedStep_ok hashToken quotas h r
  have hbal := counter_balance hok r.now hws
  refine ⟨?_, fun ht => ?_⟩
  · rw [quotaRefused_iff hgate hws hm]
    unfold LapsedFit
    omega
  · rw [WatchedSessions.missed, Finset.card_eq_zero, Finset.sdiff_eq_empty_iff_subset]
    exact hok.covers r.wid r.now ht

end Exact

/-- One session for each workspace. -/
def oneSession : List Quota := [{ scopeType := .global, maxSessions := some 1 }]

/-- One attach, for a minute. -/
def attachOnce : List SessionRequest :=
  [.attach { ttl := 60, now := 0, wid := 1, owner := 7, token := "dnws_a" }]

def attachAt (t : Int) : AttachWorkspaceRequest :=
  { ttl := 60, now := t, wid := 1, owner := 7, token := "dnws_b" }

def attachedOnce : WatchedSessions :=
  run (watchedStep id oneSession) { tables := initSessionTables [1] } attachOnce

/-- While the session lives, the second attach is refused for it. -/
theorem live_session_refuses :
    LapsedFit attachedOnce 1 30 1 ∧
      (QuotaRefused id oneSession attachedOnce.tables (attachAt 30) ↔
        1 ≤ attachedOnce.tables.liveSessions 1 30) := by
  have hfit : LapsedFit attachedOnce 1 30 1 := by
    unfold LapsedFit
    decide +kernel
  have hws : attachedOnce.tables.activeSessionsCount.lookup (attachAt 30).wid = some 1 := by
    decide +kernel
  exact ⟨hfit, (session_quota_exact_iff ⟨attachOnce, rfl⟩ rfl hws rfl).1.mpr hfit⟩

/-- After it has expired no session is live, and the attach is refused all the same. -/
theorem expired_session_refuses :
    ¬ ∀ (hashToken : String → String) (quotas : List Quota) (workspaces : List Nat)
      (s : WatchedSessions) (r : AttachWorkspaceRequest) (c m : Nat),
      Reachable (watchedStep hashToken quotas) { tables := initSessionTables workspaces } s →
      r.gates = none → s.tables.activeSessionsCount.lookup r.wid = some c →
      (getEffectiveQuota quotas (some r.owner) (some r.wid)).bind (·.maxSessions) = some m →
      (QuotaRefused hashToken quotas s.tables r ↔ m ≤ s.tables.liveSessions r.wid r.now) := by
  intro h
  have hws : attachedOnce.tables.activeSessionsCount.lookup (attachAt 100).wid = some 1 := by
    decide +kernel
  have hiff := h id oneSession [1] attachedOnce (attachAt 100) 1 1 ⟨attachOnce, rfl⟩ rfl hws rfl
  have hrefused : QuotaRefused id oneSession attachedOnce.tables (attachAt 100) :=
    (quotaRefused_iff rfl hws rfl).mpr le_rfl
  have hlive := hiff.mp hrefused
  revert hlive
  decide +kernel

end Devnest
