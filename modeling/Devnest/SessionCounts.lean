import Devnest.GatewayAuth
import Devnest.Table
import Devnest.Runs

/-!
# Workspace sessions and their counter

`workspace_session_service.py`: sessions are issued on attach, looked up by
the hash of their token on access, and revoked in bulk when a workspace
stops, restarts or is deleted. `Workspace.active_sessions_count` is
recounted from the session rows after each change.

The ORM sessions are created with `autoflush=False`. A query filters the
stored rows, while the objects it returns are those of the identity map,
with whatever was assigned to them since; `OrmSession` keeps the two apart.
The bulk revocation recounts before its own changes are flushed, so the
count it stores is the one from before (`counter_exact_iff`).
-/

namespace Devnest

open PyText Runs

/-! ## Rows -/

/-- A row of `workspace_session`; its key is the session id. The gateway reads a part of it. -/
structure SessionRow extends WorkspaceSession where
  userId : Nat
  issuedAt : Int
  lastSeenAt : Int
  deriving DecidableEq, Repr

/-- The session rows, and `active_sessions_count` of the workspaces. -/
structure SessionTables where
  activeSessionsCount : Table Nat Nat := ∅
  sessions : Table Nat SessionRow := ∅

/-- The row belongs to the workspace and is `ACTIVE`. -/
def SessionRow.isActiveOf (wid : Nat) (r : SessionRow) : Bool :=
  r.workspaceId = wid && r.status = .active

/-- An `ACTIVE` row of the workspace that expires later than `t`. -/
def SessionRow.isLiveOf (wid : Nat) (t : Int) (r : SessionRow) : Bool :=
  r.isActiveOf wid && decide (t < r.expiresAt)

/-- How many sessions of the workspace are `ACTIVE` and expire later than `t`. -/
def SessionTables.liveSessions (d : SessionTables) (wid : Nat) (t : Int) : Nat :=
  Table.rowCount (SessionRow.isLiveOf wid t) d.sessions

/-! ## The ORM session -/

/-- A transaction of a session without autoflush. -/
structure OrmSession where
  /-- The rows its queries see. -/
  flushed : SessionTables
  /-- The rows as the identity map holds them. -/
  objects : SessionTables
  /-- The counter was assigned. -/
  recounted : Bool := false

namespace OrmSession

/-- A transaction that has changed nothing. -/
def fresh (d : SessionTables) : OrmSession := { flushed := d, objects := d }

def flush (s : OrmSession) : OrmSession := { s with flushed := s.objects }

/-- A `SELECT`: the stored values decide which rows come back, as objects. -/
def select (s : OrmSession) (p : SessionRow → Bool) : List (Nat × SessionRow) :=
  (s.flushed.sessions.entries.filter fun e => p e.2).map fun e =>
    (e.1, (s.objects.sessions.lookup e.1).getD e.2)

/-- An assignment to one object. -/
def assign (s : OrmSession) (k : Nat) (r : SessionRow) : OrmSession :=
  { s with objects := { s.objects with sessions := s.objects.sessions.insert k r } }

end OrmSession

/-- `count_effective_active_sessions`. -/
def countEffectiveActiveSessions (s : OrmSession) (wid : Nat) (now : Int) : Nat :=
  (s.select (SessionRow.isActiveOf wid)).countP fun e => decide (now < e.2.expiresAt)

/-- `reconcile_workspace_active_session_count`. -/
def reconcileWorkspaceActiveSessionCount (s : OrmSession) (wid : Nat) (now : Int) : OrmSession :=
  match s.objects.activeSessionsCount.lookup wid with
  | none => s
  | some _ =>
      { s with
        objects := { s.objects with
          activeSessionsCount := s.objects.activeSessionsCount.insert wid
            (countEffectiveActiveSessions s wid now) }
        recounted := true }

/-! ## Operations -/

/-- `WorkspaceAccessDeniedError`, by the reason that is logged. -/
inductive AccessDenied where
  | missingToken | unknownToken | tokenWorkspaceMismatch
  | status (st : WorkspaceSessionStatus)
  | expired
  deriving DecidableEq, Repr

section Operations

-- `hash_workspace_session_token`, a keyed SHA-256.
variable (hashToken : String → String)

/-- The row of a new session; it lives for `max(60, ttl)` seconds. -/
def newWorkspaceSession (ttl now : Int) (wid uid : Nat) (token : String) : SessionRow where
  sessionTokenHash := hashToken token
  workspaceId := wid
  status := .active
  userId := uid
  issuedAt := now
  expiresAt := now + max 60 ttl
  lastSeenAt := now

/-- `create_workspace_session`; `none` when the row breaks a constraint of the table (an unknown
workspace, a token hash that exists). -/
def createWorkspaceSession (ttl now : Int) (wid uid : Nat) (token : String) (s : OrmSession) :
    Option OrmSession :=
  if (s.objects.activeSessionsCount.lookup wid).isNone ||
      (Table.rows s.objects.sessions).any (fun r => r.sessionTokenHash = hashToken token) then none
  else
    let s := (s.assign (Table.freshKey s.objects.sessions)
      (newWorkspaceSession hashToken ttl now wid uid token)).flush
    some (reconcileWorkspaceActiveSessionCount s wid now)

/-- `resolve_workspace_session_for_access`: the session that is committed, and the answer. -/
def resolveWorkspaceSessionForAccess (now : Int) (wid uid : Nat) (tokenPlain : String)
    (s : OrmSession) : OrmSession × Except AccessDenied Nat :=
  let raw := strip tokenPlain
  if raw = "" then (s, .error .missingToken)
  else
    match s.select (fun r => r.sessionTokenHash = hashToken raw) with
    | [] => (s, .error .unknownToken)
    | (k, row) :: _ =>
        if row.workspaceId ≠ wid || row.userId ≠ uid then (s, .error .tokenWorkspaceMismatch)
        else if row.status ≠ .active then (s, .error (.status row.status))
        else if row.expiresAt ≤ now then
          (reconcileWorkspaceActiveSessionCount (s.assign k { row with status := .expired }) wid now,
            .error .expired)
        else ((s.assign k { row with lastSeenAt := now }).flush, .ok k)

/-- The loop of `revoke_all_workspace_sessions`. -/
def revokeRows (rows : List (Nat × SessionRow)) (s : OrmSession) : OrmSession :=
  rows.foldl (fun s e => s.assign e.1 { e.2 with status := .revoked }) s

/-- `revoke_all_workspace_sessions`: the recount comes before any flush. -/
def revokeAllWorkspaceSessions (now : Int) (wid : Nat) (s : OrmSession) : OrmSession :=
  let rows := s.select (SessionRow.isActiveOf wid)
  if rows = [] then s
  else reconcileWorkspaceActiveSessionCount (revokeRows rows s) wid now

/-! ## Runs -/

inductive SessionOp where
  | create (now ttl : Int) (wid uid : Nat) (token : String)
  | resolve (now : Int) (wid uid : Nat) (tokenPlain : String)
  | revokeAll (now : Int) (wid : Nat)

namespace SessionOp

def now : SessionOp → Int
  | create now _ _ _ _ | resolve now _ _ _ | revokeAll now _ => now

def wid : SessionOp → Nat
  | create _ _ wid _ _ | resolve _ wid _ _ | revokeAll _ wid => wid

end SessionOp

/-- One operation in a transaction of its own. -/
def performSessionOp (d : SessionTables) : SessionOp → OrmSession
  | .create now ttl wid uid token =>
      (createWorkspaceSession hashToken ttl now wid uid token (.fresh d)).getD (.fresh d)
  | .resolve now wid uid tokenPlain =>
      (resolveWorkspaceSessionForAccess hashToken now wid uid tokenPlain (.fresh d)).1
  | .revokeAll now wid => revokeAllWorkspaceSessions now wid (.fresh d)

/-- The operation, followed by the commit. -/
def sessionStep (d : SessionTables) (op : SessionOp) : SessionTables :=
  (performSessionOp hashToken d op).objects

end Operations

/-! ## What the recount sees -/

theorem mem_entries_iff {d : SessionTables} {k : Nat} {r : SessionRow} :
    (⟨k, r⟩ : Sigma fun _ : Nat => SessionRow) ∈ d.sessions.entries ↔
      d.sessions.lookup k = some r :=
  (AList.mem_lookup_iff (s := d.sessions)).symm

theorem liveSessions_eq_countP (d : SessionTables) (wid : Nat) (t : Int) :
    d.liveSessions wid t = d.sessions.entries.countP fun e => e.2.isLiveOf wid t := by
  rw [SessionTables.liveSessions, Table.rowCount, Table.rows, List.countP_map]
  rfl

theorem liveSessions_eq_zero {d : SessionTables} {wid : Nat} {t : Int}
    (h : ∀ k r, d.sessions.lookup k = some r → r.isActiveOf wid = false) :
    d.liveSessions wid t = 0 := by
  rw [liveSessions_eq_countP, List.countP_eq_zero]
  intro e he
  simp [SessionRow.isLiveOf, h e.1 e.2 (mem_entries_iff.mp he)]

/-- The recount sees the stored rows: objects keep their `expires_at`. -/
theorem countEffectiveActiveSessions_eq {s : OrmSession} {wid : Nat} {now : Int}
    (h : ∀ k r, s.flushed.sessions.lookup k = some r →
      ∃ r', s.objects.sessions.lookup k = some r' ∧ r'.expiresAt = r.expiresAt) :
    countEffectiveActiveSessions s wid now = s.flushed.liveSessions wid now := by
  rw [liveSessions_eq_countP, countEffectiveActiveSessions, OrmSession.select, List.countP_map,
    List.countP_filter]
  refine List.countP_congr fun e he => ?_
  obtain ⟨r', hr', hexp⟩ := h e.1 e.2 (mem_entries_iff.mp he)
  simp [hr', hexp, SessionRow.isLiveOf, and_comm]

theorem OrmSession.mem_select_fresh {d : SessionTables} {p : SessionRow → Bool}
    {e : Nat × SessionRow} :
    e ∈ (OrmSession.fresh d).select p ↔ d.sessions.lookup e.1 = some e.2 ∧ p e.2 = true := by
  simp only [OrmSession.select, OrmSession.fresh, List.mem_map, List.mem_filter]
  constructor
  · rintro ⟨⟨k, r⟩, ⟨hmem, hp⟩, rfl⟩
    have hl := mem_entries_iff.mp hmem
    simpa [hl] using hp
  · rintro ⟨hl, hp⟩
    exact ⟨⟨e.1, e.2⟩, ⟨mem_entries_iff.mpr hl, hp⟩, by simp [hl]⟩

section Revoke

variable (rows : List (Nat × SessionRow)) (s : OrmSession)

theorem revokeRows_fields :
    (revokeRows rows s).flushed = s.flushed ∧
      (revokeRows rows s).objects.activeSessionsCount = s.objects.activeSessionsCount := by
  unfold revokeRows
  induction rows generalizing s with
  | nil => exact ⟨rfl, rfl⟩
  | cons e rows ih => exact ih (s.assign e.1 { e.2 with status := .revoked })

theorem revokeRows_lookup (k : Nat) :
    (∃ r, (k, r) ∈ rows ∧
        (revokeRows rows s).objects.sessions.lookup k = some { r with status := .revoked }) ∨
      (∀ r, (k, r) ∉ rows) ∧
        (revokeRows rows s).objects.sessions.lookup k = s.objects.sessions.lookup k := by
  induction rows generalizing s with
  | nil => exact .inr ⟨by simp, rfl⟩
  | cons e rows ih =>
      rcases ih (s.assign e.1 { e.2 with status := .revoked }) with ⟨r, hr, hl⟩ | ⟨hno, hl⟩
      · exact .inl ⟨r, List.mem_cons_of_mem _ hr, hl⟩
      · by_cases hk : k = e.1
        · subst hk
          refine .inl ⟨e.2, List.mem_cons_self, hl.trans ?_⟩
          simp [OrmSession.assign]
        · refine .inr ⟨fun r hr => ?_, hl.trans ?_⟩
          · rcases List.mem_cons.mp hr with rfl | hr
            · exact hk rfl
            · exact hno r hr
          · simp [OrmSession.assign, hk]

end Revoke

/-- After the loop the active rows of the workspace are revoked, the others as they were. -/
theorem revokeRows_active (d : SessionTables) (wid k : Nat) :
    (revokeRows ((OrmSession.fresh d).select (SessionRow.isActiveOf wid))
        (.fresh d)).objects.sessions.lookup k =
      (d.sessions.lookup k).map fun r =>
        if r.isActiveOf wid then { r with status := .revoked } else r := by
  rcases revokeRows_lookup ((OrmSession.fresh d).select (SessionRow.isActiveOf wid))
    (.fresh d) k with ⟨r, hr, hl⟩ | ⟨hno, hl⟩
  · obtain ⟨hk, hact⟩ := OrmSession.mem_select_fresh.mp hr
    have hk' : d.sessions.lookup k = some r := hk
    have hact' : r.isActiveOf wid = true := hact
    simp [hl, hk', hact']
  · rw [hl]
    show d.sessions.lookup k = _
    cases hk : d.sessions.lookup k with
    | none => rfl
    | some r =>
        have hact : r.isActiveOf wid = false := by
          by_contra hact
          exact hno r (OrmSession.mem_select_fresh.mpr ⟨hk, by simpa using hact⟩)
        simp [hact]

/-! ## What an operation does -/

/-- A bulk revocation. -/
def SessionOp.isRevoke : SessionOp → Bool
  | revokeAll _ _ => true
  | create _ _ _ _ _ | resolve _ _ _ _ => false

/-- The session rows a recount reads (`stored`) and those the operation commits (`rows`). -/
inductive RowChange (d : SessionTables) (op : SessionOp) :
    Table Nat SessionRow → Table Nat SessionRow → Prop
  | created {k : Nat} {r : SessionRow} (hop : op.isRevoke = false)
      (hk : d.sessions.lookup k = none) (hact : r.isActiveOf op.wid = true)
      (hexp : op.now < r.expiresAt) :
      RowChange d op (d.sessions.insert k r) (d.sessions.insert k r)
  | expired {k : Nat} {r : SessionRow} (hop : op.isRevoke = false)
      (hk : d.sessions.lookup k = some r) (hact : r.isActiveOf op.wid = true)
      (hexp : r.expiresAt ≤ op.now) :
      RowChange d op d.sessions (d.sessions.insert k { r with status := .expired })
  | revoked {rows : Table Nat SessionRow} (hop : op.isRevoke = true)
      (hrows : ∀ k, rows.lookup k = (d.sessions.lookup k).map fun r =>
        if r.isActiveOf op.wid then { r with status := .revoked } else r) :
      RowChange d op d.sessions rows

/-- What an operation leaves to be committed. -/
inductive SessionEffect (d : SessionTables) (op : SessionOp) : OrmSession → Prop
  | idle (hrev : op.isRevoke = true →
        ∀ k r, d.sessions.lookup k = some r → r.isActiveOf op.wid = false) :
      SessionEffect d op (.fresh d)
  | seen {k : Nat} {r : SessionRow} (hop : op.isRevoke = false)
      (hk : d.sessions.lookup k = some r) (t : Int) :
      SessionEffect d op (.fresh { d with sessions := d.sessions.insert k { r with lastSeenAt := t } })
  | recounted {c : Nat} {stored rows : Table Nat SessionRow}
      (hws : d.activeSessionsCount.lookup op.wid = some c) (hrows : RowChange d op stored rows) :
      SessionEffect d op
        { flushed := { d with sessions := stored }
          objects :=
            { activeSessionsCount := d.activeSessionsCount.insert op.wid
                (SessionTables.liveSessions { d with sessions := stored } op.wid op.now)
              sessions := rows }
          recounted := true }

/-- Every session belongs to a workspace. -/
def SessionTables.Owned (d : SessionTables) : Prop :=
  ∀ k r, d.sessions.lookup k = some r → (d.activeSessionsCount.lookup r.workspaceId).isSome

section Effects

variable {d : SessionTables} (hashToken : String → String)

theorem reconcile_of_lookup {s : OrmSession} {wid c : Nat} {now : Int}
    (hws : s.objects.activeSessionsCount.lookup wid = some c)
    (hobj : ∀ k r, s.flushed.sessions.lookup k = some r →
      ∃ r', s.objects.sessions.lookup k = some r' ∧ r'.expiresAt = r.expiresAt) :
    reconcileWorkspaceActiveSessionCount s wid now =
      { s with
        objects := { s.objects with
          activeSessionsCount := s.objects.activeSessionsCount.insert wid
            (s.flushed.liveSessions wid now) }
        recounted := true } := by
  rw [reconcileWorkspaceActiveSessionCount, hws, countEffectiveActiveSessions_eq hobj]

theorem isActiveOf_iff {r : SessionRow} {wid : Nat} :
    r.isActiveOf wid = true ↔ r.workspaceId = wid ∧ r.status = .active := by
  simp [SessionRow.isActiveOf]

theorem create_effect {ttl now : Int} {wid uid : Nat} {token : String} :
    SessionEffect d (.create now ttl wid uid token)
      (performSessionOp hashToken d (.create now ttl wid uid token)) := by
  have hidle : SessionEffect d (.create now ttl wid uid token) (.fresh d) :=
    .idle fun h => Bool.noConfusion h
  simp only [performSessionOp, createWorkspaceSession]
  split
  · exact hidle
  · rename_i hok
    simp only [Bool.or_eq_true, not_or] at hok
    obtain ⟨c, hc⟩ : ∃ c, d.activeSessionsCount.lookup wid = some c := by
      rw [← Option.ne_none_iff_exists']
      intro hn
      exact hok.1 (by simp [OrmSession.fresh, hn])
    rw [Option.getD_some, reconcile_of_lookup (c := c) hc fun k r hr => ⟨r, hr, rfl⟩]
    refine .recounted hc (.created rfl (Table.lookup_freshKey _) (isActiveOf_iff.mpr ⟨rfl, rfl⟩) ?_)
    show now < now + max 60 ttl
    omega

theorem resolve_effect (hown : d.Owned) {now : Int} {wid uid : Nat} {token : String} :
    SessionEffect d (.resolve now wid uid token)
      (performSessionOp hashToken d (.resolve now wid uid token)) := by
  have hidle : SessionEffect d (.resolve now wid uid token) (.fresh d) :=
    .idle fun h => Bool.noConfusion h
  simp only [performSessionOp, resolveWorkspaceSessionForAccess]
  split
  · exact hidle
  · split
    · exact hidle
    · rename_i k row _ hsel
      have hk : d.sessions.lookup k = some row :=
        (OrmSession.mem_select_fresh.mp (hsel ▸ List.mem_cons_self)).1
      split
      · exact hidle
      · rename_i hmatch
        simp only [Bool.or_eq_true, decide_eq_true_eq, not_or, not_not] at hmatch
        split
        · exact hidle
        · rename_i hact
          have hact : row.isActiveOf wid = true := isActiveOf_iff.mpr ⟨hmatch.1, not_not.mp hact⟩
          split
          · rename_i hexp
            obtain ⟨c, hc⟩ := Option.isSome_iff_exists.mp (hown k row hk)
            rw [hmatch.1] at hc
            rw [reconcile_of_lookup (c := c) hc]
            · exact .recounted hc (.expired rfl hk hact hexp)
            · intro k' r' hr'
              by_cases hkk : k' = k
              · subst hkk
                have : r' = row := Option.some.inj (hr'.symm.trans hk)
                subst this
                exact ⟨{ r' with status := .expired }, by simp [OrmSession.assign], rfl⟩
              · exact ⟨r', (AList.lookup_insert_ne hkk).trans hr', rfl⟩
          · exact .seen rfl hk now

theorem revoke_effect (hown : d.Owned) {now : Int} {wid : Nat} :
    SessionEffect d (.revokeAll now wid) (performSessionOp hashToken d (.revokeAll now wid)) := by
  simp only [performSessionOp, revokeAllWorkspaceSessions]
  split
  · rename_i hnil
    refine .idle fun _ k r hk => Bool.eq_false_iff.mpr fun hact => ?_
    have hmem : (k, r) ∈ (OrmSession.fresh d).select (SessionRow.isActiveOf wid) :=
      OrmSession.mem_select_fresh.mpr ⟨hk, hact⟩
    rw [hnil] at hmem
    cases hmem
  · rename_i hne
    obtain ⟨⟨k, r⟩, hmem⟩ := List.exists_mem_of_ne_nil _ hne
    obtain ⟨hk, hact⟩ := OrmSession.mem_select_fresh.mp hmem
    obtain ⟨c, hc⟩ := Option.isSome_iff_exists.mp (hown k r hk)
    rw [(isActiveOf_iff.mp hact).1] at hc
    have hrows := revokeRows_active d wid
    have hfields := revokeRows_fields
      ((OrmSession.fresh d).select (SessionRow.isActiveOf wid)) (.fresh d)
    generalize revokeRows ((OrmSession.fresh d).select (SessionRow.isActiveOf wid))
      (.fresh d) = s at hrows hfields
    obtain ⟨flushed, ⟨counts, rows⟩, flag⟩ := s
    obtain ⟨hflushed, hcounts⟩ := hfields
    simp only [OrmSession.fresh] at hflushed hcounts hrows
    subst hflushed hcounts
    rw [reconcile_of_lookup (c := c) hc]
    · exact .recounted hc (.revoked rfl hrows)
    · intro k' r' hr'
      have hr' : flushed.sessions.lookup k' = some r' := hr'
      refine ⟨_, (hrows k').trans (by rw [hr', Option.map_some]), ?_⟩
      split <;> rfl

/-- **What an operation does.** -/
theorem performSessionOp_effect (hown : d.Owned) (op : SessionOp) :
    SessionEffect d op (performSessionOp hashToken d op) := by
  cases op with
  | create now ttl wid uid token => exact create_effect hashToken
  | resolve now wid uid token => exact resolve_effect hashToken hown
  | revokeAll now wid => exact revoke_effect hashToken hown

end Effects

/-! ## The counter -/

section Counter

variable (hashToken : String → String)

/-- The counter after an operation: exact when the operation assigned it, 0 after a bulk
revocation. -/
structure CounterExact (d : SessionTables) (op : SessionOp) : Prop where
  recounted : (performSessionOp hashToken d op).recounted = true →
    (sessionStep hashToken d op).activeSessionsCount.lookup op.wid =
      some ((sessionStep hashToken d op).liveSessions op.wid op.now)
  revoked : op.isRevoke = true → ∀ c,
    (sessionStep hashToken d op).activeSessionsCount.lookup op.wid = some c → c = 0

/-- No session is revoked that had time left. -/
def RevokesNoLive (d : SessionTables) (op : SessionOp) : Prop :=
  op.isRevoke = true → d.liveSessions op.wid op.now = 0

/-- Workspaces without sessions. -/
def initSessionTables (workspaces : List Nat) : SessionTables :=
  { activeSessionsCount := workspaces.foldl (fun t w => t.insert w 0) ∅ }

/-- A counter that is not 0 has an `ACTIVE` row to account for. -/
def SessionTables.Accounted (d : SessionTables) : Prop :=
  ∀ w c, d.activeSessionsCount.lookup w = some c →
    c = 0 ∨ ∃ k r, d.sessions.lookup k = some r ∧ r.isActiveOf w = true

theorem liveSessions_pos_active {d : SessionTables} {wid : Nat} {t : Int}
    (h : d.liveSessions wid t ≠ 0) :
    ∃ k r, d.sessions.lookup k = some r ∧ r.isActiveOf wid = true := by
  by_contra hno
  refine h (liveSessions_eq_zero fun k r hk => ?_)
  by_contra hact
  exact hno ⟨k, r, hk, by simpa using hact⟩

section Rows

variable {d : SessionTables} {op : SessionOp} {stored rows : Table Nat SessionRow}

/-- Apart from a revocation, the rows the recount reads are as live as those it commits. -/
theorem RowChange.live_eq (h : RowChange d op stored rows) (hop : op.isRevoke = false) :
    SessionTables.liveSessions { d with sessions := stored } op.wid op.now =
      SessionTables.liveSessions { d with sessions := rows } op.wid op.now := by
  cases h with
  | created => rfl
  | @expired k r _ hk hact hexp =>
      have hcount := Table.rowCount_insert_of_lookup (SessionRow.isLiveOf op.wid op.now) hk
        { r with status := .expired }
      have hold : Table.tally (SessionRow.isLiveOf op.wid op.now) r = 0 := by
        simp [Table.tally, SessionRow.isLiveOf, hexp]
      have hnew : Table.tally (SessionRow.isLiveOf op.wid op.now)
          { r with status := .expired } = 0 := by
        simp [Table.tally, SessionRow.isLiveOf, SessionRow.isActiveOf]
      have heq : Table.rowCount (SessionRow.isLiveOf op.wid op.now) d.sessions =
          Table.rowCount (SessionRow.isLiveOf op.wid op.now)
            (d.sessions.insert k { r with status := .expired }) := by omega
      exact heq
  | revoked hrev => simp [hop] at hrev

/-- A revocation leaves no active row. -/
theorem RowChange.no_active (h : RowChange d op stored rows) (hop : op.isRevoke = true) (k : Nat)
    (r : SessionRow) (hk : rows.lookup k = some r) : r.isActiveOf op.wid = false := by
  cases h with
  | created hrev => simp [hop] at hrev
  | expired hrev => simp [hop] at hrev
  | revoked _ hrows =>
      rw [hrows k] at hk
      obtain ⟨r', -, rfl⟩ := Option.map_eq_some_iff.mp hk
      split
      · simp [SessionRow.isActiveOf]
      · rename_i hact
        simpa using hact

theorem RowChange.stored_eq (h : RowChange d op stored rows) (hop : op.isRevoke = true) :
    stored = d.sessions := by
  cases h with
  | created hrev => simp [hop] at hrev
  | expired => rfl
  | revoked => rfl

/-- Rows of other workspaces stay; every row keeps its workspace. -/
theorem RowChange.lookup (h : RowChange d op stored rows) {k : Nat} {r : SessionRow}
    (hk : rows.lookup k = some r) :
    r.workspaceId = op.wid ∨ d.sessions.lookup k = some r := by
  cases h with
  | created _ _ hact _ =>
      rw [Table.lookup_insert_eq] at hk
      split at hk
      · cases hk
        exact .inl (isActiveOf_iff.mp hact).1
      · exact .inr hk
  | expired _ _ hact _ =>
      rw [Table.lookup_insert_eq] at hk
      split at hk
      · cases hk
        exact .inl (isActiveOf_iff.mp hact).1
      · exact .inr hk
  | revoked _ hrows =>
      rw [hrows k] at hk
      obtain ⟨r', hr', rfl⟩ := Option.map_eq_some_iff.mp hk
      split
      · rename_i hact
        exact .inl (isActiveOf_iff.mp hact).1
      · exact .inr hr'

/-- An active row of another workspace stays active. -/
theorem RowChange.keeps (h : RowChange d op stored rows) {k w : Nat} {r : SessionRow}
    (hw : w ≠ op.wid) (hk : d.sessions.lookup k = some r) (hact : r.isActiveOf w = true) :
    rows.lookup k = some r := by
  have hne : r.isActiveOf op.wid = false := by
    by_contra hother
    exact hw ((isActiveOf_iff.mp hact).1.symm.trans
      (isActiveOf_iff.mp (by simpa using hother)).1)
  cases h with
  | created _ hnew _ _ =>
      rw [Table.lookup_insert_eq, if_neg]
      · exact hk
      · rintro rfl
        simp [hk] at hnew
  | expired _ hold hactive _ =>
      rw [Table.lookup_insert_eq, if_neg]
      · exact hk
      · rintro rfl
        rw [hk] at hold
        cases hold
        simp [hne] at hactive
  | revoked _ hrows => simp [hrows k, hk, hne]

end Rows

variable {d : SessionTables} {op : SessionOp}

theorem sessionStep_owned (hown : d.Owned) (op : SessionOp) : (sessionStep hashToken d op).Owned := by
  have h := performSessionOp_effect hashToken hown op
  unfold sessionStep
  generalize performSessionOp hashToken d op = s at h
  cases h with
  | idle => exact hown
  | @seen k r _ hk t =>
      intro k' r' hk'
      have hk' : (d.sessions.insert k { r with lastSeenAt := t }).lookup k' = some r' := hk'
      rw [Table.lookup_insert_eq] at hk'
      split at hk'
      · cases hk'
        exact hown k r hk
      · exact hown k' r' hk'
  | recounted hws hrows =>
      intro k r hk
      show ((d.activeSessionsCount.insert op.wid _).lookup r.workspaceId).isSome
      rw [Table.lookup_insert_eq]
      split
      · rfl
      · rename_i hne
        rcases hrows.lookup hk with hw | hk
        · exact absurd hw hne
        · exact hown k r hk

theorem sessionStep_accounted (hown : d.Owned) (hacc : d.Accounted) (hop : RevokesNoLive d op) :
    (sessionStep hashToken d op).Accounted := by
  have h := performSessionOp_effect hashToken hown op
  unfold sessionStep
  generalize performSessionOp hashToken d op = s at h
  cases h with
  | idle => exact hacc
  | @seen k r _ hk t =>
      intro w c hc
      rcases hacc w c hc with rfl | ⟨k', r', hk', hact⟩
      · exact .inl rfl
      · by_cases hkk : k' = k
        · subst hkk
          rw [hk] at hk'
          cases hk'
          refine .inr ⟨k', { r with lastSeenAt := t }, ?_, hact⟩
          exact AList.lookup_insert _
        · exact .inr ⟨k', r', (AList.lookup_insert_ne hkk).trans hk', hact⟩
  | @recounted _ stored rows hws hrows =>
      intro w c hc
      change (d.activeSessionsCount.insert op.wid _).lookup w = some c at hc
      rw [Table.lookup_insert_eq] at hc
      split at hc
      · rename_i hw
        subst hw
        obtain rfl := Option.some.inj hc
        by_cases hrev : op.isRevoke = true
        · refine .inl ?_
          rw [hrows.stored_eq hrev]
          exact hop hrev
        · rw [hrows.live_eq (by simpa using hrev)]
          by_cases hzero : SessionTables.liveSessions { d with sessions := rows } op.wid op.now = 0
          · exact .inl hzero
          · exact .inr (liveSessions_pos_active hzero)
      · rename_i hw
        rcases hacc w c hc with rfl | ⟨k, r, hk, hact⟩
        · exact .inl rfl
        · exact .inr ⟨k, r, hrows.keeps hw hk hact, hact⟩

/-- One operation leaves the counter exact exactly when it revokes no live session. -/
theorem counterExact_step_iff (hown : d.Owned) (hacc : d.Accounted) (op : SessionOp) :
    CounterExact hashToken d op ↔ RevokesNoLive d op := by
  have h := performSessionOp_effect hashToken hown op
  have hstep : sessionStep hashToken d op = (performSessionOp hashToken d op).objects := rfl
  constructor
  · intro hex hrev
    have hzero := hex.revoked hrev
    rw [hstep] at hzero
    generalize performSessionOp hashToken d op = s at h hzero
    cases h with
    | idle hno => exact liveSessions_eq_zero (hno hrev)
    | seen hop => simp [hrev] at hop
    | recounted hws hrows =>
        have hlive := hzero _ (AList.lookup_insert _)
        rwa [hrows.stored_eq hrev] at hlive
  · intro hop
    refine ⟨fun hcount => ?_, fun hrev c hc => ?_⟩
    · rw [hstep]
      generalize performSessionOp hashToken d op = s at h hcount
      cases h with
      | idle => cases hcount
      | seen => cases hcount
      | @recounted _ stored rows hws hrows =>
          refine (AList.lookup_insert _).trans (congrArg some ?_)
          show _ = SessionTables.liveSessions { d with sessions := rows } op.wid op.now
          by_cases hrev : op.isRevoke = true
          · have hnone : SessionTables.liveSessions { d with sessions := rows } op.wid op.now = 0 :=
              liveSessions_eq_zero (hrows.no_active hrev)
            rw [hrows.stored_eq hrev, hnone]
            exact hop hrev
          · exact hrows.live_eq (by simpa using hrev)
    · rw [hstep] at hc
      generalize performSessionOp hashToken d op = s at h hc
      cases h with
      | idle hno =>
          rcases hacc op.wid c hc with rfl | ⟨k, r, hk, hact⟩
          · rfl
          · simp [hno hrev k r hk] at hact
      | seen hop => simp [hrev] at hop
      | recounted hws hrows =>
          have hc := (AList.lookup_insert _).symm.trans hc
          rw [hrows.stored_eq hrev] at hc
          exact (Option.some.inj hc).symm.trans (hop hrev)

theorem initSessionTables_zero (workspaces : List Nat) {w c : Nat}
    (h : (initSessionTables workspaces).activeSessionsCount.lookup w = some c) : c = 0 := by
  have hfold : ∀ (l : List Nat) (t : Table Nat Nat), (∀ c, t.lookup w = some c → c = 0) →
      ∀ c, (l.foldl (fun t w => t.insert w 0) t).lookup w = some c → c = 0 := by
    intro l
    induction l with
    | nil => exact fun t ht => ht
    | cons v l ih =>
        intro t ht
        refine ih _ fun c hc => ?_
        rw [Table.lookup_insert_eq] at hc
        split at hc
        · exact (Option.some.inj hc).symm
        · exact ht c hc
  exact hfold workspaces ∅ (fun c hc => by simp at hc) c h

theorem initSessionTables_inv (workspaces : List Nat) :
    (initSessionTables workspaces).Owned ∧ (initSessionTables workspaces).Accounted :=
  ⟨fun k r hk => by simp [initSessionTables] at hk,
    fun _ _ hc => .inl (initSessionTables_zero workspaces hc)⟩

/-- **The session counter.** In every run of attaches, accesses and bulk revocations the counter
is exact after each operation exactly when no revocation meets a live session. -/
theorem counter_exact_iff (workspaces : List Nat) (ops : List SessionOp) :
    Along (sessionStep hashToken) (CounterExact hashToken) (initSessionTables workspaces) ops ↔
      Along (sessionStep hashToken) RevokesNoLive (initSessionTables workspaces) ops :=
  along_iff_along (I := fun d => d.Owned ∧ d.Accounted) (initSessionTables_inv workspaces)
    (fun _ op h hop => ⟨sessionStep_owned hashToken h.1 op,
      sessionStep_accounted hashToken h.1 h.2 hop⟩)
    (fun _ op h => counterExact_step_iff hashToken h.1 h.2 op)

end Counter

/-- Two attaches of a workspace that then stops. -/
def stoppedWithSessions : List SessionOp :=
  [.create 0 86400 1 7 "dnws_a", .create 10 86400 1 7 "dnws_b", .revokeAll 20 1]

/-- Both sessions are revoked, and the counter still says 2. -/
theorem revoked_sessions_stay_counted :
    ¬ Along (sessionStep id) (CounterExact id) (initSessionTables [1]) stoppedWithSessions ∧
      (run (sessionStep id) (initSessionTables [1]) stoppedWithSessions).activeSessionsCount.lookup 1
        = some 2 ∧
      (run (sessionStep id) (initSessionTables [1]) stoppedWithSessions).liveSessions 1 20 = 0 := by
  refine ⟨fun h => ?_, by decide +kernel, by decide +kernel⟩
  have hlast := h.2.2.1.revoked rfl 2 (by decide +kernel)
  exact absurd hlast (by decide)

end Devnest
