import Devnest.Table
import Devnest.Runs

/-!
# Passwords and refresh tokens

`login_user`, `request_password_reset`, `reset_password_with_token` and
`change_password` each read rows, decide on them in memory and write at their
commit; the sessions do not flush earlier and take no locks. A reset and a
change revoke the refresh tokens they have read.

So a login that commits after the list is read keeps its token, one that
checked the password before a change may commit after it, and two resets may
both find the same reset token unused. `sessions_end_iff` says that nothing
else goes wrong: a reset that commits leaves its token used, so only one that
has read the token before can use it again.
-/

namespace Devnest

open Runs

/-! ## Rows -/

/-- A row of `token`; its key is `token_hash`. -/
structure RefreshToken where
  expiresAt : Int
  revoked : Bool := false
  /-- How many resets and changes had been committed when its login read the user. -/
  checkedAt : Nat
  deriving DecidableEq, Repr

/-- A row of `password_reset_token`; its key is `token_hash`. -/
structure PasswordResetToken where
  expiresAt : Int
  used : Bool := false
  deriving DecidableEq, Repr

/-- What a running call holds between its statements. -/
inductive AuthCall where
  /-- The password fitted the hash of then. -/
  | login (checkedAt : Nat)
  /-- The reset tokens that were unused. -/
  | request (pending : List String)
  /-- The reset token was found unused, when so many resets had returned. -/
  | reset (tokenHash : String) (doneBefore : Nat)
  /-- The refresh tokens that were not revoked. -/
  | resetRead (tokenHash : String) (doneBefore : Nat) (unrevoked : List String)
  | change
  | changeRead (unrevoked : List String)
  deriving DecidableEq, Repr

/-- The committed rows of one user and the calls under way. -/
structure AuthState where
  passwordHash : String
  tokens : Table String RefreshToken := ∅
  resetTokens : Table String PasswordResetToken := ∅
  calls : Table Nat AuthCall := ∅
  /-- How many resets and changes have been committed. -/
  passwordChanges : Nat := 0
  /-- The reset tokens of the resets that have returned, the last one first. -/
  resetsDone : List String := []

/-- A user who has just registered. -/
def registeredUser (passwordHash : String) : AuthState where
  passwordHash := passwordHash

/-- The rows under these hashes. -/
def hashesOf {ρ : Type} (p : ρ → Bool) (t : Table String ρ) : List String :=
  (t.entries.filter fun e => p e.2).map Sigma.fst

/-- Assigns to each of the rows that was read. -/
def updateRows {ρ : Type} (f : ρ → ρ) (hashes : List String) (t : Table String ρ) :
    Table String ρ :=
  hashes.foldl (fun t h => match t.lookup h with
    | none => t
    | some r => t.insert h (f r)) t

/-! ## Calls -/

inductive AuthStep where
  | loginRead (c : Nat) (password : String)
  | loginCommit (c : Nat) (refreshPlain : String) (expiresAt : Int)
  | requestRead (c : Nat)
  | requestCommit (c : Nat) (raw : String) (expiresAt : Int)
  | resetRead (c : Nat) (token : String) (now : Int)
  | resetReadTokens (c : Nat)
  | resetCommit (c : Nat) (newPassword salt : String)
  | changeRead (c : Nat) (currentPassword : String)
  | changeReadTokens (c : Nat)
  | changeCommit (c : Nat) (newPassword salt : String)
  /-- The call raises, or its commit fails. -/
  | abandon (c : Nat)

section Calls

-- `bcrypt.checkpw`, `bcrypt.hashpw` and the SHA-256 of `hash_refresh_token`.
variable (checkpw : String → String → Bool) (hashpw : String → String → String)
  (hashRefreshToken : String → String)

/-- A call begins. -/
def AuthState.begin (st : AuthState) (c : Nat) (call : AuthCall) : AuthState :=
  if c ∈ st.calls then st else { st with calls := st.calls.insert c call }

def AuthState.proceed (st : AuthState) (c : Nat) (call : AuthCall) : AuthState :=
  { st with calls := st.calls.insert c call }

def AuthState.finish (st : AuthState) (c : Nat) : AuthState :=
  { st with calls := st.calls.erase c }

def unrevokedTokens (st : AuthState) : List String := hashesOf (fun t => !t.revoked) st.tokens

/-- The user's new hash, and the tokens that were read are revoked. -/
def AuthState.setPassword (st : AuthState) (newHash : String) (unrevoked : List String) :
    AuthState :=
  { st with
    passwordHash := newHash
    tokens := updateRows (fun t => { t with revoked := true }) unrevoked st.tokens
    passwordChanges := st.passwordChanges + 1 }

/-- One statement of one call. New tokens are random: one whose hash exists is not drawn. -/
def authStep (st : AuthState) : AuthStep → AuthState
  | .loginRead c password =>
      if checkpw password st.passwordHash then st.begin c (.login st.passwordChanges) else st
  | .loginCommit c refreshPlain expiresAt =>
      match st.calls.lookup c with
      | some (.login checkedAt) =>
          let h := hashRefreshToken refreshPlain
          if h ∈ st.tokens then st
          else { st.finish c with
            tokens := st.tokens.insert h { expiresAt := expiresAt, checkedAt := checkedAt } }
      | _ => st
  | .requestRead c => st.begin c (.request (hashesOf (fun r => !r.used) st.resetTokens))
  | .requestCommit c raw expiresAt =>
      match st.calls.lookup c with
      | some (.request pending) =>
          let h := hashRefreshToken raw
          if h ∈ st.resetTokens then st
          else { st.finish c with
            resetTokens := (updateRows (fun r => { r with used := true }) pending
              st.resetTokens).insert h { expiresAt := expiresAt } }
      | _ => st
  | .resetRead c token now =>
      let h := hashRefreshToken token
      match st.resetTokens.lookup h with
      | none => st
      | some row =>
          if row.used || row.expiresAt < now then st
          else st.begin c (.reset h st.resetsDone.length)
  | .resetReadTokens c =>
      match st.calls.lookup c with
      | some (.reset h doneBefore) =>
          st.proceed c (.resetRead h doneBefore (unrevokedTokens st))
      | _ => st
  | .resetCommit c newPassword salt =>
      match st.calls.lookup c with
      | some (.resetRead h _ unrevoked) =>
          { (st.finish c).setPassword (hashpw newPassword salt) unrevoked with
            resetTokens := updateRows (fun r => { r with used := true }) [h] st.resetTokens
            resetsDone := h :: st.resetsDone }
      | _ => st
  | .changeRead c currentPassword =>
      if checkpw currentPassword st.passwordHash then st.begin c .change else st
  | .changeReadTokens c =>
      match st.calls.lookup c with
      | some .change => st.proceed c (.changeRead (unrevokedTokens st))
      | _ => st
  | .changeCommit c newPassword salt =>
      match st.calls.lookup c with
      | some (.changeRead unrevoked) =>
          (st.finish c).setPassword (hashpw newPassword salt) unrevoked
      | _ => st
  | .abandon c => st.finish c

/-- `InvalidRefreshTokenError`. -/
inductive RefreshError where
  | invalidRefreshToken
  deriving DecidableEq, Repr

/-- `refresh_access_token`, as far as it accepts the token. -/
def refreshAccessToken (st : AuthState) (now : Int) (refreshTokenPlain : String) :
    Except RefreshError Unit :=
  match st.tokens.lookup (hashRefreshToken refreshTokenPlain) with
  | none => .error .invalidRefreshToken
  | some row =>
      if row.revoked then .error .invalidRefreshToken
      else if row.expiresAt < now then .error .invalidRefreshToken
      else .ok ()

/-! ## What should hold -/

/-- The tokens of logins that were checked against an earlier password are rejected, at whatever
time. -/
def OldSessionsEnd (st : AuthState) : Prop :=
  ∀ plain t, st.tokens.lookup (hashRefreshToken plain) = some t →
    t.checkedAt < st.passwordChanges →
      ∀ now, refreshAccessToken hashRefreshToken st now plain = .error .invalidRefreshToken

/-- No reset token has made two resets succeed. -/
def ResetsOnce (st : AuthState) : Prop := st.resetsDone.Nodup

/-- What the calls should see to. -/
def SessionsEnd (st : AuthState) : Prop := OldSessionsEnd hashRefreshToken st ∧ ResetsOnce st

/-- The tokens of the resets that have returned since `doneBefore` had. -/
def AuthState.resetsSince (st : AuthState) (doneBefore : Nat) : List String :=
  st.resetsDone.take (st.resetsDone.length - doneBefore)

/-- A login commits under the password it checked; a reset and a change have read every token
that is not revoked; and no other reset with the token has committed since this one found it
unused. -/
def CommitsInTime (st : AuthState) : AuthStep → Prop
  | .loginCommit c refreshPlain _ => ∀ checkedAt, st.calls.lookup c = some (.login checkedAt) →
      hashRefreshToken refreshPlain ∉ st.tokens → checkedAt = st.passwordChanges
  | .resetCommit c _ _ => ∀ h doneBefore unrevoked,
      st.calls.lookup c = some (.resetRead h doneBefore unrevoked) →
        h ∉ st.resetsSince doneBefore ∧ ∀ h' ∈ unrevokedTokens st, h' ∈ unrevoked
  | .changeCommit c _ _ => ∀ unrevoked, st.calls.lookup c = some (.changeRead unrevoked) →
      ∀ h' ∈ unrevokedTokens st, h' ∈ unrevoked
  | _ => True

end Calls

/-! ## Reading and assigning rows -/

theorem mem_hashesOf {ρ : Type} {p : ρ → Bool} {t : Table String ρ} {h : String} :
    h ∈ hashesOf p t ↔ ∃ r, t.lookup h = some r ∧ p r = true := by
  unfold hashesOf
  rw [List.mem_map]
  constructor
  · rintro ⟨⟨k, r⟩, hmem, rfl⟩
    obtain ⟨hentry, hp⟩ := List.mem_filter.mp hmem
    exact ⟨r, AList.mem_lookup_iff.mpr hentry, hp⟩
  · rintro ⟨r, hlookup, hp⟩
    exact ⟨⟨h, r⟩, List.mem_filter.mpr ⟨AList.mem_lookup_iff.mp hlookup, hp⟩, rfl⟩

theorem lookup_updateRows {ρ : Type} (f : ρ → ρ) (hf : ∀ r, f (f r) = f r) (hashes : List String)
    (t : Table String ρ) (h : String) :
    (updateRows f hashes t).lookup h =
      (t.lookup h).map fun r => if h ∈ hashes then f r else r := by
  induction hashes generalizing t with
  | nil => simp [updateRows]
  | cons k hashes ih =>
      unfold updateRows at ih ⊢
      rw [List.foldl_cons, ih]
      cases hk : t.lookup k with
      | none =>
          dsimp only
          by_cases hkh : h = k
          · rw [hkh, hk]
            rfl
          · simp [hkh]
      | some r =>
          dsimp only
          rw [Table.lookup_insert_eq]
          by_cases hkh : h = k
          · rw [if_pos hkh, hkh, hk, Option.map_some, Option.map_some, if_pos List.mem_cons_self,
              hf, ite_self]
          · simp [hkh]

/-! ## One step -/

section Steps

variable {checkpw : String → String → Bool} {hashpw : String → String → String}
  {hashRefreshToken : String → String} {st : AuthState}

/-- A call has checked no password to come, and has found unused no token of a reset that had
returned. -/
def CallOk (st : AuthState) : AuthCall → Prop
  | .login n => n ≤ st.passwordChanges
  | .reset h n | .resetRead h n _ => n ≤ st.resetsDone.length ∧
      h ∉ st.resetsDone.drop (st.resetsDone.length - n) ∧ ∃ row, st.resetTokens.lookup h = some row
  | .request _ | .change | .changeRead _ => True

/-- No token is of a password to come, and the token of every reset that has returned is used. -/
structure AuthInv (hashRefreshToken : String → String) (st : AuthState) : Prop where
  tokens : ∀ h t, st.tokens.lookup h = some t →
    t.checkedAt ≤ st.passwordChanges ∧ ∃ plain, hashRefreshToken plain = h
  used : ∀ h ∈ st.resetsDone, ∃ row, st.resetTokens.lookup h = some row ∧ row.used = true
  calls : ∀ c call, st.calls.lookup c = some call → CallOk st call

/-- A token that was found unused has served another reset exactly if one has returned since. -/
theorem CallOk.notMem_resetsSince {h : String} {n : Nat} {unrevoked : List String}
    (hcall : CallOk st (.resetRead h n unrevoked)) :
    h ∉ st.resetsSince n ↔ h ∉ st.resetsDone := by
  obtain ⟨-, hbefore, -⟩ := hcall
  unfold AuthState.resetsSince
  refine not_congr ⟨List.mem_of_mem_take, fun hmem => ?_⟩
  rw [← List.take_append_drop (st.resetsDone.length - n) st.resetsDone] at hmem
  exact (List.mem_append.mp hmem).resolve_right hbefore

/-- The tokens of earlier passwords are revoked. -/
def OldRevoked (st : AuthState) : Prop :=
  ∀ h t, st.tokens.lookup h = some t → t.checkedAt < st.passwordChanges → t.revoked = true

theorem oldSessionsEnd_iff (hI : AuthInv hashRefreshToken st) :
    OldSessionsEnd hashRefreshToken st ↔ OldRevoked st := by
  constructor
  · intro hend h t hlookup hold
    obtain ⟨plain, rfl⟩ := (hI.tokens h t hlookup).2
    have hreject := hend plain t hlookup hold t.expiresAt
    by_contra hnot
    unfold refreshAccessToken at hreject
    rw [hlookup] at hreject
    simp [hnot] at hreject
  · intro hrevoked plain t hlookup hold now
    unfold refreshAccessToken
    rw [hlookup]
    simp [hrevoked _ t hlookup hold]

theorem lookup_setPassword (newHash : String) (unrevoked : List String) (h : String) :
    (st.setPassword newHash unrevoked).tokens.lookup h =
      (st.tokens.lookup h).map fun t => if h ∈ unrevoked then { t with revoked := true } else t :=
  lookup_updateRows (fun t : RefreshToken => { t with revoked := true }) (fun _ => rfl) unrevoked
    st.tokens h

/-- A password is set in time exactly if the tokens that were read are all that is not
revoked. -/
theorem oldRevoked_setPassword (hI : AuthInv hashRefreshToken st) (newHash : String)
    (unrevoked : List String) :
    OldRevoked (st.setPassword newHash unrevoked) ↔ ∀ h ∈ unrevokedTokens st, h ∈ unrevoked := by
  constructor
  · intro hrevoked h hmem
    obtain ⟨t, ht, hun⟩ := mem_hashesOf.mp hmem
    by_contra hnot
    have hnew : (st.setPassword newHash unrevoked).tokens.lookup h = some t := by
      rw [lookup_setPassword, ht, Option.map_some, if_neg hnot]
    have := hrevoked h t hnew (Nat.lt_succ_of_le (hI.tokens h t ht).1)
    rw [this] at hun
    cases hun
  · intro hread h t' hnew _
    rw [lookup_setPassword] at hnew
    obtain ⟨t, ht, rfl⟩ := Option.map_eq_some_iff.mp hnew
    by_cases hmem : h ∈ unrevoked
    · rw [if_pos hmem]
    · rw [if_neg hmem]
      by_contra hun
      exact hmem (hread h (mem_hashesOf.mpr ⟨t, ht, by simpa using hun⟩))

/-- What a call holds it has just read. -/
def CallRead (st : AuthState) : AuthCall → Prop
  | .login n => n = st.passwordChanges
  | .reset h n => n = st.resetsDone.length ∧
      ∃ row, st.resetTokens.lookup h = some row ∧ row.used = false
  | .resetRead h n _ => ∃ c, st.calls.lookup c = some (.reset h n)
  | .request _ | .change | .changeRead _ => True

section Moves

variable (checkpw : String → String → Bool) (hashpw : String → String → String)
  (hashRefreshToken : String → String)

/-- The ways a step goes; the three commits that check what was read are named. -/
inductive AuthMove (st : AuthState) (i : AuthStep) : AuthState → Prop
  | nothing (htime : CommitsInTime hashRefreshToken st i) : AuthMove st i st
  | begins {c : Nat} {call : AuthCall} (hread : CallRead st call)
      (htime : CommitsInTime hashRefreshToken st i) : AuthMove st i (st.begin c call)
  | proceeds {c : Nat} {call : AuthCall} (hread : CallRead st call)
      (htime : CommitsInTime hashRefreshToken st i) : AuthMove st i (st.proceed c call)
  | abandons {c : Nat} (htime : CommitsInTime hashRefreshToken st i) : AuthMove st i (st.finish c)
  | requests {c : Nat} {raw : String} {pending : List String} {expiresAt : Int}
      (hfresh : hashRefreshToken raw ∉ st.resetTokens)
      (htime : CommitsInTime hashRefreshToken st i) :
      AuthMove st i { st.finish c with
        resetTokens := (updateRows (fun r => { r with used := true }) pending
          st.resetTokens).insert (hashRefreshToken raw) { expiresAt := expiresAt } }
  | logsIn {c n : Nat} {plain : String} {expiresAt : Int} (hi : i = .loginCommit c plain expiresAt)
      (hcall : st.calls.lookup c = some (.login n)) (hfresh : hashRefreshToken plain ∉ st.tokens) :
      AuthMove st i { st.finish c with
        tokens := st.tokens.insert (hashRefreshToken plain)
          { expiresAt := expiresAt, checkedAt := n } }
  | resets {c n : Nat} {h newPassword salt : String} {unrevoked : List String}
      (hi : i = .resetCommit c newPassword salt)
      (hcall : st.calls.lookup c = some (.resetRead h n unrevoked)) :
      AuthMove st i { (st.finish c).setPassword (hashpw newPassword salt) unrevoked with
        resetTokens := updateRows (fun r => { r with used := true }) [h] st.resetTokens
        resetsDone := h :: st.resetsDone }
  | changes {c : Nat} {newPassword salt : String} {unrevoked : List String}
      (hi : i = .changeCommit c newPassword salt)
      (hcall : st.calls.lookup c = some (.changeRead unrevoked)) :
      AuthMove st i ((st.finish c).setPassword (hashpw newPassword salt) unrevoked)

theorem authStep_moves (st : AuthState) (i : AuthStep) :
    AuthMove hashpw hashRefreshToken st i (authStep checkpw hashpw hashRefreshToken st i) := by
  cases i with
  | loginRead c password =>
      unfold authStep
      dsimp only
      split
      · exact .begins rfl trivial
      · exact .nothing trivial
  | loginCommit c refreshPlain expiresAt =>
      unfold authStep
      dsimp only
      split
      next n hcall =>
        split
        next hmem => exact .nothing fun n' _ hfresh => absurd hmem hfresh
        next hfresh => exact .logsIn rfl hcall hfresh
      next hno => exact .nothing fun n hcall => absurd hcall (hno n)
  | requestRead c => exact .begins trivial trivial
  | requestCommit c raw expiresAt =>
      unfold authStep
      dsimp only
      split
      · split
        · exact .nothing trivial
        next hfresh => exact .requests hfresh trivial
      · exact .nothing trivial
  | resetRead c token now =>
      unfold authStep
      dsimp only
      split
      · exact .nothing trivial
      next row hrow =>
        split
        · exact .nothing trivial
        next hunused =>
          rw [Bool.or_eq_true, not_or, Bool.not_eq_true] at hunused
          exact .begins ⟨rfl, row, hrow, hunused.1⟩ trivial
  | resetReadTokens c =>
      unfold authStep
      dsimp only
      split
      next h n hcall => exact .proceeds ⟨c, hcall⟩ trivial
      · exact .nothing trivial
  | resetCommit c newPassword salt =>
      unfold authStep
      dsimp only
      split
      next h n unrevoked hcall => exact .resets rfl hcall
      next hno => exact .nothing fun h n unrevoked hcall => absurd hcall (hno h n unrevoked)
  | changeRead c currentPassword =>
      unfold authStep
      dsimp only
      split
      · exact .begins trivial trivial
      · exact .nothing trivial
  | changeReadTokens c =>
      unfold authStep
      dsimp only
      split
      · exact .proceeds trivial trivial
      · exact .nothing trivial
  | changeCommit c newPassword salt =>
      unfold authStep
      dsimp only
      split
      next unrevoked hcall => exact .changes rfl hcall
      next hno => exact .nothing fun unrevoked hcall => absurd hcall (hno unrevoked)
  | abandon c => exact .abandons trivial

end Moves

/-- What a step does to the refresh tokens, to the number of changes and to the resets. -/
inductive AuthEffect (hashRefreshToken : String → String) (st : AuthState) (i : AuthStep) :
    AuthState → Prop
  | quiet {st' : AuthState} (htokens : st'.tokens = st.tokens)
      (hchanges : st'.passwordChanges = st.passwordChanges)
      (hdone : st'.resetsDone = st.resetsDone) (htime : CommitsInTime hashRefreshToken st i) :
      AuthEffect hashRefreshToken st i st'
  | issued {st' : AuthState} (plain : String) (t : RefreshToken)
      (htokens : st'.tokens = st.tokens.insert (hashRefreshToken plain) t)
      (hun : t.revoked = false) (hlogin : t.checkedAt ≤ st.passwordChanges)
      (hfresh : hashRefreshToken plain ∉ st.tokens)
      (hchanges : st'.passwordChanges = st.passwordChanges)
      (hdone : st'.resetsDone = st.resetsDone)
      (htime : CommitsInTime hashRefreshToken st i ↔ t.checkedAt = st.passwordChanges) :
      AuthEffect hashRefreshToken st i st'
  | passwordSet {st' : AuthState} (newHash : String) (unrevoked : List String)
      (reset : Option String)
      (htokens : st'.tokens = (st.setPassword newHash unrevoked).tokens)
      (hchanges : st'.passwordChanges = st.passwordChanges + 1)
      (hdone : st'.resetsDone = reset.toList ++ st.resetsDone)
      (htime : CommitsInTime hashRefreshToken st i ↔
        (∀ h ∈ reset, h ∉ st.resetsDone) ∧ ∀ h ∈ unrevokedTokens st, h ∈ unrevoked) :
      AuthEffect hashRefreshToken st i st'

/-- What a move comes to. -/
theorem AuthMove.effect (hI : AuthInv hashRefreshToken st) {i : AuthStep} {st' : AuthState}
    (h : AuthMove hashpw hashRefreshToken st i st') : AuthEffect hashRefreshToken st i st' := by
  cases h with
  | nothing htime => exact .quiet rfl rfl rfl htime
  | begins hread htime =>
      unfold AuthState.begin
      split
      · exact .quiet rfl rfl rfl htime
      · exact .quiet rfl rfl rfl htime
  | proceeds hread htime => exact .quiet rfl rfl rfl htime
  | abandons htime => exact .quiet rfl rfl rfl htime
  | requests hfresh htime => exact .quiet rfl rfl rfl htime
  | @logsIn c n plain expiresAt hi hcall hfresh =>
      subst hi
      refine .issued plain { expiresAt := expiresAt, checkedAt := n } rfl rfl (hI.calls c _ hcall)
        hfresh rfl rfl ⟨fun htime => htime n hcall hfresh, fun hnow n' hcall' _ => ?_⟩
      rw [hcall] at hcall'
      injection hcall' with hlogin
      injection hlogin with hn
      rw [← hn]
      exact hnow
  | @resets c n h newPassword salt unrevoked hi hcall =>
      subst hi
      have hsince := (hI.calls c _ hcall).notMem_resetsSince
      refine .passwordSet (hashpw newPassword salt) unrevoked (some h) rfl rfl rfl ⟨?_, ?_⟩
      · intro htime
        obtain ⟨hnew, hread⟩ := htime h n unrevoked hcall
        exact ⟨fun h' hh' => Option.some.inj hh' ▸ hsince.mp hnew, hread⟩
      · rintro ⟨hnew, hread⟩ h' n' unrevoked' hcall'
        rw [hcall] at hcall'
        injection hcall' with hsame
        injection hsame with hh hn hun
        rw [← hh, ← hn, ← hun]
        exact ⟨hsince.mpr (hnew h rfl), hread⟩
  | @changes c newPassword salt unrevoked hi hcall =>
      subst hi
      refine .passwordSet (hashpw newPassword salt) unrevoked none rfl rfl rfl ⟨?_, ?_⟩
      · exact fun htime => ⟨fun _ h => absurd h (by simp), htime unrevoked hcall⟩
      · rintro ⟨-, hread⟩ unrevoked' hcall'
        rw [hcall] at hcall'
        injection hcall' with hsame
        injection hsame with hun
        rw [← hun]
        exact hread

variable (checkpw hashpw) in
theorem authStep_effect (hI : AuthInv hashRefreshToken st) (i : AuthStep) :
    AuthEffect hashRefreshToken st i (authStep checkpw hashpw hashRefreshToken st i) :=
  (authStep_moves checkpw hashpw hashRefreshToken st i).effect hI

/-- Every call was there before, or has just read. -/
def CallsFrom (st st' : AuthState) : Prop :=
  ∀ c call, st'.calls.lookup c = some call → st.calls.lookup c = some call ∨ CallRead st call

theorem CallsFrom.refl (st : AuthState) : CallsFrom st st := fun _ _ h => .inl h

theorem callsFrom_of_insert {st' : AuthState} {c : Nat} {call : AuthCall}
    (hcalls : st'.calls = st.calls.insert c call) (hcall : CallRead st call) :
    CallsFrom st st' := by
  intro c' call' h
  rw [hcalls, Table.lookup_insert_eq] at h
  split at h
  · obtain rfl := Option.some.inj h
    exact .inr hcall
  · exact .inl h

theorem callsFrom_begin {c : Nat} {call : AuthCall} (hcall : CallRead st call) :
    CallsFrom st (st.begin c call) := by
  unfold AuthState.begin
  split
  · exact .refl st
  · exact callsFrom_of_insert rfl hcall

theorem callsFrom_of_erase {st' : AuthState} {c : Nat} (hcalls : st'.calls = st.calls.erase c) :
    CallsFrom st st' := by
  intro c' call h
  rw [hcalls] at h
  by_cases hc : c' = c
  · rw [hc, AList.lookup_erase] at h
    cases h
  · rw [AList.lookup_erase_ne hc] at h
    exact .inl h

variable (checkpw hashpw hashRefreshToken) in
theorem authStep_calls (st : AuthState) (i : AuthStep) :
    CallsFrom st (authStep checkpw hashpw hashRefreshToken st i) := by
  have hmove := authStep_moves checkpw hashpw hashRefreshToken st i
  generalize authStep checkpw hashpw hashRefreshToken st i = st' at hmove
  cases hmove with
  | nothing htime => exact .refl st
  | begins hread htime => exact callsFrom_begin hread
  | proceeds hread htime => exact callsFrom_of_insert rfl hread
  | abandons htime => exact callsFrom_of_erase rfl
  | requests hfresh htime => exact callsFrom_of_erase rfl
  | logsIn hi hcall hfresh => exact callsFrom_of_erase rfl
  | resets hi hcall => exact callsFrom_of_erase rfl
  | changes hi hcall => exact callsFrom_of_erase rfl

/-- Reset tokens stay, and stay used; that of a reset that returns is used. -/
structure ResetsGrow (st st' : AuthState) : Prop where
  kept : ∀ h row, st.resetTokens.lookup h = some row →
    ∃ row', st'.resetTokens.lookup h = some row' ∧ (row.used = true → row'.used = true)
  done : st'.resetsDone = st.resetsDone ∨ ∃ c h n unrevoked,
    st.calls.lookup c = some (.resetRead h n unrevoked) ∧ st'.resetsDone = h :: st.resetsDone ∧
      ∀ row', st'.resetTokens.lookup h = some row' → row'.used = true

theorem ResetsGrow.of_eq {st' : AuthState} (htokens : st'.resetTokens = st.resetTokens)
    (hdone : st'.resetsDone = st.resetsDone) : ResetsGrow st st' :=
  ⟨fun _ row h => ⟨row, htokens ▸ h, id⟩, .inl hdone⟩

theorem lookup_useResets (hashes : List String) (h : String) :
    (updateRows (fun r : PasswordResetToken => { r with used := true }) hashes st.resetTokens).lookup
        h = (st.resetTokens.lookup h).map fun r => if h ∈ hashes then { r with used := true } else r :=
  lookup_updateRows (fun r : PasswordResetToken => { r with used := true }) (fun _ => rfl) hashes
    st.resetTokens h

theorem useResets_kept (hashes : List String) {h : String} {row : PasswordResetToken}
    (hrow : st.resetTokens.lookup h = some row) :
    ∃ row', (updateRows (fun r : PasswordResetToken => { r with used := true }) hashes
      st.resetTokens).lookup h = some row' ∧ (row.used = true → row'.used = true) := by
  rw [lookup_useResets, hrow, Option.map_some]
  split
  · exact ⟨_, rfl, fun _ => rfl⟩
  · exact ⟨_, rfl, id⟩

variable (checkpw hashpw hashRefreshToken) in
theorem authStep_resets (st : AuthState) (i : AuthStep) :
    ResetsGrow st (authStep checkpw hashpw hashRefreshToken st i) := by
  have hmove := authStep_moves checkpw hashpw hashRefreshToken st i
  generalize authStep checkpw hashpw hashRefreshToken st i = st' at hmove
  cases hmove with
  | nothing htime => exact .of_eq rfl rfl
  | begins hread htime =>
      unfold AuthState.begin
      split
      · exact .of_eq rfl rfl
      · exact .of_eq rfl rfl
  | proceeds hread htime => exact .of_eq rfl rfl
  | abandons htime => exact .of_eq rfl rfl
  | @requests c raw pending expiresAt hfresh htime =>
      refine ⟨fun h row hrow => ?_, .inl rfl⟩
      have hne : h ≠ hashRefreshToken raw := by
        rintro rfl
        exact hfresh (AList.lookup_isSome.mp (Option.isSome_of_eq_some hrow))
      rw [Table.lookup_insert_eq, if_neg hne]
      exact useResets_kept pending hrow
  | logsIn hi hcall hfresh => exact .of_eq rfl rfl
  | @resets c n h newPassword salt unrevoked hi hcall =>
      refine ⟨fun h' row hrow => useResets_kept [h] hrow, .inr ⟨c, h, n, unrevoked, hcall, rfl,
        fun row' hrow' => ?_⟩⟩
      rw [lookup_useResets] at hrow'
      obtain ⟨row, -, rfl⟩ := Option.map_eq_some_iff.mp hrow'
      rw [if_pos List.mem_cons_self]
  | changes hi hcall => exact .of_eq rfl rfl

/-- What a call holds stays true. -/
theorem CallOk.grow {st' : AuthState} {call : AuthCall} (h : CallOk st call)
    (hchanges : st.passwordChanges ≤ st'.passwordChanges) (hresets : ResetsGrow st st') :
    CallOk st' call := by
  have hreset : ∀ h n, (n ≤ st.resetsDone.length ∧
      h ∉ st.resetsDone.drop (st.resetsDone.length - n) ∧
        ∃ row, st.resetTokens.lookup h = some row) → n ≤ st'.resetsDone.length ∧
      h ∉ st'.resetsDone.drop (st'.resetsDone.length - n) ∧
        ∃ row, st'.resetTokens.lookup h = some row := by
    rintro h n ⟨hn, hbefore, row, hrow⟩
    obtain ⟨row', hrow', -⟩ := hresets.kept h row hrow
    rcases hresets.done with hdone | ⟨-, h', -, -, -, hdone, -⟩
    · rw [hdone]
      exact ⟨hn, hbefore, row', hrow'⟩
    · rw [hdone, List.length_cons, Nat.succ_sub hn, List.drop_succ_cons]
      exact ⟨hn.trans (Nat.le_succ _), hbefore, row', hrow'⟩
  cases call with
  | login n => exact Nat.le_trans h hchanges
  | reset h' n => exact hreset h' n h
  | resetRead h' n unrevoked => exact hreset h' n h
  | request | change | changeRead => trivial

/-- What has just been read is true. -/
theorem CallRead.ok {call : AuthCall} (hI : AuthInv hashRefreshToken st) (h : CallRead st call) :
    CallOk st call := by
  cases call with
  | login n => exact Nat.le_of_eq h
  | reset h' n =>
      obtain ⟨rfl, row, hrow, hunused⟩ := h
      refine ⟨le_rfl, fun hmem => ?_, row, hrow⟩
      -- a token that has served a reset is used
      obtain ⟨row', hrow', hused⟩ := hI.used h' (List.mem_of_mem_drop hmem)
      obtain rfl := Option.some.inj (hrow.symm.trans hrow')
      rw [hunused] at hused
      cases hused
  | resetRead h' n unrevoked =>
      obtain ⟨c, hcall⟩ := h
      have hfound := hI.calls c (.reset h' n) hcall
      exact hfound
  | request | change | changeRead => trivial

theorem AuthEffect.changes_le {i : AuthStep} {st' : AuthState}
    (h : AuthEffect hashRefreshToken st i st') : st.passwordChanges ≤ st'.passwordChanges := by
  cases h with
  | quiet _ hchanges => exact hchanges.ge
  | issued _ _ _ _ _ _ hchanges => exact hchanges.ge
  | passwordSet _ _ _ _ hchanges => exact (Nat.le_succ _).trans hchanges.ge

variable (checkpw hashpw) in
theorem authInv_step (hI : AuthInv hashRefreshToken st) (i : AuthStep) :
    AuthInv hashRefreshToken (authStep checkpw hashpw hashRefreshToken st i) := by
  have heffect := authStep_effect checkpw hashpw hI i
  have hcalls := authStep_calls checkpw hashpw hashRefreshToken st i
  have hresets := authStep_resets checkpw hashpw hashRefreshToken st i
  have hle := heffect.changes_le
  refine ⟨fun h t hlookup => ?_, fun h hmem => ?_, fun c call hcall => ?_⟩
  · have hold : ∀ h t, st.tokens.lookup h = some t →
        t.checkedAt ≤ (authStep checkpw hashpw hashRefreshToken st i).passwordChanges ∧
          ∃ plain, hashRefreshToken plain = h :=
      fun h t ht => ⟨(hI.tokens h t ht).1.trans hle, (hI.tokens h t ht).2⟩
    cases heffect with
    | quiet htokens =>
        rw [htokens] at hlookup
        exact hold h t hlookup
    | issued plain t' htokens hun hlogin =>
        rw [htokens, Table.lookup_insert_eq] at hlookup
        split at hlookup
        next heq =>
          obtain rfl := Option.some.inj hlookup
          exact ⟨hlogin.trans hle, plain, heq.symm⟩
        next => exact hold h t hlookup
    | passwordSet newHash unrevoked reset htokens =>
        rw [htokens, lookup_setPassword] at hlookup
        obtain ⟨t₀, ht₀, rfl⟩ := Option.map_eq_some_iff.mp hlookup
        have := hold h t₀ ht₀
        split
        · exact this
        · exact this
  · have hold : h ∈ st.resetsDone →
        ∃ row, (authStep checkpw hashpw hashRefreshToken st i).resetTokens.lookup h = some row ∧
          row.used = true := by
      intro hmem
      obtain ⟨row, hrow, hused⟩ := hI.used h hmem
      obtain ⟨row', hrow', hkept⟩ := hresets.kept h row hrow
      exact ⟨row', hrow', hkept hused⟩
    rcases hresets.done with hdone | ⟨c, h', n, unrevoked, hcall, hdone, hused⟩
    · exact hold (hdone ▸ hmem)
    · rw [hdone] at hmem
      rcases List.mem_cons.mp hmem with rfl | hmem
      · obtain ⟨-, -, row, hrow⟩ := hI.calls c _ hcall
        obtain ⟨row', hrow', -⟩ := hresets.kept h row hrow
        exact ⟨row', hrow', hused row' hrow'⟩
      · exact hold hmem
  · rcases hcalls c call hcall with hcall | hread
    · exact (hI.calls c call hcall).grow hle hresets
    · exact (hread.ok hI).grow hle hresets

/-! ## Runs -/

/-- **One step** keeps both exactly if it commits in time. -/
theorem sessionsEnd_step (hI : AuthInv hashRefreshToken st) (i : AuthStep)
    (h : SessionsEnd hashRefreshToken st) :
    SessionsEnd hashRefreshToken (authStep checkpw hashpw hashRefreshToken st i) ↔
      CommitsInTime hashRefreshToken st i := by
  have hI' := authInv_step checkpw hashpw hI i
  obtain ⟨hend, honce⟩ := h
  rw [oldSessionsEnd_iff hI] at hend
  unfold SessionsEnd
  rw [oldSessionsEnd_iff hI']
  unfold ResetsOnce at honce ⊢
  cases authStep_effect checkpw hashpw hI i with
  | quiet htokens hchanges hdone htime =>
      unfold OldRevoked
      rw [htokens, hchanges, hdone]
      exact iff_of_true ⟨hend, honce⟩ htime
  | issued plain t htokens hun hlogin hfresh hchanges hdone htime =>
      unfold OldRevoked
      rw [htokens, hchanges, hdone, htime]
      constructor
      · rintro ⟨hrevoked, -⟩
        by_contra hne
        have := hrevoked (hashRefreshToken plain) t (AList.lookup_insert _) (by omega)
        rw [hun] at this
        cases this
      · refine fun heq => ⟨fun h t' hlookup hold => ?_, honce⟩
        rw [Table.lookup_insert_eq] at hlookup
        split at hlookup
        · obtain rfl := Option.some.inj hlookup
          omega
        · exact hend h t' hlookup hold
  | passwordSet newHash unrevoked reset htokens hchanges hdone htime =>
      have hset : OldRevoked (authStep checkpw hashpw hashRefreshToken st i) ↔
          OldRevoked (st.setPassword newHash unrevoked) := by
        unfold OldRevoked
        rw [htokens, hchanges]
        rfl
      rw [hset, oldRevoked_setPassword hI, htime, hdone, and_comm]
      refine and_congr_left fun _ => ?_
      cases reset with
      | none => simp [honce]
      | some h => simp [honce]

end Steps

/-- **When changing the password ends the old sessions**: in every state of a run each reset token
has made at most one reset succeed and no token of an earlier password is accepted, exactly if
every commit of the run comes in time. -/
theorem sessions_end_iff (checkpw : String → String → Bool) (hashpw : String → String → String)
    (hashRefreshToken : String → String) (passwordHash : String) (steps : List AuthStep) :
    Always (authStep checkpw hashpw hashRefreshToken)
        (SessionsEnd hashRefreshToken) (registeredUser passwordHash) steps ↔
      Along (authStep checkpw hashpw hashRefreshToken) (CommitsInTime hashRefreshToken)
        (registeredUser passwordHash) steps := by
  refine always_iff_along (I := AuthInv hashRefreshToken) ⟨?_, fun h hmem => ?_, ?_⟩
    (fun st i hI _ => authInv_step checkpw hashpw hI i) ⟨?_, List.nodup_nil⟩
    fun st i hI h => sessionsEnd_step hI i h
  · intro h t hlookup
    cases hlookup
  · cases hmem
  · intro c call hcall
    cases hcall
  · intro plain t hlookup
    cases hlookup

/-- A step of a service whose hashes are the texts themselves. -/
def plainStep : AuthState → AuthStep → AuthState :=
  authStep (fun password hash => password = hash) (fun password _ => password) id

/-- Two resets find the token unused, and both succeed. -/
def twoResets : List AuthStep :=
  [.requestRead 1, .requestCommit 1 "reset-token" 100, .resetRead 2 "reset-token" 10,
    .resetRead 3 "reset-token" 10, .resetReadTokens 2, .resetReadTokens 3, .resetCommit 2 "new" "",
    .resetCommit 3 "newer" ""]

/-- The old password is checked before the change and the login commits after it. -/
def loginAcrossChange : List AuthStep :=
  [.loginRead 1 "old", .changeRead 2 "old", .changeReadTokens 2, .changeCommit 2 "new" "",
    .loginCommit 1 "refresh-token" 100]

theorem used_twice_and_old_login_accepted :
    ¬ ResetsOnce (run plainStep (registeredUser "old") twoResets) ∧
      ¬ OldSessionsEnd id (run plainStep (registeredUser "old") loginAcrossChange) := by
  constructor
  · have htwice : (run plainStep (registeredUser "old") twoResets).resetsDone =
        ["reset-token", "reset-token"] := by decide +kernel
    unfold ResetsOnce
    rw [htwice]
    simp
  · intro hend
    have haccepted : refreshAccessToken id (run plainStep (registeredUser "old") loginAcrossChange)
        50 "refresh-token" = .ok () := by decide +kernel
    have hrejected := hend "refresh-token" { expiresAt := 100, checkedAt := 0 } (by decide +kernel)
      (by decide +kernel) 50
    rw [haccepted] at hrejected
    cases hrejected

end Devnest
