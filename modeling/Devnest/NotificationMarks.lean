import Devnest.NotificationRuns

/-!
# What a user has marked

The marks on a recipient row, the preferences and the push subscriptions
belong to a user. `only_own_requests` is about the same runs as before: each of
them goes back to a request of that user. Deliveries change the status of a
recipient and nothing else of it.
-/

namespace Devnest

open Interleaving Interleaving.Process NotificationDb

/-! ## The invariant -/

/-- A request of the user to mark the notification as read. -/
def NotificationRequest.Reads (request : NotificationRequest) (userId notificationId : Nat) :
    Prop :=
  request = .markRead userId notificationId ∨
    ∃ notificationIds, request = .markReadBulk userId notificationIds ∧
      notificationId ∈ notificationIds

/-- The marks, preferences and subscriptions of a user come from these requests. -/
structure Theirs (asked : List NotificationRequest) (s : NotificationDb) : Prop where
  read : ∀ id r, s.recipients.lookup id = some r → r.readAt ≠ none →
    ∃ request ∈ asked, request.Reads r.userId r.notificationId
  dismissed : ∀ id r, s.recipients.lookup id = some r → r.dismissedAt ≠ none →
    .dismiss r.userId r.notificationId ∈ asked
  /-- Each switch by itself: updates that overlap leave a row that was never sent as a whole. -/
  preferences : ∀ userId t row, s.preferences.lookup (userId, t) = some row → ∀ channel,
    ∃ items sent, .putPreferences userId items ∈ asked ∧ (t, sent) ∈ items ∧
      row.on channel = sent.on channel
  subscribed : ∀ id sub, s.subscriptions.lookup id = some sub →
    .registerSubscription sub.userId ∈ asked
  revoked : ∀ id sub, s.subscriptions.lookup id = some sub → sub.revoked = true →
    .revokeSubscription sub.userId id ∈ asked

/-- Recipients and subscriptions stay with their users. -/
structure Keepsake (s s' : NotificationDb) : Prop where
  recipients : ∀ id r, s.recipients.lookup id = some r →
    ∃ r', s'.recipients.lookup id = some r' ∧ r'.notificationId = r.notificationId ∧
      r'.userId = r.userId
  subscriptions : ∀ id sub, s.subscriptions.lookup id = some sub →
    ∃ sub', s'.subscriptions.lookup id = some sub' ∧ sub'.userId = sub.userId

theorem Keepsake.refl (s : NotificationDb) : Keepsake s s :=
  ⟨fun _ r h => ⟨r, h, rfl, rfl⟩, fun _ sub h => ⟨sub, h, rfl⟩⟩

/-- A step that marks nothing. -/
structure Unmarking (s s' : NotificationDb) : Prop where
  old : ∀ id r, s.recipients.lookup id = some r →
    ∃ r', s'.recipients.lookup id = some r' ∧ r'.notificationId = r.notificationId ∧
      r'.userId = r.userId
  new : ∀ id r', s'.recipients.lookup id = some r' →
    (r'.readAt = none ∧ r'.dismissedAt = none) ∨ ∃ r, s.recipients.lookup id = some r ∧
      r'.notificationId = r.notificationId ∧ r'.userId = r.userId ∧ r'.readAt = r.readAt ∧
        r'.dismissedAt = r.dismissedAt
  preferences : s'.preferences = s.preferences
  subscriptions : s'.subscriptions = s.subscriptions

/-- The recipients are as they were. -/
theorem Unmarking.of_recipients {s s' : NotificationDb} (hrecipients : s'.recipients = s.recipients)
    (hpreferences : s'.preferences = s.preferences)
    (hsubscriptions : s'.subscriptions = s.subscriptions) : Unmarking s s' :=
  ⟨fun _ r h => ⟨r, hrecipients ▸ h, rfl, rfl⟩,
    fun _ r h => .inr ⟨r, hrecipients ▸ h, rfl, rfl, rfl, rfl⟩, hpreferences, hsubscriptions⟩

/-- The judgement for any request, about what was asked. -/
abbrev Respects (asked : List NotificationRequest) {α : Type} (m : NotificationProcess α) : Prop :=
  Keeps (Theirs asked) Keepsake Keepsake (fun _ => True) m fun _ _ => True

section Respects

variable {asked : List NotificationRequest} {settings : SmtpSettings} {k : Nat}

theorem Theirs.unmarking {s s' : NotificationDb} (h : Theirs asked s) (hstep : Unmarking s s') :
    Theirs asked s' ∧ Keepsake s s' := by
  obtain ⟨hold, hnew, hpreferences, hsubscriptions⟩ := hstep
  refine ⟨⟨fun id r hr hread => ?_, fun id r hr hdismissed => ?_, ?_, ?_, ?_⟩, hold, ?_⟩
  · rcases hnew id r hr with ⟨hnone, -⟩ | ⟨r₀, hr₀, hnid, huser, hmark, -⟩
    · exact absurd hnone hread
    · rw [hnid, huser]
      exact h.read id r₀ hr₀ (hmark ▸ hread)
  · rcases hnew id r hr with ⟨-, hnone⟩ | ⟨r₀, hr₀, hnid, huser, -, hmark⟩
    · exact absurd hnone hdismissed
    · rw [hnid, huser]
      exact h.dismissed id r₀ hr₀ (hmark ▸ hdismissed)
  · rw [hpreferences]
    exact h.preferences
  · rw [hsubscriptions]
    exact h.subscribed
  · rw [hsubscriptions]
    exact h.revoked
  · rw [hsubscriptions]
    exact fun _ sub h => ⟨sub, h, rfl⟩

theorem respects_look {α : Type} {value : NotificationDb → α} :
    Respects asked (read value) :=
  Keeps.read Keepsake.refl (fun _ => stable_const True) fun _ _ _ => trivial

theorem respects_unmarking {α : Type} {next : NotificationDb → NotificationInput → NotificationDb}
    {value : NotificationDb → NotificationInput → α} (h : ∀ s i, Unmarking s (next s i)) :
    Respects asked (action next value) :=
  Keeps.action (fun _ => stable_const True) fun s i hs _ =>
    ⟨(hs.unmarking (h s i)).1, (hs.unmarking (h s i)).2, trivial⟩

theorem respects_pure {α : Type} {a : α} : Respects asked (pure a : NotificationProcess α) :=
  Keeps.pure fun _ _ _ => trivial

theorem respects_forEach {α : Type} {f : α → NotificationProcess Bool} {l : List α}
    (h : ∀ a ∈ l, Respects asked (f a)) : Respects asked (forEach f l) := by
  refine Keeps.conseq (Keeps.forEach (S := fun _ _ => True) (B := fun _ => True)
    fun done a rest heq => Keeps.conseq (h a ?_) (fun _ _ h => h) fun go _ _ _ => ?_)
    (fun _ _ h => h) fun _ _ _ _ => trivial
  · rw [heq]
    exact List.mem_append_right done List.mem_cons_self
  · cases go <;> trivial

theorem respects_updateDelivery {id : Nat} {f : NotificationDelivery → NotificationDelivery} :
    Respects asked (write (·.updateDelivery id f)) := by
  refine respects_unmarking fun s _ => ?_
  unfold updateDelivery
  dsimp only
  split
  · exact .of_recipients rfl rfl rfl
  · exact .of_recipients rfl rfl rfl

theorem respects_applyDelivery {id : Nat} {channel : DeliveryChannel} {n : Notification}
    {r : NotificationRecipient} :
    Respects asked (applyDelivery settings k id channel n r) := by
  unfold applyDelivery
  split
  · exact respects_updateDelivery
  · unfold applyEmailDelivery
    refine Keeps.bind respects_look fun toEmail => ?_
    refine Keeps.ite (fun _ => respects_updateDelivery) fun _ => ?_
    refine Keeps.ite (fun _ => respects_updateDelivery) fun _ => ?_
    refine Keeps.ite (fun _ => respects_updateDelivery) fun _ => ?_
    exact Keeps.bind (respects_unmarking fun _ _ => .of_recipients rfl rfl rfl) fun _ =>
      respects_updateDelivery
  · unfold applyPushDelivery
    exact Keeps.bind respects_look fun _ =>
      Keeps.ite (fun _ => respects_updateDelivery) fun _ => respects_updateDelivery

/-- A new status is no mark. -/
theorem updateRecipient_unmarking {s : NotificationDb} {id : Nat} {status : RecipientStatus} :
    Unmarking s (s.updateRecipient id ({ · with status })) := by
  unfold updateRecipient
  split
  next r hr =>
    refine ⟨fun id' r' hr' => ?_, fun id' r' hr' => .inr ?_, rfl, rfl⟩
    · by_cases hid : id' = id
      · subst hid
        obtain rfl := Option.some.inj (hr.symm.trans hr')
        exact ⟨{ r with status }, by simp, rfl, rfl⟩
      · exact ⟨r', by simpa [hid] using hr', rfl, rfl⟩
    · by_cases hid : id' = id
      · subst hid
        obtain rfl : { r with status } = r' := by simpa using hr'
        exact ⟨r, hr, rfl, rfl, rfl, rfl⟩
      · exact ⟨r', by simpa [hid] using hr', rfl, rfl, rfl, rfl⟩
  next => exact .of_recipients rfl rfl rfl

theorem respects_tryDeliver {id : Nat} : Respects asked (tryDeliver settings k id) := by
  unfold tryDeliver
  refine Keeps.bind respects_look fun found => ?_
  cases found with
  | none => exact respects_pure
  | some d =>
      refine Keeps.ite (fun _ => respects_pure) fun _ => ?_
      refine Keeps.bind respects_updateDelivery fun _ => Keeps.bind respects_look fun n =>
        Keeps.bind respects_look fun r => Keeps.bind ?_ fun _ => respects_look
      unfold deliverCounted
      split
      · refine Keeps.bind respects_applyDelivery fun _ => ?_
        unfold promoteRecipient
        refine Keeps.bind respects_look fun d => Keeps.bind respects_look fun r =>
          Keeps.ite (fun _ => ?_) fun _ => respects_pure
        exact respects_unmarking fun _ _ => updateRecipient_unmarking
      · exact respects_updateDelivery

theorem respects_dispatchForRecipient {notificationId userId : Nat} {notificationType : String} :
    Respects asked (dispatchForRecipient settings k notificationId notificationType userId) := by
  unfold dispatchForRecipient
  refine Keeps.bind (respects_unmarking fun s _ => ?_) fun created => ?_
  · split
    · exact .of_recipients rfl rfl rfl
    · refine ⟨fun id r hr => ⟨r, by simpa [Table.ne_freshKey hr] using hr, rfl, rfl⟩,
        fun id r hr => ?_, rfl, rfl⟩
      by_cases hid : id = Table.freshKey s.recipients
      · subst hid
        obtain rfl : _ = r := by simpa using hr
        exact .inl ⟨rfl, rfl⟩
      · exact .inr ⟨r, by simpa [hid] using hr, rfl, rfl, rfl, rfl⟩
  · cases created with
    | none => exact respects_pure
    | some recipientId =>
        refine Keeps.bind (respects_unmarking fun _ _ => .of_recipients rfl rfl rfl) fun enabled =>
          respects_forEach fun channel _ => ?_
        unfold dispatchChannel
        refine Keeps.ite (fun _ => ?_) fun _ => ?_
        · exact Keeps.bind (respects_unmarking fun _ _ => .of_recipients rfl rfl rfl) fun id =>
            Keeps.bind respects_tryDeliver fun _ => respects_pure
        · exact Keeps.bind (respects_unmarking fun _ _ => .of_recipients rfl rfl rfl) fun _ =>
            respects_pure

theorem respects_create {notificationType title body : String} {userIds : List Nat} :
    Respects asked (createNotificationEvent settings k notificationType title body userIds) := by
  unfold createNotificationEvent
  refine Keeps.bind (respects_unmarking fun _ _ => .of_recipients rfl rfl rfl) fun id =>
    Keeps.bind (respects_forEach fun _ _ => respects_dispatchForRecipient) fun all =>
      Keeps.ite (fun _ => Keeps.bind ?_ fun _ => respects_pure) fun _ => respects_pure
  unfold refreshNotificationStatus
  refine Keeps.bind respects_look fun _ => Keeps.ite (fun _ => respects_pure) fun _ =>
    Keeps.bind respects_look fun _ => Keeps.ite (fun _ => respects_unmarking fun s _ => ?_)
      fun _ => respects_pure
  unfold updateNotification
  dsimp only
  split
  · exact .of_recipients rfl rfl rfl
  · exact .of_recipients rfl rfl rfl

theorem respects_retry {id : Nat} : Respects asked (retryDelivery settings k id) := by
  unfold retryDelivery
  refine Keeps.bind respects_look fun found => ?_
  cases found with
  | none => exact respects_pure
  | some d =>
      refine Keeps.ite (fun _ => respects_pure) fun _ =>
        Keeps.bind respects_updateDelivery fun _ => Keeps.bind respects_tryDeliver fun result => ?_
      cases result with
      | none => exact respects_pure
      | some d => exact respects_pure

/-! ## Requests of a user -/

theorem stable_received (notificationId userId id : Nat) :
    Stable (Theirs asked) Keepsake (Received notificationId userId id) :=
  fun _ _ _ hkept ⟨r, hr, hnid, huser⟩ => by
    obtain ⟨r', hr', hnid', huser'⟩ := hkept.recipients id r hr
    exact ⟨r', hr', hnid'.trans hnid, huser'.trans huser⟩

/-- The rows of a mark are those of its user. -/
theorem respects_mark {mark : Nat → NotificationProcess Unit} {userId notificationId : Nat}
    (hmark : ∀ id, Keeps (Theirs asked) Keepsake Keepsake (Received notificationId userId id)
      (mark id) fun _ _ => True) :
    Respects asked (markForUser mark userId notificationId) := by
  unfold markForUser
  refine Keeps.bind (S := fun found s => ∀ id, found = some id →
    Received notificationId userId id s) (Keeps.read Keepsake.refl (fun found s s' hs hkept h id
      hfound => ?_) fun s _ _ id hfound => ?_) fun found => ?_
  · exact stable_received _ _ id s s' hs hkept (h id hfound)
  · have hpred := List.find?_some hfound
    cases hr : s.recipients.lookup id with
    | none =>
        rw [hr] at hpred
        cases hpred
    | some r =>
        rw [hr] at hpred
        exact ⟨r, hr, by simpa using hpred⟩
  cases found with
  | none => exact Keeps.pure fun _ _ _ => trivial
  | some recipientId =>
      refine Keeps.bind (S := fun _ => Received notificationId userId recipientId)
        (Keeps.read Keepsake.refl (fun _ => stable_received _ _ recipientId)
          fun _ _ h => h recipientId rfl) fun n => ?_
      refine Keeps.ite (fun _ => Keeps.pure fun _ _ _ => trivial) fun _ => ?_
      exact Keeps.bind (hmark recipientId) fun _ => respects_pure

/-- A mark on a row that the request may mark. -/
theorem Theirs.mark {s : NotificationDb} (h : Theirs asked s) (id : Nat)
    {f : NotificationRecipient → NotificationRecipient}
    (hf : ∀ r, s.recipients.lookup id = some r →
      (f r).notificationId = r.notificationId ∧ (f r).userId = r.userId ∧
        ((f r).readAt = r.readAt ∨
          ∃ request ∈ asked, request.Reads r.userId r.notificationId) ∧
        ((f r).dismissedAt = r.dismissedAt ∨ .dismiss r.userId r.notificationId ∈ asked)) :
    Theirs asked (s.updateRecipient id f) ∧ Keepsake s (s.updateRecipient id f) := by
  unfold updateRecipient
  split
  next r hr =>
    obtain ⟨hnid, huser, hread, hdismissed⟩ := hf r hr
    have hlookup : ∀ id' r', (s.recipients.insert id (f r)).lookup id' = some r' →
        (id' = id ∧ r' = f r) ∨ s.recipients.lookup id' = some r' := by
      intro id' r' hr'
      by_cases hid : id' = id
      · subst hid
        exact .inl ⟨rfl, by simpa using hr'.symm⟩
      · exact .inr (by simpa [hid] using hr')
    refine ⟨⟨fun id' r' hr' hmark => ?_, fun id' r' hr' hmark => ?_, h.preferences, h.subscribed,
      h.revoked⟩, fun id' r' hr' => ?_, fun _ sub h => ⟨sub, h, rfl⟩⟩
    · rcases hlookup id' r' hr' with ⟨rfl, rfl⟩ | hr'
      · rw [hnid, huser]
        rcases hread with hsame | hasked
        · exact h.read id' r hr (hsame ▸ hmark)
        · exact hasked
      · exact h.read id' r' hr' hmark
    · rcases hlookup id' r' hr' with ⟨rfl, rfl⟩ | hr'
      · rw [hnid, huser]
        rcases hdismissed with hsame | hasked
        · exact h.dismissed id' r hr (hsame ▸ hmark)
        · exact hasked
      · exact h.dismissed id' r' hr' hmark
    · by_cases hid : id' = id
      · subst hid
        obtain rfl := Option.some.inj (hr.symm.trans hr')
        exact ⟨f r, by simp, hnid, huser⟩
      · exact ⟨r', by simpa [hid] using hr', rfl, rfl⟩
  next => exact ⟨h, .refl s⟩

theorem respects_markRecipientRead {id : Nat} {P : NotificationDb → Prop}
    (hP : Stable (Theirs asked) Keepsake P)
    (hasked : ∀ s, P s → ∃ userId notificationId, Received notificationId userId id s ∧
      ∃ request ∈ asked, request.Reads userId notificationId) :
    Keeps (Theirs asked) Keepsake Keepsake P (markRecipientRead id) fun _ => P := by
  refine Keeps.action (fun _ => hP) fun s i htheirs hs => ?_
  obtain ⟨userId, notificationId, ⟨r, hr, hnid, huser⟩, hreads⟩ := hasked s hs
  obtain ⟨htheirs', hkept⟩ := htheirs.mark id
    (f := ({ · with readAt := some i.now, status := .read })) fun r' hr' => by
      obtain rfl := Option.some.inj (hr.symm.trans hr')
      refine ⟨rfl, rfl, .inr ?_, .inl rfl⟩
      rw [hnid, huser]
      exact hreads
  exact ⟨htheirs', hkept, hP s _ htheirs hkept hs⟩

theorem respects_markRead {userId notificationId : Nat}
    (hasked : .markRead userId notificationId ∈ asked) :
    Respects asked (markForUser markRecipientRead userId notificationId) :=
  respects_mark fun id => Keeps.conseq (respects_markRecipientRead
    (stable_received notificationId userId id) fun _ h =>
      ⟨userId, notificationId, h, _, hasked, .inl rfl⟩) (fun _ _ h => h) fun _ _ _ _ => trivial

theorem respects_dismiss {userId notificationId : Nat}
    (hasked : .dismiss userId notificationId ∈ asked) :
    Respects asked (markForUser markRecipientDismissed userId notificationId) := by
  refine respects_mark fun id => Keeps.action (fun _ => stable_const True)
    fun s i hs ⟨r, hr, hnid, huser⟩ => ?_
  obtain ⟨htheirs, hkept⟩ := hs.mark id
    (f := ({ · with dismissedAt := some i.now, status := .dismissed })) fun r' hr' => by
      obtain rfl := Option.some.inj (hr.symm.trans hr')
      refine ⟨rfl, rfl, .inl rfl, .inr ?_⟩
      rw [hnid, huser]
      exact hasked
  exact ⟨htheirs, hkept, trivial⟩

theorem respects_markReadBulk {userId : Nat} {notificationIds : List Nat}
    (hasked : .markReadBulk userId notificationIds ∈ asked) :
    Respects asked (markReadBulk userId notificationIds) := by
  unfold markReadBulk
  -- the rows that were read are the user's, of these notifications
  have hstable : ∀ rows : List Nat, Stable (Theirs asked) Keepsake fun s => ∀ id ∈ rows,
      ∃ notificationId ∈ notificationIds, Received notificationId userId id s :=
    fun rows s s' hs hkept h id hid => (h id hid).imp fun notificationId h =>
      ⟨h.1, stable_received notificationId userId id s s' hs hkept h.2⟩
  refine Keeps.bind (Keeps.read Keepsake.refl hstable fun s _ _ id hid => ?_) fun rows => ?_
  · have hpred := (List.mem_filter.mp hid).2
    cases hr : s.recipients.lookup id with
    | none =>
        rw [hr] at hpred
        cases hpred
    | some r =>
        rw [hr] at hpred
        simp only [Option.any_some, decide_eq_true_eq] at hpred
        exact ⟨r.notificationId, hpred.2, r, hr, rfl, hpred.1⟩
  · refine Keeps.bind (S := fun _ _ => True) (Keeps.conseq (Keeps.forEach (S := fun _ s =>
      ∀ id ∈ rows, ∃ notificationId ∈ notificationIds, Received notificationId userId id s)
      (B := fun _ => True) fun done id rest heq => ?_) (fun _ _ h => h) fun _ _ _ _ => trivial)
      fun _ => respects_pure
    refine Keeps.bind (respects_markRecipientRead (hstable rows) fun s h => ?_) fun _ =>
      Keeps.pure fun _ _ h => h
    obtain ⟨notificationId, hmem, hreceived⟩ := h id (heq ▸ List.mem_append_right done
      List.mem_cons_self)
    exact ⟨userId, notificationId, hreceived, _, hasked, .inr ⟨_, rfl, hmem⟩⟩

/-- Of a row that is committed, the user has sent each switch. -/
theorem Theirs.storePreference {s : NotificationDb} (h : Theirs asked s) {userId : Nat}
    {t : String} {row : ChannelSwitches}
    (hsent : ∀ channel, ∃ items sent, .putPreferences userId items ∈ asked ∧ (t, sent) ∈ items ∧
      row.on channel = sent.on channel) :
    Theirs asked (s.storePreference userId t row) ∧ Keepsake s (s.storePreference userId t row) := by
  refine ⟨⟨h.read, h.dismissed, fun u t' row' hlookup => ?_, h.subscribed, h.revoked⟩,
    fun _ r h => ⟨r, h, rfl, rfl⟩, fun _ sub h => ⟨sub, h, rfl⟩⟩
  unfold NotificationDb.storePreference at hlookup
  by_cases hsame : (u, t') = (userId, t)
  · obtain ⟨rfl, rfl⟩ := Prod.mk.inj hsame
    obtain rfl : row = row' := by simpa using hlookup
    exact hsent
  · rw [Table.lookup_insert_eq, if_neg hsame] at hlookup
    exact h.preferences u t' row' hlookup

/-- A switch that an update does not write is as an earlier request has sent it. -/
theorem Theirs.updatePreference {s : NotificationDb} (h : Theirs asked s) {userId : Nat}
    {items : List (String × ChannelSwitches)} (hasked : .putPreferences userId items ∈ asked)
    {item : String × ChannelSwitches} (hitem : item ∈ items) (existing : ChannelSwitches) :
    let s' := s.updatePreference userId item.1 (existing.overwrite item.2)
    Theirs asked s' ∧ Keepsake s s' := by
  intro s'
  unfold s' NotificationDb.updatePreference
  split
  next row hrow =>
    refine h.storePreference fun channel => ?_
    rw [ChannelSwitches.overwrite_on]
    split
    · exact h.preferences userId item.1 row hrow channel
    · exact ⟨items, item.2, hasked, hitem, rfl⟩
  next => exact ⟨h, .refl s⟩

theorem respects_putPreferences {userId : Nat} {items : List (String × ChannelSwitches)}
    (hasked : .putPreferences userId items ∈ asked) :
    Respects asked (putPreferences userId items) := by
  unfold putPreferences
  refine Keeps.bind (respects_forEach fun item hitem => ?_) fun _ => respects_pure
  unfold upsertPreference
  refine Keeps.bind respects_look fun existing => ?_
  cases existing with
  | none =>
      refine Keeps.action (fun _ => stable_const True) fun s _ hs _ => ?_
      split
      · exact ⟨hs, .refl s, trivial⟩
      · obtain ⟨htheirs, hkept⟩ := hs.storePreference fun channel =>
          ⟨items, item.2, hasked, hitem, rfl⟩
        exact ⟨htheirs, hkept, trivial⟩
  | some existing =>
      refine Keeps.bind (Keeps.action (Q := fun _ _ => True) (fun _ => stable_const True)
        fun s _ hs _ => ?_) fun _ => respects_pure
      obtain ⟨htheirs, hkept⟩ := hs.updatePreference hasked hitem existing
      exact ⟨htheirs, hkept, trivial⟩

theorem respects_registerSubscription {userId : Nat}
    (hasked : .registerSubscription userId ∈ asked) :
    Respects asked (registerSubscription userId) := by
  unfold registerSubscription
  refine Keeps.bind (Keeps.action (Q := fun _ _ => True) (fun _ => stable_const True)
    fun s _ hs _ => ?_) fun _ => respects_pure
  refine ⟨⟨hs.read, hs.dismissed, hs.preferences, fun id sub hsub => ?_,
    fun id sub hsub hrevoked => ?_⟩, ⟨fun _ r h => ⟨r, h, rfl, rfl⟩, fun id sub hsub =>
      ⟨sub, by simpa [Table.ne_freshKey hsub] using hsub, rfl⟩⟩, trivial⟩
  · by_cases hid : id = Table.freshKey s.subscriptions
    · subst hid
      obtain rfl : ⟨userId, false⟩ = sub := by simpa using hsub
      exact hasked
    · exact hs.subscribed id sub (by simpa [hid] using hsub)
  · by_cases hid : id = Table.freshKey s.subscriptions
    · subst hid
      obtain rfl : ⟨userId, false⟩ = sub := by simpa using hsub
      cases hrevoked
    · exact hs.revoked id sub (by simpa [hid] using hsub) hrevoked

theorem respects_revokeSubscription {userId subscriptionId : Nat}
    (hasked : .revokeSubscription userId subscriptionId ∈ asked) :
    Respects asked (revokeSubscription userId subscriptionId) := by
  unfold revokeSubscription
  refine Keeps.bind (S := fun found s => found.any (·.userId = userId) → ∃ sub,
    s.subscriptions.lookup subscriptionId = some sub ∧ sub.userId = userId)
    (Keeps.read Keepsake.refl (fun found s s' _ hkept h hfound => ?_) fun s _ _ hfound => ?_)
    fun found => Keeps.ite (fun hfound => ?_) fun _ => Keeps.pure fun _ _ _ => trivial
  · obtain ⟨sub, hsub, huser⟩ := h hfound
    obtain ⟨sub', hsub', huser'⟩ := hkept.subscriptions subscriptionId sub hsub
    exact ⟨sub', hsub', huser'.trans huser⟩
  · cases hsub : s.subscriptions.lookup subscriptionId with
    | none =>
        rw [hsub] at hfound
        cases hfound
    | some sub =>
        rw [hsub] at hfound
        exact ⟨sub, rfl, by simpa using hfound⟩
  · refine Keeps.bind (Keeps.action (Q := fun _ _ => True) (fun _ => stable_const True)
      fun s _ hs h => ?_) fun _ => respects_pure
    obtain ⟨sub, hsub, rfl⟩ := h hfound
    dsimp only
    rw [hsub]
    refine ⟨⟨hs.read, hs.dismissed, hs.preferences, fun id sub' hsub' => ?_,
      fun id sub' hsub' hrevoked => ?_⟩, ⟨fun _ r h => ⟨r, h, rfl, rfl⟩, fun id sub' hsub' => ?_⟩,
      trivial⟩
    · by_cases hid : id = subscriptionId
      · subst hid
        obtain rfl : { sub with revoked := true } = sub' := by simpa using hsub'
        exact hs.subscribed id sub hsub
      · exact hs.subscribed id sub' (by simpa [hid] using hsub')
    · by_cases hid : id = subscriptionId
      · subst hid
        obtain rfl : { sub with revoked := true } = sub' := by simpa using hsub'
        exact hasked
      · exact hs.revoked id sub' (by simpa [hid] using hsub') hrevoked
    · by_cases hid : id = subscriptionId
      · subst hid
        obtain rfl := Option.some.inj (hsub.symm.trans hsub')
        exact ⟨{ sub with revoked := true }, by simp, rfl⟩
      · exact ⟨sub', by simpa [hid] using hsub', rfl⟩

theorem respects_request {request : NotificationRequest} (hasked : request ∈ asked) :
    Respects asked (serveNotification settings k request) := by
  cases request with
  | create t title body userIds => exact respects_create
  | retry id => exact respects_retry
  | markRead userId notificationId => exact respects_markRead hasked
  | dismiss userId notificationId => exact respects_dismiss hasked
  | markReadBulk userId notificationIds => exact respects_markReadBulk hasked
  | putPreferences userId items => exact respects_putPreferences hasked
  | registerSubscription userId => exact respects_registerSubscription hasked
  | revokeSubscription userId subscriptionId => exact respects_revokeSubscription hasked

end Respects

theorem theirs_empty (asked : List NotificationRequest) (users : List (Nat × String)) :
    Theirs asked { users := users } := by
  constructor
  · exact fun id r h => by cases h
  · exact fun id r h => by cases h
  · exact fun userId t switches h => by cases h
  · exact fun id sub h => by cases h
  · exact fun id sub h => by cases h

/-- **What is the user's own is changed by that user alone.** After any run: a recipient row is
marked as read or dismissed only if its own user has asked for that, for that notification; each
switch of a preference row is one its user has sent for that type; and a push subscription was
registered, and if revoked revoked, by its user. -/
theorem only_own_requests (settings : SmtpSettings) (users : List (Nat × String))
    (turns : List NotificationTurn) :
    Theirs (started turns) (notificationRun settings users turns).state :=
  (Server.sound (Theirs (started turns)) (fun _ => Keepsake) (fun _ => Keepsake) (fun _ _ => True)
    (fun _ _ _ _ => True) (serveNotification settings) (fun _ _ _ _ _ _ _ h => h)
    (fun _ => stable_const True)
    (theirs_empty (started turns) users) (fun _ => trivial) turns
    fun _ hmem _ => respects_request hmem).1

end Devnest
